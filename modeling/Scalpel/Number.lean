/-!
How powers and sums of numbers are read. Wherever more is imported there are other instances to choose
from, of the same values; these come first, so that a definition is the same term everywhere.
-/

set_option autoImplicit false

namespace Scalpel

@[default_instance 20000]
instance (priority := 5000) natPow : Pow Nat Nat :=
  instPowNat

@[default_instance 15000]
instance (priority := 5000) intPow : Pow Int Nat :=
  instPowNat

instance (priority := 5000) natZero : Zero Nat :=
  ⟨0⟩

end Scalpel
