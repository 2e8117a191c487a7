import Scalpel.Failure

/-!
Access to values that came from outside and may not have the promised shape. Each function says what
it needs of the value; a value that is not so ends the operation with a failure that names it.
-/

set_option autoImplicit false

namespace Scalpel.Json

open Scalpel

def need : Json → String → Outcome Json
  | obj fields, name =>
    match fields.lookup name with
    | some value => .ok value
    | none => .error (.missing name)
  | value, _ => .error (.misuse (.indexed value))

theorem need_of_lookup {fields : Fields} {name : String} {found : Json}
    (looked : fields.lookup name = some found) : (obj fields).need name = .ok found := by
  unfold need
  dsimp only
  rw [looked]

theorem need_of_lacking {fields : Fields} {name : String} (lacking : fields.lookup name = none) :
    (obj fields).need name = .error (.missing name) := by
  unfold need
  dsimp only
  rw [lacking]

theorem need_of_other {value : Json} (name : String) (other : ∀ fields, value ≠ obj fields) :
    value.need name = .error (.misuse (.indexed value)) := by
  cases value with
  | obj fields => exact absurd rfl (other fields)
  | _ => rfl

theorem need_eq_ok_iff {value found : Json} {name : String} :
    value.need name = .ok found ↔ ∃ fields, value = obj fields ∧ fields.lookup name = some found := by
  constructor
  · intro needed
    cases value with
    | obj fields =>
        cases looked : fields.lookup name with
        | none =>
            rw [need_of_lacking looked] at needed
            cases needed
        | some value =>
            rw [need_of_lookup looked] at needed
            exact ⟨fields, rfl, looked.trans (congrArg some (Except.ok.inj needed))⟩
    | _ => cases needed
  · rintro ⟨fields, rfl, looked⟩
    exact need_of_lookup looked

def optional : Json → String → Json → Outcome Json
  | obj fields, name, default => .ok ((fields.lookup name).getD default)
  | value, _, _ => .error (.misuse (.member value "get"))

def occursIn (part : List Char) : List Char → Bool
  | [] => part.isEmpty
  | c :: rest => part.isPrefixOf (c :: rest) || occursIn part rest

/-- Whether a value mentions a name: as a field of an object, as an item of a list or as a part of a
text. -/
def mentions : Json → String → Outcome Bool
  | obj fields, name => .ok (fields.any fun field => field.1 = name)
  | arr items, name => .ok (items.any fun item => item == .str name)
  | str text, name => .ok (occursIn name.toList text.toList)
  | value, _ => .error (.misuse (.searched value))

/-- The values that a value lists: the items of a list, the names of an object or the characters of
a text. -/
def listed : Json → Outcome (List Json)
  | arr items => .ok items
  | obj fields => .ok (fields.map fun field => .str field.1)
  | str text => .ok (text.toList.map fun c => .str (String.singleton c))
  | value => .error (.misuse (.listed value))

def entries : Json → Outcome Fields
  | obj fields => .ok fields
  | value => .error (.misuse (.member value "items"))

/-- A whole number: floating-point numbers are truncated, and texts may write one. -/
def whole : Json → Outcome Int
  | int n => .ok n
  | bool b => .ok (if b then 1 else 0)
  | float x =>
    match Decimal.Exact.ofFloat x with
    | .nan => .error (.invalid "cannot convert float NaN to integer")
    | .infinite _ => .error (.unbounded "cannot convert float infinity to integer")
    | exact => .ok (exact.truncate.getD 0)
  | str text =>
    match Decimal.Whole.ofText text with
    | .number n => .ok n
    | .tooLong digits => .error (.invalid (Decimal.tooManyDigits digits))
    | .nothing => .error (.notWhole text)
  | value => .error (.misuse (.whole value))

/-- A floating-point number: whole numbers are rounded, and texts may write one. -/
def number : Json → Outcome Float
  | float x => .ok x
  | int n =>
    let x := Decimal.ofWhole n
    if x.isInf then .error (.unbounded "int too large to convert to float") else .ok x
  | bool b => .ok (if b then 1.0 else 0.0)
  | str text =>
    match Decimal.float? text with
    | some x => .ok x
    | none => .error (.notNumber text)
  | value => .error (.misuse (.number value))

/-- The whole number that a number equals. Two numbers that are equal are the same key of a table,
however they are written. -/
def index? : Json → Option Int
  | int n => some n
  | bool b => some (if b then 1 else 0)
  | float x => (Decimal.Exact.ofFloat x).whole?
  | _ => none

def asKey : Json → Outcome Json
  | arr items => .error (.misuse (.keyed (arr items)))
  | obj fields => .error (.misuse (.keyed (obj fields)))
  | value => .ok value

end Scalpel.Json
