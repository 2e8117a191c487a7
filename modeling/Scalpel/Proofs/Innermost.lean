import Scalpel.Proofs.Clamping
import Scalpel.Proofs.Clerk

/-!
The innermost symbol around a position. One pass over the symbols keeps a single candidate and drops
what does not lie in it. Nothing smaller is lost in this way, whatever the order of the symbols and
however their ranges overlap: each candidate lies in the one before, so what did not fit into an
earlier candidate does not fit into a later one either.
-/

set_option autoImplicit false

namespace Scalpel

namespace Position

theorem atOrBefore_antisymm {a b : Position} (first : a.atOrBefore b = true)
    (second : b.atOrBefore a = true) : a = b := by
  rw [atOrBefore_iff] at first second
  cases a
  cases b
  simp only [Position.mk.injEq] at first second ⊢
  omega

end Position

namespace Range

/-! ### Ranges in ranges -/

variable {r inner inmost : Range}

theorem containsRange_iff :
    r.containsRange inner = true ↔
      r.start.atOrBefore inner.start = true ∧ inner.stop.atOrBefore r.stop = true := by
  simp [containsRange]

theorem containsRange_self (r : Range) : r.containsRange r = true := by
  rw [containsRange_iff]
  exact ⟨Position.atOrBefore_self _, Position.atOrBefore_self _⟩

theorem containsRange_trans (outside : r.containsRange inner = true)
    (inside : inner.containsRange inmost = true) : r.containsRange inmost = true := by
  rw [containsRange_iff] at outside inside ⊢
  constructor
  · exact Position.atOrBefore_trans outside.1 inside.1
  · exact Position.atOrBefore_trans inside.2 outside.2

theorem containsRange_antisymm (one : r.containsRange inner = true)
    (other : inner.containsRange r = true) : r = inner := by
  rw [containsRange_iff] at one other
  have starts : r.start = inner.start := Position.atOrBefore_antisymm one.1 other.1
  have stops : r.stop = inner.stop := Position.atOrBefore_antisymm other.2 one.2
  cases r
  cases inner
  simp only at starts stops
  rw [starts, stops]

end Range

namespace Symbol

/-! ### The candidate of a pass -/

variable {symbols : List Symbol} {p : Position} {symbol found : Symbol}

/-- A symbol around a position such that no other symbol around it has a smaller range, and no later
symbol has the same one. -/
structure Innermost (symbols : List Symbol) (p : Position) (symbol : Symbol) : Prop where
  around : symbol.range.contains p = true
  smallest : ∀ other ∈ symbols, other.range.contains p = true →
    symbol.range.containsRange other.range = true → other.range = symbol.range
  last : ∃ before after, symbols = before ++ symbol :: after ∧
    ∀ other ∈ after, other.range ≠ symbol.range

namespace Innermost

/-- A candidate remains when a symbol follows that is not around the position or does not lie in the
candidate. -/
theorem skip (innermost : Innermost symbols p found)
    (outside : symbol.range.contains p = true → ¬ found.range.containsRange symbol.range = true) :
    Innermost (symbols ++ [symbol]) p found := by
  constructor
  · exact innermost.around
  · intro other member around inside
    rcases List.mem_append.mp member with earlier | final
    · exact innermost.smallest other earlier around inside
    · rw [List.mem_singleton.mp final] at around inside
      exact absurd inside (outside around)
  · obtain ⟨before, after, rfl, later⟩ := innermost.last
    refine ⟨before, after ++ [symbol], by simp, ?_⟩
    intro other member
    rcases List.mem_append.mp member with earlier | final
    · exact later other earlier
    · rw [List.mem_singleton.mp final]
      intro same
      apply outside
      · rw [same]
        exact innermost.around
      · rw [same]
        exact Range.containsRange_self _

/-- A symbol in the candidate takes its place: whatever fits into it did fit into the candidate. -/
theorem replace (innermost : Innermost symbols p found) (around : symbol.range.contains p = true)
    (inside : found.range.containsRange symbol.range = true) :
    Innermost (symbols ++ [symbol]) p symbol := by
  constructor
  · exact around
  · intro other member aroundOther smaller
    rcases List.mem_append.mp member with earlier | final
    · have within : found.range.containsRange other.range = true :=
        Range.containsRange_trans inside smaller
      have same : other.range = found.range :=
        innermost.smallest other earlier aroundOther within
      rw [same] at smaller ⊢
      exact Range.containsRange_antisymm inside smaller
    · rw [List.mem_singleton.mp final]
  · exact ⟨symbols, [], rfl, fun _ member => absurd member List.not_mem_nil⟩

theorem first (none : ∀ other ∈ symbols, other.range.contains p = false)
    (around : symbol.range.contains p = true) : Innermost (symbols ++ [symbol]) p symbol := by
  constructor
  · exact around
  · intro other member aroundOther _
    rcases List.mem_append.mp member with earlier | final
    · rw [none other earlier] at aroundOther
      cases aroundOther
    · rw [List.mem_singleton.mp final]
  · exact ⟨symbols, [], rfl, fun _ member => absurd member List.not_mem_nil⟩

end Innermost

theorem innermost?_concat (symbols : List Symbol) (symbol : Symbol) (p : Position) :
    innermost? (symbols ++ [symbol]) p =
      if symbol.range.contains p = true then
        match innermost? symbols p with
        | none => some symbol
        | some found =>
          if found.range.containsRange symbol.range = true then some symbol else some found
      else innermost? symbols p := by
  unfold innermost?
  rw [List.foldl_concat]
  generalize List.foldl _ none symbols = best
  cases best with
  | none => rfl
  | some found => rfl

/-- A pass has no candidate as long as no symbol is around the position, and the innermost one after
that. -/
theorem innermost?_cases (symbols : List Symbol) (p : Position) :
    (innermost? symbols p = none ∧ ∀ symbol ∈ symbols, symbol.range.contains p = false) ∨
      ∃ found, innermost? symbols p = some found ∧ Innermost symbols p found := by
  induction symbols using List.reverseRecOn with
  | nil => exact .inl ⟨rfl, fun _ member => absurd member List.not_mem_nil⟩
  | append_singleton symbols symbol ih =>
      rw [innermost?_concat]
      by_cases around : symbol.range.contains p = true
      · rw [if_pos around]
        rcases ih with ⟨none, all⟩ | ⟨found, some, innermost⟩
        · rw [none]
          exact .inr ⟨symbol, rfl, .first all around⟩
        · rw [some]
          by_cases inside : found.range.containsRange symbol.range = true
          · exact .inr ⟨symbol, if_pos inside, innermost.replace around inside⟩
          · exact .inr ⟨found, if_neg inside, innermost.skip fun _ => inside⟩
      · rw [if_neg around]
        rcases ih with ⟨none, all⟩ | ⟨found, some, innermost⟩
        · refine .inl ⟨none, fun other member => ?_⟩
          rcases List.mem_append.mp member with earlier | final
          · exact all other earlier
          · rw [List.mem_singleton.mp final]
            exact Bool.eq_false_iff.mpr around
        · exact .inr ⟨found, some, innermost.skip fun here => absurd here around⟩

end Symbol

namespace Client

variable [Halves] {σ : Type} [Peer σ] {s after : Session σ Client}

theorem ends_symbolAt {uri : String} {p : Position} {outcome : Outcome (Option Symbol)} :
    Ends (symbolAt uri p) s outcome after ↔
      ∃ listed, Ends (symbols uri) s listed after ∧
        outcome = listed.map (Symbol.innermost? · p) := by
  unfold symbolAt
  rw [ends_bind]
  constructor
  · rintro (⟨listed, _, answered, found⟩ | ⟨failure, rfl, failed⟩)
    · obtain ⟨rfl, rfl⟩ := ends_pure.mp found
      exact ⟨.ok listed, answered, rfl⟩
    · exact ⟨.error failure, failed, rfl⟩
  · rintro ⟨listed, answered, rfl⟩
    cases listed with
    | ok symbols => exact .inl ⟨symbols, after, answered, ends_pure.mpr ⟨rfl, rfl⟩⟩
    | error failure => exact .inr ⟨failure, rfl, answered⟩

end Client

namespace Symbol

variable [Halves]

/-- A position has a symbol exactly if a range of a symbol contains it. The symbol is then one of the
smallest around the position, and the last of those with its range. This is the symbol that a client
gives for the position. -/
theorem symbolAt_innermost (symbols : List Symbol) (p : Position) :
    (innermost? symbols p = none ↔ ∀ symbol ∈ symbols, symbol.range.contains p = false) ∧
      (∀ found, innermost? symbols p = some found → Innermost symbols p found) ∧
      ∀ {σ : Type} [Peer σ] {s after : Session σ Client} {uri : String}
        {outcome : Outcome (Option Symbol)},
        Ends (Client.symbolAt uri p) s outcome after ↔
          ∃ listed, Ends (Client.symbols uri) s listed after ∧
            outcome = listed.map (innermost? · p) := by
  refine ⟨?_, ?_, Client.ends_symbolAt⟩
  · rcases innermost?_cases symbols p with ⟨none, all⟩ | ⟨found, some, innermost⟩
    · exact ⟨fun _ => all, fun _ => none⟩
    · constructor
      · intro none
        cases some.symm.trans none
      · intro all
        obtain ⟨before, after, rfl, _⟩ := innermost.last
        have outside := all found (List.mem_append_right _ List.mem_cons_self)
        cases innermost.around.symm.trans outside
  · intro found some
    rcases innermost?_cases symbols p with ⟨none, _⟩ | ⟨other, same, innermost⟩
    · cases some.symm.trans none
    · cases some.symm.trans same
      exact innermost

end Symbol

end Scalpel

/-! ### Ranges that overlap -/

namespace Scalpel.Symbol

local instance innermostHalves : Halves :=
  Halves.trial

def spanning (name : String) (first last : Int) : Symbol :=
  { name := .str name
    kind := .int 12
    range := ⟨⟨0, first⟩, ⟨0, last⟩⟩
    selection := ⟨⟨0, first⟩, ⟨0, first⟩⟩ }

/-- Two symbols whose ranges overlap, and in the first one a range that two symbols have. -/
def overlapping : List Symbol :=
  [spanning "f" 0 9, spanning "g" 3 12, spanning "h" 4 6, spanning "i" 4 6, spanning "j" 0 3]

theorem symbolAt_innermost_of_overlapping :
    innermost? overlapping ⟨0, 5⟩ = some (spanning "i" 4 6) ∧
      Innermost overlapping ⟨0, 5⟩ (spanning "i" 4 6) := by
  have found : innermost? overlapping ⟨0, 5⟩ = some (spanning "i" 4 6) := rfl
  exact ⟨found, (symbolAt_innermost overlapping ⟨0, 5⟩).2.1 _ found⟩

end Scalpel.Symbol
