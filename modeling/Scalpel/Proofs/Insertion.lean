import Mathlib
import Scalpel.Proofs.Clamping
import Scalpel.Proofs.Simultaneous

/-!
Code that is put after a symbol stands on lines of its own. The text is parted behind the symbol's last
line, and nothing of it is lost: what stood before the code ends with a line feed, which is added where
the text does not end with one, and what stands behind the code begins a line. This holds for symbols
that end anywhere, also past the end of the text.
-/

set_option autoImplicit false

namespace Scalpel.Document

open Scalpel

/-! ### The end of a text -/

theorem length_lines (text : List Char) : (lines text).length = text.count '\n' + 1 := by
  induction text with
  | nil => rfl
  | cons c rest ih =>
      by_cases feed : c = '\n'
      · rw [feed, lines_feed, List.length_cons, ih, List.count_cons_self]
      · obtain ⟨line, more, split, longer⟩ := lines_cons feed rest
        rw [split] at ih
        rw [longer, List.count_cons_of_ne feed, ← ih]
        rfl

theorem reached_lines (text : List Char) :
    reached text =
      { line := Int.ofNat ((lines text).length - 1)
        character := Int.ofNat ((lines text).getLastD []).length } := by
  induction text with
  | nil => rfl
  | cons c rest ih =>
      obtain ⟨line, more, split⟩ := List.exists_cons_of_ne_nil (lines_ne_nil rest)
      rw [reached_cons, ih, split]
      by_cases feed : c = '\n'
      · rw [feed, lines_feed, split]
        simp [Position.pushed]
      · obtain ⟨_, _, same, longer⟩ := lines_cons feed rest
        rw [split] at same
        obtain ⟨rfl, rfl⟩ := List.cons.inj same
        rw [longer]
        cases more with
        | nil => simp [Position.pushed, feed]
        | cons second others =>
            rw [Position.pushed, if_neg feed, if_neg]
            · simp
            · simp only [List.length_cons, Int.ofNat_eq_natCast]
              omega

theorem offsetAt_end (text : List Char) : offsetAt text (reached text) = text.length := by
  have found := offsetAt_reached text []
  rw [List.append_nil] at found
  exact found

theorem offsetAt_past {text : List Char} {p : Position} (past : text.count '\n' < p.line)
    (proper : 0 ≤ p.character) : offsetAt text p = text.length := by
  apply Nat.le_antisymm (offsetAt_le_length text p)
  have below : 0 ≤ p.line ∧ 0 ≤ p.character := by omega
  rw [le_offsetAt_iff below (Nat.le_refl _), positionAt, List.take_length, reached_eq,
    Position.atOrBefore_iff]
  left
  exact past

/-! ### Places between lines -/

/-- The line on which a symbol ends. A symbol that ends at the start of a later line than that of its
start ends with the line before. -/
def lastLine (symbol : Range) : Int :=
  if symbol.stop.character = 0 ∧ symbol.start.line < symbol.stop.line then symbol.stop.line - 1
  else symbol.stop.line

/-- A text is parted behind one of its lines and the line feed of that line, or at its end where it has
no such line feed. -/
structure PartedBehind (text : List Char) (line : Nat) (front back : List Char) : Prop where
  whole : text = front ++ back
  place : front.count '\n' = line + 1 ∧ front.getLast? = some '\n' ∨
    back = [] ∧ text.count '\n' ≤ line

theorem toList_applyEdit_point {text : String} {front back : List Char} {p : Position}
    (whole : text.toList = front ++ back) (place : offsetAt text.toList p = front.length)
    (new : String) :
    (applyEdit text { start := p, stop := p } new).toList = front ++ new.toList ++ back := by
  rw [toList_applyEdit, place, splice, whole]
  simp

theorem placeAfter_eq (text : String) (symbol : Range) :
    placeAfter text symbol =
      if text.toList.count '\n' ≤ lastLine symbol ∧ text.toList.getLast? ≠ some '\n' then
        ({ start := reached text.toList, stop := reached text.toList }, true)
      else (.point (lastLine symbol + 1), false) := by
  have final : (lines text.toList).length - 1 = text.toList.count '\n' := by
    rw [length_lines]
    rfl
  have ending := reached_lines text.toList
  rw [final] at ending
  unfold placeAfter
  simp only [final, ending, Range.point, Bool.and_eq_true, Bool.not_eq_true',
    decide_eq_true_eq, decide_eq_false_iff_not, Int.ofNat_eq_natCast]
  rfl

/-- Code that is put after a symbol stands behind the last line of the symbol, on lines of its own: the
text in front of it ends with a line feed, which is added if the text has none there, the code is
followed by one, and what stands behind it begins a line. -/
theorem insertionAfter_on_own_line (text code : String) {symbol : Range}
    (started : 0 ≤ symbol.start.line) (stopped : 0 ≤ symbol.stop.line) :
    ∃ front back : List Char, PartedBehind text.toList (lastLine symbol).toNat front back ∧
      0 ≤ lastLine symbol ∧ (back = [] ∨ front.getLast? = some '\n') ∧
      (applyEdit text (insertionAfter text symbol code).range
          (insertionAfter text symbol code).newText).toList =
        front ++ (if front.getLast? = some '\n' then [] else ['\n']) ++ code.toList ++ ['\n'] ++
          back := by
  have below : 0 ≤ lastLine symbol := by
    unfold lastLine
    split <;> omega
  have whole : text.toList = text.toList ++ [] := (List.append_nil _).symm
  unfold insertionAfter
  rw [placeAfter_eq]
  by_cases unended : text.toList.count '\n' ≤ lastLine symbol ∧ text.toList.getLast? ≠ some '\n'
  · rw [if_pos unended]
    refine ⟨text.toList, [], ⟨whole, .inr ⟨rfl, ?_⟩⟩, below, .inl rfl, ?_⟩
    · omega
    · rw [if_neg unended.2, toList_applyEdit_point whole (offsetAt_end _)]
      simp
  · rw [if_neg unended]
    by_cases there : lastLine symbol + 1 ≤ text.toList.count '\n'
    · have many : (lastLine symbol).toNat + 1 ≤ text.toList.count '\n' := by omega
      obtain ⟨front, back, parted, number, begins⟩ := exists_front many
      have ended : front.getLast? = some '\n' := by
        rcases begins with rfl | ended
        · simp at number
        · exact ended
      have here : reached front = { line := lastLine symbol + 1, character := 0 } := by
        have plain : '\n' ∉ ([] : List Char) := List.not_mem_nil
        have read := reached_append begins plain
        rw [List.append_nil, number] at read
        rw [read]
        simp [below]
      have place := offsetAt_reached front back
      rw [here, ← parted] at place
      refine ⟨front, back, ⟨parted, .inl ⟨number, ended⟩⟩, below, .inr ended, ?_⟩
      rw [if_pos ended, Range.point, toList_applyEdit_point parted place]
      simp
    · have ended : text.toList.getLast? = some '\n' := by
        by_contra open_
        exact unended ⟨by omega, open_⟩
      have place : offsetAt text.toList { line := lastLine symbol + 1, character := 0 } =
          text.toList.length := by
        apply offsetAt_past
        · simp only
          omega
        · exact Int.le_refl 0
      refine ⟨text.toList, [], ⟨whole, .inr ⟨rfl, ?_⟩⟩, below, .inl rfl, ?_⟩
      · omega
      · rw [if_pos ended, Range.point, toList_applyEdit_point whole place]
        simp

/-- A symbol that ends past a text without a line feed at its end. -/
theorem insertionAfter_on_own_line_of_past :
    let symbol : Range := { start := { line := 1, character := 0 }, stop := { line := 9, character := 4 } }
    let edit := insertionAfter "a\nb" symbol "c"
    0 ≤ symbol.start.line ∧ 0 ≤ symbol.stop.line ∧
      (applyEdit "a\nb" edit.range edit.newText).toList = "a\nb\nc\n".toList := by
  intro symbol edit
  have started : 0 ≤ symbol.start.line := by decide
  have stopped : 0 ≤ symbol.stop.line := by decide
  obtain ⟨front, back, parted, -, -, made⟩ := insertionAfter_on_own_line "a\nb" "c" started stopped
  have whole := parted.whole
  rcases parted.place with ⟨many, -⟩ | ⟨rfl, -⟩
  · have few := congrArg (List.count '\n') whole
    have nine : (lastLine symbol).toNat = 9 := by decide
    have one : "a\nb".toList.count '\n' = 1 := by decide
    rw [List.count_append, many, nine, one] at few
    omega
  · rw [List.append_nil] at whole
    refine ⟨started, stopped, ?_⟩
    rw [made, ← whole]
    decide

end Scalpel.Document
