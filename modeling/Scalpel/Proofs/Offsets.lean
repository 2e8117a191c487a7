import Mathlib
import Scalpel.Document.Text

/-!
Positions and offsets say the same of a place inside a text. A position is reached by reading: each
character leads to the next one of its line, and a line feed to the start of the next line. What lies
behind a place does not matter for it, and a later place has a later position.
-/

set_option autoImplicit false

namespace Scalpel

namespace Position

theorem before_iff (a b : Position) :
    a.before b = true ↔ a.line < b.line ∨ a.line = b.line ∧ a.character < b.character := by
  simp [before]

theorem atOrBefore_iff (a b : Position) :
    a.atOrBefore b = true ↔ a.line < b.line ∨ a.line = b.line ∧ a.character ≤ b.character := by
  simp [atOrBefore]

theorem atOrBefore_self (a : Position) : a.atOrBefore a = true := by
  rw [atOrBefore_iff]
  omega

theorem not_before_self (a : Position) : a.before a = false := by
  rw [Bool.eq_false_iff, ne_eq, before_iff]
  omega

theorem before_trans {a b c : Position} (first : a.before b = true) (second : b.before c = true) :
    a.before c = true := by
  rw [before_iff] at first second ⊢
  omega

theorem atOrBefore_of_before {a b : Position} (earlier : a.before b = true) :
    a.atOrBefore b = true := by
  rw [before_iff] at earlier
  rw [atOrBefore_iff]
  omega

theorem not_atOrBefore_of_before {a b : Position} (earlier : a.before b = true) :
    b.atOrBefore a = false := by
  rw [before_iff] at earlier
  rw [Bool.eq_false_iff, ne_eq, atOrBefore_iff]
  omega

theorem eq_or_before (a b : Position) : a = b ∨ a.before b = true ∨ b.before a = true := by
  rw [before_iff, before_iff]
  cases a
  cases b
  simp only [Position.mk.injEq]
  omega

def past (p : Position) (c : Char) : Position :=
  if c = '\n' then { line := p.line + 1, character := 0 }
  else { p with character := p.character + 1 }

theorem before_past {p : Position} (c : Char) : p.before (p.past c) = true := by
  rw [before_iff, past]
  split
  · left
    exact Int.lt_succ p.line
  · right
    exact ⟨rfl, Int.lt_succ p.character⟩

/-- Where a place of a text is when one more character stands at the front of the text. -/
def pushed (p : Position) (c : Char) : Position :=
  if c = '\n' then { p with line := p.line + 1 }
  else if p.line = 0 then { p with character := p.character + 1 }
  else p

theorem past_pushed {p : Position} (within : 0 ≤ p.line) (c d : Char) :
    (p.pushed c).past d = (p.past d).pushed c := by
  have unlike : p.line + 1 ≠ 0 := by omega
  by_cases front : c = '\n' <;> by_cases last : d = '\n' <;> by_cases top : p.line = 0 <;>
    simp [pushed, past, front, last, top, unlike]

end Position

namespace Document

/-! ### Where reading leads -/

def reached (read : List Char) : Position :=
  read.foldl Position.past { line := 0, character := 0 }

def positionAt (text : List Char) (offset : Nat) : Position :=
  reached (text.take offset)

theorem reached_nil : reached [] = { line := 0, character := 0 } :=
  rfl

theorem reached_concat (read : List Char) (c : Char) :
    reached (read ++ [c]) = (reached read).past c := by
  simp [reached]

theorem reached_nonneg (read : List Char) : 0 ≤ (reached read).line ∧ 0 ≤ (reached read).character := by
  induction read using List.reverseRecOn with
  | nil => simp [reached_nil]
  | append_singleton read c ih =>
      rw [reached_concat, Position.past]
      split
      · constructor
        · simp only
          omega
        · simp
      · constructor
        · exact ih.1
        · simp only
          omega

theorem reached_cons (c : Char) (read : List Char) :
    reached (c :: read) = (reached read).pushed c := by
  induction read using List.reverseRecOn with
  | nil =>
      simp only [reached, List.foldl_cons, List.foldl_nil, Position.past, Position.pushed]
      split <;> simp
  | append_singleton read d ih =>
      rw [← List.cons_append, reached_concat, ih, reached_concat]
      exact Position.past_pushed (reached_nonneg read).1 c d

/-! ### Lines -/

theorem lines_ne_nil (text : List Char) : lines text ≠ [] := by
  induction text with
  | nil => simp [lines]
  | cons c rest ih =>
      rw [lines.eq_def]
      split
      · simp
      · simp
      · split <;> simp

theorem lines_feed (rest : List Char) : lines ('\n' :: rest) = [] :: lines rest := by
  rw [lines]

theorem lines_cons {c : Char} (plain : c ≠ '\n') (rest : List Char) :
    ∃ line more, lines rest = line :: more ∧ lines (c :: rest) = (c :: line) :: more := by
  obtain ⟨line, more, split⟩ := List.exists_cons_of_ne_nil (lines_ne_nil rest)
  refine ⟨line, more, split, ?_⟩
  rw [lines.eq_def]
  simp [split]

/-! ### The offset of a position -/

theorem offsetAt_of_nonneg {p : Position} (within : 0 ≤ p.line) (text : List Char) :
    offsetAt text p = offsetIn p.character p.line.toNat (lines text) := by
  obtain ⟨line, below⟩ := Int.eq_ofNat_of_zero_le within
  unfold offsetAt
  rw [below]
  rfl

theorem offsetAt_pushed {p : Position} (within : 0 ≤ p.line ∧ 0 ≤ p.character) (c : Char)
    (text : List Char) : offsetAt (c :: text) (p.pushed c) = offsetAt text p + 1 := by
  rw [offsetAt_of_nonneg within.1]
  by_cases feed : c = '\n'
  · subst feed
    obtain ⟨line, more, split⟩ := List.exists_cons_of_ne_nil (lines_ne_nil text)
    have below : 0 ≤ (p.pushed '\n').line := by
      simp only [Position.pushed, if_pos]
      omega
    have next : (p.line + 1).toNat = p.line.toNat + 1 := by omega
    rw [offsetAt_of_nonneg below, lines_feed, split]
    simp only [Position.pushed, if_pos, next, offsetIn, List.length_nil]
    omega
  · obtain ⟨line, more, split, longer⟩ := lines_cons feed text
    by_cases top : p.line = 0
    · have right : p.pushed c = { p with character := p.character + 1 } := by
        rw [Position.pushed, if_neg feed, if_pos top]
      have next : (p.character + 1).toNat = p.character.toNat + 1 := by omega
      have front : 0 ≤ (p.pushed c).line := by
        rw [right]
        exact within.1
      rw [offsetAt_of_nonneg front, right, longer, split]
      simp only [top]
      simp only [Int.toNat_zero, offsetIn, List.length_cons, next]
      omega
    · have same : p.pushed c = p := by
        rw [Position.pushed, if_neg feed, if_neg top]
      obtain ⟨n, lower⟩ : ∃ n, p.line.toNat = n + 1 := ⟨p.line.toNat - 1, by omega⟩
      rw [same, offsetAt_of_nonneg within.1, longer, split, lower]
      cases more with
      | nil =>
          simp only [offsetIn, List.length_cons]
          omega
      | cons second rest =>
          simp only [offsetIn, List.length_cons]
          omega

/-- The position that reading leads to has as its offset the number of the characters read, whatever
comes behind them. -/
theorem offsetAt_reached (read rest : List Char) :
    offsetAt (read ++ rest) (reached read) = read.length := by
  induction read with
  | nil =>
      obtain ⟨line, more, split⟩ := List.exists_cons_of_ne_nil (lines_ne_nil rest)
      rw [reached_nil, offsetAt_of_nonneg (by simp), List.nil_append, split]
      simp [offsetIn]
  | cons c read ih =>
      rw [reached_cons, List.cons_append, offsetAt_pushed (reached_nonneg read), ih,
        List.length_cons]

theorem offsetAt_positionAt {text : List Char} {offset : Nat} (within : offset ≤ text.length) :
    offsetAt text (positionAt text offset) = offset := by
  have found := offsetAt_reached (text.take offset) (text.drop offset)
  rw [List.take_append_drop, List.length_take] at found
  rw [positionAt, found]
  exact Nat.min_eq_left within

theorem offsetAt_append {text : List Char} {offset : Nat} (within : offset ≤ text.length)
    {bound : Nat} (known : offset ≤ bound) (rest : List Char) :
    offsetAt (text.take bound ++ rest) (positionAt text offset) = offset := by
  have front : text.take offset = (text.take bound).take offset := by
    rw [List.take_take, Nat.min_eq_left known]
  have found := offsetAt_reached (text.take offset) ((text.take bound).drop offset ++ rest)
  rw [← List.append_assoc] at found
  conv at found =>
    lhs
    rw [front, List.take_append_drop, ← front]
  rw [positionAt, found, List.length_take]
  exact Nat.min_eq_left within

/-! ### Order -/

theorem positionAt_succ {text : List Char} {offset : Nat} (within : offset < text.length) :
    positionAt text (offset + 1) = (positionAt text offset).past text[offset] := by
  rw [positionAt, List.take_succ_eq_append_getElem within, reached_concat, positionAt]

theorem positionAt_before {text : List Char} {m n : Nat} (less : m < n) (within : n ≤ text.length) :
    (positionAt text m).before (positionAt text n) = true := by
  induction n with
  | zero => omega
  | succ n ih =>
      have next : (positionAt text n).before (positionAt text (n + 1)) = true := by
        rw [positionAt_succ within]
        exact Position.before_past _
      by_cases same : m = n
      · subst same
        exact next
      · exact Position.before_trans (ih (by omega) (by omega)) next

section Compared

variable {text : List Char} {m n : Nat} (first : m ≤ text.length) (second : n ≤ text.length)

include first second

theorem positionAt_atOrBefore_iff :
    (positionAt text m).atOrBefore (positionAt text n) = true ↔ m ≤ n := by
  constructor
  · intro ordered
    by_contra later
    have strict := positionAt_before (Nat.lt_of_not_le later) first
    rw [Position.not_atOrBefore_of_before strict] at ordered
    contradiction
  · intro ordered
    by_cases same : m = n
    · subst same
      exact Position.atOrBefore_self _
    · exact Position.atOrBefore_of_before
        (positionAt_before (Nat.lt_of_le_of_ne ordered same) second)

theorem positionAt_inj : positionAt text m = positionAt text n ↔ m = n := by
  constructor
  · intro same
    rw [← offsetAt_positionAt first, ← offsetAt_positionAt second, same]
  · intro same
    rw [same]

theorem positionAt_before_iff :
    (positionAt text m).before (positionAt text n) = true ↔ m < n := by
  constructor
  · intro earlier
    have weak := (positionAt_atOrBefore_iff first second).mp (Position.atOrBefore_of_before earlier)
    have unlike : m ≠ n := by
      intro same
      have turned := Position.not_atOrBefore_of_before earlier
      rw [same, Position.atOrBefore_self] at turned
      contradiction
    omega
  · intro less
    exact positionAt_before less second

end Compared

/-! ### Positions inside a text -/

/-- Whether a position is one of a text: its line is one of the lines of the text, and its character
is not past the end of that line. -/
def Inside (text : List Char) (p : Position) : Prop :=
  0 ≤ p.line ∧ 0 ≤ p.character ∧
    ∃ line ∈ (lines text)[p.line.toNat]?, p.character ≤ line.length

instance (text : List Char) (p : Position) : Decidable (Inside text p) :=
  inferInstanceAs (Decidable (_ ∧ _ ∧ _))

theorem Inside.cases {c : Char} {rest : List Char} {p : Position} (within : Inside (c :: rest) p) :
    p = reached [] ∨ ∃ q, Inside rest q ∧ q.pushed c = p := by
  obtain ⟨below, right, line, found, short⟩ := within
  obtain ⟨row, column⟩ := p
  simp only [reached_nil, Position.mk.injEq] at *
  by_cases feed : c = '\n'
  · subst feed
    rw [lines_feed] at found
    by_cases top : row = 0
    · rw [top] at found
      cases found
      simp only [List.length_nil] at short
      left
      omega
    · right
      have lower : row.toNat = (row - 1).toNat + 1 := by omega
      rw [lower, List.getElem?_cons_succ] at found
      refine ⟨{ line := row - 1, character := column }, ⟨?_, right, line, found, short⟩, ?_⟩
      · simp only
        omega
      · simp [Position.pushed]
  · obtain ⟨first, more, split, longer⟩ := lines_cons feed rest
    rw [longer] at found
    by_cases top : row = 0
    · subst top
      cases found
      by_cases front : column = 0
      · left
        exact ⟨rfl, front⟩
      · right
        refine ⟨{ line := 0, character := column - 1 }, ⟨Int.le_refl 0, ?_, first, ?_, ?_⟩, ?_⟩
        · simp only
          omega
        · rw [split]
          rfl
        · simp only [List.length_cons] at short ⊢
          omega
        · simp [Position.pushed, feed]
    · right
      have lower : row.toNat = (row.toNat - 1) + 1 := by omega
      refine ⟨{ line := row, character := column }, ⟨below, right, line, ?_, short⟩, ?_⟩
      · rw [lower, List.getElem?_cons_succ] at found
        rw [split, lower, List.getElem?_cons_succ]
        exact found
      · simp [Position.pushed, feed, top]

theorem exists_positionAt {text : List Char} {p : Position} (within : Inside text p) :
    ∃ offset ≤ text.length, positionAt text offset = p := by
  induction text generalizing p with
  | nil =>
      obtain ⟨below, right, line, found, short⟩ := within
      have first : p.line.toNat = 0 := by
        have least := (List.getElem?_eq_some_iff.mp found).1
        simp only [lines, List.length_singleton] at least
        omega
      have blank : line = [] := by
        rw [first] at found
        cases found
        rfl
      obtain ⟨row, column⟩ := p
      refine ⟨0, Nat.le_refl 0, ?_⟩
      simp only [positionAt, List.take_nil, reached_nil, Position.mk.injEq, blank,
        List.length_nil] at *
      omega
  | cons c rest ih =>
      rcases within.cases with front | ⟨q, inRest, rfl⟩
      · exact ⟨0, Nat.zero_le _, front.symm⟩
      · obtain ⟨offset, short, rfl⟩ := ih inRest
        refine ⟨offset + 1, Nat.succ_le_succ short, ?_⟩
        exact reached_cons c (rest.take offset)

end Document

end Scalpel
