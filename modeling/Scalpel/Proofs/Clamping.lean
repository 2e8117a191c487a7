import Mathlib
import Scalpel.Proofs.Offsets

/-!
Positions that need not lie inside a text. The offset of such a position is the last place of the text
that is not behind it. So every place of a text is found again by its position, a later position never
has a smaller offset, and on a line that exists no position leads out of that line.
-/

set_option autoImplicit false

namespace Scalpel

namespace Position

/-! ### The order of positions -/

theorem atOrBefore_trans {a b c : Position} (first : a.atOrBefore b = true)
    (second : b.atOrBefore c = true) : a.atOrBefore c = true := by
  rw [atOrBefore_iff] at first second ⊢
  omega

theorem not_atOrBefore_iff (a b : Position) : ¬ a.atOrBefore b = true ↔ b.before a = true := by
  rw [atOrBefore_iff, before_iff]
  omega

theorem pushed_atOrBefore_iff (p q : Position) (c : Char) :
    (p.pushed c).atOrBefore (q.pushed c) = true ↔ p.atOrBefore q = true := by
  rw [atOrBefore_iff, atOrBefore_iff, pushed, pushed]
  split
  · simp only
    omega
  · split <;> split <;> simp only <;> omega

/-- A position in front of everything that follows a first character, or one of what follows it. -/
theorem exists_pushed_or {p : Position} (proper : 0 ≤ p.line ∧ 0 ≤ p.character) (c : Char) :
    (∃ q : Position, (0 ≤ q.line ∧ 0 ≤ q.character) ∧ q.pushed c = p) ∨
      p.line = 0 ∧ (c ≠ '\n' → p.character = 0) := by
  obtain ⟨row, column⟩ := p
  simp only at proper ⊢
  by_cases feed : c = '\n'
  · by_cases top : row = 0
    · right
      exact ⟨top, fun plain => absurd feed plain⟩
    · left
      refine ⟨{ line := row - 1, character := column }, ?_, ?_⟩
      · simp only
        omega
      · simp [pushed, feed]
  · by_cases top : row = 0
    · by_cases front : column = 0
      · right
        exact ⟨top, fun _ => front⟩
      · left
        refine ⟨{ line := 0, character := column - 1 }, ?_, ?_⟩
        · simp only
          omega
        · simp [pushed, feed, top]
    · left
      refine ⟨{ line := row, character := column }, proper, ?_⟩
      simp [pushed, feed, top]

def raised (p : Position) : Position :=
  { line := max p.line 0, character := if p.line < 0 then 0 else max p.character 0 }

theorem raised_nonneg (p : Position) : 0 ≤ p.raised.line ∧ 0 ≤ p.raised.character := by
  simp only [raised]
  split <;> omega

theorem raised_mono {p q : Position} (ordered : p.atOrBefore q = true) :
    p.raised.atOrBefore q.raised = true := by
  rw [atOrBefore_iff] at ordered ⊢
  simp only [raised]
  split <;> split <;> omega

end Position

namespace Document

/-! ### The last place that is not behind a position -/

theorem offsetAt_front {p : Position} {c : Char} (top : p.line = 0)
    (front : c ≠ '\n' → p.character = 0) (rest : List Char) : offsetAt (c :: rest) p = 0 := by
  rw [offsetAt_of_nonneg (Int.le_of_eq top.symm), top]
  by_cases feed : c = '\n'
  · rw [feed, lines_feed]
    simp [offsetIn]
  · obtain ⟨line, more, _, longer⟩ := lines_cons feed rest
    rw [longer, front feed]
    simp [offsetIn]

theorem before_pushed {p q : Position} {c : Char} (top : p.line = 0)
    (front : c ≠ '\n' → p.character = 0) (proper : 0 ≤ q.line ∧ 0 ≤ q.character) :
    p.before (q.pushed c) = true := by
  rw [Position.before_iff, Position.pushed]
  by_cases feed : c = '\n'
  · rw [if_pos feed]
    simp only
    omega
  · have front := front feed
    rw [if_neg feed]
    split
    · simp only
      omega
    · omega

theorem offsetIn_congr {a b : Int} (same : a.toNat = b.toNat) (n : Nat) (rows : List (List Char)) :
    offsetIn a n rows = offsetIn b n rows := by
  induction n generalizing rows with
  | zero =>
      cases rows with
      | nil => simp [offsetIn]
      | cons line rest => simp [offsetIn, same]
  | succ n ih =>
      cases rows with
      | nil => simp [offsetIn]
      | cons line more =>
          cases more with
          | nil => simp [offsetIn]
          | cons next rest => simp [offsetIn, ih]

/-- A place of a text is at or before a position exactly if it is not behind the offset of the
position. -/
theorem le_offsetAt_iff {text : List Char} {offset : Nat} {p : Position}
    (proper : 0 ≤ p.line ∧ 0 ≤ p.character) (within : offset ≤ text.length) :
    offset ≤ offsetAt text p ↔ (positionAt text offset).atOrBefore p = true := by
  cases offset with
  | zero =>
      simp only [Nat.zero_le, positionAt, List.take_zero, reached_nil, true_iff,
        Position.atOrBefore_iff]
      omega
  | succ offset =>
      induction text generalizing p offset with
      | nil => simp at within
      | cons c rest ih =>
          have step : positionAt (c :: rest) (offset + 1) = (positionAt rest offset).pushed c :=
            reached_cons c (rest.take offset)
          have short : offset ≤ rest.length := by simpa using within
          rw [step]
          rcases Position.exists_pushed_or proper c with ⟨q, below, rfl⟩ | ⟨top, front⟩
          · rw [offsetAt_pushed below, Position.pushed_atOrBefore_iff]
            cases offset with
            | zero =>
                simp only [positionAt, List.take_zero, reached_nil, Position.atOrBefore_iff]
                omega
            | succ offset =>
                rw [← ih below offset short]
                omega
          · have behind := before_pushed top front (reached_nonneg (rest.take offset))
            rw [offsetAt_front top front, positionAt, Position.not_atOrBefore_of_before behind]
            simp

/-- A negative line is in front of the text, and a negative character is the start of its line. -/
theorem offsetAt_raised (text : List Char) (p : Position) : offsetAt text p.raised = offsetAt text p := by
  obtain ⟨row, column⟩ := p
  by_cases below : row < 0
  · obtain ⟨n, rfl⟩ := Int.eq_negSucc_of_lt_zero below
    have first : Position.raised { line := Int.negSucc n, character := column } = reached [] := by
      rw [Position.raised, reached_nil]
      simp only [Position.mk.injEq]
      constructor
      · omega
      · rw [if_pos below]
    rw [first]
    exact offsetAt_reached [] text
  · have within : 0 ≤ row := Int.not_lt.mp below
    have lifted : Position.raised { line := row, character := column } =
        { line := row, character := max column 0 } := by
      rw [Position.raised]
      simp only [Position.mk.injEq]
      constructor
      · omega
      · rw [if_neg below]
    rw [lifted, offsetAt_of_nonneg within, offsetAt_of_nonneg within]
    apply offsetIn_congr
    simp only
    omega

theorem offsetAt_le_length (text : List Char) (p : Position) : offsetAt text p ≤ text.length := by
  rw [← offsetAt_raised]
  have proper := p.raised_nonneg
  generalize p.raised = q at proper
  induction text generalizing q with
  | nil =>
      rw [offsetAt_of_nonneg proper.1, lines]
      cases q.line.toNat <;> simp [offsetIn]
  | cons c rest ih =>
      rcases Position.exists_pushed_or proper c with ⟨next, below, rfl⟩ | ⟨top, front⟩
      · rw [offsetAt_pushed below, List.length_cons]
        exact Nat.succ_le_succ (ih next below)
      · rw [offsetAt_front top front]
        exact Nat.zero_le _

theorem offsetAt_mono {p q : Position} (ordered : p.atOrBefore q = true) (text : List Char) :
    offsetAt text p ≤ offsetAt text q := by
  rw [← offsetAt_raised text p, ← offsetAt_raised text q]
  have within := offsetAt_le_length text p.raised
  have front := (le_offsetAt_iff p.raised_nonneg within).mp (Nat.le_refl _)
  rw [le_offsetAt_iff q.raised_nonneg within]
  exact Position.atOrBefore_trans front (Position.raised_mono ordered)

/-! ### Lines and columns -/

/-- The position that reading leads to counts the line feeds that were read, and the characters behind
the last of them. -/
theorem reached_eq (read : List Char) :
    reached read =
      { line := read.count '\n', character := (read.rtakeWhile (· ≠ '\n')).length } := by
  induction read using List.reverseRecOn with
  | nil => simp [reached_nil]
  | append_singleton read c ih =>
      rw [reached_concat, ih, Position.past, List.rtakeWhile_concat]
      by_cases feed : c = '\n'
      · simp [feed]
      · simp [feed]

/-- A line of a text: what stands before it, and behind it from the line feed on that ends it. -/
structure LineAt (text : List Char) (number : Nat) (before line behind : List Char) : Prop where
  whole : text = before ++ line ++ behind
  number : before.count '\n' = number
  begins : before = [] ∨ before.getLast? = some '\n'
  plain : '\n' ∉ line
  ends : behind = [] ∨ behind.head? = some '\n'

theorem exists_front {text : List Char} {number : Nat} (there : number ≤ text.count '\n') :
    ∃ front rest, text = front ++ rest ∧ front.count '\n' = number ∧
      (front = [] ∨ front.getLast? = some '\n') := by
  induction text generalizing number with
  | nil =>
      have none : number = 0 := by simpa using there
      exact ⟨[], [], rfl, none.symm, .inl rfl⟩
  | cons c text ih =>
      cases number with
      | zero => exact ⟨[], c :: text, rfl, rfl, .inl rfl⟩
      | succ number =>
          by_cases feed : c = '\n'
          · subst feed
            rw [List.count_cons_self] at there
            obtain ⟨front, rest, rfl, same, begins⟩ := ih (Nat.le_of_succ_le_succ there)
            refine ⟨'\n' :: front, rest, rfl, ?_, ?_⟩
            · rw [List.count_cons_self, same]
            · rcases begins with rfl | last
              · simp
              · simp [List.getLast?_cons, last]
          · rw [List.count_cons_of_ne feed] at there
            obtain ⟨front, rest, rfl, same, begins⟩ := ih there
            refine ⟨c :: front, rest, rfl, ?_, ?_⟩
            · rw [List.count_cons_of_ne feed, same]
            · rcases begins with rfl | last
              · simp at same
              · simp [List.getLast?_cons, last]

theorem exists_lineAt {text : List Char} {number : Nat} (there : number ≤ text.count '\n') :
    ∃ before line behind, LineAt text number before line behind := by
  obtain ⟨front, rest, rfl, same, begins⟩ := exists_front there
  refine ⟨front, rest.takeWhile (· ≠ '\n'), rest.dropWhile (· ≠ '\n'), ?_, same, begins, ?_, ?_⟩
  · rw [List.append_assoc, List.takeWhile_append_dropWhile]
  · intro member
    have plain := List.mem_takeWhile_imp member
    simp at plain
  · cases left : rest.dropWhile (· ≠ '\n') with
    | nil => exact .inl rfl
    | cons c others =>
        right
        have stopped := List.head?_dropWhile_not (· ≠ '\n') rest
        rw [left] at stopped
        simpa using stopped

section Lines

variable {text before line behind : List Char} {number : Nat}

theorem rtakeWhile_of_begins (begins : before = [] ∨ before.getLast? = some '\n') :
    before.rtakeWhile (· ≠ '\n') = [] := by
  rcases begins with rfl | last
  · rfl
  · obtain ⟨others, rfl⟩ := List.getLast?_eq_some_iff.mp last
    rw [List.rtakeWhile_concat]
    simp

theorem reached_append (begins : before = [] ∨ before.getLast? = some '\n') (plain : '\n' ∉ line) :
    reached (before ++ line) = { line := before.count '\n', character := line.length } := by
  induction line using List.reverseRecOn with
  | nil =>
      rw [List.append_nil, reached_eq, rtakeWhile_of_begins begins]
  | append_singleton line c ih =>
      have apart : '\n' ∉ line ∧ c ≠ '\n' := by
        simpa [eq_comm] using plain
      rw [← List.append_assoc, reached_concat, ih apart.1, Position.past, if_neg apart.2]
      simp

theorem LineAt.positionAt (found : LineAt text number before line behind) {column : Nat}
    (within : column ≤ line.length) :
    positionAt text (before.length + column) = { line := number, character := column } := by
  have short : '\n' ∉ line.take column := fun member => found.plain (List.mem_of_mem_take member)
  have read : text.take (before.length + column) = before ++ line.take column := by
    rw [found.whole, List.append_assoc, List.take_length_add_append,
      List.take_append_of_le_length within]
  rw [Document.positionAt, read, reached_append found.begins short, found.number, List.length_take,
    Nat.min_eq_left within]

theorem LineAt.length_or (found : LineAt text number before line behind) :
    text.length = before.length + line.length ∨ before.length + line.length < text.length ∧
      Document.positionAt text (before.length + line.length + 1) =
        { line := number + 1, character := 0 } := by
  have whole := found.whole
  rcases found.ends with rfl | feed
  · left
    rw [whole]
    simp
  · obtain ⟨rest, rfl⟩ := List.head?_eq_some_iff.mp feed
    have longer : before.length + line.length < text.length := by
      rw [whole]
      simp
    have next : text[before.length + line.length] = '\n' := by
      simp only [whole, List.append_assoc]
      rw [List.getElem_append_right (by omega), List.getElem_append_right (by omega)]
      simp
    right
    refine ⟨longer, ?_⟩
    rw [positionAt_succ longer, next, found.positionAt (Nat.le_refl _), Position.past, if_pos rfl]

theorem LineAt.offsetAt (found : LineAt text number before line behind) (character : Int) :
    offsetAt text { line := number, character } =
      before.length + min character.toNat line.length := by
  have proper : 0 ≤ (number : Int) := Int.natCast_nonneg number
  have short : before.length + line.length ≤ text.length := by
    rcases found.length_or with same | ⟨longer, _⟩ <;> omega
  by_cases within : character.toNat ≤ line.length
  · have place := found.positionAt within
    have lifted : Position.raised { line := number, character } =
        { line := number, character := character.toNat } := by
      simp only [Position.raised, Position.mk.injEq]
      constructor
      · omega
      · rw [if_neg (by omega)]
        omega
    rw [← offsetAt_raised, lifted, ← place, offsetAt_positionAt (by omega), Nat.min_eq_left within]
  · have proper : 0 ≤ (number : Int) ∧ 0 ≤ character := by omega
    have reaches : before.length + line.length ≤
        Document.offsetAt text { line := number, character } := by
      rw [le_offsetAt_iff proper short, found.positionAt (Nat.le_refl _), Position.atOrBefore_iff]
      right
      constructor
      · rfl
      · simp only
        omega
    have stays : Document.offsetAt text { line := number, character } ≤
        before.length + line.length := by
      rcases found.length_or with same | ⟨longer, next⟩
      · rw [← same]
        exact offsetAt_le_length text _
      · by_contra further
        have beyond : before.length + line.length + 1 ≤
            Document.offsetAt text { line := number, character } := by omega
        rw [le_offsetAt_iff proper longer, next, Position.atOrBefore_iff] at beyond
        simp only at beyond
        omega
    rw [Nat.min_eq_right (by omega)]
    exact Nat.le_antisymm stays reaches

end Lines

/-- Offsets and positions of a text correspond. The position of an offset leads back to it; offsets
follow the order of positions, also of negative ones and of those past an end, and are places of the
text; and a position on a line that exists stays between the start of this line and its line feed. -/
theorem offsetAt_corresponds (text : List Char) :
    (∀ offset ≤ text.length, offsetAt text
      { line := (text.take offset).count '\n'
        character := ((text.take offset).rtakeWhile (· ≠ '\n')).length } = offset) ∧
      (∀ p q : Position, p.atOrBefore q = true →
        offsetAt text p ≤ offsetAt text q ∧ offsetAt text q ≤ text.length) ∧
      (∀ number ≤ text.count '\n', ∃ before line behind, LineAt text number before line behind) ∧
      ∀ {number : Nat} {before line behind : List Char}, LineAt text number before line behind →
        ∀ character : Int, before.length ≤ offsetAt text { line := number, character } ∧
          offsetAt text { line := number, character } ≤ before.length + line.length := by
  refine ⟨fun offset within => ?_, fun p q ordered => ?_, fun number there => ?_,
    fun found character => ?_⟩
  · rw [← reached_eq]
    exact offsetAt_positionAt within
  · exact ⟨offsetAt_mono ordered text, offsetAt_le_length text q⟩
  · exact exists_lineAt there
  · rw [found.offsetAt character]
    omega

/-- A text with an empty line: the place behind its first line feed, a position in front of the text
and one past the end of the first line, and one past the end of the empty line. -/
theorem offsetAt_corresponds_of_three_lines :
    let text := "ab\n\nc".toList
    offsetAt text { line := 1, character := 0 } = 3 ∧
      offsetAt text { line := -1, character := 7 } ≤ offsetAt text { line := 0, character := 9 } ∧
      LineAt text 1 "ab\n".toList [] "\nc".toList ∧
      3 ≤ offsetAt text { line := 1, character := 5 } ∧
      offsetAt text { line := 1, character := 5 } ≤ 3 := by
  intro text
  obtain ⟨back, ordered, -, within⟩ := offsetAt_corresponds text
  have empty : LineAt text 1 "ab\n".toList [] "\nc".toList :=
    ⟨by decide, by decide, by decide, by decide, by decide⟩
  refine ⟨back 3 (by decide), (ordered _ _ (by decide)).1, empty, ?_⟩
  exact within empty 5

end Document

end Scalpel
