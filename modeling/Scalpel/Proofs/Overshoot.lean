import Mathlib
import Scalpel.Proofs.Clamping
import Scalpel.Proofs.Simultaneous

/-!
Edits with positions past the end of a line or of the text. Such a position stands for the nearest
place of the text that it is meant for, but it is looked up in the text that the edits made before it
have left. Edits that do not overlap make the same with all positions pulled in exactly if each edit
that touches the one behind it ends inside the text.
-/

set_option autoImplicit false

namespace Scalpel.Document

open Scalpel

/-! ### The place a position stands for -/

def nearest (text : List Char) (p : Position) : Position :=
  positionAt text (offsetAt text p)

theorem offsetAt_nearest (text : List Char) (p : Position) :
    offsetAt text (nearest text p) = offsetAt text p :=
  offsetAt_positionAt (offsetAt_le_length text p)

theorem Inside.pushed {text : List Char} {p : Position} (within : Inside text p) (c : Char) :
    Inside (c :: text) (p.pushed c) := by
  obtain ⟨below, right, line, found, short⟩ := within
  by_cases feed : c = '\n'
  · subst feed
    have next : (p.line + 1).toNat = p.line.toNat + 1 := by omega
    rw [Position.pushed, if_pos rfl, Inside, lines_feed]
    refine ⟨by simp only; omega, right, line, ?_, short⟩
    rw [next, List.getElem?_cons_succ]
    exact found
  · obtain ⟨first, more, split, longer⟩ := lines_cons feed text
    rw [split] at found
    rw [Position.pushed, if_neg feed, Inside, longer]
    by_cases top : p.line = 0
    · rw [top] at found
      obtain rfl : first = line := by simpa using found
      rw [if_pos top]
      refine ⟨below, by simp only; omega, c :: first, by simp [top], ?_⟩
      simp only [List.length_cons]
      omega
    · have lower : p.line.toNat = (p.line.toNat - 1) + 1 := by omega
      rw [if_neg top]
      refine ⟨below, right, line, ?_, short⟩
      rw [lower, List.getElem?_cons_succ] at found ⊢
      exact found

theorem inside_reached (read rest : List Char) : Inside (read ++ rest) (reached read) := by
  induction read with
  | nil =>
      obtain ⟨line, more, split⟩ := List.exists_cons_of_ne_nil (lines_ne_nil rest)
      rw [reached_nil, List.nil_append, Inside, split]
      simp
  | cons c read ih =>
      rw [reached_cons, List.cons_append]
      exact ih.pushed c

theorem inside_nearest (text : List Char) (p : Position) : Inside text (nearest text p) := by
  have found := inside_reached (text.take (offsetAt text p)) (text.drop (offsetAt text p))
  rw [List.take_append_drop] at found
  exact found

theorem Inside.nearest_eq {text : List Char} {p : Position} (within : Inside text p) :
    nearest text p = p := by
  obtain ⟨offset, short, rfl⟩ := exists_positionAt within
  rw [nearest, offsetAt_positionAt short]

/-- A position that stands for a place, or for one in front of it, is not behind a position that
stands for that place, if it is inside the text where both stand for the same. -/
theorem atOrBefore_of_offsetAt_le (text : List Char) {p q : Position}
    (proper : 0 ≤ q.line ∧ 0 ≤ q.character) (ordered : offsetAt text p ≤ offsetAt text q)
    (tie : offsetAt text p = offsetAt text q → Inside text p) : p.atOrBefore q = true := by
  by_cases same : offsetAt text p = offsetAt text q
  · rw [← (tie same).nearest_eq, nearest, same]
    exact (le_offsetAt_iff proper (offsetAt_le_length text q)).mp (Nat.le_refl _)
  · by_contra later
    rw [Position.not_atOrBefore_iff] at later
    have turned := offsetAt_mono (Position.atOrBefore_of_before later) text
    omega

/-- What is changed behind a place does not matter for the positions that stand for a place in front
of it. It matters for those that stand for that place itself and are not inside the text. -/
theorem offsetAt_kept {text : List Char} {p : Position} {bound : Nat}
    (proper : 0 ≤ p.line ∧ 0 ≤ p.character) (within : bound ≤ text.length)
    (front : offsetAt text p ≤ bound) (tie : offsetAt text p = bound → Inside text p)
    (rest : List Char) : offsetAt (text.take bound ++ rest) p = offsetAt text p := by
  have long : bound ≤ (text.take bound ++ rest).length := by
    rw [List.length_append, List.length_take]
    omega
  have same {offset : Nat} (known : offset ≤ bound) :
      positionAt (text.take bound ++ rest) offset = positionAt text offset := by
    rw [positionAt, positionAt, List.take_append_of_le_length, List.take_take,
      Nat.min_eq_left known]
    rw [List.length_take]
    omega
  by_cases last : offsetAt text p = bound
  · have place := (tie last).nearest_eq
    rw [nearest, last] at place
    rw [last, ← place]
    exact offsetAt_append within (Nat.le_refl bound) rest
  · apply Nat.le_antisymm
    · by_contra further
      have beyond : offsetAt text p + 1 ≤ offsetAt (text.take bound ++ rest) p := by omega
      rw [le_offsetAt_iff proper (by omega), same (by omega), ← le_offsetAt_iff proper (by omega)]
        at beyond
      omega
    · rw [le_offsetAt_iff proper (by omega), same (by omega), ← le_offsetAt_iff proper (by omega)]

/-! ### Ranges -/

def corners (range : Range) : List Position :=
  [range.start, range.stop]

def pulledIn (text : List Char) (range : Range) : Range :=
  { start := nearest text range.start, stop := nearest text range.stop }

def madeAtPlace (text : List Char) (edit : TextEdit String) : TextEdit String :=
  { edit with range := pulledIn text edit.range }

section Ranges

variable (text : List Char) (range : Range)

def front : Nat :=
  min (offsetAt text range.start) (offsetAt text range.stop)

def back : Nat :=
  max (offsetAt text range.start) (offsetAt text range.stop)

def NonNegative : Prop :=
  ∀ p ∈ corners range, 0 ≤ p.line ∧ 0 ≤ p.character

/-- Whether the end of a range is a position of the text, and not one past the end of a line. -/
def EndsInside : Prop :=
  ∀ p ∈ corners range, offsetAt text p = back text range → Inside text p

end Ranges

instance (range : Range) : Decidable (NonNegative range) :=
  inferInstanceAs (Decidable (∀ p ∈ corners range, _))

instance (text : List Char) (range : Range) : Decidable (EndsInside text range) :=
  inferInstanceAs (Decidable (∀ p ∈ corners range, _))

/-- Whether the places of two ranges do not overlap. They may touch. -/
def Clear (text : List Char) (a b : Range) : Prop :=
  back text a ≤ front text b ∨ back text b ≤ front text a

/-- Whether of two ranges that touch the one in front ends inside the text. Of two insertions at one
place the first in the list is the one in front. -/
def Fit (text : List Char) (a b : Range) : Prop :=
  (back text a = front text b → EndsInside text a) ∧
    (back text b = front text a → back text a ≠ front text b → EndsInside text b)

instance (text : List Char) (a b : Range) : Decidable (Clear text a b) :=
  inferInstanceAs (Decidable (_ ∨ _))

instance (text : List Char) (a b : Range) : Decidable (Fit text a b) :=
  inferInstanceAs (Decidable (_ ∧ _))

/-- Whether a range lies in front of another, so that edits of the two can be made in turn. -/
def Precedes (text : List Char) (a b : Range) : Prop :=
  back text a ≤ front text b ∧ (back text a = front text b → EndsInside text a)

section Corners

variable {text : List Char} {a b range : Range} {p : Position}

theorem front_le (text : List Char) (corner : p ∈ corners range) :
    front text range ≤ offsetAt text p := by
  simp only [corners, List.mem_cons, List.not_mem_nil, or_false] at corner
  rw [front]
  rcases corner with rfl | rfl <;> omega

theorem le_back (text : List Char) (corner : p ∈ corners range) :
    offsetAt text p ≤ back text range := by
  simp only [corners, List.mem_cons, List.not_mem_nil, or_false] at corner
  rw [back]
  rcases corner with rfl | rfl <;> omega

theorem exists_front_corner (text : List Char) (range : Range) :
    ∃ p ∈ corners range, offsetAt text p = front text range := by
  by_cases forward : offsetAt text range.start ≤ offsetAt text range.stop
  · refine ⟨range.start, by simp [corners], ?_⟩
    rw [front, Nat.min_eq_left forward]
  · refine ⟨range.stop, by simp [corners], ?_⟩
    rw [front, Nat.min_eq_right (by omega)]

theorem back_le_length (text : List Char) (range : Range) : back text range ≤ text.length := by
  have start := offsetAt_le_length text range.start
  have stop := offsetAt_le_length text range.stop
  rw [back]
  omega

theorem front_le_back (text : List Char) (range : Range) : front text range ≤ back text range := by
  rw [front, back]
  omega

@[simp] theorem front_pulledIn : front text (pulledIn text range) = front text range := by
  rw [front, pulledIn, offsetAt_nearest, offsetAt_nearest, front]

@[simp] theorem back_pulledIn : back text (pulledIn text range) = back text range := by
  rw [back, pulledIn, offsetAt_nearest, offsetAt_nearest, back]

theorem inside_pulledIn (corner : p ∈ corners (pulledIn text range)) : Inside text p := by
  simp only [corners, pulledIn, List.mem_cons, List.not_mem_nil, or_false] at corner
  rcases corner with rfl | rfl
  · exact inside_nearest text range.start
  · exact inside_nearest text range.stop

theorem endsInside_pulledIn (text : List Char) (range : Range) :
    EndsInside text (pulledIn text range) :=
  fun _ corner _ => inside_pulledIn corner

theorem nonNegative_pulledIn (text : List Char) (range : Range) :
    NonNegative (pulledIn text range) := by
  intro p corner
  have within := inside_pulledIn corner
  exact ⟨within.1, within.2.1⟩

theorem Precedes.pulledIn (ordered : Precedes text a b) :
    Precedes text (pulledIn text a) (pulledIn text b) := by
  refine ⟨?_, fun _ => endsInside_pulledIn text a⟩
  rw [back_pulledIn, front_pulledIn]
  exact ordered.1

theorem precedes_or_of_fit (clear : Clear text a b) (fit : Fit text a b) :
    Precedes text a b ∨ Precedes text b a ∧ back text a ≠ front text b := by
  by_cases touching : back text a = front text b
  · left
    exact ⟨Nat.le_of_eq touching, fit.1⟩
  · rcases clear with ordered | turned
    · left
      exact ⟨ordered, fit.1⟩
    · right
      exact ⟨⟨turned, fun same => fit.2 same touching⟩, touching⟩

end Corners

/-! ### The order from the bottom up -/

/-- Whether a numbered edit lies in front of another. Of two insertions at one place it is the one with
the lower number. -/
def Ahead (text : List Char) (a b : TextEdit String × Nat) : Prop :=
  Precedes text a.1.range b.1.range ∧ (back text b.1.range = front text a.1.range → a.2 < b.2)

def numberedAtPlace (text : List Char) (entry : TextEdit String × Nat) : TextEdit String × Nat :=
  (madeAtPlace text entry.1, entry.2)

section Order

variable {text : List Char} {a b : TextEdit String × Nat} {edits : List (TextEdit String)}

theorem Ahead.numberedAtPlace (ahead : Ahead text a b) :
    Ahead text (numberedAtPlace text a) (numberedAtPlace text b) := by
  constructor
  · exact ahead.1.pulledIn
  · intro touching
    simp only [Document.numberedAtPlace, madeAtPlace, back_pulledIn, front_pulledIn] at touching
    exact ahead.2 touching

theorem Ahead.not_atOrAfter (ahead : Ahead text a b) (proper : NonNegative b.1.range) :
    atOrAfter a b = false := by
  obtain ⟨⟨between, ends⟩, numbers⟩ := ahead
  have corner {p q : Position} (first : p ∈ corners a.1.range) (second : q ∈ corners b.1.range) :
      p.atOrBefore q = true ∧
        (p = q → offsetAt text p = back text a.1.range ∧ offsetAt text q = front text b.1.range) := by
    have left := le_back text first
    have right := front_le text second
    constructor
    · apply atOrBefore_of_offsetAt_le text (proper q second) (by omega)
      intro tie
      exact ends (by omega) p first (by omega)
    · rintro rfl
      omega
  obtain ⟨starts, sameStart⟩ := corner (p := a.1.range.start) (q := b.1.range.start)
    (by simp [corners]) (by simp [corners])
  obtain ⟨stops, sameStop⟩ := corner (p := a.1.range.stop) (q := b.1.range.stop)
    (by simp [corners]) (by simp [corners])
  rw [Bool.eq_false_iff, ne_eq, atOrAfter_iff]
  rintro (later | ⟨start, later | ⟨stop, number⟩⟩)
  · rw [Position.not_atOrBefore_of_before later] at starts
    contradiction
  · rw [Position.not_atOrBefore_of_before later] at stops
    contradiction
  · have first := sameStart start.symm
    have second := sameStop stop.symm
    have less : a.2 < b.2 := by
      apply numbers
      rw [back, start, stop, front]
      omega
    omega

theorem Ahead.atOrAfter (ahead : Ahead text a b) (proper : NonNegative b.1.range) :
    atOrAfter b a = true := by
  have total := atOrAfter_total a b
  rw [ahead.not_atOrAfter proper] at total
  simpa using total

theorem Ahead.atOrAfter_numberedAtPlace (ahead : Ahead text a b) (proper : NonNegative b.1.range) :
    Document.atOrAfter a b =
        Document.atOrAfter (Document.numberedAtPlace text a) (Document.numberedAtPlace text b) ∧
      Document.atOrAfter b a =
        Document.atOrAfter (Document.numberedAtPlace text b) (Document.numberedAtPlace text a) := by
  have pulled := nonNegative_pulledIn text b.1.range
  rw [ahead.not_atOrAfter proper, ahead.atOrAfter proper,
    ahead.numberedAtPlace.not_atOrAfter pulled, ahead.numberedAtPlace.atOrAfter pulled]
  exact ⟨rfl, rfl⟩

/-- Edits that can be made to a text together, also with positions past the ends of its lines. -/
structure InTurn (text : List Char) (edits : List (TextEdit String)) : Prop where
  proper : ∀ edit ∈ edits, NonNegative edit.range
  clear : edits.Pairwise fun a b => Clear text a.range b.range
  fit : edits.Pairwise fun a b => Fit text a.range b.range

theorem InTurn.pairwise_ahead (turns : InTurn text edits) :
    edits.zipIdx.Pairwise fun a b => Ahead text a b ∨ Ahead text b a := by
  have ranges := turns.clear.and turns.fit
  rw [← List.zipIdx_map_fst 0 edits, List.pairwise_map] at ranges
  apply List.Pairwise.imp _ (ranges.and (pairwise_numbers edits))
  intro a b ⟨⟨clear, fit⟩, numbers⟩
  rcases precedes_or_of_fit clear fit with ordered | ⟨turned, apart⟩
  · left
    exact ⟨ordered, fun _ => numbers⟩
  · right
    exact ⟨turned, fun touching => absurd touching apart⟩

theorem InTurn.proper_of_mem (turns : InTurn text edits) (member : a ∈ edits.zipIdx) :
    NonNegative a.1.range :=
  turns.proper a.1 (List.fst_mem_of_mem_zipIdx member)

/-- Edits are made in the order of their places, whether their positions are pulled in or not. -/
theorem InTurn.bottomUp_madeAtPlace (turns : InTurn text edits) :
    bottomUp (edits.map (madeAtPlace text)) = (bottomUp edits).map (madeAtPlace text) := by
  have numbered : (edits.map (madeAtPlace text)).zipIdx =
      edits.zipIdx.map (numberedAtPlace text) := by
    rw [List.zipIdx_map]
    rfl
  have compared : ∀ a ∈ edits.zipIdx, ∀ b ∈ edits.zipIdx,
      atOrAfter a b = atOrAfter (numberedAtPlace text a) (numberedAtPlace text b) := by
    intro a inA b inB
    have either : Std.Symm fun a b => Ahead text a b ∨ Ahead text b a := ⟨fun _ _ => Or.symm⟩
    by_cases same : a = b
    · subst same
      simp [Document.atOrAfter]
    · rcases turns.pairwise_ahead.forall inA inB same with ahead | turned
      · exact (ahead.atOrAfter_numberedAtPlace (turns.proper_of_mem inB)).1
      · exact (turned.atOrAfter_numberedAtPlace (turns.proper_of_mem inA)).2
  rw [bottomUp, numbered, ← List.map_mergeSort compared, bottomUp, List.map_map, List.map_map]
  rfl

theorem InTurn.pairwise_precedes (turns : InTurn text edits) :
    (bottomUp edits).reverse.Pairwise fun a b => Precedes text a.range b.range := by
  have same : (edits.zipIdx.mergeSort atOrAfter).reverse.Perm edits.zipIdx :=
    (List.reverse_perm _).trans (List.mergeSort_perm _ _)
  have apart := (same.pairwise_iff Or.symm).mpr turns.pairwise_ahead
  rw [bottomUp_reverse, List.pairwise_map]
  apply List.Pairwise.imp_of_mem _ (apart.and (pairwise_turned edits))
  intro a b inA _ ⟨either, later⟩
  rcases either with ahead | turned
  · exact ahead.1
  · rw [turned.not_atOrAfter (turns.proper_of_mem (same.mem_iff.mp inA))] at later
    contradiction

end Order

/-! ### One edit after another -/

section Made

variable {text : String} {edit : TextEdit String} {edits : List (TextEdit String)}

/-- What stands in a text from an offset on when edits have been made, given in the order of their
places. -/
def madeFrom (text : List Char) (offset : Nat) : List (TextEdit String) → List Char
  | [] => text.drop offset
  | edit :: rest =>
      (text.take (front text edit.range)).drop offset ++ edit.newText.toList ++
        madeFrom text (back text edit.range) rest

theorem toList_applyEdit_range (text : String) (range : Range) (new : String) :
    (applyEdit text range new).toList = text.toList.take (front text.toList range) ++ new.toList ++
      text.toList.drop (back text.toList range) :=
  toList_applyEdit text range new

/-- An edit in front of all that was changed so far is made at its place in the unchanged text. -/
theorem toList_applyEdit_kept {original : List Char} {range : Range} {bound : Nat} {rest : List Char}
    (proper : NonNegative range) (within : bound ≤ original.length)
    (between : back original range ≤ bound)
    (ends : back original range = bound → EndsInside original range)
    (kept : text.toList = original.take bound ++ rest) (new : String) :
    (applyEdit text range new).toList = original.take (front original range) ++ new.toList ++
      ((original.take bound).drop (back original range) ++ rest) := by
  have corner {p : Position} (mem : p ∈ corners range) :
      offsetAt text.toList p = offsetAt original p := by
    have short := le_back original mem
    rw [kept]
    apply offsetAt_kept (proper p mem) within (by omega)
    intro tie
    exact ends (by omega) p mem (by omega)
  have ordered := front_le_back original range
  have same : front text.toList range = front original range ∧
      back text.toList range = back original range := by
    rw [front, back, corner (p := range.start) (by simp [corners]),
      corner (p := range.stop) (by simp [corners])]
    exact ⟨rfl, rfl⟩
  have length := List.length_take_of_le within
  rw [toList_applyEdit_range, same.1, same.2, kept, List.take_append_of_le_length (by omega),
    List.take_take, Nat.min_eq_left (by omega), List.drop_append_of_le_length (by omega)]

theorem toList_foldr_applyEdit {rest : List (TextEdit String)}
    (proper : ∀ other ∈ edit :: rest, NonNegative other.range)
    (ordered : (edit :: rest).Pairwise fun a b => Precedes text.toList a.range b.range) :
    ((edit :: rest).foldr (fun edit text => applyEdit text edit.range edit.newText) text).toList =
      madeFrom text.toList 0 (edit :: rest) := by
  induction rest generalizing edit with
  | nil =>
      rw [List.foldr_cons, List.foldr_nil, toList_applyEdit_range]
      rfl
  | cons next rest ih =>
      obtain ⟨first, others⟩ := List.pairwise_cons.mp ordered
      have inner := ih (fun other member => proper other (List.mem_cons_of_mem _ member)) others
      have precedes := first next List.mem_cons_self
      have within : front text.toList next.range ≤ text.toList.length := by
        have short := back_le_length text.toList next.range
        have forward := front_le_back text.toList next.range
        omega
      rw [madeFrom, List.drop_zero, List.append_assoc] at inner
      rw [List.foldr_cons, toList_applyEdit_kept (proper edit List.mem_cons_self) within precedes.1
        precedes.2 inner, madeFrom, madeFrom, List.drop_zero, List.append_assoc (List.drop _ _)]

theorem madeFrom_madeAtPlace (text : List Char) (offset : Nat) (edits : List (TextEdit String)) :
    madeFrom text offset (edits.map (madeAtPlace text)) = madeFrom text offset edits := by
  induction edits generalizing offset with
  | nil => rfl
  | cons edit rest ih =>
      rw [List.map_cons, madeFrom, ih, madeFrom]
      simp only [madeAtPlace, front_pulledIn, back_pulledIn]

theorem InTurn.applyEdits_eq (turns : InTurn text.toList edits) :
    applyEdits text edits = String.ofList (madeFrom text.toList 0 (bottomUp edits).reverse) := by
  have ordered := turns.pairwise_precedes
  have proper : ∀ edit ∈ (bottomUp edits).reverse, NonNegative edit.range := by
    intro edit member
    exact turns.proper edit ((reverse_bottomUp_perm edits).mem_iff.mp member)
  rw [applyEdits, List.foldl_eq_foldr_reverse]
  cases listed : (bottomUp edits).reverse with
  | nil =>
      simp [madeFrom]
  | cons edit rest =>
      rw [listed] at ordered proper
      rw [← toList_foldr_applyEdit proper ordered, String.ofList_toList]

theorem inTurn_madeAtPlace {text : List Char}
    (clear : edits.Pairwise fun a b => Clear text a.range b.range) :
    InTurn text (edits.map (madeAtPlace text)) where
  proper edit member := by
    obtain ⟨edit, _, rfl⟩ := List.mem_map.mp member
    exact nonNegative_pulledIn text edit.range
  clear := by
    apply List.pairwise_map.mpr
    apply clear.imp
    intro a b clear
    simpa [Clear, madeAtPlace] using clear
  fit := by
    apply List.pairwise_map.mpr
    apply clear.imp
    intro a b _
    exact ⟨fun _ => endsInside_pulledIn _ _, fun _ _ => endsInside_pulledIn _ _⟩

/-- Edits whose places do not overlap make the same when each is made at its place, if each that
touches the one behind it ends inside the text. -/
theorem InTurn.applyEdits_madeAtPlace (turns : InTurn text.toList edits) :
    applyEdits text (edits.map (madeAtPlace text.toList)) = applyEdits text edits := by
  rw [(inTurn_madeAtPlace turns.clear).applyEdits_eq, turns.applyEdits_eq, turns.bottomUp_madeAtPlace,
    ← List.map_reverse, madeFrom_madeAtPlace]

end Made

/-! ### Edits that do not fit together -/

/-- A character that is put at a place lies in front of the positions that stand for this place and
are past the end of its line. -/
theorem succ_le_offsetAt {text : List Char} {p : Position} {c : Char}
    (proper : 0 ≤ p.line ∧ 0 ≤ p.character) (outside : ¬ Inside text p) (plain : c ≠ '\n')
    (rest : List Char) :
    offsetAt text p + 1 ≤ offsetAt (text.take (offsetAt text p) ++ c :: rest) p := by
  have short := offsetAt_le_length text p
  have length := List.length_take_of_le short
  have reads : positionAt (text.take (offsetAt text p) ++ c :: rest) (offsetAt text p + 1) =
      (nearest text p).past c := by
    rw [positionAt, List.take_append, length, List.take_of_length_le (by omega),
      Nat.add_sub_cancel_left, List.take_succ_cons, List.take_zero, reached_concat]
    rfl
  have strict : (nearest text p).before p = true := by
    rcases Position.eq_or_before (nearest text p) p with same | earlier | later
    · rw [← same] at outside
      exact absurd (inside_nearest text p) outside
    · exact earlier
    · have behind := (le_offsetAt_iff proper short).mp (Nat.le_refl _)
      rw [← nearest, Position.not_atOrBefore_of_before later] at behind
      contradiction
  rw [le_offsetAt_iff proper, reads, Position.past, if_neg plain, Position.atOrBefore_iff]
  · rw [Position.before_iff] at strict
    simp only
    omega
  · rw [List.length_append, length, List.length_cons]
    omega

/-- What is changed behind a place leaves the positions of this place and of later ones behind it. -/
theorem le_offsetAt_kept {text : List Char} {p : Position} {bound : Nat}
    (proper : 0 ≤ p.line ∧ 0 ≤ p.character) (behind : bound ≤ offsetAt text p) (rest : List Char) :
    bound ≤ offsetAt (text.take bound ++ rest) p := by
  have short := offsetAt_le_length text p
  have length := List.length_take_of_le (Nat.le_trans behind short)
  rw [le_offsetAt_iff proper (by omega)] at behind
  rw [le_offsetAt_iff proper, positionAt, List.take_append_of_le_length (by omega),
    List.take_of_length_le (by omega)]
  · exact behind
  · rw [List.length_append, length]
    omega

theorem le_front_kept {text rest : List Char} {range : Range} {bound : Nat}
    (proper : NonNegative range) (behind : bound ≤ front text range) :
    bound ≤ front (text.take bound ++ rest) range := by
  obtain ⟨p, corner, found⟩ := exists_front_corner (text.take bound ++ rest) range
  have forward := front_le text corner
  rw [← found]
  exact le_offsetAt_kept (proper p corner) (by omega) rest

section Misfit

variable {text : String} {original rest : List Char} {range first late : Range}

theorem front_kept (proper : NonNegative range) (original rest : List Char) :
    front original range ≤ front (original.take (back original range) ++ rest) range ∧
      (front original range < back original range →
        front (original.take (back original range) ++ rest) range = front original range) := by
  have forward := front_le_back original range
  have behind : front original range ≤
      front (original.take (back original range) ++ rest) range := by
    have parted := List.take_append_drop (front original range) (original.take (back original range))
    rw [List.take_take, Nat.min_eq_left forward] at parted
    rw [← parted, List.append_assoc]
    exact le_front_kept proper (Nat.le_refl _)
  refine ⟨behind, fun apart => ?_⟩
  obtain ⟨p, corner, found⟩ := exists_front_corner original range
  have stays : offsetAt (original.take (back original range) ++ rest) p = offsetAt original p := by
    apply offsetAt_kept (proper p corner) (back_le_length original range)
    · omega
    · intro tie
      omega
  have least := front_le (original.take (back original range) ++ rest) corner
  omega

theorem toList_applyEdit_ne (count : Nat) (proper : NonNegative range)
    (outside : ¬ EndsInside original range)
    (changed : text.toList = original.take (back original range) ++ 'y' :: rest) :
    (applyEdit text range (String.ofList (List.replicate (count + 1) '\n'))).toList ≠
      original.take (front original range) ++ List.replicate (count + 1) '\n' ++ 'y' :: rest := by
  have short := back_le_length original range
  have forward := front_le_back original range
  have length : text.toList.length = back original range + 1 + rest.length := by
    rw [changed, List.length_append, List.length_take, List.length_cons]
    omega
  have stops := back_le_length text.toList range
  obtain ⟨starts, stays⟩ := front_kept proper original ('y' :: rest)
  rw [← changed] at starts stays
  -- the end of the range is behind the character
  have beyond : back original range + 1 ≤ back text.toList range := by
    unfold EndsInside at outside
    push Not at outside
    obtain ⟨p, corner, ends, outside⟩ := outside
    have plain : 'y' ≠ '\n' := by decide
    have moved := succ_le_offsetAt (proper p corner) outside plain rest
    rw [ends, ← changed] at moved
    exact Nat.le_trans moved (le_back _ corner)
  intro same
  rw [toList_applyEdit_range, String.toList_ofList] at same
  have lengths := congrArg List.length same
  simp only [List.length_append, List.length_take, List.length_drop, List.length_replicate,
    List.length_cons, length] at lengths
  -- the range is a place, and its start is behind the character too
  have point : front original range = back original range := by omega
  have start : back original range < front text.toList range := by omega
  have inserted : (text.toList.take (front text.toList range) ++
      List.replicate (count + 1) '\n' ++ text.toList.drop (back text.toList range))[
        back original range]? = some 'y' := by
    rw [List.append_assoc, List.getElem?_append_left (by simp only [List.length_take]; omega),
      List.getElem?_take_of_lt start, changed, List.getElem?_append_right (by simp),
      List.length_take, Nat.min_eq_left short]
    simp
  rw [same, point, List.append_assoc, List.getElem?_append_right (by simp), List.length_take,
    Nat.min_eq_left short, List.replicate_succ] at inserted
  simp at inserted

/-- An edit that is made when line feeds stand in front of its place comes to stand among these. -/
theorem toList_applyEdit_ne_of_feeds {bound count : Nat} (proper : NonNegative range)
    (many : range.start.line < count) (short : bound ≤ original.length)
    (behind : bound ≤ front original range) {others : List Char}
    (changed : text.toList = original.take bound ++ List.replicate count '\n' ++ others) :
    (applyEdit text range "y").toList ≠
      original.take bound ++ List.replicate count '\n' ++ 'y' :: rest := by
  have length := List.length_take_of_le short
  have starts : bound ≤ front text.toList range := by
    rw [changed, List.append_assoc]
    exact le_front_kept proper behind
  have among : front text.toList range < bound + count := by
    have started : range.start ∈ corners range := by simp [corners]
    have corner := front_le text.toList started
    by_contra beyond
    have passed : bound + count ≤ offsetAt text.toList range.start := by omega
    rw [le_offsetAt_iff (proper range.start started), positionAt, changed,
      List.take_append_of_le_length, List.take_of_length_le, reached_eq,
      Position.atOrBefore_iff] at passed
    · simp only [List.count_append, List.count_replicate_self] at passed
      omega
    · simp only [List.length_append, length, List.length_replicate]
      omega
    · simp only [List.length_append, length, List.length_replicate]
      omega
    · rw [changed]
      simp only [List.length_append, length, List.length_replicate]
      omega
  intro same
  rw [toList_applyEdit_range] at same
  have place : front text.toList range ≤ text.toList.length :=
    Nat.le_trans (front_le_back _ _) (back_le_length _ _)
  have inserted : (text.toList.take (front text.toList range) ++ "y".toList ++
      text.toList.drop (back text.toList range))[front text.toList range]? = some 'y' := by
    rw [List.append_assoc, List.getElem?_append_right (by simp), List.length_take,
      Nat.min_eq_left place]
    simp
  rw [same, List.append_assoc, List.getElem?_append_right (by omega), length,
    List.getElem?_append_left (by simp only [List.length_replicate]; omega),
    List.getElem?_replicate_of_lt (by omega)] at inserted
  simp at inserted

end Misfit

section Pair

variable {text : String} {first late : TextEdit String}

theorem bottomUp_pair {τ : Type} (a b : TextEdit τ) :
    bottomUp [a, b] = if atOrAfter (a, 0) (b, 1) then [a, b] else [b, a] := by
  have sorted : [(a, 0), (b, 1)].mergeSort atOrAfter =
      if atOrAfter (a, 0) (b, 1) then [(a, 0), (b, 1)] else [(b, 1), (a, 0)] := by
    simp [List.mergeSort, List.MergeSort.Internal.splitInTwo, List.merge]
  have numbered : [a, b].zipIdx = [(a, 0), (b, 1)] := rfl
  rw [bottomUp, numbered, sorted]
  split <;> rfl

theorem applyEdits_touching {edits : List (TextEdit String)}
    (touching : back text.toList first.range = front text.toList late.range)
    (order : edits = [first, late] ∨
      edits = [late, first] ∧ back text.toList late.range ≠ front text.toList first.range) :
    applyEdits text (edits.map (madeAtPlace text.toList)) =
      String.ofList (madeFrom text.toList 0 [first, late]) := by
  have precedes : Precedes text.toList (pulledIn text.toList first.range)
      (pulledIn text.toList late.range) := by
    refine ⟨?_, fun _ => endsInside_pulledIn _ _⟩
    rw [back_pulledIn, front_pulledIn]
    exact Nat.le_of_eq touching
  have clear : edits.Pairwise fun a b => Clear text.toList a.range b.range := by
    rcases order with rfl | ⟨rfl, -⟩
    · simp [Clear, touching]
    · simp [Clear, touching]
  have turned : bottomUp (edits.map (madeAtPlace text.toList)) =
      [late, first].map (madeAtPlace text.toList) := by
    rcases order with rfl | ⟨rfl, apart⟩
    · have ahead : Ahead text.toList (madeAtPlace text.toList first, 0)
          (madeAtPlace text.toList late, 1) :=
        ⟨precedes, fun _ => Nat.zero_lt_one⟩
      rw [List.map_cons, List.map_cons, List.map_nil, bottomUp_pair,
        ahead.not_atOrAfter (nonNegative_pulledIn _ _)]
      rfl
    · have ahead : Ahead text.toList (madeAtPlace text.toList first, 1)
          (madeAtPlace text.toList late, 0) := by
        refine ⟨precedes, fun same => ?_⟩
        simp only [madeAtPlace, back_pulledIn, front_pulledIn] at same
        exact absurd same apart
      rw [List.map_cons, List.map_cons, List.map_nil, bottomUp_pair,
        ahead.atOrAfter (nonNegative_pulledIn _ _)]
      rfl
  rw [(inTurn_madeAtPlace clear).applyEdits_eq, turned, ← List.map_reverse, madeFrom_madeAtPlace]
  rfl

/-- Where the edit in front does not end inside the text, there are new texts for the two that come to
stand elsewhere. -/
theorem exists_applyEdits_ne {first late : Range}
    (touching : back text.toList first = front text.toList late)
    (proper : NonNegative first ∧ NonNegative late) (outside : ¬ EndsInside text.toList first) :
    ∃ x y, ∀ edits : List (TextEdit String),
      edits = [⟨first, x⟩, ⟨late, y⟩] ∨ edits = [⟨late, y⟩, ⟨first, x⟩] →
        applyEdits text edits ≠
          String.ofList (madeFrom text.toList 0 [⟨first, x⟩, ⟨late, y⟩]) := by
  let feeds := String.ofList (List.replicate (late.start.line.toNat + 1) '\n')
  have many : late.start.line < (late.start.line.toNat + 1 : Nat) := by omega
  have short := back_le_length text.toList first
  have forward := front_le_back text.toList first
  have placed : madeFrom text.toList 0 [⟨first, feeds⟩, ⟨late, "y"⟩] =
      text.toList.take (front text.toList first) ++
        List.replicate (late.start.line.toNat + 1) '\n' ++
          'y' :: text.toList.drop (back text.toList late) := by
    have nothing : (text.toList.take (front text.toList late)).drop (back text.toList first) = [] := by
      rw [touching]
      simp
    simp [madeFrom, nothing, feeds]
  have read {made : String}
      (same : made = String.ofList (madeFrom text.toList 0 [⟨first, feeds⟩, ⟨late, "y"⟩])) :
      made.toList = text.toList.take (front text.toList first) ++
        List.replicate (late.start.line.toNat + 1) '\n' ++
          'y' :: text.toList.drop (back text.toList late) := by
    rw [same, String.toList_ofList, placed]
  have lateFirst : applyEdit (applyEdit text late "y") first feeds ≠
      String.ofList (madeFrom text.toList 0 [⟨first, feeds⟩, ⟨late, "y"⟩]) := by
    intro same
    have changed : (applyEdit text late "y").toList =
        text.toList.take (back text.toList first) ++
          'y' :: text.toList.drop (back text.toList late) := by
      rw [toList_applyEdit_range, touching, List.append_assoc]
      rfl
    exact toList_applyEdit_ne late.start.line.toNat proper.1 outside changed (read same)
  have firstFirst : applyEdit (applyEdit text first feeds) late "y" ≠
      String.ofList (madeFrom text.toList 0 [⟨first, feeds⟩, ⟨late, "y"⟩]) := by
    intro same
    have changed := toList_applyEdit_range text first feeds
    rw [String.toList_ofList] at changed
    exact toList_applyEdit_ne_of_feeds proper.2 many (by omega) (by omega) changed (read same)
  refine ⟨feeds, "y", fun edits order => ?_⟩
  rcases order with rfl | rfl
  · rw [applyEdits, bottomUp_pair]
    split
    · exact firstFirst
    · exact lateFirst
  · rw [applyEdits, bottomUp_pair]
    split
    · exact lateFirst
    · exact firstFirst

/-- Two ranges fit together if edits of them always make the same with their positions pulled in. -/
theorem fit_of_forall_applyEdits_eq {a b : Range} (proper : NonNegative a ∧ NonNegative b)
    (same : ∀ x y : String, applyEdits text [⟨a, x⟩, ⟨b, y⟩] =
      applyEdits text ([⟨a, x⟩, ⟨b, y⟩].map (madeAtPlace text.toList))) :
    Fit text.toList a b := by
  constructor
  · intro touching
    by_contra outside
    obtain ⟨x, y, differ⟩ := exists_applyEdits_ne touching proper outside
    apply differ _ (.inl rfl)
    rw [same x y, applyEdits_touching touching (.inl rfl)]
  · intro touching apart
    by_contra outside
    obtain ⟨x, y, differ⟩ := exists_applyEdits_ne touching proper.symm outside
    apply differ _ (.inr rfl)
    rw [same y x, applyEdits_touching touching (.inr ⟨rfl, apart⟩)]

end Pair

/-- Edits that do not overlap, also with positions past the ends of lines, make the same with all
positions pulled in exactly if of each two that touch the one in front ends inside the text. -/
theorem applyEdits_madeAtPlace_iff (text : String) (ranges : List Range)
    (proper : ∀ range ∈ ranges, NonNegative range) (clear : ranges.Pairwise (Clear text.toList)) :
    (∀ edits : List (TextEdit String), (edits.map (·.range)).Sublist ranges →
      applyEdits text edits = applyEdits text (edits.map (madeAtPlace text.toList))) ↔
        ranges.Pairwise (Fit text.toList) := by
  constructor
  · intro same
    rw [List.pairwise_iff_forall_sublist]
    intro a b part
    have memA : a ∈ ranges := part.subset (by simp)
    have memB : b ∈ ranges := part.subset (by simp)
    apply fit_of_forall_applyEdits_eq ⟨proper a memA, proper b memB⟩
    intro x y
    exact same _ part
  · intro fit edits part
    have turns : InTurn text.toList edits := by
      constructor
      · intro edit member
        exact proper edit.range (part.subset (List.mem_map_of_mem member))
      · exact List.pairwise_map.mp (clear.sublist part)
      · exact List.pairwise_map.mp (fit.sublist part)
    exact turns.applyEdits_madeAtPlace.symm

/-- An insertion past the end of the first line, and a line feed removed there: the insertion is lost,
and is not with its position pulled in. -/
theorem applyEdits_madeAtPlace_iff_of_line_end :
    let across : Range := { start := { line := 0, character := 2 }, stop := { line := 1, character := 0 } }
    let past : Range := { start := { line := 0, character := 5 }, stop := { line := 0, character := 5 } }
    (∀ range ∈ [across, past], NonNegative range) ∧
      [across, past].Pairwise (Clear "ab\ncd".toList) ∧
      applyEdits "ab\ncd" [⟨across, ""⟩, ⟨past, "Y"⟩] = "abcd" ∧
      applyEdits "ab\ncd" ([⟨across, ""⟩, ⟨past, "Y"⟩].map (madeAtPlace "ab\ncd".toList)) = "abYcd" ∧
      ¬ [across, past].Pairwise (Fit "ab\ncd".toList) := by
  intro across past
  have proper : ∀ range ∈ [across, past], NonNegative range := by decide
  have clear : [across, past].Pairwise (Clear "ab\ncd".toList) := by decide
  have lost : applyEdits "ab\ncd" [⟨across, ""⟩, ⟨past, "Y"⟩] = "abcd" := by
    rw [applyEdits, bottomUp_pair]
    decide +kernel
  have stays : applyEdits "ab\ncd"
      ([⟨across, ""⟩, ⟨past, "Y"⟩].map (madeAtPlace "ab\ncd".toList)) = "abYcd" := by
    rw [applyEdits, List.map_cons, List.map_cons, List.map_nil, bottomUp_pair]
    decide +kernel
  refine ⟨proper, clear, lost, stays, fun fit => ?_⟩
  have same := (applyEdits_madeAtPlace_iff "ab\ncd" [across, past] proper clear).mpr fit
    [⟨across, ""⟩, ⟨past, "Y"⟩] (List.Sublist.refl _)
  rw [lost, stays] at same
  exact absurd same (by decide)

end Scalpel.Document
