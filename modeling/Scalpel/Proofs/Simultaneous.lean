import Mathlib
import Scalpel.Proofs.Offsets

/-!
Edits that are meant for one text, made all at once. Each edit names its place in the text as it was;
no two of them overlap. What they make of the text is written without any order of edits: at each
offset stand the texts inserted there, then the text of the replacement that begins there, then the
character of the text unless a replacement covers it. Making the edits one after another from the
bottom up comes to the same, however many line feeds they add or remove.
-/

set_option autoImplicit false

namespace Scalpel.Document

open Scalpel

/-! ### What edits make of a text at once -/

section Places

variable (p : Position) (edit : TextEdit String)

def insertsAt : Bool :=
  edit.range.start = p && edit.range.stop = p

def replacesFrom : Bool :=
  edit.range.start = p && p.before edit.range.stop

def covers : Bool :=
  edit.range.start.atOrBefore p && p.before edit.range.stop

end Places

/-- What stands at an offset of a text when edits have been made: the texts inserted there in the order
of the edits, the new text of what begins there, and the character itself unless it was replaced. -/
def pieceAt (text : List Char) (edits : List (TextEdit String)) (offset : Nat) : List Char :=
  let here := positionAt text offset
  (edits.filter (insertsAt here)).flatMap (·.newText.toList) ++
    (edits.filter (replacesFrom here)).flatMap (·.newText.toList) ++
      if edits.any (covers here) then [] else text[offset]?.toList

/-- A text with all edits made at once. The offset behind its last character is one of its places. -/
def replacedAtOnce (text : List Char) (edits : List (TextEdit String)) : List Char :=
  (List.range (text.length + 1)).flatMap (pieceAt text edits)

/-- Whether two edits do not overlap. They may touch, and they may insert at one place. -/
def Apart (a b : TextEdit String) : Prop :=
  a.range.stop.atOrBefore b.range.start = true ∨ b.range.stop.atOrBefore a.range.start = true

instance (a b : TextEdit String) : Decidable (Apart a b) :=
  inferInstanceAs (Decidable (_ ∨ _))

theorem Apart.symm {a b : TextEdit String} (apart : Apart a b) : Apart b a :=
  Or.symm apart

structure Compatible (text : List Char) (edits : List (TextEdit String)) : Prop where
  inside : ∀ edit ∈ edits, Inside text edit.range.start ∧ Inside text edit.range.stop
  forward : ∀ edit ∈ edits, edit.range.start.atOrBefore edit.range.stop = true
  apart : edits.Pairwise Apart

theorem Compatible.perm {text : List Char} {edits others : List (TextEdit String)}
    (fit : Compatible text edits) (same : others.Perm edits) : Compatible text others where
  inside edit member := fit.inside edit (same.mem_iff.mp member)
  forward edit member := fit.forward edit (same.mem_iff.mp member)
  apart := (same.pairwise_iff Apart.symm).mpr fit.apart

/-! ### The order of edits matters only for inserts at one place -/

theorem filter_replacesFrom_perm {edits others : List (TextEdit String)}
    (apart : edits.Pairwise Apart) (same : others.Perm edits) (p : Position) :
    others.filter (replacesFrom p) = edits.filter (replacesFrom p) := by
  have alone : (edits.filter (replacesFrom p)).Pairwise fun _ _ => False := by
    apply List.Pairwise.imp_of_mem _ (apart.filter (replacesFrom p))
    intro a b inA inB disjoint
    have fromA := (List.mem_filter.mp inA).2
    have fromB := (List.mem_filter.mp inB).2
    simp only [replacesFrom, Bool.and_eq_true, decide_eq_true_eq] at fromA fromB
    rcases disjoint with early | early
    · rw [fromB.1, Position.not_atOrBefore_of_before fromA.2] at early
      contradiction
    · rw [fromA.1, Position.not_atOrBefore_of_before fromB.2] at early
      contradiction
  have kept := same.filter (replacesFrom p)
  cases found : edits.filter (replacesFrom p) with
  | nil =>
      rw [found] at kept
      exact kept.eq_nil
  | cons first rest =>
      rw [found] at alone kept
      cases rest with
      | nil => exact List.perm_singleton.mp kept
      | cons second rest =>
          exact absurd List.mem_cons_self (List.rel_of_pairwise_cons alone · |>.elim)

/-- Where lists of the same edits agree on the inserts at the places of the edits, they agree on those
at every place. -/
theorem filter_insertsAt_of_starts {edits others : List (TextEdit String)}
    (same : others.Perm edits)
    (agree : ∀ edit ∈ edits, others.filter (insertsAt edit.range.start) =
      edits.filter (insertsAt edit.range.start)) (p : Position) :
    others.filter (insertsAt p) = edits.filter (insertsAt p) := by
  by_cases used : ∃ edit ∈ edits, insertsAt p edit = true
  · obtain ⟨edit, member, atPlace⟩ := used
    simp only [insertsAt, Bool.and_eq_true, decide_eq_true_eq] at atPlace
    rw [← atPlace.1]
    exact agree edit member
  · have none : edits.filter (insertsAt p) = [] := by
      rw [List.filter_eq_nil_iff]
      intro edit member atPlace
      exact used ⟨edit, member, atPlace⟩
    have kept := same.filter (insertsAt p)
    rw [none] at kept ⊢
    exact kept.eq_nil

theorem pieceAt_perm {edits others : List (TextEdit String)} (apart : edits.Pairwise Apart)
    (same : others.Perm edits)
    (inserts : ∀ p, others.filter (insertsAt p) = edits.filter (insertsAt p))
    (text : List Char) : pieceAt text others = pieceAt text edits := by
  funext offset
  simp only [pieceAt]
  rw [inserts, filter_replacesFrom_perm apart same, same.any_eq]

/-! ### Edits in the order of their places -/

structure Spans (text : List Char) (edit : TextEdit String) (a b : Nat) : Prop where
  start : edit.range.start = positionAt text a
  stop : edit.range.stop = positionAt text b
  forward : a ≤ b
  within : b ≤ text.length

theorem Compatible.spans {text : List Char} {edits : List (TextEdit String)}
    (fit : Compatible text edits) {edit : TextEdit String} (member : edit ∈ edits) :
    ∃ a b, Spans text edit a b := by
  obtain ⟨startInside, stopInside⟩ := fit.inside edit member
  have forward := fit.forward edit member
  obtain ⟨a, shortA, start⟩ := exists_positionAt startInside
  obtain ⟨b, shortB, stop⟩ := exists_positionAt stopInside
  rw [← start, ← stop, positionAt_atOrBefore_iff shortA shortB] at forward
  exact ⟨a, b, start.symm, stop.symm, forward, shortB⟩

section Predicates

variable {text : List Char} {edit : TextEdit String} {a b offset : Nat}

theorem Spans.insertsAt (spans : Spans text edit a b) (short : offset ≤ text.length) :
    insertsAt (positionAt text offset) edit = decide (a = offset ∧ b = offset) := by
  have within := spans.within
  have forward := spans.forward
  rw [Document.insertsAt, spans.start, spans.stop]
  simp only [positionAt_inj (Nat.le_trans forward within) short, positionAt_inj within short,
    Bool.decide_and]

theorem Spans.replacesFrom (spans : Spans text edit a b) (short : offset ≤ text.length) :
    replacesFrom (positionAt text offset) edit = decide (a = offset ∧ offset < b) := by
  have within := spans.within
  have forward := spans.forward
  rw [Document.replacesFrom, spans.start, spans.stop, Bool.decide_and,
    Bool.eq_iff_iff.mpr (positionAt_before_iff short within |>.trans decide_eq_true_iff.symm)]
  simp only [positionAt_inj (Nat.le_trans forward within) short]

theorem Spans.covers (spans : Spans text edit a b) (short : offset ≤ text.length) :
    covers (positionAt text offset) edit = decide (a ≤ offset ∧ offset < b) := by
  have within := spans.within
  have forward := spans.forward
  rw [Document.covers, spans.start, spans.stop, Bool.decide_and, Bool.eq_iff_iff]
  simp only [Bool.and_eq_true, decide_eq_true_eq,
    positionAt_atOrBefore_iff (Nat.le_trans forward within) short,
    positionAt_before_iff short within]

end Predicates

/-- Edits of a text in the order of their places, from an offset on; each begins where the one before
it ends, or later. -/
inductive Ascending (text : List Char) : Nat → List (TextEdit String) → Prop where
  | nil {bound : Nat} (within : bound ≤ text.length) : Ascending text bound []
  | cons {bound a b : Nat} {edit : TextEdit String} {rest : List (TextEdit String)}
      (spans : Spans text edit a b) (behind : bound ≤ a) (others : Ascending text b rest) :
      Ascending text bound (edit :: rest)

section Pieces

variable {text : List Char} {edit : TextEdit String} {edits rest : List (TextEdit String)}
variable {a b bound offset : Nat}

theorem Ascending.within (ascending : Ascending text bound edits) : bound ≤ text.length := by
  cases ascending with
  | nil within => exact within
  | cons spans behind others =>
      have forward := spans.forward
      have within := spans.within
      omega

theorem Spans.pieceAt_elsewhere (spans : Spans text edit a b) (short : offset ≤ text.length)
    (elsewhere : offset < a ∨ b ≤ offset ∧ a < offset) :
    pieceAt text (edit :: rest) offset = pieceAt text rest offset := by
  have forward := spans.forward
  have noInsert : ¬ (a = offset ∧ b = offset) := by omega
  have noStart : ¬ (a = offset ∧ offset < b) := by omega
  have uncovered : ¬ (a ≤ offset ∧ offset < b) := by omega
  simp [pieceAt, spans.insertsAt short, spans.replacesFrom short, spans.covers short, noInsert,
    noStart, uncovered]

theorem Ascending.idle_before (ascending : Ascending text bound edits) (early : offset < bound) :
    edits.filter (insertsAt (positionAt text offset)) = [] ∧
      edits.filter (replacesFrom (positionAt text offset)) = [] ∧
        edits.any (covers (positionAt text offset)) = false := by
  induction ascending with
  | nil => simp
  | @cons bound a b edit rest spans behind others ih =>
      have forward := spans.forward
      have within := spans.within
      have short : offset ≤ text.length := by omega
      have noInsert : ¬ (a = offset ∧ b = offset) := by omega
      have noStart : ¬ (a = offset ∧ offset < b) := by omega
      have uncovered : ¬ (a ≤ offset ∧ offset < b) := by omega
      obtain ⟨inserts, starts, coverings⟩ := ih (by omega)
      simp only [List.filter_cons, List.any_cons, spans.insertsAt short, spans.replacesFrom short,
        spans.covers short, noInsert, noStart, uncovered, inserts, starts, coverings]
      simp

theorem Ascending.pieceAt_before (ascending : Ascending text bound edits) (early : offset < bound) :
    pieceAt text edits offset = text[offset]?.toList := by
  obtain ⟨inserts, starts, coverings⟩ := ascending.idle_before early
  simp [pieceAt, inserts, starts, coverings]

theorem Spans.pieceAt_insert (spans : Spans text edit a a) :
    pieceAt text (edit :: rest) a = edit.newText.toList ++ pieceAt text rest a := by
  have short := spans.within
  simp [pieceAt, spans.insertsAt short, spans.replacesFrom short, spans.covers short]

theorem Spans.pieceAt_start (spans : Spans text edit a b) (proper : a < b)
    (others : Ascending text b rest) : pieceAt text (edit :: rest) a = edit.newText.toList := by
  have within := spans.within
  have short : a ≤ text.length := by omega
  have longer : b ≠ a := by omega
  obtain ⟨inserts, starts, -⟩ := others.idle_before proper
  simp [pieceAt, spans.insertsAt short, spans.replacesFrom short, spans.covers short, longer, proper,
    inserts, starts]

theorem Spans.pieceAt_covered (spans : Spans text edit a b) (begun : a < offset)
    (unfinished : offset < b) (others : Ascending text b rest) :
    pieceAt text (edit :: rest) offset = [] := by
  have within := spans.within
  have short : offset ≤ text.length := by omega
  have elsewhere : a ≠ offset := by omega
  have covered : a ≤ offset ∧ offset < b := by omega
  obtain ⟨inserts, starts, -⟩ := others.idle_before unfinished
  simp [pieceAt, spans.insertsAt short, spans.replacesFrom short, spans.covers short, elsewhere,
    covered, inserts, starts]

def piecesFrom (text : List Char) (edits : List (TextEdit String)) (offset : Nat) : List Char :=
  (List.range' offset (text.length + 1 - offset)).flatMap (pieceAt text edits)

theorem replacedAtOnce_eq_piecesFrom : replacedAtOnce text edits = piecesFrom text edits 0 := by
  rw [replacedAtOnce, piecesFrom, List.range_eq_range', Nat.sub_zero]

theorem piecesFrom_split (ordered : a ≤ b) (within : b ≤ text.length) :
    piecesFrom text edits a =
      (List.range' a (b - a)).flatMap (pieceAt text edits) ++ piecesFrom text edits b := by
  have parts : text.length + 1 - a = (b - a) + (text.length + 1 - b) := by omega
  have next : a + 1 * (b - a) = b := by omega
  have joined := @List.range'_append a (b - a) (text.length + 1 - b) 1
  rw [next] at joined
  rw [piecesFrom, piecesFrom, parts, ← List.flatMap_append, joined]

theorem piecesFrom_next (within : a ≤ text.length) :
    piecesFrom text edits a = pieceAt text edits a ++ piecesFrom text edits (a + 1) := by
  have more : text.length + 1 - a = text.length + 1 - (a + 1) + 1 := by omega
  rw [piecesFrom, more, List.range'_succ, List.flatMap_cons, piecesFrom]

theorem piecesFrom_congr {others : List (TextEdit String)}
    (same : ∀ offset, a ≤ offset → offset ≤ text.length →
      pieceAt text edits offset = pieceAt text others offset) :
    piecesFrom text edits a = piecesFrom text others a := by
  apply List.flatMap_congr
  intro offset member
  rw [List.mem_range'_1] at member
  exact same offset (by omega) (by omega)

theorem flatMap_characters (n : Nat) :
    (List.range' a n).flatMap (fun offset => text[offset]?.toList) = (text.drop a).take n := by
  induction n with
  | zero => simp
  | succ n ih =>
      rw [List.range'_concat, List.flatMap_append, ih, List.take_add_one, List.getElem?_drop]
      simp

/-- What the first edit and those behind it make: the text up to the place of the first, its new text,
and what the others make from the end of its place on. -/
theorem Spans.piecesFrom_cons (spans : Spans text edit a b) (behind : bound ≤ a)
    (others : Ascending text b rest) :
    piecesFrom text (edit :: rest) bound =
      (text.drop bound).take (a - bound) ++ (edit.newText.toList ++ piecesFrom text rest b) := by
  have forward := spans.forward
  have within := spans.within
  have ascending : Ascending text a (edit :: rest) := .cons spans (Nat.le_refl a) others
  have plain : (List.range' bound (a - bound)).flatMap (pieceAt text (edit :: rest)) =
      (text.drop bound).take (a - bound) := by
    rw [← flatMap_characters]
    apply List.flatMap_congr
    intro offset member
    rw [List.mem_range'_1] at member
    exact ascending.pieceAt_before (by omega)
  have later (start : Nat) (past : a < start) (ended : b ≤ start) :
      piecesFrom text (edit :: rest) start = piecesFrom text rest start := by
    apply piecesFrom_congr
    intro offset lower short
    exact spans.pieceAt_elsewhere short (by omega)
  rw [piecesFrom_split behind (by omega), plain, piecesFrom_next (by omega)]
  congr 1
  by_cases proper : a < b
  · have nothing : (List.range' (a + 1) (b - (a + 1))).flatMap (pieceAt text (edit :: rest)) = [] := by
      rw [List.flatMap_eq_nil_iff]
      intro offset member
      rw [List.mem_range'_1] at member
      exact spans.pieceAt_covered (by omega) (by omega) others
    rw [spans.pieceAt_start proper others, piecesFrom_split proper within, nothing,
      List.nil_append, later b proper (Nat.le_refl b)]
  · have point : b = a := by omega
    subst point
    rw [spans.pieceAt_insert, later (b + 1) (Nat.lt_succ_self b) (Nat.le_succ b), List.append_assoc,
      ← piecesFrom_next within]

end Pieces

/-! ### One edit after another -/

theorem toList_applyEdit (text : String) (range : Range) (new : String) :
    (applyEdit text range new).toList =
      splice text.toList (offsetAt text.toList range.start) (offsetAt text.toList range.stop)
        new.toList := by
  rw [applyEdit, String.toList_ofList]

theorem Spans.splice {text : List Char} {edit : TextEdit String} {a b : Nat}
    (spans : Spans text edit a b) (rest : List Char) :
    let changed := text.take b ++ rest
    Document.splice changed (offsetAt changed edit.range.start) (offsetAt changed edit.range.stop)
      edit.newText.toList = text.take a ++ (edit.newText.toList ++ rest) := by
  intro changed
  have forward := spans.forward
  have within := spans.within
  have front : offsetAt changed edit.range.start = a := by
    rw [spans.start]
    exact offsetAt_append (Nat.le_trans forward within) forward rest
  have back : offsetAt changed edit.range.stop = b := by
    rw [spans.stop]
    exact offsetAt_append within (Nat.le_refl b) rest
  have length : (text.take b).length = b := by
    rw [List.length_take]
    exact Nat.min_eq_left within
  rw [front, back, Document.splice, Nat.min_eq_left forward, Nat.max_eq_right forward]
  simp only [changed]
  rw [List.take_append_of_le_length (by omega), List.take_take, Nat.min_eq_left forward,
    List.drop_append_of_le_length (by omega), List.drop_eq_nil_of_le (by omega), List.nil_append,
    List.append_assoc]

/-- Edits made from the last one to the first leave the text as it was up to the first, and make the
pieces behind. -/
theorem Ascending.toList_foldr {text : String} {edits : List (TextEdit String)} {bound : Nat}
    (ascending : Ascending text.toList bound edits) :
    (edits.foldr (fun edit text => applyEdit text edit.range edit.newText) text).toList =
      text.toList.take bound ++ piecesFrom text.toList edits bound := by
  generalize chars : text.toList = original at ascending
  induction ascending with
  | @nil bound within =>
      have untouched : piecesFrom original [] bound = original.drop bound := by
        have unchanged : pieceAt original [] = fun offset => original[offset]?.toList := by
          funext offset
          simp [pieceAt]
        have enough : (original.drop bound).length ≤ original.length + 1 - bound := by
          rw [List.length_drop]
          omega
        rw [piecesFrom, unchanged, flatMap_characters, List.take_of_length_le enough]
      rw [List.foldr_nil, chars, untouched, List.take_append_drop]
  | @cons bound a b edit rest spans behind others ih =>
      have front : original.take bound ++ (original.drop bound).take (a - bound) = original.take a := by
        rw [← List.take_add, Nat.add_sub_cancel' behind]
      rw [List.foldr_cons, toList_applyEdit, ih, spans.splice, spans.piecesFrom_cons behind others,
        ← List.append_assoc (original.take bound), front]

theorem applyEdits_eq_of_ascending {text : String} {edits : List (TextEdit String)}
    (ascending : Ascending text.toList 0 (bottomUp edits).reverse) :
    applyEdits text edits = String.ofList (replacedAtOnce text.toList (bottomUp edits).reverse) := by
  have made := ascending.toList_foldr
  rw [List.foldr_reverse, List.take_zero, List.nil_append, ← replacedAtOnce_eq_piecesFrom] at made
  rw [← made, String.ofList_toList, applyEdits]

/-! ### The order from the bottom up -/

section Order

variable {τ : Type}

theorem atOrAfter_iff (a b : TextEdit τ × Nat) :
    atOrAfter a b = true ↔ b.1.range.start.before a.1.range.start = true ∨
      b.1.range.start = a.1.range.start ∧ (b.1.range.stop.before a.1.range.stop = true ∨
        b.1.range.stop = a.1.range.stop ∧ b.2 ≤ a.2) := by
  unfold atOrAfter
  split
  · next unlike =>
    simp [Ne.symm unlike]
  · next starts =>
    rw [Decidable.not_not.mp starts, Position.not_before_self]
    split
    · next unlike =>
      simp [Ne.symm unlike]
    · next stops =>
      rw [Decidable.not_not.mp stops, Position.not_before_self]
      simp

theorem atOrAfter_total (a b : TextEdit τ × Nat) : (atOrAfter a b || atOrAfter b a) = true := by
  rw [Bool.or_eq_true, atOrAfter_iff, atOrAfter_iff]
  rcases Position.eq_or_before a.1.range.start b.1.range.start with starts | earlier | earlier
  · rcases Position.eq_or_before a.1.range.stop b.1.range.stop with stops | earlier | earlier
    · rcases Nat.le_total b.2 a.2 with number | number
      · exact .inl (.inr ⟨starts.symm, .inr ⟨stops.symm, number⟩⟩)
      · exact .inr (.inr ⟨starts, .inr ⟨stops, number⟩⟩)
    · exact .inr (.inr ⟨starts, .inl earlier⟩)
    · exact .inl (.inr ⟨starts.symm, .inl earlier⟩)
  · exact .inr (.inl earlier)
  · exact .inl (.inl earlier)

theorem atOrAfter_trans (a b c : TextEdit τ × Nat) (first : atOrAfter a b = true)
    (second : atOrAfter b c = true) : atOrAfter a c = true := by
  rw [atOrAfter_iff] at first second ⊢
  rcases second with earlier | ⟨starts, second⟩
  · left
    rcases first with before | ⟨starts, -⟩
    · exact Position.before_trans earlier before
    · rw [← starts]
      exact earlier
  · rw [starts]
    rcases first with before | ⟨same, first⟩
    · exact .inl before
    · right
      refine ⟨same, ?_⟩
      rcases second with earlier | ⟨stops, number⟩
      · left
        rcases first with before | ⟨stops, -⟩
        · exact Position.before_trans earlier before
        · rw [← stops]
          exact earlier
      · rw [stops]
        rcases first with before | ⟨stops, lower⟩
        · exact .inl before
        · exact .inr ⟨stops, Nat.le_trans number lower⟩

theorem bottomUp_perm (edits : List (TextEdit τ)) : (bottomUp edits).Perm edits := by
  have kept := (List.mergeSort_perm edits.zipIdx atOrAfter).map Prod.fst
  rw [List.zipIdx_map_fst] at kept
  exact kept

theorem reverse_bottomUp_perm (edits : List (TextEdit τ)) : (bottomUp edits).reverse.Perm edits :=
  (List.reverse_perm _).trans (bottomUp_perm edits)

/-- Edits numbered from the bottom up stand in the order of their places, once turned around. -/
theorem pairwise_turned (edits : List (TextEdit τ)) :
    (edits.zipIdx.mergeSort atOrAfter).reverse.Pairwise fun a b => atOrAfter b a = true := by
  rw [List.pairwise_reverse]
  exact List.pairwise_mergeSort atOrAfter_trans atOrAfter_total edits.zipIdx

theorem pairwise_numbers (edits : List (TextEdit τ)) :
    edits.zipIdx.Pairwise fun a b => a.2 < b.2 := by
  have numbers : (edits.zipIdx.map Prod.snd).Pairwise (· < ·) := by
    rw [List.zipIdx_map_snd]
    exact List.pairwise_lt_range'
  exact List.pairwise_map.mp numbers

theorem bottomUp_reverse (edits : List (TextEdit τ)) :
    (bottomUp edits).reverse = (edits.zipIdx.mergeSort atOrAfter).reverse.map Prod.fst := by
  rw [bottomUp, List.map_reverse]

end Order

theorem filter_insertsAt_bottomUp (edits : List (TextEdit String)) (p : Position) :
    (bottomUp edits).reverse.filter (insertsAt p) = edits.filter (insertsAt p) := by
  let here (entry : TextEdit String × Nat) : Bool := insertsAt p entry.1
  have numbered : ((edits.zipIdx.mergeSort atOrAfter).reverse.filter here).Pairwise
      fun a b => a.2 ≤ b.2 := by
    apply List.Pairwise.imp_of_mem _ ((pairwise_turned edits).filter here)
    intro a b inA inB later
    have atA := (List.mem_filter.mp inA).2
    have atB := (List.mem_filter.mp inB).2
    simp only [here, insertsAt, Bool.and_eq_true, decide_eq_true_eq] at atA atB
    rw [atOrAfter_iff, atA.1, atB.1, atA.2, atB.2, Position.not_before_self] at later
    simpa using later
  have increasing : (edits.zipIdx.filter here).Pairwise fun a b => a.2 ≤ b.2 :=
    ((pairwise_numbers edits).filter here).imp Nat.le_of_lt
  have single (a b : TextEdit String × Nat)
      (inA : a ∈ (edits.zipIdx.mergeSort atOrAfter).reverse.filter here)
      (inB : b ∈ edits.zipIdx.filter here) (up : a.2 ≤ b.2) (down : b.2 ≤ a.2) : a = b := by
    have inA := List.mem_mergeSort.mp (List.mem_reverse.mp (List.mem_filter.mp inA).1)
    have inB := (List.mem_filter.mp inB).1
    have same : a.2 = b.2 := Nat.le_antisymm up down
    rw [List.mem_zipIdx_iff_getElem?] at inA inB
    rw [same, inB] at inA
    exact Prod.ext (Option.some.inj inA).symm same
  have kept : ((edits.zipIdx.mergeSort atOrAfter).reverse.filter here).Perm
      (edits.zipIdx.filter here) :=
    ((List.reverse_perm _).trans (List.mergeSort_perm _ _)).filter here
  have sorted := List.Perm.eq_of_pairwise single numbered increasing kept
  calc (bottomUp edits).reverse.filter (insertsAt p)
      = ((edits.zipIdx.mergeSort atOrAfter).reverse.filter here).map Prod.fst := by
        rw [bottomUp_reverse, List.filter_map]
        rfl
    _ = (edits.zipIdx.filter here).map Prod.fst := by rw [sorted]
    _ = (edits.zipIdx.map Prod.fst).filter (insertsAt p) := by
        rw [List.filter_map]
        rfl
    _ = edits.filter (insertsAt p) := by rw [List.zipIdx_map_fst]

/-- Of two edits that do not overlap the one that comes first in the order of places ends where the
other one begins, or before. -/
theorem Apart.stop_atOrBefore {a b : TextEdit String × Nat} (apart : Apart a.1 b.1)
    (forward : b.1.range.start.atOrBefore b.1.range.stop = true)
    (later : atOrAfter b a = true) : a.1.range.stop.atOrBefore b.1.range.start = true := by
  rcases apart with ordered | turned
  · exact ordered
  · rw [atOrAfter_iff] at later
    rw [Position.atOrBefore_iff] at turned forward ⊢
    rcases later with earlier | ⟨starts, earlier | ⟨stops, -⟩⟩
    · rw [Position.before_iff] at earlier
      omega
    · rw [Position.before_iff] at earlier
      rw [starts] at turned
      omega
    · rw [starts, ← stops] at turned
      omega

theorem ascending_of_pairwise {text : List Char} {edits : List (TextEdit String)} {bound : Nat}
    (spans : ∀ edit ∈ edits, ∃ a b, Spans text edit a b)
    (ordered : edits.Pairwise fun a b => a.range.stop.atOrBefore b.range.start = true)
    (within : bound ≤ text.length)
    (behind : ∀ edit ∈ edits, (positionAt text bound).atOrBefore edit.range.start = true) :
    Ascending text bound edits := by
  induction edits generalizing bound with
  | nil => exact .nil within
  | cons edit rest ih =>
      obtain ⟨a, b, place⟩ := spans edit List.mem_cons_self
      obtain ⟨first, others⟩ := List.pairwise_cons.mp ordered
      have forward := place.forward
      have ended := place.within
      have start := behind edit List.mem_cons_self
      rw [place.start, positionAt_atOrBefore_iff within (Nat.le_trans forward ended)] at start
      apply Ascending.cons place start
      apply ih _ others ended
      · intro other member
        rw [← place.stop]
        exact first other member
      · intro other member
        exact spans other (List.mem_cons_of_mem _ member)

theorem Compatible.ascending {text : List Char} {edits : List (TextEdit String)}
    (fit : Compatible text edits) : Ascending text 0 (bottomUp edits).reverse := by
  have fitting := fit.perm (reverse_bottomUp_perm edits)
  apply ascending_of_pairwise
  · intro edit member
    exact fitting.spans member
  · have apart := fitting.apart
    rw [bottomUp_reverse, List.pairwise_map] at apart ⊢
    apply List.Pairwise.imp_of_mem _ (apart.and (pairwise_turned edits))
    intro a b inA inB ⟨disjoint, later⟩
    have forward : b.1.range.start.atOrBefore b.1.range.stop = true := by
      apply fitting.forward
      rw [bottomUp_reverse]
      exact List.mem_map_of_mem inB
    exact disjoint.stop_atOrBefore forward later
  · exact Nat.zero_le _
  · intro edit member
    obtain ⟨a, b, place⟩ := fitting.spans member
    have forward := place.forward
    have ended := place.within
    rw [place.start, positionAt_atOrBefore_iff (Nat.zero_le _) (Nat.le_trans forward ended)]
    exact Nat.zero_le a

/-- Edits meant for one text that do not overlap make of it what they make all at once. The order of
the list matters only for what is inserted at one and the same place. -/
theorem applyEdits_at_once (text : String) (edits : List (TextEdit String))
    (fit : Compatible text.toList edits) :
    applyEdits text edits = String.ofList (replacedAtOnce text.toList edits) ∧
      ∀ others : List (TextEdit String), others.Perm edits →
        (∀ p, others.filter (insertsAt p) = edits.filter (insertsAt p)) →
        applyEdits text others = applyEdits text edits := by
  have made (edits : List (TextEdit String)) (fit : Compatible text.toList edits) :
      applyEdits text edits = String.ofList (replacedAtOnce text.toList edits) := by
    rw [applyEdits_eq_of_ascending fit.ascending, replacedAtOnce, replacedAtOnce,
      pieceAt_perm fit.apart (reverse_bottomUp_perm edits) (filter_insertsAt_bottomUp edits)]
  constructor
  · exact made edits fit
  · intro others same inserts
    rw [made others (fit.perm same), made edits fit, replacedAtOnce, replacedAtOnce,
      pieceAt_perm fit.apart same inserts]

/-- Five edits of three lines, in no order: a replacement across a line feed, two inserts where it
ends and one where it begins, and a line that is emptied. -/
theorem applyEdits_at_once_of_five :
    let first : TextEdit String := ⟨⟨⟨1, 1⟩, ⟨1, 1⟩⟩, "p"⟩
    let second : TextEdit String := ⟨⟨⟨1, 1⟩, ⟨1, 1⟩⟩, "q"⟩
    let across : TextEdit String := ⟨⟨⟨0, 1⟩, ⟨1, 1⟩⟩, "X\nY"⟩
    let ahead : TextEdit String := ⟨⟨⟨0, 1⟩, ⟨0, 1⟩⟩, "i"⟩
    let emptied : TextEdit String := ⟨⟨⟨2, 0⟩, ⟨2, 2⟩⟩, ""⟩
    Compatible "ab\ncd\nef".toList [first, across, emptied, second, ahead] ∧
      applyEdits "ab\ncd\nef" [first, across, emptied, second, ahead] = "aiX\nYpqd\n" ∧
        applyEdits "ab\ncd\nef" [ahead, first, second, emptied, across] = "aiX\nYpqd\n" := by
  intro first second across ahead emptied
  have fit : Compatible "ab\ncd\nef".toList [first, across, emptied, second, ahead] := by
    constructor
    · decide +kernel
    · decide +kernel
    · decide +kernel
  have made := applyEdits_at_once "ab\ncd\nef" [first, across, emptied, second, ahead] fit
  have same : [ahead, first, second, emptied, across].Perm [first, across, emptied, second, ahead] := by
    decide +kernel
  have atOnce : replacedAtOnce "ab\ncd\nef".toList [first, across, emptied, second, ahead] =
      "aiX\nYpqd\n".toList := by
    decide +kernel
  have result : applyEdits "ab\ncd\nef" [first, across, emptied, second, ahead] =
      "aiX\nYpqd\n" := by
    rw [made.1, atOnce, String.ofList_toList]
  refine ⟨fit, result, ?_⟩
  rw [made.2 _ same (filter_insertsAt_of_starts same (by decide +kernel)), result]

end Scalpel.Document
