import Mathlib
import Scalpel.Decimal.Numeral
import Scalpel.Proofs.Utf8
import Scalpel.Wire.Frame

/-!
Numerals in plain decimal digits, and texts without halves of characters. A numeral may have blanks
around it; without a sign and within the limit on its length it is read as the number whose digits it
shows. What is written of a value without halves has none either, and a text has bytes exactly if it
has none, from which it is read back.
-/

set_option autoImplicit false

namespace Scalpel

namespace Text

/-! ### Plain digits -/

theorem isPlainDigit_iff (c : Char) : isPlainDigit c = true ↔ 48 ≤ c.toNat ∧ c.toNat ≤ 57 := by
  unfold isPlainDigit
  rw [Bool.and_eq_true, decide_eq_true_eq, decide_eq_true_eq]
  exact Iff.rfl

theorem isPlainDigit_of_mem_toDigits {n : Nat} {c : Char} (member : c ∈ Nat.toDigits 10 n) :
    isPlainDigit c = true := by
  have digit := Nat.isDigit_of_mem_toDigits (by decide) (Nat.le_refl 10) member
  unfold Char.isDigit at digit
  rw [Bool.and_eq_true, decide_eq_true_eq, decide_eq_true_eq] at digit
  exact (isPlainDigit_iff c).mpr digit

theorem digit?_of_plain {c : Char} (plain : isPlainDigit c = true) :
    digit? c = some (c.toNat - 48) := by
  have bounds := (isPlainDigit_iff c).mp plain
  have first : 48 ≤ c.toNat ∧ c.toNat < 48 + 10 := by omega
  have front : zeros = 48 :: zeros.tail := rfl
  rw [digit?, front]
  simp [first]

theorem not_isBlank_of_plain {c : Char} (plain : isPlainDigit c = true) : isBlank c = false := by
  have bounds := (isPlainDigit_iff c).mp plain
  simp only [isBlank, Bool.or_eq_false_iff, Bool.and_eq_false_iff, decide_eq_false_iff_not]
  omega

theorem not_isNumeralBlank_of_plain {c : Char} (plain : isPlainDigit c = true) :
    isNumeralBlank c = false := by
  simp [isNumeralBlank, not_isBlank_of_plain plain]

/-! ### Blanks around a text -/

theorem dropWhile_front {α : Type} {drops : α → Bool} {front rest : List α}
    (before : ∀ c ∈ front, drops c = true) (held : ∀ c, rest.head? = some c → drops c = false) :
    (front ++ rest).dropWhile drops = rest := by
  rw [List.dropWhile_append_of_pos before]
  cases rest with
  | nil => rfl
  | cons c others => simp [held c rfl]

theorem trim_parts (drops : Char → Bool) (text : List Char) :
    ∃ left right, text = left ++ trim drops text ++ right ∧ (∀ c ∈ left, drops c = true) ∧
      ∀ c ∈ right, drops c = true := by
  have dropped {c : Char} {chars : List Char} (member : c ∈ chars.takeWhile drops) :
      drops c = true :=
    List.mem_takeWhile_imp member
  refine ⟨text.takeWhile drops, ((text.dropWhile drops).reverse.takeWhile drops).reverse, ?_,
    fun _ => dropped, fun c member => dropped (List.mem_reverse.mp member)⟩
  rw [trim, List.append_assoc, ← List.reverse_append, List.takeWhile_append_dropWhile,
    List.reverse_reverse, List.takeWhile_append_dropWhile]

theorem trim_around {drops : Char → Bool} {left text right : List Char}
    (before : ∀ c ∈ left, drops c = true) (kept : ∀ c ∈ text, drops c = false)
    (after : ∀ c ∈ right, drops c = true) (nonempty : text ≠ []) :
    trim drops (left ++ text ++ right) = text := by
  have first (c : Char) (atFront : (text ++ right).head? = some c) : drops c = false := by
    obtain ⟨d, more, rfl⟩ := List.exists_cons_of_ne_nil nonempty
    cases atFront
    exact kept c List.mem_cons_self
  have last (c : Char) (atFront : text.reverse.head? = some c) : drops c = false :=
    kept c (List.mem_reverse.mp (List.mem_of_mem_head? atFront))
  have behind (c : Char) (member : c ∈ right.reverse) : drops c = true :=
    after c (List.mem_reverse.mp member)
  rw [trim, List.append_assoc, dropWhile_front before first, List.reverse_append,
    dropWhile_front behind last, List.reverse_reverse]

end Text

namespace Decimal

open Text

theorem plain_of_digits {digits : List Char} (plain : ∀ c ∈ digits, isPlainDigit c = true)
    (nonempty : digits ≠ []) : Decimal.plain (String.ofList digits) = digits := by
  have untrimmed : trim isNumeralBlank digits = digits := by
    have around : trim isNumeralBlank ([] ++ digits ++ []) = digits :=
      trim_around nofun (fun c member => not_isNumeralBlank_of_plain (plain c member)) nofun nonempty
    rwa [List.nil_append, List.append_nil] at around
  unfold Decimal.plain
  rw [String.toList_ofList, untrimmed]
  refine (List.map_congr_left fun c member => ?_).trans (List.map_id digits)
  have bounds := (isPlainDigit_iff c).mp (plain c member)
  have number : 48 + (c.toNat - 48) = c.toNat := by omega
  rw [digit?_of_plain (plain c member)]
  dsimp only
  rw [number, Char.ofNat_toNat]
  exact (id_eq c).symm

theorem digitRun_of_digits {digits : List Char} (plain : ∀ c ∈ digits, isPlainDigit c = true) :
    digitRun digits = (digits, []) := by
  induction digits with
  | nil => rfl
  | cons c rest ih =>
      have first := plain c List.mem_cons_self
      have others := ih fun d member => plain d (List.mem_cons_of_mem c member)
      rw [digitRun.eq_def]
      split
      · contradiction
      · next separated =>
        cases separated
        have underscore := plain '_' (by simp)
        exact absurd underscore (by decide)
      · next same =>
        cases same
        rw [if_pos first, others]

theorem signed_of_digits {digits : List Char} (plain : ∀ c ∈ digits, isPlainDigit c = true) :
    signed digits = (false, digits) := by
  cases digits with
  | nil => rfl
  | cons c rest =>
      have first := plain c List.mem_cons_self
      unfold signed
      split
      · next same =>
        cases same
        exact absurd first (by decide)
      · next same =>
        cases same
        exact absurd first (by decide)
      · rfl

/-- Digits are read as the number that they write, as long as there are not too many of them. -/
theorem whole?_of_digits {digits : List Char} (plain : ∀ c ∈ digits, isPlainDigit c = true)
    (nonempty : digits ≠ []) (short : digits.length ≤ digitLimit) :
    whole? (String.ofList digits) = some (Int.ofNat (ofDigits digits)) := by
  have number : Whole.ofText (String.ofList digits) = .number (Int.ofNat (ofDigits digits)) := by
    unfold Whole.ofText
    rw [plain_of_digits plain nonempty, signed_of_digits plain]
    dsimp only
    rw [digitRun_of_digits plain]
    split
    · next same =>
      cases same
      exact absurd rfl nonempty
    · next same =>
      cases same
      simp [Nat.not_lt.mpr short]
  rw [whole?, number]

theorem ofDigits_toDigits (n : Nat) : ofDigits (Nat.toDigits 10 n) = n :=
  Nat.ofDigitChars_toDigits (by decide) (Nat.le_refl 10)

theorem whole?_toDigits {n : Nat} (small : n < 10 ^ digitLimit) :
    whole? (String.ofList (Nat.toDigits 10 n)) = some (Int.ofNat n) := by
  have short : (Nat.toDigits 10 n).length ≤ digitLimit :=
    (Nat.length_toDigits_le_iff (by decide) (by decide)).mpr small
  rw [whole?_of_digits (fun _ => isPlainDigit_of_mem_toDigits) Nat.toDigits_ne_nil short,
    ofDigits_toDigits]

end Decimal

/-! ### Plain characters -/

def Text.IsPlain (c : Char) : Prop :=
  c.toNat < 0x80

instance : DecidablePred Text.IsPlain :=
  fun c => inferInstanceAs (Decidable (c.toNat < 0x80))

theorem Text.isPlain_of_all {text : List Char}
    (all : text.all (fun c => decide (Text.IsPlain c)) = true) : ∀ c ∈ text, Text.IsPlain c :=
  fun c member => of_decide_eq_true (List.all_eq_true.mp all c member)

namespace Decimal

open Text

theorem isPlain_of_mem_toDigits {n : Nat} {c : Char} (member : c ∈ Nat.toDigits 10 n) :
    IsPlain c := by
  have bounds := (isPlainDigit_iff c).mp (isPlainDigit_of_mem_toDigits member)
  unfold IsPlain
  omega

theorem isPlain_exponentText {n : Int} {c : Char} (member : c ∈ exponentText n) : IsPlain c := by
  unfold exponentText at member
  rcases List.mem_cons.mp member with sign | digit
  · subst sign
    split <;> decide
  · split at digit
    · rcases List.mem_cons.mp digit with rfl | digit
      · decide
      · exact isPlain_of_mem_toDigits digit
    · exact isPlain_of_mem_toDigits digit

theorem Digits.isPlain_text {d : Digits} (plain : ∀ c ∈ d.digits, IsPlain c) {c : Char}
    (member : c ∈ d.text) : IsPlain c := by
  have zero {count : Nat} (known : c ∈ List.replicate count '0') : IsPlain c := by
    rw [List.eq_of_mem_replicate known]
    decide
  have early {count : Nat} (known : c ∈ d.digits.take count) : IsPlain c :=
    plain c (List.mem_of_mem_take known)
  have late {count : Nat} (known : c ∈ d.digits.drop count) : IsPlain c :=
    plain c (List.mem_of_mem_drop known)
  have point (same : c = '.') : IsPlain c := by
    rw [same]
    decide
  unfold Digits.text at member
  dsimp only at member
  split at member
  · rcases List.mem_append.mp member with front | behind
    · rcases List.mem_append.mp front with first | others
      · exact early first
      · split at others
        · cases others
        · rcases List.mem_cons.mp others with same | digit
          · exact point same
          · exact late digit
    · rcases List.mem_cons.mp behind with rfl | exponent
      · decide
      · exact isPlain_exponentText exponent
  · split at member
    · simp only [List.mem_cons, List.cons_append, List.mem_append] at member
      rcases member with rfl | same | zeros | digit
      · decide
      · exact point same
      · exact zero zeros
      · exact plain c digit
    · split at member
      · simp only [List.mem_append, List.mem_cons, List.not_mem_nil, or_false] at member
        rcases member with (digit | zeros) | same | rfl
        · exact plain c digit
        · exact zero zeros
        · exact point same
        · decide
      · rcases List.mem_append.mp member with digit | behind
        · exact early digit
        · rcases List.mem_cons.mp behind with same | digit
          · exact point same
          · exact late digit

theorem isPlain_shortest {mantissa : Nat} {exponent : Int} {c : Char}
    (member : c ∈ (Digits.shortest mantissa exponent).text) : IsPlain c := by
  refine Digits.isPlain_text (fun digit known => ?_) member
  have untrimmed := (List.dropWhile_sublist _).subset (List.mem_reverse.mp known)
  exact isPlain_of_mem_toDigits (List.mem_reverse.mp untrimmed)

theorem Exact.isPlain_text (x : Exact) : ∀ c ∈ x.text.toList, IsPlain c := by
  cases x with
  | nan => exact isPlain_of_all (by decide)
  | infinite negative => cases negative <;> exact isPlain_of_all (by decide)
  | finite negative mantissa exponent =>
      have body : ∀ c ∈ (if mantissa = 0 then ['0', '.', '0']
          else (Digits.shortest mantissa exponent).text), IsPlain c := by
        split
        · exact isPlain_of_all (by decide)
        · exact fun c => isPlain_shortest
      intro c member
      unfold Exact.text at member
      dsimp only at member
      rw [String.toList_ofList] at member
      cases negative with
      | false => exact body c member
      | true =>
          rcases List.mem_cons.mp member with rfl | digit
          · decide
          · exact body c digit

end Decimal

variable [Halves]

/-! ### Halves -/

theorem Half.not_isHalf_of_plain {c : Char} (plain : Text.IsPlain c) : isHalf c = false := by
  have low := Halves.isWithin.1
  have above : ¬first ≤ c.toNat := by
    unfold Text.IsPlain at plain
    unfold first Halves.size
    omega
  simp [isHalf, unit?, above]

def Text.IsWhole (text : String) : Prop :=
  ∀ c ∈ text.toList, Half.isHalf c = false

theorem Text.isWhole_of_plain {text : String} (plain : ∀ c ∈ text.toList, Text.IsPlain c) :
    Text.IsWhole text :=
  fun c member => Half.not_isHalf_of_plain (plain c member)

theorem Text.isWhole_join {pieces : List String} (whole : ∀ piece ∈ pieces, Text.IsWhole piece) :
    Text.IsWhole (String.join pieces) := by
  intro c member
  rw [String.toList_join] at member
  obtain ⟨piece, known, written⟩ := List.mem_flatMap.mp member
  exact whole piece known c written

namespace Json

/-- A value in whose texts and names no half of a character stands. -/
inductive IsWhole : Json → Prop
  | null : IsWhole null
  | bool (value : Bool) : IsWhole (bool value)
  | int (value : Int) : IsWhole (int value)
  | float (value : Float) : IsWhole (float value)
  | str {text : String} : Text.IsWhole text → IsWhole (str text)
  | arr {items : List Json} : (∀ item ∈ items, IsWhole item) → IsWhole (arr items)
  | obj {fields : List (String × Json)} : (∀ field ∈ fields, Text.IsWhole field.1) →
    (∀ field ∈ fields, IsWhole field.2) → IsWhole (obj fields)

/-! ### What is written -/

theorem eq_or_isPlain_of_mem_writtenChar {c d : Char} (member : d ∈ writtenChar true c) :
    d = c ∨ Text.IsPlain d := by
  have escaped : ∀ n, n < 0x20 → (unitEscape n).all (fun d => decide (Text.IsPlain d)) = true := by
    decide
  have marked {e : Char} (plain : e = c ∨ Text.IsPlain e) (known : d ∈ ['\\', e]) :
      d = c ∨ Text.IsPlain d := by
    rcases List.mem_cons.mp known with rfl | last
    · exact .inr (by decide)
    · rw [List.mem_singleton.mp last]
      exact plain
  unfold writtenChar at member
  split at member
  · exact marked (.inl rfl) member
  · split at member
    · exact marked (.inr (by decide)) member
    · split at member
      · exact marked (.inr (by decide)) member
      · split at member
        · exact marked (.inr (by decide)) member
        · split at member
          · exact marked (.inr (by decide)) member
          · split at member
            · exact marked (.inr (by decide)) member
            · split at member
              · next control => exact .inr (Text.isPlain_of_all (escaped _ control) d member)
              · simp at member
                exact .inl member

theorem isWhole_writtenText {text : String} (whole : Text.IsWhole text) :
    Text.IsWhole (writtenText true text) := by
  have quote : Half.isHalf '"' = false := Half.not_isHalf_of_plain (by decide)
  intro d member
  unfold writtenText at member
  rw [String.toList_ofList] at member
  simp only [List.cons_append, List.mem_cons, List.mem_append, List.mem_flatMap, List.not_mem_nil,
    or_false] at member
  rcases member with rfl | ⟨c, known, written⟩ | rfl
  · exact quote
  · rcases eq_or_isPlain_of_mem_writtenChar written with rfl | plain
    · exact whole d known
    · exact Half.not_isHalf_of_plain plain
  · exact quote

omit [Halves] in
theorem isPlain_toString (n : Int) : ∀ c ∈ (toString n).toList, Text.IsPlain c := by
  have digits (m : Nat) : ∀ c ∈ m.repr.toList, Text.IsPlain c := by
    intro c member
    rw [Nat.toList_repr] at member
    exact Decimal.isPlain_of_mem_toDigits member
  cases n with
  | ofNat m => exact digits m
  | negSucc m =>
      intro c member
      change c ∈ ("-" ++ m.succ.repr).toList at member
      rw [String.toList_append] at member
      rcases List.mem_append.mp member with sign | digit
      · have minus : ∀ c ∈ "-".toList, Text.IsPlain c := Text.isPlain_of_all (by decide)
        exact minus c sign
      · exact digits m.succ c digit

omit [Halves] in
theorem isPlain_writtenFloat (x : Float) : ∀ c ∈ (writtenFloat x).toList, Text.IsPlain c := by
  unfold writtenFloat
  split
  · exact Text.isPlain_of_all (by decide)
  · split <;> exact Text.isPlain_of_all (by decide)
  · exact Decimal.Exact.isPlain_text _

section Pieces

variable {P : String → Prop} (mark : ∀ text, (∀ c ∈ text.toList, Text.IsPlain c) → P text)

include mark

theorem compactItems_all {items : List Json}
    (each : ∀ item ∈ items, ∀ piece ∈ compactPieces item, P piece) :
    ∀ piece ∈ compactItems items, P piece := by
  have closing : P "]" := mark _ (Text.isPlain_of_all (by decide))
  induction items with
  | nil => simpa [compactItems] using closing
  | cons item rest ih =>
      have first := each item List.mem_cons_self
      have others := ih fun other member => each other (List.mem_cons_of_mem item member)
      intro piece member
      cases rest with
      | nil =>
          rw [compactItems, List.mem_append, List.mem_singleton] at member
          rcases member with known | rfl
          · exact first piece known
          · exact closing
      | cons next more =>
          rw [compactItems, List.mem_append, List.mem_cons] at member
          · rcases member with known | rfl | known
            · exact first piece known
            · exact mark _ (Text.isPlain_of_all (by decide))
            · exact others piece known
          · exact nofun

theorem compactFields_all {fields : List (String × Json)}
    (names : ∀ field ∈ fields, P (writtenText true field.1))
    (each : ∀ field ∈ fields, ∀ piece ∈ compactPieces field.2, P piece) :
    ∀ piece ∈ compactFields fields, P piece := by
  have closing : P "\x7d" := mark _ (Text.isPlain_of_all (by decide))
  induction fields with
  | nil => simpa [compactFields] using closing
  | cons field rest ih =>
      obtain ⟨name, value⟩ := field
      have named : P (writtenText true name) := names (name, value) List.mem_cons_self
      have colon : P ":" := mark _ (Text.isPlain_of_all (by decide))
      have first := each (name, value) List.mem_cons_self
      have others := ih (fun other member => names other (List.mem_cons_of_mem _ member))
        fun other member => each other (List.mem_cons_of_mem _ member)
      intro piece member
      cases rest with
      | nil =>
          rw [compactFields, List.mem_cons, List.mem_cons, List.mem_append,
            List.mem_singleton] at member
          rcases member with rfl | rfl | known | rfl
          · exact named
          · exact colon
          · exact first piece known
          · exact closing
      | cons next more =>
          rw [compactFields, List.mem_cons, List.mem_cons, List.mem_append, List.mem_cons] at member
          · rcases member with rfl | rfl | known | rfl | known
            · exact named
            · exact colon
            · exact first piece known
            · exact mark _ (Text.isPlain_of_all (by decide))
            · exact others piece known
          · exact nofun

end Pieces

theorem IsWhole.compactPieces {value : Json} (whole : value.IsWhole) :
    ∀ piece ∈ compactPieces value, Text.IsWhole piece := by
  have mark (text : String) (plain : ∀ c ∈ text.toList, Text.IsPlain c) : Text.IsWhole text :=
    Text.isWhole_of_plain plain
  have leaf {piece word : String} (member : piece ∈ [word]) (plain : Text.IsWhole word) :
      Text.IsWhole piece := by
    rw [List.mem_singleton.mp member]
    exact plain
  induction whole with
  | null => exact fun _ member => leaf member (mark "null" (Text.isPlain_of_all (by decide)))
  | bool value =>
      cases value with
      | true => exact fun _ member => leaf member (mark "true" (Text.isPlain_of_all (by decide)))
      | false => exact fun _ member => leaf member (mark "false" (Text.isPlain_of_all (by decide)))
  | int value => exact fun _ member => leaf member (mark _ (isPlain_toString value))
  | float value => exact fun _ member => leaf member (mark _ (isPlain_writtenFloat value))
  | str text => exact fun _ member => leaf member (isWhole_writtenText text)
  | arr _ each =>
      intro piece member
      rcases List.mem_cons.mp member with rfl | inside
      · exact mark _ (Text.isPlain_of_all (by decide))
      · exact compactItems_all mark each piece inside
  | obj names _ each =>
      intro piece member
      rcases List.mem_cons.mp member with rfl | inside
      · exact mark _ (Text.isPlain_of_all (by decide))
      · exact compactFields_all mark (fun field known => isWhole_writtenText (names field known))
          each piece inside

theorem IsWhole.compact {value : Json} (whole : value.IsWhole) : Text.IsWhole value.compact :=
  Text.isWhole_join whole.compactPieces

end Json

omit [Halves] in
theorem Coding.firstRun_eq_none_iff {passes : Char → Bool} {text : List Char} :
    firstRun passes text = none ↔ ∀ c ∈ text, passes c = true := by
  induction text with
  | nil => simp [firstRun]
  | cons c rest ih =>
      by_cases passed : passes c = true
      · have same : firstRun passes (c :: rest) = none ↔ firstRun passes rest = none := by
          simp [firstRun, passed]
        rw [same, ih]
        simp [passed]
      · simp [firstRun, passed]

theorem Charset.encode_utf8_eq_ok_iff {text : String} {bytes : Bytes} :
    Charset.utf8.encode text = .ok bytes ↔ Text.IsWhole text ∧ bytes = Utf8.encode text := by
  have whole : Text.IsWhole text ↔
      Coding.firstRun (fun c => !Half.isHalf c) text.toList = none := by
    rw [Coding.firstRun_eq_none_iff]
    simp [Text.IsWhole]
  change Coding.writeWhole "utf-8" (·.flatMap Utf8.encodeChar) text.toList = .ok bytes ↔ _
  unfold Coding.writeWhole Coding.whereAll
  rw [whole]
  split
  · next found =>
    rw [found]
    simp [Coding.unwritable]
  · next found =>
    rw [found]
    simp [Utf8.encode, eq_comm]

theorem Charset.decode_utf8_encode (text : String) :
    Charset.utf8.decode (Utf8.encode text) = .ok text := by
  change String.ofList <$> Coding.readUtf8 (text.toList.flatMap Utf8.encodeChar) = .ok text
  unfold Coding.readUtf8
  rw [Utf8.decodeFrom_flatMap]
  exact congrArg Except.ok String.ofList_toList

theorem Frame.write_eq_ok_iff {message : Json} {frame : Bytes} :
    Frame.write message = .ok frame ↔ Text.IsWhole message.compact ∧
      frame = Utf8.encode ("Content-Length: " ++ toString (Utf8.encode message.compact).length
        ++ "\r\n\r\n") ++ Utf8.encode message.compact := by
  unfold Frame.write
  cases encoded : Charset.utf8.encode message.compact with
  | error failure =>
      have halved : ¬Text.IsWhole message.compact := by
        intro whole
        rw [Charset.encode_utf8_eq_ok_iff.mpr ⟨whole, rfl⟩] at encoded
        cases encoded
      simp [halved, bind, Except.bind]
  | ok bytes =>
      obtain ⟨whole, rfl⟩ := Charset.encode_utf8_eq_ok_iff.mp encoded
      simp [whole, bind, Except.bind, pure, Except.pure, eq_comm]

end Scalpel
