import Scalpel.Text.Charset

/-!
Texts in UTF-8. The bytes of a character are read back as that character, whatever follows them, so
every text that has bytes is the text of its bytes.
-/

set_option autoImplicit false

namespace Scalpel.Utf8

/-! ### Pieces of several bytes -/

theorem piece_one {a : UInt8} (small : a < 0x80) (rest : Bytes) :
    piece a rest = .char (Char.ofNat a.toNat) 0 := by
  unfold piece
  rw [if_pos small]

private theorem not_lt_of_le {a m n : UInt8} (least : n ≤ a) (le : m ≤ n) : ¬a < m :=
  UInt8.not_lt.mpr (UInt8.le_trans le least)

theorem piece_two {a b : UInt8} (least : 0xC2 ≤ a) (below : a < 0xE0)
    (second : isContinuation b = true) (rest : Bytes) :
    piece a (b :: rest) = .char (Char.ofNat (a.toNat % 32 * 64 + b.toNat % 64)) 1 := by
  unfold piece
  rw [if_neg (not_lt_of_le least (by decide)), if_neg (not_lt_of_le least (by decide)),
    if_pos below]
  dsimp only
  rw [if_pos second]
  rfl

private theorem fits_second {a b : UInt8} (least : secondFrom a ≤ b) (most : b ≤ secondTo a) :
    ¬(b < secondFrom a || secondTo a < b) = true := by
  rw [Bool.or_eq_true, decide_eq_true_eq, decide_eq_true_eq]
  rintro (below | above)
  · exact UInt8.not_lt.mpr least below
  · exact UInt8.not_lt.mpr most above

private theorem goes_on {c : UInt8} (third : isContinuation c = true) :
    ¬(!isContinuation c) = true := by
  rw [third]
  exact Bool.false_ne_true

theorem piece_three {a b c : UInt8} (least : 0xE0 ≤ a) (below : a < 0xF0)
    (enough : secondFrom a ≤ b) (most : b ≤ secondTo a) (third : isContinuation c = true)
    (rest : Bytes) :
    piece a (b :: c :: rest) =
      .char (Char.ofNat ((a.toNat % 16 * 64 + b.toNat % 64) * 64 + c.toNat % 64)) 2 := by
  unfold piece
  rw [if_neg (not_lt_of_le least (by decide)), if_neg (not_lt_of_le least (by decide)),
    if_neg (not_lt_of_le least (by decide)), if_pos (UInt8.lt_trans below (by decide))]
  dsimp only
  rw [if_neg (fits_second enough most), if_neg (goes_on third), if_pos below]
  rfl

theorem piece_four {a b c d : UInt8} (least : 0xF0 ≤ a) (below : a < 0xF5)
    (enough : secondFrom a ≤ b) (most : b ≤ secondTo a) (third : isContinuation c = true)
    (fourth : isContinuation d = true) (rest : Bytes) :
    piece a (b :: c :: d :: rest) = .char (Char.ofNat
      (((a.toNat % 8 * 64 + b.toNat % 64) * 64 + c.toNat % 64) * 64 + d.toNat % 64)) 3 := by
  unfold piece
  rw [if_neg (not_lt_of_le least (by decide)), if_neg (not_lt_of_le least (by decide)),
    if_neg (not_lt_of_le least (by decide)), if_pos below]
  dsimp only
  rw [if_neg (fits_second enough most), if_neg (goes_on third),
    if_neg (not_lt_of_le least (by decide)), if_pos fourth]
  rfl

/-! ### Characters -/

private theorem toNat_byte {n : Nat} (small : n < 256) : n.toUInt8.toNat = n := by
  have same : n.toUInt8.toNat = n % 256 := rfl
  omega

private theorem isContinuation_byte {n : Nat} (small : n < 64) :
    isContinuation (0x80 + n).toUInt8 = true := by
  unfold isContinuation
  rw [Bool.and_eq_true, decide_eq_true_eq, decide_eq_true_eq, UInt8.le_iff_toNat_le,
    UInt8.le_iff_toNat_le, toNat_byte (by omega)]
  change 128 ≤ 0x80 + n ∧ 0x80 + n ≤ 191
  omega

private theorem byte_lt {n : Nat} {m : UInt8} (small : n < m.toNat) : n.toUInt8 < m := by
  have bound := m.toNat_lt
  rw [UInt8.lt_iff_toNat_lt, toNat_byte (by omega)]
  exact small

private theorem le_byte {n : Nat} {m : UInt8} (bound : n < 256) (le : m.toNat ≤ n) :
    m ≤ n.toUInt8 := by
  rw [UInt8.le_iff_toNat_le, toNat_byte bound]
  exact le

private theorem secondFrom_le {a b : UInt8} (least : 0x80 ≤ b.toNat)
    (long : a.toNat = 0xE0 → 0xA0 ≤ b.toNat) (far : a.toNat = 0xF0 → 0x90 ≤ b.toNat) :
    secondFrom a ≤ b := by
  unfold secondFrom
  rw [UInt8.le_iff_toNat_le]
  split
  · next same => exact long (congrArg UInt8.toNat same)
  · split
    · next same => exact far (congrArg UInt8.toNat same)
    · exact least

private theorem le_secondTo {a b : UInt8} (most : b.toNat ≤ 0xBF)
    (half : a.toNat = 0xED → b.toNat ≤ 0x9F) (past : a.toNat = 0xF4 → b.toNat ≤ 0x8F) :
    b ≤ secondTo a := by
  unfold secondTo
  rw [UInt8.le_iff_toNat_le]
  split
  · next same => exact half (congrArg UInt8.toNat same)
  · split
    · next same => exact past (congrArg UInt8.toNat same)
    · exact most

private theorem piece_encodeThree {n : Nat} (least : 0x800 ≤ n) (most : n < 0x10000)
    (whole : n < 0xD800 ∨ 0xDFFF < n) (rest : Bytes) :
    piece (0xE0 + n / 4096).toUInt8
      ((0x80 + n / 64 % 64).toUInt8 :: (0x80 + n % 64).toUInt8 :: rest) =
        .char (Char.ofNat n) 2 := by
  have first : (0xE0 + n / 4096).toUInt8.toNat = 0xE0 + n / 4096 := toNat_byte (by omega)
  have second : (0x80 + n / 64 % 64).toUInt8.toNat = 0x80 + n / 64 % 64 := toNat_byte (by omega)
  have third : (0x80 + n % 64).toUInt8.toNat = 0x80 + n % 64 := toNat_byte (by omega)
  have number : ((0xE0 + n / 4096) % 16 * 64 + (0x80 + n / 64 % 64) % 64) * 64 +
      (0x80 + n % 64) % 64 = n := by
    omega
  rw [piece_three (le_byte (by omega) ?_) (byte_lt ?_) (secondFrom_le ?_ ?_ ?_)
    (le_secondTo ?_ ?_ ?_) (isContinuation_byte (by omega)), first, second, third, number]
  · change 224 ≤ _
    omega
  · change _ < 240
    omega
  all_goals
    rw [second]
    try rw [first]
    omega

private theorem piece_encodeFour {n : Nat} (least : 0x10000 ≤ n) (most : n < 0x110000)
    (rest : Bytes) :
    piece (0xF0 + n / 262144).toUInt8 ((0x80 + n / 4096 % 64).toUInt8 ::
      (0x80 + n / 64 % 64).toUInt8 :: (0x80 + n % 64).toUInt8 :: rest) =
        .char (Char.ofNat n) 3 := by
  have first : (0xF0 + n / 262144).toUInt8.toNat = 0xF0 + n / 262144 := toNat_byte (by omega)
  have second : (0x80 + n / 4096 % 64).toUInt8.toNat = 0x80 + n / 4096 % 64 :=
    toNat_byte (by omega)
  have third : (0x80 + n / 64 % 64).toUInt8.toNat = 0x80 + n / 64 % 64 := toNat_byte (by omega)
  have fourth : (0x80 + n % 64).toUInt8.toNat = 0x80 + n % 64 := toNat_byte (by omega)
  have number : (((0xF0 + n / 262144) % 8 * 64 + (0x80 + n / 4096 % 64) % 64) * 64 +
      (0x80 + n / 64 % 64) % 64) * 64 + (0x80 + n % 64) % 64 = n := by
    omega
  rw [piece_four (le_byte (by omega) ?_) (byte_lt ?_) (secondFrom_le ?_ ?_ ?_)
    (le_secondTo ?_ ?_ ?_) (isContinuation_byte (by omega)) (isContinuation_byte (by omega)), first,
    second, third, fourth, number]
  · change 240 ≤ _
    omega
  · change _ < 245
    omega
  all_goals
    rw [second]
    try rw [first]
    omega

theorem piece_encodeChar (c : Char) :
    ∃ first more, encodeChar c = first :: more ∧
      ∀ rest, piece first (more ++ rest) = .char c more.length := by
  have valid : c.toNat < 0xD800 ∨ 0xDFFF < c.toNat ∧ c.toNat < 0x110000 := c.valid
  have whole {n : Nat} (same : n = c.toNat) (count : Nat) :
      Piece.char (Char.ofNat n) count = .char c count := by
    rw [same, Char.ofNat_toNat]
  unfold encodeChar
  dsimp only
  split
  · next one =>
    refine ⟨_, [], rfl, fun rest => (piece_one (byte_lt one) rest).trans (whole ?_ 0)⟩
    rw [toNat_byte (by omega)]
  · split
    · next two =>
      refine ⟨_, [_], rfl, fun rest => ?_⟩
      refine (piece_two (le_byte ?_ ?_) (byte_lt ?_) (isContinuation_byte ?_) rest).trans
        (whole ?_ 1)
      · omega
      · change 194 ≤ _
        omega
      · change _ < 224
        omega
      · omega
      · rw [toNat_byte (by omega), toNat_byte (by omega)]
        omega
    · split
      · next three =>
        refine ⟨_, [_, _], rfl, fun rest => ?_⟩
        exact (piece_encodeThree (by omega) three (by omega) rest).trans (whole rfl 2)
      · refine ⟨_, [_, _, _], rfl, fun rest => ?_⟩
        exact (piece_encodeFour (by omega) (by omega) rest).trans (whole rfl 3)

/-! ### Texts -/

theorem decodeFrom_flatMap (text : List Char) (offset : Nat) :
    decodeFrom offset (text.flatMap encodeChar) = .ok text := by
  induction text generalizing offset with
  | nil =>
      rw [List.flatMap_nil, decodeFrom]
  | cons c rest ih =>
      obtain ⟨first, more, bytes, read⟩ := piece_encodeChar c
      rw [List.flatMap_cons, bytes, List.cons_append, decodeFrom, read]
      dsimp only
      rw [List.drop_left, ih]
      rfl

theorem decodeLenient_flatMap (text : List Char) :
    decodeLenient (text.flatMap encodeChar) = text := by
  induction text with
  | nil =>
      rw [List.flatMap_nil, decodeLenient]
  | cons c rest ih =>
      obtain ⟨first, more, bytes, read⟩ := piece_encodeChar c
      rw [List.flatMap_cons, bytes, List.cons_append, decodeLenient, read]
      dsimp only
      rw [List.drop_left, ih]

end Scalpel.Utf8

namespace Scalpel.Charset

variable [Halves]

theorem decode_encode_utf8 {text : String} {bytes : Bytes}
    (encoded : Charset.utf8.encode text = .ok bytes) : Charset.utf8.decode bytes = .ok text := by
  have fit : bytes = text.toList.flatMap Utf8.encodeChar := by
    change Coding.writeWhole "utf-8" _ text.toList = .ok bytes at encoded
    unfold Coding.writeWhole Coding.whereAll at encoded
    split at encoded
    · cases encoded
    · cases encoded
      rfl
  change String.ofList <$> Coding.readUtf8 bytes = .ok text
  unfold Coding.readUtf8
  rw [fit, Utf8.decodeFrom_flatMap]
  exact congrArg Except.ok (String.ofList_toList)

theorem exists_undecodable_of_ofFile {bytes : Bytes} {failure : Failure}
    (decoded : Text.ofFile bytes = .error failure) : ∃ reason, failure = .undecodable reason := by
  have read : Text.ofFile bytes = (String.ofList <$> Coding.readUtf8 bytes >>= fun text =>
      .ok (String.ofList (Text.unifyNewlines text.toList))) := rfl
  rw [read] at decoded
  unfold Coding.readUtf8 at decoded
  cases stopped : Utf8.decodeFrom 0 bytes with
  | ok chars =>
      rw [stopped] at decoded
      cases decoded
  | error stop =>
      rw [stopped] at decoded
      cases decoded
      exact ⟨_, rfl⟩

end Scalpel.Charset
