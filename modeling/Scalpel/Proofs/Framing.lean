import Scalpel.Proofs.WholeText

/-!
Frames one after the other in a stream. A frame may be laid out in many ways: with blank lines before
it, with other header lines around the one that names the length, with line feeds alone or with
carriage returns before them, and with any text as its content, even one that looks like a header. Each
reading takes one frame off the front of the stream, so that the next reading begins at the next frame.
-/

set_option autoImplicit false

namespace Scalpel.Frame

open Text

/-! ### Lines -/

structure Line where
  text : Bytes
  returns : Nat := 1
  within : 10 ∉ text
  ends : text.getLast? ≠ some 13

namespace Line

def bytes (line : Line) : Bytes :=
  line.text ++ List.replicate line.returns 13 ++ [10]

def blank (returns : Nat) : Line where
  text := []
  returns
  within := List.not_mem_nil
  ends := nofun

theorem splitLine_front {front : Bytes} (within : 10 ∉ front) (rest : Bytes) :
    splitLine (front ++ 10 :: rest) = (front ++ [10], rest) := by
  induction front with
  | nil => simp [splitLine]
  | cons byte more ih =>
      rw [List.mem_cons, not_or] at within
      have other : ¬byte = 10 := fun same => within.1 same.symm
      simp only [List.cons_append, splitLine]
      rw [if_neg other, ih within.2]

theorem splitLine_bytes (line : Line) (rest : Bytes) :
    splitLine (line.bytes ++ rest) = (line.bytes, rest) := by
  have within : 10 ∉ line.text ++ List.replicate line.returns 13 := by
    simp [line.within]
  have parted := splitLine_front within rest
  simpa [bytes] using parted

theorem bareLine_bytes (line : Line) : bareLine line.bytes = line.text := by
  have ending : ∀ byte ∈ 10 :: List.replicate line.returns (13 : UInt8),
      (decide (byte = 10) || decide (byte = 13)) = true := by
    intro byte member
    rcases List.mem_cons.mp member with rfl | back
    · decide
    · rw [List.eq_of_mem_replicate back]
      decide
  have kept : ∀ byte, line.text.reverse.head? = some byte →
      (decide (byte = 10) || decide (byte = 13)) = false := by
    intro byte last
    rw [List.head?_reverse] at last
    have feed : byte ≠ 10 := fun same => line.within (same ▸ List.mem_of_getLast? last)
    have back : byte ≠ 13 := fun same => line.ends (same ▸ last)
    simp [feed, back]
  have reversed : line.bytes.reverse =
      (10 :: List.replicate line.returns 13) ++ line.text.reverse := by
    simp [bytes]
  rw [bareLine, reversed, dropWhile_front ending kept, List.reverse_reverse]

theorem bytes_cons (line : Line) : ∃ byte more, line.bytes = byte :: more :=
  List.exists_cons_of_ne_nil (by simp [bytes])

end Line

def joined (lines : List Line) : Bytes :=
  lines.flatMap Line.bytes

/-! ### Header lines -/

def Between (text inner : List Char) : Prop :=
  ∃ left right, text = left ++ inner ++ right ∧ (∀ c ∈ left, isBlank c = true) ∧
    ∀ c ∈ right, isBlank c = true

theorem trim_of_between {text inner : List Char} (between : Between text inner)
    (kept : ∀ c ∈ inner, isBlank c = false) (nonempty : inner ≠ []) :
    trim isBlank text = inner := by
  obtain ⟨left, right, rfl, before, after⟩ := between
  exact trim_around before kept after nonempty

theorem between_trim (text : List Char) : Between text (trim isBlank text) :=
  trim_parts isBlank text

/-- A header line is about the length of the body: `Content-Length` stands before its colon, in letters
of any case. -/
def IsLength (text : Bytes) : Prop :=
  ∃ title, Between ((headerChars text).takeWhile (· ≠ ':')) title ∧
    title.map Char.toLower = "content-length".toList

structure Announces (text : Bytes) (count : Nat) : Prop where
  isLength : IsLength text
  counted : ∃ value, (headerChars text).dropWhile (· ≠ ':') = ':' :: value ∧
    Between value (Nat.toDigits 10 count)

theorem not_isBlank_of_lowered {c : Char} (lowered : c.toLower ∈ "content-length".toList) :
    isBlank c = false := by
  rw [Bool.eq_false_iff]
  intro blank
  have letter : ¬(65 ≤ c.toNat ∧ c.toNat ≤ 90) := by
    simp only [isBlank, Bool.or_eq_true, Bool.and_eq_true, decide_eq_true_eq] at blank
    omega
  have same : c.toLower = c := dif_neg letter
  have none : "content-length".toList.all (fun d => !isBlank d) = true := by decide
  rw [same] at lowered
  have shown := List.all_eq_true.mp none c lowered
  rw [blank] at shown
  cases shown

theorem key_eq_iff {text : Bytes} :
    (trim isBlank ((headerChars text).takeWhile (· ≠ ':'))).map Char.toLower =
      "content-length".toList ↔ IsLength text := by
  constructor
  · intro named
    exact ⟨_, between_trim _, named⟩
  · rintro ⟨title, between, named⟩
    have kept : ∀ c ∈ title, isBlank c = false := by
      intro c member
      refine not_isBlank_of_lowered ?_
      rw [← named]
      exact List.mem_map_of_mem member
    have nonempty : title ≠ [] := by
      rintro rfl
      revert named
      decide
    rw [trim_of_between between kept nonempty, named]

theorem ne_nil_of_isLength {text : Bytes} (isLength : IsLength text) : text ≠ [] := by
  rintro rfl
  exact absurd (key_eq_iff.mpr isLength) (by decide)

theorem headerLine_of_announces {text : Bytes} {count : Nat} (announces : Announces text count)
    (small : count < countLimit) : HeaderLine.of text = .bodyLength count := by
  obtain ⟨value, coloned, between⟩ := announces.counted
  have kept : ∀ c ∈ Nat.toDigits 10 count, isBlank c = false :=
    fun c member => not_isBlank_of_plain (isPlainDigit_of_mem_toDigits member)
  have few : count < 10 ^ Decimal.digitLimit :=
    calc
      count < 2 ^ 63 := small
      _ ≤ 10 ^ 63 := Nat.pow_le_pow_left (by decide) 63
      _ ≤ 10 ^ Decimal.digitLimit := Nat.pow_le_pow_right (by decide) (by decide)
  have nonempty : text.isEmpty = false := by
    simp [ne_nil_of_isLength announces.isLength]
  unfold HeaderLine.of
  rw [nonempty, if_neg Bool.false_ne_true]
  dsimp only
  rw [if_pos (key_eq_iff.mpr announces.isLength), coloned, List.drop_one, List.tail_cons,
    trim_of_between between kept Nat.toDigits_ne_nil, Decimal.whole?_toDigits few]

theorem headerLine_of_other {text : Bytes} (nonempty : text ≠ []) (other : ¬IsLength text) :
    HeaderLine.of text = .other := by
  have shown : text.isEmpty = false := by simp [nonempty]
  unfold HeaderLine.of
  rw [shown, if_neg Bool.false_ne_true]
  dsimp only
  rw [if_neg (fun named => other (key_eq_iff.mp named))]

/-! ### The line that names a length -/

theorem encodeChar_of_plain {c : Char} (plain : IsPlain c) :
    ∃ byte : UInt8, Utf8.encodeChar c = [byte] ∧ byte.toNat = c.toNat := by
  have small : c.toNat < 0x80 := plain
  refine ⟨c.toNat.toUInt8, ?_, ?_⟩
  · unfold Utf8.encodeChar
    dsimp only
    rw [if_pos small]
  · change c.toNat % 256 = c.toNat
    omega

theorem headerChars_encode {chars : List Char} (plain : ∀ c ∈ chars, IsPlain c) :
    headerChars (chars.flatMap Utf8.encodeChar) = chars := by
  induction chars with
  | nil => rfl
  | cons c rest ih =>
      have others := ih fun d member => plain d (List.mem_cons_of_mem c member)
      have small : IsPlain c := plain c List.mem_cons_self
      obtain ⟨byte, encoded, same⟩ := encodeChar_of_plain small
      have low : byte < 0x80 := by
        rw [UInt8.lt_iff_toNat_lt, same]
        exact small
      unfold headerChars at others ⊢
      rw [List.flatMap_cons, encoded, List.singleton_append, List.map_cons, if_pos low, same,
        Char.ofNat_toNat, others]

def lengthChars (count : Nat) : List Char :=
  "Content-Length: ".toList ++ Nat.toDigits 10 count

theorem shown_of_mem_lengthChars {count : Nat} {c : Char} (member : c ∈ lengthChars count) :
    32 ≤ c.toNat ∧ IsPlain c := by
  rcases List.mem_append.mp member with title | digit
  · have shown : "Content-Length: ".toList.all (fun c => decide (32 ≤ c.toNat ∧ IsPlain c)) = true := by
      decide
    exact of_decide_eq_true (List.all_eq_true.mp shown c title)
  · have bounds := (isPlainDigit_iff c).mp (isPlainDigit_of_mem_toDigits digit)
    unfold IsPlain
    omega

theorem shown_of_mem_encode {count : Nat} {byte : UInt8}
    (member : byte ∈ (lengthChars count).flatMap Utf8.encodeChar) : 32 ≤ byte.toNat := by
  obtain ⟨c, known, written⟩ := List.mem_flatMap.mp member
  have shown := shown_of_mem_lengthChars known
  obtain ⟨only, encoded, same⟩ := encodeChar_of_plain shown.2
  rw [encoded, List.mem_singleton] at written
  rw [written, same]
  exact shown.1

def lengthLine (count : Nat) : Line where
  text := (lengthChars count).flatMap Utf8.encodeChar
  within member := by
    have shown := shown_of_mem_encode member
    revert shown
    decide
  ends last := by
    have shown := shown_of_mem_encode (List.mem_of_getLast? last)
    revert shown
    decide

theorem announces_lengthLine (count : Nat) : Announces (lengthLine count).text count := by
  have chars : headerChars (lengthLine count).text = lengthChars count :=
    headerChars_encode fun c member => (shown_of_mem_lengthChars member).2
  have title : (lengthChars count).takeWhile (· ≠ ':') = "Content-Length".toList := rfl
  have value : (lengthChars count).dropWhile (· ≠ ':') = ':' :: ' ' :: Nat.toDigits 10 count := rfl
  refine ⟨⟨"Content-Length".toList, ?_, by decide⟩, ⟨' ' :: Nat.toDigits 10 count, ?_, ?_⟩⟩
  · rw [chars, title]
    exact ⟨[], [], by simp, by simp, by simp⟩
  · rw [chars, value]
  · exact ⟨[' '], [], by simp, List.forall_mem_singleton.mpr (by decide), by simp⟩

/-! ### Frames -/

/-- A frame with everything that may stand in it: blank lines, then a header of lines among which one
names the length of the body, then a blank line and the body. -/
structure Layout where
  blanks : List Line
  before : List Line
  length : Line
  after : List Line
  closing : Line
  content : String
  blank : ∀ line ∈ closing :: blanks, line.text = []
  other : ∀ line ∈ before ++ after, line.text ≠ [] ∧ ¬IsLength line.text
  announces : Announces length.text (Utf8.encode content).length
  -- no memory holds a longer body
  small : (Utf8.encode content).length < countLimit

namespace Layout

def body (layout : Layout) : Bytes :=
  Utf8.encode layout.content

def bytes (layout : Layout) : Bytes :=
  joined layout.blanks ++ (joined layout.before ++ (layout.length.bytes ++
    (joined layout.after ++ (layout.closing.bytes ++ layout.body))))

end Layout

def Layout.ofText (content : String) (small : (Utf8.encode content).length < countLimit) :
    Layout where
  blanks := []
  before := []
  length := lengthLine (Utf8.encode content).length
  after := []
  closing := Line.blank 1
  content
  blank := by simp [Line.blank]
  other := by simp
  announces := announces_lengthLine _
  small

theorem Layout.bytes_ofText {content : String}
    (small : (Utf8.encode content).length < countLimit) :
    (Layout.ofText content small).bytes =
      Utf8.encode ("Content-Length: " ++ toString (Utf8.encode content).length ++ "\r\n\r\n")
        ++ Utf8.encode content := by
  have ends : Utf8.encode "\r\n\r\n" = [13, 10, 13, 10] := rfl
  have append (a b : String) : Utf8.encode (a ++ b) = Utf8.encode a ++ Utf8.encode b := by
    simp [Utf8.encode]
  have digits (n : Nat) : (toString n).toList = Nat.toDigits 10 n := Nat.toList_repr
  have front (n : Nat) : Utf8.encode ("Content-Length: " ++ toString n) = (lengthLine n).text := by
    unfold Utf8.encode lengthLine lengthChars
    rw [String.toList_append, digits]
  rw [append, front, ends]
  simp [Layout.bytes, Layout.ofText, Layout.body, joined, Line.bytes, Line.blank, lengthLine]

/-! ### Reading line by line -/

variable [Halves]

theorem readFrom_line (count : Option Nat) (line : Line) (rest : Bytes) :
    readFrom count (line.bytes ++ rest) =
      match HeaderLine.of line.text with
      | .bodyLength count => readFrom (some count) rest
      | .malformed text =>
        (.failed (.invalid ("Invalid Content-Length header: " ++ Text.quotedBytes text)), rest)
      | .other => readFrom count rest
      | .blank =>
        match count with
        | none => readFrom none rest
        | some count => takeBody count rest := by
  obtain ⟨byte, more, found⟩ := line.bytes_cons
  have parted := line.splitLine_bytes rest
  rw [found, List.cons_append] at parted
  have reading := readFrom.eq_def count (byte :: (more ++ rest))
  dsimp only at reading
  rw [parted, ← List.cons_append, ← found, line.bareLine_bytes] at reading
  exact reading

theorem readFrom_blanks {lines : List Line} (blank : ∀ line ∈ lines, line.text = [])
    (rest : Bytes) : readFrom none (joined lines ++ rest) = readFrom none rest := by
  induction lines with
  | nil => rfl
  | cons line more ih =>
      have first : HeaderLine.of line.text = .blank := by
        rw [blank line List.mem_cons_self]
        rfl
      have others := ih fun other member => blank other (List.mem_cons_of_mem line member)
      rw [joined, List.flatMap_cons, List.append_assoc, readFrom_line, first]
      exact others

theorem readFrom_others (count : Option Nat) {lines : List Line}
    (other : ∀ line ∈ lines, line.text ≠ [] ∧ ¬IsLength line.text) (rest : Bytes) :
    readFrom count (joined lines ++ rest) = readFrom count rest := by
  induction lines with
  | nil => rfl
  | cons line more ih =>
      have first := other line List.mem_cons_self
      have others := ih fun next member => other next (List.mem_cons_of_mem line member)
      rw [joined, List.flatMap_cons, List.append_assoc, readFrom_line,
        headerLine_of_other first.1 first.2]
      exact others

/-! ### Reading frame by frame -/

namespace Layout

/-- A frame is read as the value that its content writes; content that writes none is the failure of
reading it. -/
def reading (layout : Layout) : Reading :=
  match Json.parsed layout.content with
  | .ok value => .message value
  | .error reason => .failed reason

theorem reading_of_ok {layout : Layout} {value : Json}
    (parsed : Json.parsed layout.content = .ok value) : layout.reading = .message value := by
  rw [reading, parsed]

theorem reading_of_error {layout : Layout} {reason : Failure}
    (parsed : Json.parsed layout.content = .error reason) : layout.reading = .failed reason := by
  rw [reading, parsed]

theorem readBody_body (layout : Layout) : readBody layout.body = layout.reading := by
  rw [readBody, body, Charset.decode_utf8_encode]
  rfl

theorem takeBody_body (layout : Layout) (rest : Bytes) :
    takeBody layout.body.length (layout.body ++ rest) = (layout.reading, rest) := by
  have countable : ¬countLimit ≤ layout.body.length := Nat.not_le.mpr layout.small
  have whole : ¬(layout.body ++ rest).length < layout.body.length := by
    rw [List.length_append]
    omega
  rw [takeBody, if_neg countable, if_neg whole, List.take_left, List.drop_left, readBody_body]

theorem read_bytes (layout : Layout) (rest : Bytes) :
    read (layout.bytes ++ rest) = (layout.reading, rest) := by
  have blanks : ∀ line ∈ layout.blanks, line.text = [] :=
    fun line member => layout.blank line (List.mem_cons_of_mem _ member)
  have before : ∀ line ∈ layout.before, line.text ≠ [] ∧ ¬IsLength line.text :=
    fun line member => layout.other line (List.mem_append_left _ member)
  have after : ∀ line ∈ layout.after, line.text ≠ [] ∧ ¬IsLength line.text :=
    fun line member => layout.other line (List.mem_append_right _ member)
  have closing : HeaderLine.of layout.closing.text = .blank := by
    rw [layout.blank _ List.mem_cons_self]
    rfl
  unfold read bytes
  simp only [List.append_assoc]
  rw [readFrom_blanks blanks, readFrom_others none before, readFrom_line,
    headerLine_of_announces layout.announces layout.small]
  dsimp only
  rw [readFrom_others _ after, readFrom_line, closing]
  exact layout.takeBody_body rest

end Layout

/-! ### Streams -/

def stream (layouts : List Layout) : Bytes :=
  layouts.flatMap Layout.bytes

def readTimes : Nat → Bytes → List Reading × Bytes
  | 0, bytes => ([], bytes)
  | times + 1, bytes =>
    let (first, rest) := read bytes
    let (others, unread) := readTimes times rest
    (first :: others, unread)

/-- Readings take the frames off the front of a stream one by one, and then go on behind them. -/
theorem readTimes_stream (layouts : List Layout) (times : Nat) (rest : Bytes) :
    readTimes (layouts.length + times) (stream layouts ++ rest) =
      (layouts.map Layout.reading ++ (readTimes times rest).1, (readTimes times rest).2) := by
  induction layouts with
  | nil => simp [stream]
  | cons layout more ih =>
      have first : read (stream (layout :: more) ++ rest) =
          (layout.reading, stream more ++ rest) := by
        rw [stream, List.flatMap_cons, List.append_assoc]
        exact layout.read_bytes _
      rw [List.length_cons, Nat.succ_add, readTimes, first]
      dsimp only
      rw [ih]
      rfl

theorem readTimes_finished : readTimes 1 [] = ([.finished], []) := by
  simp [readTimes, read, readFrom]

/-! ### Messages -/

theorem written_messages {messages : List Json}
    (fit : ∀ message ∈ messages, message.IsWhole ∧
      (Utf8.encode message.compact).length < countLimit ∧
      Json.parsed message.compact = .ok message) :
    ∃ layouts : List Layout, messages.mapM write = .ok (layouts.map Layout.bytes) ∧
      layouts.map Layout.reading = messages.map .message := by
  induction messages with
  | nil => exact ⟨[], rfl, rfl⟩
  | cons message more ih =>
      obtain ⟨whole, small, parsed⟩ := fit message List.mem_cons_self
      obtain ⟨layouts, written, readings⟩ :=
        ih fun other member => fit other (List.mem_cons_of_mem message member)
      have first : write message = .ok (Layout.ofText message.compact small).bytes :=
        write_eq_ok_iff.mpr ⟨whole.compact, Layout.bytes_ofText small⟩
      have reading : (Layout.ofText message.compact small).reading = .message message :=
        Layout.reading_of_ok parsed
      refine ⟨Layout.ofText message.compact small :: layouts, ?_, ?_⟩
      · rw [List.mapM_cons, first, written]
        rfl
      · rw [List.map_cons, reading, readings, List.map_cons]

/-- Frames are read back one by one, whatever they hold: each reading takes exactly one frame off the
stream, also one whose content is no value, and the reading behind the last finds the end. Messages
without halves that a reader of single values gives back are read back from the frames that are written
of them. -/
theorem frames_read_back (layouts : List Layout) (messages : List Json)
    (fit : ∀ message ∈ messages, message.IsWhole ∧
      (Utf8.encode message.compact).length < countLimit ∧
      Json.parsed message.compact = .ok message) :
    (∀ times ≤ layouts.length, readTimes times (stream layouts) =
      ((layouts.take times).map Layout.reading, stream (layouts.drop times))) ∧
    readTimes (layouts.length + 1) (stream layouts) =
      (layouts.map Layout.reading ++ [.finished], []) ∧
    ∃ frames, messages.mapM write = .ok frames ∧
      readTimes (messages.length + 1) frames.flatten =
        (messages.map .message ++ [.finished], []) := by
  have whole (layouts : List Layout) : readTimes (layouts.length + 1) (stream layouts) =
      (layouts.map Layout.reading ++ [.finished], []) := by
    have reading := readTimes_stream layouts 1 []
    rw [List.append_nil, readTimes_finished] at reading
    exact reading
  refine ⟨?_, whole layouts, ?_⟩
  · intro times within
    have parted : stream layouts = stream (layouts.take times) ++ stream (layouts.drop times) := by
      unfold stream
      rw [← List.flatMap_append, List.take_append_drop]
    have reading := readTimes_stream (layouts.take times) 0 (stream (layouts.drop times))
    rw [List.length_take_of_le within, ← parted] at reading
    simpa [readTimes] using reading
  · obtain ⟨written, frames, readings⟩ := written_messages fit
    refine ⟨written.map Layout.bytes, frames, ?_⟩
    have count : written.length = messages.length := by
      have lengths := congrArg List.length readings
      simpa using lengths
    have reading := whole written
    rw [count, readings] at reading
    exact reading

end Scalpel.Frame

/-! ### A stream of two frames -/

namespace Scalpel.Frame

open Text

local instance framingHalves : Halves where
  block := 512
  isWithin := by decide

/-- A frame with blank lines before it, with further header lines, in other letters and with lines
that end in a line feed alone. Its content looks like a frame and is no value. -/
def looseLayout : Layout where
  blanks := [Line.blank 0, Line.blank 1]
  before := [{
    text := Utf8.encode "content-type: text"
    returns := 0
    within := by decide
    ends := by decide }]
  length := {
    text := Utf8.encode " content-LENGTH :\t23 "
    returns := 0
    within := by decide
    ends := by decide }
  after := [{ text := Utf8.encode "x", within := by decide, ends := by decide }]
  closing := Line.blank 0
  content := "Content-Length: 2\r\n\r\n[]"
  blank := by decide
  other := by
    have neither : ∀ text ∈ [Utf8.encode "content-type: text", Utf8.encode "x"],
        text ≠ [] ∧ (trim isBlank ((headerChars text).takeWhile (· ≠ ':'))).map Char.toLower ≠
          "content-length".toList := by decide
    intro line member
    simp only [List.cons_append, List.nil_append, List.mem_cons, List.not_mem_nil, or_false] at member
    rw [Ne, ← key_eq_iff]
    rcases member with rfl | rfl
    · exact neither _ (by decide)
    · exact neither _ (by decide)
  announces := {
    isLength := key_eq_iff.mp (by decide)
    counted := ⟨"\t23 ".toList, by decide, ['\t'], [' '], by decide,
      List.forall_mem_singleton.mpr (by decide), List.forall_mem_singleton.mpr (by decide)⟩ }
  small := by
    have length : (Utf8.encode "Content-Length: 2\r\n\r\n[]").length = 23 := by decide
    rw [length, countLimit]
    omega

def plainLayout : Layout :=
  Layout.ofText "[\"\u00e9\"]" (by
    have length : (Utf8.encode "[\"\u00e9\"]").length = 6 := by decide
    rw [length, countLimit]
    omega)

theorem frames_read_back_of_two :
    readTimes 1 (stream [looseLayout, plainLayout]) =
      ([.failed (.unreadable ⟨.noValue, 1, 1, 0⟩)], stream [plainLayout]) ∧
    readTimes 3 (stream [looseLayout, plainLayout]) =
      ([.failed (.unreadable ⟨.noValue, 1, 1, 0⟩), .message (.arr [.str "\u00e9"]), .finished], []) ∧
    ∃ frames, [Json.arr [.str "\u00e9"], .str "a"].mapM write = .ok frames ∧
      readTimes 3 frames.flatten =
        ([.message (.arr [.str "\u00e9"]), .message (.str "a"), .finished], []) := by
  have noValue : Json.parsed looseLayout.content = .error (.unreadable ⟨.noValue, 1, 1, 0⟩) := by
    have unread : ((Json.read looseLayout.content).tryCatch fun reason =>
        if reason = ⟨.noValue, 1, 1, 0⟩ then .error reason else .ok .null).isOk = false := by
      decide +kernel
    unfold Json.parsed
    cases found : Json.read looseLayout.content with
    | ok value =>
        rw [found] at unread
        cases unread
    | error reason =>
        rw [found] at unread
        by_cases same : reason = ⟨.noValue, 1, 1, 0⟩
        · rw [same]
        · simp [Except.tryCatch, Except.isOk, Except.toBool, same] at unread
  have value : Json.parsed "[\"\u00e9\"]" = .ok (.arr [.str "\u00e9"]) := by cbv
  have loose : looseLayout.reading = .failed (.unreadable ⟨.noValue, 1, 1, 0⟩) :=
    Layout.reading_of_error noValue
  have plain : plainLayout.reading = .message (.arr [.str "\u00e9"]) :=
    Layout.reading_of_ok value
  have fit : ∀ message ∈ [Json.arr [.str "\u00e9"], .str "a"], message.IsWhole ∧
      (Utf8.encode message.compact).length < countLimit ∧
      Json.parsed message.compact = .ok message := by
    intro message member
    simp only [List.mem_cons, List.not_mem_nil, or_false] at member
    rcases member with rfl | rfl
    · have written : (Json.arr [.str "\u00e9"]).compact = "[\"\u00e9\"]" := by cbv
      have text : Text.IsWhole "\u00e9" := fun c member => by
        rw [List.mem_singleton.mp member]
        decide
      have length : (Utf8.encode "[\"\u00e9\"]").length = 6 := by decide
      rw [written, length, countLimit]
      exact ⟨.arr (by simpa using Json.IsWhole.str text), by omega, value⟩
    · have written : (Json.str "a").compact = "\"a\"" := by cbv
      have length : (Utf8.encode "\"a\"").length = 3 := by decide
      rw [written, length, countLimit]
      exact ⟨.str (Text.isWhole_of_plain (Text.isPlain_of_all (by decide))), by omega, by cbv⟩
  obtain ⟨parts, whole, written⟩ :=
    frames_read_back [looseLayout, plainLayout] [Json.arr [.str "\u00e9"], .str "a"] fit
  refine ⟨?_, ?_, written⟩
  · have first := parts 1 (by decide)
    simpa [loose] using first
  · simpa [loose, plain] using whole

end Scalpel.Frame
