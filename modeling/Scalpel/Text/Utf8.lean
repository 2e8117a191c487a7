/-!
Text as bytes. A byte sequence is read from the left in pieces: each piece is a well-formed
character or the longest faulty beginning of one. Strict reading stops at the first faulty piece and
says where it lies and what is wrong with it; lenient reading puts one replacement character in the
place of each faulty piece.
-/

set_option autoImplicit false

namespace Scalpel

abbrev Bytes := List UInt8

namespace Utf8

/-- What is wrong with a faulty piece of a byte sequence. -/
inductive Fault where
  | badStart
  | badContinuation
  | truncated
deriving DecidableEq, Repr

def Fault.message : Fault → String
  | .badStart => "invalid start byte"
  | .badContinuation => "invalid continuation byte"
  | .truncated => "unexpected end of data"

/-- One piece of a byte sequence: a character, or a fault, with the number of bytes it covers after
the first one. -/
inductive Piece where
  | char (value : Char) (more : Nat)
  | fault (reason : Fault) (more : Nat)

def secondFrom (first : UInt8) : UInt8 :=
  if first = 0xE0 then 0xA0 else if first = 0xF0 then 0x90 else 0x80

/-- The highest second byte that may follow a first byte: surrogates and values past the last code
point are not well formed. -/
def secondTo (first : UInt8) : UInt8 :=
  if first = 0xED then 0x9F else if first = 0xF4 then 0x8F else 0xBF

def isContinuation (byte : UInt8) : Bool :=
  0x80 ≤ byte && byte ≤ 0xBF

private def low (byte : UInt8) : Nat :=
  byte.toNat % 64

/-- The piece that begins with the byte `first`, where `rest` follows it. -/
def piece (first : UInt8) (rest : Bytes) : Piece :=
  if first < 0x80 then .char (Char.ofNat first.toNat) 0
  else if first < 0xC2 then .fault .badStart 0
  else if first < 0xE0 then
    match rest with
    | [] => .fault .truncated 0
    | second :: _ =>
      if isContinuation second then .char (Char.ofNat (first.toNat % 32 * 64 + low second)) 1
      else .fault .badContinuation 0
  else if first < 0xF5 then
    match rest with
    | [] => .fault .truncated 0
    | second :: rest =>
      if second < secondFrom first || secondTo first < second then .fault .badContinuation 0
      else
        match rest with
        | [] => .fault .truncated 1
        | third :: rest =>
          if !isContinuation third then .fault .badContinuation 1
          else if first < 0xF0 then
            .char (Char.ofNat ((first.toNat % 16 * 64 + low second) * 64 + low third)) 2
          else
            match rest with
            | [] => .fault .truncated 2
            | fourth :: _ =>
              if isContinuation fourth then
                .char (Char.ofNat
                  (((first.toNat % 8 * 64 + low second) * 64 + low third) * 64 + low fourth)) 3
              else .fault .badContinuation 2
  else .fault .badStart 0

/-- Where strict reading stopped: the first faulty byte, the number of faulty bytes and the
reason. -/
structure Stop where
  first : Nat
  count : Nat
  reason : Fault
deriving DecidableEq, Repr

def decodeFrom (offset : Nat) : Bytes → Except Stop (List Char)
  | [] => .ok []
  | first :: rest =>
    match piece first rest with
    | .fault reason more => .error { first := offset, count := more + 1, reason }
    | .char value more => (decodeFrom (offset + more + 1) (rest.drop more)).map (value :: ·)
termination_by bytes => bytes.length
decreasing_by simp only [List.length_cons, List.length_drop]; omega

def decode (bytes : Bytes) : Except Stop String :=
  (decodeFrom 0 bytes).map String.ofList

def decodeLenient : Bytes → List Char
  | [] => []
  | first :: rest =>
    match piece first rest with
    | .fault _ more => '\uFFFD' :: decodeLenient (rest.drop more)
    | .char value more => value :: decodeLenient (rest.drop more)
termination_by bytes => bytes.length
decreasing_by all_goals (simp only [List.length_cons, List.length_drop]; omega)

def encodeChar (c : Char) : Bytes :=
  let n := c.toNat
  if n < 0x80 then [n.toUInt8]
  else if n < 0x800 then [(0xC0 + n / 64).toUInt8, (0x80 + n % 64).toUInt8]
  else if n < 0x10000 then
    [(0xE0 + n / 4096).toUInt8, (0x80 + n / 64 % 64).toUInt8, (0x80 + n % 64).toUInt8]
  else
    [(0xF0 + n / 262144).toUInt8, (0x80 + n / 4096 % 64).toUInt8, (0x80 + n / 64 % 64).toUInt8,
      (0x80 + n % 64).toUInt8]

def encode (text : String) : Bytes :=
  text.toList.flatMap encodeChar

end Utf8

end Scalpel
