import Scalpel.Failure
import Scalpel.Json.Writer
import Scalpel.Text.Blank
import Scalpel.Text.Charset

/-!
Messages in a stream of bytes. A frame is a header, a blank line and a body; the header names the
number of bytes of the body, which is a JSON value in UTF-8. Further header lines and blank lines
before the header do not count. Reading takes a whole frame off the front of the stream, also when its
body is no JSON value, so that the next reading begins at the next frame.
-/

set_option autoImplicit false

namespace Scalpel.Frame

open Scalpel

def splitLine : Bytes → Bytes × Bytes
  | [] => ([], [])
  | byte :: rest =>
    if byte = 10 then ([byte], rest)
    else
      let (line, after) := splitLine rest
      (byte :: line, after)

theorem length_splitLine_le (bytes : Bytes) : (splitLine bytes).2.length ≤ bytes.length := by
  induction bytes with
  | nil => simp [splitLine]
  | cons byte rest ih =>
    simp only [splitLine]
    split
    · simp
    · simp only [List.length_cons]; omega

theorem length_splitLine_lt (byte : UInt8) (rest : Bytes) :
    (splitLine (byte :: rest)).2.length < (byte :: rest).length := by
  have shorter := length_splitLine_le rest
  simp only [splitLine]
  split
  · simp
  · simp only [List.length_cons]; omega

def bareLine (line : Bytes) : Bytes :=
  (line.reverse.dropWhile fun byte => byte = 10 || byte = 13).reverse

variable [Halves]

/-- A message as a frame. A message with halves of characters has no bytes. -/
def write (message : Json) : Outcome Bytes := do
  let body ← Charset.utf8.encode message.compact
  return Utf8.encode ("Content-Length: " ++ toString body.length ++ "\r\n\r\n") ++ body

inductive HeaderLine where
  | blank
  | bodyLength (count : Nat)
  | malformed (line : Bytes)
  | other
deriving DecidableEq, Repr

def headerChars (line : Bytes) : List Char :=
  line.map fun byte => if byte < 0x80 then Char.ofNat byte.toNat else '\uFFFD'

/-- The meaning of a line without its end. The key is read without regard to case and to blanks
around it. -/
def HeaderLine.of (line : Bytes) : HeaderLine :=
  if line.isEmpty then .blank
  else
    let chars := headerChars line
    let key := (Text.trim Text.isBlank (chars.takeWhile (· ≠ ':'))).map Char.toLower
    if key = "content-length".toList then
      let value := Text.trim Text.isBlank ((chars.dropWhile (· ≠ ':')).drop 1)
      match Decimal.whole? (String.ofList value) with
      | some (.ofNat count) => .bodyLength count
      | _ => .malformed line
    else .other

/-- Sizes are signed words of 64 bits; so many bytes cannot be asked for. -/
def countLimit : Nat := 2 ^ 63

/-- What a reading found. A body may end before the length that its header names. -/
inductive Reading where
  | message (value : Json)
  | finished
  | truncated (expected got : Nat)
  | failed (reason : Failure)

def truncation (expected got : Nat) : Failure :=
  .invalid ("Truncated message body: expected " ++ toString expected ++ " bytes, got "
    ++ toString got)

def readBody (body : Bytes) : Reading :=
  match Charset.utf8.decode body with
  | .error reason => .failed reason
  | .ok text =>
    match Json.parsed text with
    | .ok value => .message value
    | .error reason => .failed reason

def takeBody (count : Nat) (bytes : Bytes) : Reading × Bytes :=
  if countLimit ≤ count then
    (.failed (.unbounded "cannot fit 'int' into an index-sized integer"), bytes)
  else if bytes.length < count then (.truncated count bytes.length, [])
  else (readBody (bytes.take count), bytes.drop count)

def readFrom (count : Option Nat) : Bytes → Reading × Bytes
  | [] => (.finished, [])
  | byte :: rest =>
    let line := bareLine (splitLine (byte :: rest)).1
    let after := (splitLine (byte :: rest)).2
    match HeaderLine.of line with
    | .bodyLength count => readFrom (some count) after
    | .malformed line =>
      (.failed (.invalid ("Invalid Content-Length header: " ++ Text.quotedBytes line)), after)
    | .other => readFrom count after
    | .blank =>
      match count with
      | none => readFrom none after
      | some count => takeBody count after
termination_by bytes => bytes.length
decreasing_by all_goals exact length_splitLine_lt byte rest

def read (bytes : Bytes) : Reading × Bytes :=
  readFrom none bytes

end Scalpel.Frame
