import Scalpel.Text.Coding.Designated
import Scalpel.Text.Coding.Domain
import Scalpel.Text.Coding.Escaped
import Scalpel.Text.Coding.Names
import Scalpel.Text.Coding.Page
import Scalpel.Text.Coding.Taiwanese
import Scalpel.Text.Coding.Unicode

/-!
The encodings of files by their names. A name is looked up without regard to case and to the marks
between its parts. Reading fails at the first byte that is no text of the encoding, writing at the
first character that the encoding does not have; the failure says where and why.
-/

set_option autoImplicit false

namespace Scalpel

open Coding (UnitSize Designated)
open Coding.Japanese (Edition)

variable [Halves]

inductive Charset where
  | utf8
  | utf8Marked
  | utf7
  /-- Units of a size, in an order of bytes; without an order, a mark at the front gives it. -/
  | units (size : UnitSize) (bigEndian : Option Bool)
  | ascii
  | latin1
  | page (name : String)
  | escaped (raw : Bool)
  | japaneseWide
  | japanesePacked
  | japaneseWideLevels (edition : Edition)
  | japanesePackedLevels (edition : Edition)
  | japaneseAdded
  | chinese
  | chineseFull
  | chineseLatest
  | chineseTilde
  | taiwanese
  | hongKong
  | taiwaneseChanged
  | korean
  | koreanUnified
  | koreanLetters
  | designated (scheme : Designated)
  | punycode
  | domain
  /-- The encoding that has no texts at all. -/
  | textless
deriving DecidableEq, Repr

namespace Charset

/-! ### Names -/

/-- A name in lower case, with one underscore for each run of other marks than letters, digits and
dots. -/
def normalized (name : String) : String :=
  let rec go : Bool → List Char → List Char
    | _, [] => []
    | gap, c :: rest =>
      if c.isAlphanum || c = '.' then
        (if gap then ['_', c.toLower] else [c.toLower]) ++ go false rest
      else go true rest
  let folded := go false name.toList
  String.ofList (if folded.head? = some '_' then folded.drop 1 else folded)

def special : List (String × Charset) :=
  [("utf_8", .utf8), ("utf_8_sig", .utf8Marked), ("utf_7", .utf7),
    ("utf_16", .units .two none), ("utf_16_le", .units .two (some false)),
    ("utf_16_be", .units .two (some true)),
    ("utf_32", .units .four none), ("utf_32_le", .units .four (some false)),
    ("utf_32_be", .units .four (some true)),
    ("ascii", .ascii), ("latin_1", .latin1), ("iso8859_1", .latin1), ("charmap", .latin1),
    ("unicode_escape", .escaped false), ("raw_unicode_escape", .escaped true),
    ("euc_jp", .japaneseWide), ("euc_jisx0213", .japaneseWideLevels .first),
    ("euc_jis_2004", .japaneseWideLevels .second),
    ("shift_jis", .japanesePacked), ("shift_jisx0213", .japanesePackedLevels .first),
    ("shift_jis_2004", .japanesePackedLevels .second), ("cp932", .japaneseAdded),
    ("gb2312", .chinese), ("gbk", .chineseFull), ("gb18030", .chineseLatest), ("hz", .chineseTilde),
    ("big5", .taiwanese), ("big5hkscs", .hongKong),
    ("cp950", .taiwaneseChanged),
    ("euc_kr", .korean), ("cp949", .koreanUnified), ("johab", .koreanLetters),
    ("iso2022_jp", .designated .forJapanese), ("iso2022_jp_1", .designated .withFurther),
    ("iso2022_jp_2", .designated .withOthers), ("iso2022_jp_ext", .designated .withNarrow),
    ("iso2022_jp_3", .designated (.withLevels .first)),
    ("iso2022_jp_2004", .designated (.withLevels .second)),
    ("iso2022_kr", .designated .forKorean),
    ("punycode", .punycode), ("idna", .domain), ("undefined", .textless)]

/-- The own name of the encoding with a normalized name. Dots stand for underscores in other names,
not in own names. -/
def ownName? (name : String) : Option String :=
  let byOther (name : String) : Option String :=
    (Coding.names.find? fun entry => entry.2.contains name).map (·.1)
  let undotted := String.ofList (name.toList.map fun c => if c = '.' then '_' else c)
  match byOther name, byOther undotted with
  | some own, _ | none, some own => some own
  | none, none => (Coding.names.find? fun entry => entry.1 = name).map (·.1)

/-- The encoding of a name. Some names stand for ways to write bytes that are no texts. -/
def find (name : String) : Outcome Charset :=
  match if name = "locale" then some "utf_8" else ownName? (normalized name) with
  | none => .error (.unknownCharset name)
  | some own =>
    match special.lookup own with
    | some charset => .ok charset
    | none =>
      if (Coding.pages.lookup own).isSome then .ok (.page own) else .error (.unfitCharset name)

/-! ### Reading and writing -/

def cells (name : String) : Coding.Page :=
  Coding.Page.ofCells ((Coding.pages.lookup name).getD "")

def wideLabel : Edition → String
  | .first => "euc_jisx0213"
  | .second => "euc_jis_2004"

def packedLabel : Edition → String
  | .first => "shift_jisx0213"
  | .second => "shift_jis_2004"

def encode (charset : Charset) (text : String) : Outcome Bytes :=
  let chars := text.toList
  let pairs (label : String) (bytes? : Char → Option Bytes) : Outcome Bytes :=
    Coding.writeBy label () (Coding.Chinese.writePairs bytes?) chars
  match charset with
  | .utf8 => Coding.writeUtf8 chars
  | .utf8Marked => (Coding.mark8 ++ ·) <$> Coding.writeUtf8 chars
  | .utf7 => .ok (Coding.Seven.write chars)
  | .units size none => size.writeMarked chars
  | .units size (some bigEndian) => size.writePlain bigEndian chars
  | .ascii => Coding.writeBelow "ascii" 128 chars
  | .latin1 => Coding.writeBelow "latin-1" 256 chars
  | .page name => (cells name).write chars
  | .escaped raw => .ok (Coding.Escaped.write raw chars)
  | .japaneseWide => Coding.writeBy "euc_jp" () Coding.Japanese.writeWide chars
  | .japanesePacked => Coding.writeBy "shift_jis" () Coding.Japanese.writePacked chars
  | .japaneseWideLevels edition => Coding.writeAhead (wideLabel edition) () edition.writeWide chars
  | .japanesePackedLevels edition =>
    Coding.writeAhead (packedLabel edition) () edition.writePacked chars
  | .japaneseAdded => Coding.writeBy "cp932" () Coding.Japanese.writeAdded chars
  | .chinese => pairs "gb2312" Coding.Chinese.planeBytes?
  | .chineseFull => pairs "gbk" Coding.Chinese.fullBytes?
  | .chineseLatest => pairs "gb18030" Coding.Chinese.latestBytes?
  | .chineseTilde => Coding.writeBy "hz" false Coding.Chinese.writeTilde chars
  | .taiwanese => pairs "big5" Coding.Taiwanese.bytes?
  | .hongKong => Coding.writeAhead "big5hkscs" () Coding.HongKong.write chars
  | .taiwaneseChanged => pairs "cp950" Coding.Taiwanese.changedBytes?
  | .korean => pairs "euc_kr" Coding.Korean.bytes?
  | .koreanUnified => pairs "cp949" Coding.Korean.unifiedBytes?
  | .koreanLetters => pairs "johab" Coding.Korean.letterBytes?
  | .designated scheme => Coding.writeAhead scheme.label {} scheme.write chars
  | .punycode => .ok (Coding.Punycode.write chars)
  | .domain => Coding.Domain.write chars
  | .textless => .error (.miscoded "undefined encoding")

def decode (charset : Charset) (bytes : Bytes) : Outcome String :=
  let pairs (label : String) (char? : UInt8 → UInt8 → Option Char) : Outcome (List Char) :=
    Coding.readBy label () (Coding.Chinese.readPairs char?) bytes
  String.ofList <$>
    match charset with
    | .utf8 => Coding.readUtf8 bytes
    | .utf8Marked => Coding.readMarked bytes
    | .utf7 => Coding.Seven.read bytes
    | .units size none => size.readMarked bytes
    | .units size (some bigEndian) => size.readFrom bigEndian 0 bytes
    | .ascii => Coding.readAscii bytes
    | .latin1 => .ok (bytes.map fun byte => Char.ofNat byte.toNat)
    | .page name => (cells name).read bytes
    | .escaped raw => Coding.Escaped.read raw bytes
    | .japaneseWide => Coding.readBy "euc_jp" () Coding.Japanese.readWide bytes
    | .japanesePacked => Coding.readBy "shift_jis" () Coding.Japanese.readPacked bytes
    | .japaneseWideLevels edition => Coding.readBy (wideLabel edition) () edition.readWide bytes
    | .japanesePackedLevels edition => Coding.readBy (packedLabel edition) () edition.readPacked bytes
    | .japaneseAdded => Coding.readBy "cp932" () Coding.Japanese.readAdded bytes
    | .chinese => pairs "gb2312" Coding.Chinese.planeChar?
    | .chineseFull => pairs "gbk" Coding.Chinese.fullChar?
    | .chineseLatest => Coding.readBy "gb18030" () Coding.Chinese.readLatest bytes
    | .chineseTilde => Coding.readBy "hz" false Coding.Chinese.readTilde bytes
    | .taiwanese => pairs "big5" Coding.Taiwanese.char?
    | .hongKong => Coding.readBy "big5hkscs" () Coding.HongKong.read bytes
    | .taiwaneseChanged => pairs "cp950" Coding.Taiwanese.changedChar?
    | .korean => Coding.readBy "euc_kr" () Coding.Korean.read bytes
    | .koreanUnified => pairs "cp949" Coding.Korean.unifiedChar?
    | .koreanLetters => pairs "johab" Coding.Korean.letterChar?
    | .designated scheme => Coding.readBy scheme.label {} scheme.read bytes
    | .punycode => Coding.Punycode.read bytes
    | .domain => Coding.Domain.read bytes
    | .textless => .error (.miscoded "undefined encoding")

end Charset

end Scalpel

/-! ### Ends of lines

A text that is read as lines has one character at the end of a line, whichever of
the three usual ends it was written with.
-/

namespace Scalpel.Text

variable [Halves]

def unifyNewlines : List Char → List Char
  | [] => []
  | '\r' :: '\n' :: rest => '\n' :: unifyNewlines rest
  | '\r' :: rest => '\n' :: unifyNewlines rest
  | c :: rest => c :: unifyNewlines rest

def bareNewlines : List Char → List Char
  | [] => []
  | '\r' :: '\n' :: rest => '\n' :: bareNewlines rest
  | c :: rest => c :: bareNewlines rest

def endsLine (c : Char) : Bool :=
  ['\n', '\r', '\x0b', '\x0c', '\x1c', '\x1d', '\x1e', '\u0085', '\u2028', '\u2029'].contains c

def lines (text : String) : List String :=
  (bareNewlines text.toList).splitOnP endsLine |>.map String.ofList

def ofFile (bytes : Bytes) : Outcome String := do
  let text ← Charset.utf8.decode bytes
  return String.ofList (unifyNewlines text.toList)

end Scalpel.Text
