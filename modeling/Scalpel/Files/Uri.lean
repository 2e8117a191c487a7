import Scalpel.Files.Canonical

/-!
Uris of files. The path of a file becomes a uri by escaping every byte outside letters, digits and
four marks; a uri becomes a path by taking the part between its authority and its query and undoing
the escapes. A text that is no file uri stands for a path.
-/

set_option autoImplicit false

namespace Scalpel.Uri

open Scalpel

variable [Halves]

def scheme : List Char :=
  "file://".toList

def isFile (uri : String) : Bool :=
  scheme.isPrefixOf uri.toList

def isPlain (byte : UInt8) : Bool :=
  let c := Char.ofNat byte.toNat
  byte < 0x80 && (c.isAlphanum || c = '_' || c = '.' || c = '-' || c = '~' || c = '/')

def escapeByte (byte : UInt8) : List Char :=
  if isPlain byte then [Char.ofNat byte.toNat]
  else '%' :: (Text.hex 2 byte.toNat).map Char.toUpper

def ofAbsolute (path : List Char) : String :=
  let path := (Path.Parts.of path).text
  String.ofList (scheme ++ (path.flatMap Path.charBytes).flatMap escapeByte)

def ofPath (directory path : String) : String :=
  ofAbsolute (Path.absolute directory.toList path.toList)

def ofPath? (directory path : String) : Outcome String := do
  let _ ← Path.bytes (Path.absolute directory.toList path.toList)
  return ofPath directory path

def unescapeBytes : List Char → Bytes
  | '%' :: a :: b :: rest =>
    match Json.hexDigit? a, Json.hexDigit? b with
    | some high, some low => (high * 16 + low).toUInt8 :: unescapeBytes rest
    | _, _ => 37 :: unescapeBytes (a :: b :: rest)
  | c :: rest => c.toNat.toUInt8 :: unescapeBytes rest
  | [] => []

def runs (text : List Char) : List (List Char) :=
  text.splitBy fun a b => (a.toNat < 0x80) = (b.toNat < 0x80)

/-- A text with its escapes undone. Escaped bytes that are no characters become replacement
characters. -/
def unescape (text : List Char) : List Char :=
  (runs text).flatMap fun run =>
    if run.any fun c => c.toNat < 0x80 then Utf8.decodeLenient (unescapeBytes run) else run

private def isHexGroup (group : List Char) : Bool :=
  0 < group.length && group.length ≤ 4 && group.all fun c => (Json.hexDigit? c).isSome

def isDotted (text : List Char) : Bool :=
  let groups := text.splitOn '.'
  groups.length = 4 && groups.all fun group =>
    0 < group.length && group.length ≤ 3 && group.all Text.isPlainDigit
      && Decimal.ofDigits group ≤ 255 && (group.length = 1 || group.head? ≠ some '0')

private def groupCount? (groups : List (List Char)) : Option Nat :=
  match groups.reverse with
  | [] => some 0
  | last :: before =>
    if !before.all isHexGroup then none
    else if isHexGroup last then some groups.length
    else if isDotted last then some (groups.length + 1)
    else none

private def splitPair : List Char → Option (List Char × List Char)
  | ':' :: ':' :: rest => some ([], rest)
  | c :: rest => (splitPair rest).map fun (before, after) => (c :: before, after)
  | [] => none

/-- An address of eight groups, of which one run may be left out, with an optional zone. -/
def isAddress (text : List Char) : Bool :=
  let address := text.takeWhile (· ≠ '%')
  let zone := text.dropWhile (· ≠ '%')
  let groups (part : List Char) : Option Nat :=
    if part.isEmpty then some 0 else groupCount? (part.splitOn ':')
  let zoned := zone.isEmpty || (1 < zone.length && !(zone.drop 1).contains '%')
  zoned &&
    match splitPair address with
    | none => groupCount? (address.splitOn ':') = some 8
    | some (before, after) =>
      -- dotted numbers stand only at the very end
      match (if before.isEmpty then some 0
        else if (before.splitOn ':').all isHexGroup then some (before.splitOn ':').length else none),
        groups after with
      | some a, some b => a + b ≤ 7
      | _, _ => false

def checkHost (host : List Char) : Outcome Unit :=
  match host with
  | 'v' :: rest =>
    let version := rest.takeWhile fun c => (Json.hexDigit? c).isSome
    match rest.drop version.length with
    | '.' :: c :: more =>
      if !version.isEmpty && !(c :: more).contains '\n' then .ok ()
      else .error (.invalid "IPvFuture address is invalid")
    | _ => .error (.invalid "IPvFuture address is invalid")
  | host =>
    if isAddress host then .ok ()
    else if isDotted host then .error (.invalid "An IPv4 address cannot be in brackets")
    else .error (.invalid
      (Text.quoted (String.ofList host) ++ " does not appear to be an IPv4 or IPv6 address"))

/-- Characters that stand for a text with a mark that bounds the parts of a uri: account of, double
question marks, double colon equal, and the small, tall and wide forms of the marks themselves. -/
def marksInDisguise : List Char :=
  ['\u2047', '\u2048', '\u2049', '\u2100', '\u2101', '\u2105', '\u2106', '\u2a74', '\ufe13',
    '\ufe16', '\ufe55', '\ufe56', '\ufe5f', '\ufe6b', '\uff03', '\uff0f', '\uff1a', '\uff1f',
    '\uff20']

def afterLast (mark : Char) (text : List Char) : List Char :=
  (text.reverse.takeWhile (· ≠ mark)).reverse

/-- The host of an authority that has brackets somewhere. Brackets of the host stand at its ends, and
only a port may follow them. -/
def bracketedHost (authority : List Char) : Outcome (List Char) :=
  let place := afterLast '@' authority
  match place with
  | '[' :: inner =>
    match inner.dropWhile (· ≠ ']') with
    | [] | [_] | _ :: ':' :: _ => .ok (inner.takeWhile (· ≠ ']'))
    | _ => .error (.invalid "Invalid IPv6 URL")
  | place =>
    if place.contains '[' then .error (.invalid "Invalid IPv6 URL")
    else .ok (place.takeWhile (· ≠ ':'))

/-- Where an authority has brackets, they come in pairs and its host is an address; and no mark
stands in it in disguise. -/
def checkAuthority (authority : List Char) : Outcome Unit := do
  if authority.contains '[' != authority.contains ']' then throw (.invalid "Invalid IPv6 URL")
  if authority.contains '[' then checkHost (← bracketedHost authority)
  if authority.any marksInDisguise.contains then
    throw (.invalid ("netloc '" ++ String.ofList authority
      ++ "' contains invalid characters under NFKC normalization"))

def toPath (uri : String) : Outcome String := do
  if !isFile uri then return uri
  let body := (uri.toList.filter fun c => c ≠ '\t' && c ≠ '\r' && c ≠ '\n').drop scheme.length
  let isEnd (c : Char) : Bool := c = '/' || c = '?' || c = '#'
  checkAuthority (body.takeWhile fun c => !isEnd c)
  let path := (body.dropWhile fun c => !isEnd c).takeWhile fun c => c ≠ '#' && c ≠ '?'
  return String.ofList (unescape path)

/-- The path of a uri below a root, or the whole path where it does not lie below it. -/
def toRelative (uri root : String) : Outcome String := do
  let path ← toPath uri
  match (Path.Parts.of path.toList).below? (Path.Parts.of root.toList) with
  | some below => return String.ofList below.text
  | none => return path

/-- The uri of a file that is named by a uri, by an absolute path or by a path below a root. -/
def normalize (directory uri root : String) : Outcome String :=
  if isFile uri then .ok uri
  else if Path.isAbsolute uri.toList then ofPath? directory uri
  else ofPath? directory (String.ofList (Path.join root.toList uri.toList))

end Scalpel.Uri

namespace Scalpel.FileTree

variable [Halves]

/-- The canonical path of a document that is named by a uri or a path and must lie within a root. -/
def resolveDocument (t : FileTree) (uri root : String) : Outcome String := do
  let path ← Uri.toPath uri
  if Path.isAbsolute path.toList then
    if ← t.isWithin path root then t.canonical? path
    else fail (.outsideRoot path (← t.canonical? root) { uri := some uri })
  else t.safeJoin root path

end Scalpel.FileTree
