import Scalpel.Text.Half
import Scalpel.Text.Utf8

/-!
Paths as text. A path is a sequence of names between slashes; it is absolute when it begins with a
slash. Two slashes at the very front, and not three, are kept apart from one. The functions here do
not look at any files.
-/

set_option autoImplicit false

namespace Scalpel.Path

def isAbsolute (path : List Char) : Bool :=
  path.head? = some '/'

def names (path : List Char) : List (List Char) :=
  path.splitOn '/'

def joinNames (names : List (List Char)) : List Char :=
  List.intercalate ['/'] names

/-- A path that is meant from a directory: an absolute one stands for itself. -/
def join (base path : List Char) : List Char :=
  if isAbsolute path then path
  else if base.isEmpty || base.getLast? = some '/' then base ++ path
  else base ++ '/' :: path

def rootSlashes (path : List Char) : List Char :=
  match path with
  | '/' :: '/' :: '/' :: _ => ['/']
  | '/' :: '/' :: _ => ['/', '/']
  | '/' :: _ => ['/']
  | _ => []

/-- Names without empty ones and single dots, where two dots take back the name before them; at the
root there is nothing to take back. The names done so far are in reverse order. -/
def collapse (absolute : Bool) : List (List Char) → List (List Char) → List (List Char)
  | done, [] => done.reverse
  | done, name :: rest =>
    if name = [] || name = ['.'] then collapse absolute done rest
    else if name = ['.', '.'] then
      match done with
      | [] => if absolute then collapse absolute [] rest else collapse absolute [name] rest
      | last :: before =>
        if last = ['.', '.'] then collapse absolute (name :: done) rest
        else collapse absolute before rest
    else collapse absolute (name :: done) rest

def normalize (path : List Char) : List Char :=
  let root := rootSlashes path
  let body := root ++ joinNames (collapse (isAbsolute path) [] (names path))
  if body.isEmpty then ['.'] else body

def absolute (directory path : List Char) : List Char :=
  normalize (if isAbsolute path then path else join directory path)

/-- The name at the end of a path, and what stands before it without the slashes between the two. -/
def split (path : List Char) : List Char × List Char :=
  let name := (path.reverse.takeWhile (· ≠ '/')).reverse
  let head := path.take (path.length - name.length)
  let trimmed := (head.reverse.dropWhile (· = '/')).reverse
  (if trimmed.isEmpty then head else trimmed, name)

def baseName (path : List Char) : List Char :=
  (split path).2

def directory (path : List Char) : List Char :=
  (split path).1

/-- The extension of a path, from the last dot of its last name on. Dots at the front of the name
begin no extension. -/
def extension (path : List Char) : List Char :=
  let name := (baseName path).dropWhile (· = '.')
  if name.contains '.' then '.' :: (name.reverse.takeWhile (· ≠ '.')).reverse else []

/-- A path in parts: the slashes at its front, and its names without empty ones and single dots. -/
structure Parts where
  root : List Char
  names : List (List Char)
deriving DecidableEq, Repr

def Parts.of (path : List Char) : Parts :=
  { root := rootSlashes path
    names := (Path.names path).filter fun name => name ≠ [] && name ≠ ['.'] }

def Parts.text (p : Parts) : List Char :=
  let body := p.root ++ joinNames p.names
  if body.isEmpty then ['.'] else body

def Parts.below? (p base : Parts) : Option Parts :=
  if base.root.isEmpty && base.names.isEmpty then
    if p.root.isEmpty then some p else none
  else if p.root = base.root && base.names.isPrefixOf p.names then
    some { root := [], names := p.names.drop base.names.length }
  else none

/-! ### Names of files

A file system keeps names as bytes; as a text, a byte that is no part of a
character is half of a pair. Several texts may write the bytes of one name, and one of them is the
text that the file system shows.
-/

variable [Halves]

def strayByte? (c : Char) : Option UInt8 :=
  match Half.unit? c with
  | some unit => if 0xDC80 ≤ unit && unit < 0xDD00 then some (unit - 0xDC00).toUInt8 else none
  | none => none

def charBytes (c : Char) : Bytes :=
  match strayByte? c with
  | some byte => [byte]
  | none => Utf8.encodeChar c

def hasBytes (c : Char) : Bool :=
  !Half.isHalf c || (strayByte? c).isSome

def bytesOf (text : List Char) : Bytes :=
  text.flatMap charBytes

/-- The text of bytes, in which a byte that is no part of a text is half of a character. -/
def ofBytes : Bytes → List Char
  | [] => []
  | first :: rest =>
    match Utf8.piece first rest with
    | .fault _ _ => Half.ofUnit (0xDC00 + first.toNat) :: ofBytes rest
    | .char value more => value :: ofBytes (rest.drop more)
termination_by bytes => bytes.length
decreasing_by all_goals (simp only [List.length_cons, List.length_drop]; omega)

def shown (text : List Char) : List Char :=
  if text.any Half.isHalf && text.all hasBytes then ofBytes (bytesOf text) else text

end Scalpel.Path
