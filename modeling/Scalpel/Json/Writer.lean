import Scalpel.Decimal.Shortest
import Scalpel.Json.Basic
import Scalpel.Text.Half
import Scalpel.Text.Quoted

/-!
JSON text. The compact form goes over the wire: no blanks, and characters outside ASCII stand for
themselves, halves of characters too, so that not every compact form can be written as bytes. The indented form is printed for people: two blanks for each level, an empty list or
object on one line, and every character but the printable ones of ASCII escaped as UTF-16 units.
-/

set_option autoImplicit false

namespace Scalpel.Json

open Scalpel

variable [Halves]

def unitEscape (unit : Nat) : List Char :=
  '\\' :: 'u' :: Text.hex 4 unit

def wideEscape (c : Char) : List Char :=
  let n := Half.number c
  if n < 0x10000 then unitEscape n
  else unitEscape (0xD800 + (n - 0x10000) / 0x400) ++ unitEscape (0xDC00 + (n - 0x10000) % 0x400)

/-- One character of a text between double quotes; `plain` says that characters outside ASCII stand
for themselves. -/
def writtenChar (plain : Bool) (c : Char) : List Char :=
  if c = '"' || c = '\\' then ['\\', c]
  else if c = '\n' then ['\\', 'n']
  else if c = '\r' then ['\\', 'r']
  else if c = '\t' then ['\\', 't']
  else if c.toNat = 8 then ['\\', 'b']
  else if c.toNat = 12 then ['\\', 'f']
  else if c.toNat < 0x20 then unitEscape c.toNat
  else if plain || c.toNat < 0x7F then [c]
  else wideEscape c

def writtenText (plain : Bool) (text : String) : String :=
  String.ofList ('"' :: text.toList.flatMap (writtenChar plain) ++ ['"'])

def writtenFloat (x : Float) : String :=
  match Decimal.Exact.ofFloat x with
  | .nan => "NaN"
  | .infinite negative => if negative then "-Infinity" else "Infinity"
  | exact => exact.text

def writtenLeaf (plain : Bool) : Json → String
  | bool true => "true"
  | bool false => "false"
  | int n => toString n
  | float x => writtenFloat x
  | str s => writtenText plain s
  | _ => "null"

mutual

def compactPieces : Json → List String
  | arr items => "[" :: compactItems items
  | obj fields => "\x7b" :: compactFields fields
  | leaf => [writtenLeaf true leaf]

def compactItems : List Json → List String
  | [] => ["]"]
  | [item] => compactPieces item ++ ["]"]
  | item :: rest => compactPieces item ++ "," :: compactItems rest

def compactFields : List (String × Json) → List String
  | [] => ["\x7d"]
  | [(name, value)] => writtenText true name :: ":" :: (compactPieces value ++ ["\x7d"])
  | (name, value) :: rest =>
    writtenText true name :: ":" :: (compactPieces value ++ "," :: compactFields rest)

end

def compact (value : Json) : String :=
  String.join (compactPieces value)

def portable (value : Json) : String :=
  let text := value.compact.toList
  String.ofList (if text.any Half.isHalf then
    text.flatMap fun c => if Half.isHalf c then wideEscape c else [c] else text)

def lineAt (level : Nat) : String :=
  String.ofList ('\n' :: List.replicate (2 * level) ' ')

mutual

def indentedPieces (level : Nat) : Json → List String
  | arr [] => ["[]"]
  | arr items => "[" :: (indentedItems (level + 1) items ++ [lineAt level, "]"])
  | obj [] => ["\x7b\x7d"]
  | obj fields => "\x7b" :: (indentedFields (level + 1) fields ++ [lineAt level, "\x7d"])
  | leaf => [writtenLeaf false leaf]

def indentedItems (level : Nat) : List Json → List String
  | [] => []
  | [item] => lineAt level :: indentedPieces level item
  | item :: rest => lineAt level :: (indentedPieces level item ++ "," :: indentedItems level rest)

def indentedFields (level : Nat) : List (String × Json) → List String
  | [] => []
  | [(name, value)] =>
    lineAt level :: writtenText false name :: ": " :: indentedPieces level value
  | (name, value) :: rest =>
    lineAt level :: writtenText false name :: ": "
      :: (indentedPieces level value ++ "," :: indentedFields level rest)

end

def indented (value : Json) : String :=
  String.join (indentedPieces 0 value)

/-! ### Values in messages

The text by which messages show a JSON value. A text stands for itself at the top and between quotes
inside other values; the words for the three constants are capitalised.
-/

def kindName : Json → String
  | null => "NoneType"
  | bool _ => "bool"
  | int _ => "int"
  | float _ => "float"
  | str _ => "str"
  | arr _ => "list"
  | obj _ => "dict"

mutual

def quoted : Json → String
  | null => "None"
  | bool true => "True"
  | bool false => "False"
  | int n => toString n
  | float x => Decimal.floatText x
  | str s => Text.quoted s
  | arr items => "[" ++ quotedItems items ++ "]"
  | obj fields => "\x7b" ++ quotedFields fields ++ "\x7d"

def quotedItems : List Json → String
  | [] => ""
  | [item] => quoted item
  | item :: rest => quoted item ++ ", " ++ quotedItems rest

def quotedFields : List (String × Json) → String
  | [] => ""
  | [(name, value)] => Text.quoted name ++ ": " ++ quoted value
  | (name, value) :: rest =>
    Text.quoted name ++ ": " ++ quoted value ++ ", " ++ quotedFields rest

end

def shown : Json → String
  | str s => s
  | value => quoted value

end Scalpel.Json
