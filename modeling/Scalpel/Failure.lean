import Scalpel.Problem
import Scalpel.Json.Reader

/-!
All the ways in which an operation ends without a result. A reported problem is one of them; the
others arise where a value that came from outside is used as something it is not.
-/

set_option autoImplicit false

namespace Scalpel

variable [Halves]

/-- A JSON value is used as something it is not. -/
inductive Misuse where
  | indexed (value : Json)
  | member (value : Json) (name : String)
  | listed (value : Json)
  | searched (value : Json)
  | joined (value : Json)
  | extended (value : Json)
  | option (name : String) (value : Json)
  | item (index : Nat) (value : Json)
  | keyed (value : Json)
  | whole (value : Json)
  | number (value : Json)
  | compared (value : Json)
  | unknownName (name : String)

def Misuse.message : Misuse → String
  | .indexed (.arr _) => "list indices must be integers or slices, not str"
  | .indexed (.str _) => "string indices must be integers, not 'str'"
  | .indexed value => "'" ++ value.kindName ++ "' object is not subscriptable"
  | .member value name => "'" ++ value.kindName ++ "' object has no attribute '" ++ name ++ "'"
  | .listed value => "'" ++ value.kindName ++ "' object is not iterable"
  | .searched value => "argument of type '" ++ value.kindName ++ "' is not iterable"
  | .joined value => "can only concatenate str (not \"" ++ value.kindName ++ "\") to str"
  | .extended (.arr _) => "can only concatenate list (not \"str\") to list"
  | .extended value => "unsupported operand type(s) for +: '" ++ value.kindName ++ "' and 'str'"
  | .option name value =>
    "open() argument '" ++ name ++ "' must be str or None, not " ++ value.kindName
  | .item index value =>
    "sequence item " ++ toString index ++ ": expected str instance, " ++ value.kindName ++ " found"
  | .keyed value => "unhashable type: '" ++ value.kindName ++ "'"
  | .whole value =>
    "int() argument must be a string, a bytes-like object or a real number, not '"
      ++ value.kindName ++ "'"
  | .number value =>
    "float() argument must be a string or a real number, not '" ++ value.kindName ++ "'"
  | .compared value => "'<=' not supported between instances of '" ++ value.kindName ++ "' and 'int'"
  | .unknownName name => "unexpected argument '" ++ name ++ "'"

/-- Why an operation ended without a result. -/
inductive Failure where
  | problem (p : Problem)
  | missing (name : String)
  | invalid (text : String)
  | notWhole (text : String)
  | notNumber (text : String)
  | notNamed (value : Json) (kind : String)
  | unreadable (u : Json.Unreadable)
  | tooDeep
  | undecodable (text : String)
  | unencodable (text : String)
  | miscoded (text : String)
  | unknownCharset (name : String)
  | unfitCharset (name : String)
  | unbounded (text : String)
  | misuse (m : Misuse)
  | os (e : OsError)
  | other (kind text : String)

/-- Whether a failure is that of a value that is not among the valid ones. -/
def Failure.isInvalid : Failure → Bool
  | .invalid _ | .notWhole _ | .notNumber _ | .notNamed _ _ => true
  | _ => false

def Failure.message : Failure → String
  | .problem p => p.message
  | .missing name => Text.quoted name
  | .invalid text | .undecodable text | .unencodable text | .miscoded text | .unbounded text
  | .other _ text => text
  | .notWhole text =>
    -- a long text is cut in this message
    "invalid literal for int() with base 10: "
      ++ String.ofList ((Text.quoted text).toList.take 200)
  | .notNumber text => "could not convert string to float: " ++ Text.quoted text
  | .notNamed value kind => value.quoted ++ " is not a valid " ++ kind
  | .unreadable u => u.message
  | .tooDeep => "maximum recursion depth exceeded"
  | .unknownCharset name => "unknown encoding: " ++ name
  | .unfitCharset name =>
    "'" ++ name ++ "' is not a text encoding; use codecs.open() to handle arbitrary codecs"
  | .misuse m => m.message
  | .os e => e.message

abbrev Outcome (α : Type) := Except Failure α

/-- The JSON value that a text writes. A value that nests too deeply and a number that is too long are
failures of their own, apart from those of a text that is no JSON. -/
def Json.parsed (text : String) : Outcome Json :=
  match Json.read text with
  | .ok value => .ok value
  | .error unreadable =>
    match unreadable.defect with
    | .tooDeep => .error .tooDeep
    | .tooLong digits => .error (.invalid (Decimal.tooManyDigits digits))
    | _ => .error (.unreadable unreadable)

def fail {α : Type} (p : Problem) : Outcome α :=
  .error (.problem p)

end Scalpel
