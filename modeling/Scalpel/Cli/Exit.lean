import Scalpel.Failure
import Scalpel.Json.Writer
import Scalpel.Text.Charset
import Scalpel.Text.Quoted

/-!
Why a command line is refused. Each reason has one message, which names the option, the argument or
the word that is at fault.
-/

set_option autoImplicit false

namespace Scalpel.Cli

open Scalpel

variable [Halves]

inductive PathKind where
  | file
  | directory
deriving DecidableEq, Repr

def PathKind.name : PathKind → String
  | .file => "File"
  | .directory => "Directory"

inductive ValueFault where
  | notWhole (word : String)
  | missing (kind : PathKind) (path : String)
  | otherKind (kind : PathKind) (path : String)
  | unreadable (kind : PathKind) (path : String)
deriving DecidableEq, Repr

def ValueFault.message : ValueFault → String
  | .notWhole word => Text.quoted word ++ " is not a valid integer."
  | .missing kind path => kind.name ++ " " ++ Text.quoted path ++ " does not exist."
  | .otherKind .file path => "File " ++ Text.quoted path ++ " is a directory."
  | .otherKind .directory path => "Directory " ++ Text.quoted path ++ " is a file."
  | .unreadable kind path => kind.name ++ " " ++ Text.quoted path ++ " is not readable."

inductive Usage where
  | unknownOption (name : String) (similar : List String)
  | unknownCommand (name : String) (similar : List String)
  | valueMissing (option : String)
  | valueGiven (option : String)
  | argumentMissing (name : String)
  | wordsLeft (words : List String)
  | badValue (parameter : String) (fault : ValueFault)
  | codeTwice
  | noCode
  | noOperations (file : String)
  | badOperations (file reason : String)
deriving DecidableEq, Repr

def suggestion : List String → String
  | [] => ""
  | [word] => " Did you mean " ++ Text.quoted word ++ "?"
  | words => " (Did you mean one of: " ++ ", ".intercalate (words.map Text.quoted) ++ "?)"

def Usage.message : Usage → String
  | .unknownOption name similar => "No such option " ++ Text.quoted name ++ "." ++ suggestion similar
  | .unknownCommand name similar =>
    "No such command " ++ Text.quoted name ++ "." ++ suggestion similar
  | .valueMissing option => "Option " ++ Text.quoted option ++ " requires an argument."
  | .valueGiven option => "Option " ++ Text.quoted option ++ " does not take a value."
  | .argumentMissing name => "Missing argument '" ++ name ++ "'."
  | .wordsLeft [word] => "Got unexpected extra argument (" ++ word ++ ")"
  | .wordsLeft words => "Got unexpected extra arguments (" ++ " ".intercalate words ++ ")"
  | .badValue parameter fault => "Invalid value for " ++ parameter ++ ": " ++ fault.message
  | .codeTwice => "Use either --code or --code-file, not both"
  | .noCode => "One of --code or --code-file is required"
  | .noOperations file => file ++ " must contain a JSON array"
  | .badOperations file reason => "Invalid operations file " ++ file ++ ": " ++ reason

/-! ### Ends of commands

A command ends with output, well or not; with a reason why its command line is refused; or with a
failure that no command takes care of.
-/

inductive Exit where
  | done (output : String)
  | unsuccessful (output : String)
  | refused (reason : Usage)
  | broken (reason : Failure)

namespace Exit

def code : Exit → Nat
  | .done _ => 0
  | .unsuccessful _ | .broken _ => 1
  | .refused _ => 2

def output : Exit → String
  | .done output | .unsuccessful output => String.ofList (Text.bareNewlines output.toList)
  | .refused _ | .broken _ => ""

def complaint : Exit → String
  | .done _ | .unsuccessful _ => ""
  | .refused reason => written ("Error: " ++ reason.message ++ "\n")
  | .broken reason => written (reason.message ++ "\n")
where
  /-- Halves of characters are written by their numbers. -/
  written (text : String) : String :=
    String.ofList ((Text.bareNewlines text.toList).flatMap fun c =>
      if Half.isHalf c then Text.numbered (Half.number c) else [c])

def json (good : Bool) (value : Json) : Exit :=
  let output := value.indented ++ "\n"
  if good then .done output else .unsuccessful output

def ofFailure : Failure → Exit
  | .problem p =>
    json false (.obj [("success", .bool false), ("error", .str p.kind.code), ("message", .str p.message)])
  | failure => .broken failure

end Exit

end Scalpel.Cli
