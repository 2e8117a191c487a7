/-!
Scopes of log records. A scope has an id, which every record written inside it carries, and the name
of an operation. Scopes nest; the innermost one counts. Ids end in random digits, which are a
parameter here.
-/

set_option autoImplicit false

namespace Scalpel.Log

structure Scope where
  id : String
  operation : Option String
deriving DecidableEq, Repr

def newId (random : String) (kind : String := "req") : String :=
  kind ++ "_" ++ random

/-- The scope for an optional id and operation; an empty id counts as absent, and so does an empty
operation when an id is made of it. -/
def Scope.make (random : String) (id operation : Option String) : Scope :=
  let kind :=
    match operation with
    | some operation => if operation.isEmpty then "req" else operation
    | none => "req"
  let id :=
    match id with
    | some id => if id.isEmpty then newId random kind else id
    | none => newId random kind
  { id, operation }

/-- The levels of records, in increasing order. -/
inductive Level where
  | debug
  | info
  | warning
  | error
deriving DecidableEq, Repr

def Level.rank : Level → Nat
  | .debug => 10
  | .info => 20
  | .warning => 30
  | .error => 40

def Level.name : Level → String
  | .debug => "DEBUG"
  | .info => "INFO"
  | .warning => "WARNING"
  | .error => "ERROR"

def isDebugAsked (environ : List (String × String)) : Bool :=
  match environ.lookup "TOMOS_DEBUG" with
  | some text => text.toLower = "true"
  | none => false

def threshold (verbose : Bool) (environ : List (String × String)) : Level :=
  if verbose || isDebugAsked environ then .debug else .warning

def line (level : Level) (id message : String) : String :=
  let name := level.name
  name ++ String.ofList (List.replicate (8 - name.length) ' ') ++ " | " ++ id ++ " - " ++ message

def lines (lowest : Level) (id : String) (records : List (Level × String)) : List String :=
  (records.filter fun record => lowest.rank ≤ record.1.rank).map fun record =>
    line record.1 id record.2

end Scalpel.Log
