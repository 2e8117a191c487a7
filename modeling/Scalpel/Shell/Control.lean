import Scalpel.Shell.Expansion

/-!
What commands of a shell have in common: the names that are known, the way back out of loops and
functions, the replacement of words and the redirection of streams.
-/

set_option autoImplicit false

namespace Scalpel.Shell

open Scalpel

variable [Halves]

/-! ### Names -/

def signals : List (String × Nat) :=
  [("EXIT", 0), ("HUP", 1), ("INT", 2), ("QUIT", 3), ("ILL", 4), ("TRAP", 5), ("ABRT", 6), ("BUS", 7),
    ("FPE", 8), ("KILL", 9), ("USR1", 10), ("SEGV", 11), ("USR2", 12), ("PIPE", 13), ("ALRM", 14),
    ("TERM", 15), ("STKFLT", 16), ("CHLD", 17), ("CONT", 18), ("STOP", 19), ("TSTP", 20), ("TTIN", 21),
    ("TTOU", 22), ("URG", 23), ("XCPU", 24), ("XFSZ", 25), ("VTALRM", 26), ("PROF", 27),
    ("WINCH", 28), ("IO", 29), ("PWR", 30), ("SYS", 31)]

def signalLines : List Char :=
  let named (n : Nat) : String := ((signals.find? fun entry => entry.2 = n).map (·.1)).getD (toString n)
  let first := "0" :: (List.range 33).map fun i => if i + 1 = 16 then "16" else named (i + 1)
  let low := (List.range 15).map fun i => "RTMIN+" ++ toString (i + 1)
  let high := (List.range 14).map fun i => "RTMAX-" ++ toString (14 - i)
  (first ++ "RTMIN" :: low ++ high ++ ["RTMAX"]).flatMap fun name => name.toList ++ ['\n']

def signal? (text : List Char) : Option Nat :=
  match digits? text with
  | some n => if n ≤ 64 then some n else none
  | none => signals.lookup (String.ofList (text.map Char.toUpper))

def declaring : List String :=
  ["export", "readonly", "local"]

def builtins : List String :=
  specials ++ ["alias", "bg", "cd", "command", "echo", "false", "fg", "getopts", "hash", "jobs",
    "kill", "local", "printf", "pwd", "read", "test", "[", "true", "type", "ulimit", "umask",
    "unalias", "wait"]

namespace State

/-! ### Going back -/

/-- Tasks are dropped up to one that passes a test; what they would have set back is set back. -/
def unwind (s : State) (stops : Task → Bool) : List Task → State
  | [] => { s with tasks := [] }
  | task :: rest =>
    if stops task then { s with tasks := task :: rest }
    else
      match task with
      | .leave scope => unwind { s with scope } stops rest
      | .streams before => unwind (s.modifyScope fun scope => { scope with streams := before }) stops rest
      | .restore before =>
        unwind (before.foldl (fun s (name, old) => s.putVariable name old) s) stops rest
      | _ => unwind s stops rest

def loopCount (s : State) : Nat :=
  let inner := s.tasks.takeWhile fun
    | .leave _ | .returned .. => false
    | _ => true
  (inner.filter Task.isLoop).length

def toLoop : Nat → State → State
  | 0, s => s
  | n + 1, s =>
    let s := s.unwind Task.isLoop s.tasks
    if n = 0 then s else toLoop n { s with tasks := s.tasks.drop 1 }

def checked (s : State) : State :=
  let asks := s.tasks.any fun
    | .also .. | .negate | .choose .. | .tested .. => true
    | _ => false
  if s.scope.options.contains 'e' && s.status ≠ 0 && !asks && s.ended.isNone then s.exit s.status else s

/-! ### Replacements -/

def before (s : State) (tasks : List Task) : State :=
  { s with tasks := tasks ++ s.tasks }

def inner (s : State) : State :=
  s.modifyScope fun scope => { scope with handlers := scope.handlers.filter fun h => h.2.isEmpty }

def expanding {α : Type} (s : State) (command : Command) (results : List (List Char))
    (expand : Expand α) (goesOn : α → State → State) : State :=
  match expand.run (s, results) with
  | .ok (value, s, _) => goesOn value s
  | .error (.fatal reason) => (s.protest reason).exit 2
  | .error (.needs script reached) =>
    let (index, s) := s.newBuffer []
    let back : List Task := [.leave s.scope, .collect index command results s.status]
    let begun := { s with scope := reached.scope }
    (begun.inner.putStream 1 (some (.buffer index))).before (tasksOf script ++ back)

/-! ### Redirections -/

def targetOf (r : Redirect) : Expand (List Char) :=
  match r.mark with
  | "<<'" => return r.target
  | "<<" | "<<-" => return itemChars (← expandParts (r.target.length + 2) (documentParts r.target))
  | _ => expandText r.target

def openFault (isNew : Bool) (fault : FileTree.Fault) : List Char :=
  (match fault with
    | .noEntry | .notDirectory => if isNew then "Directory nonexistent" else "No such file"
    | fault => fault.text).toList

/-- A file is opened for writing, and emptied unless bytes go to its end; a file that is there already
may be protected. A new file gets the rights that are not held back. -/
def openFile (s : State) (path : List Char) (mark : String) : Except (List Char) (Stream × State) :=
  let atEnd := mark = ">>" || mark = "<>"
  let text := String.ofList path
  let absolute := String.ofList (Path.absolute s.scope.directory.toList path)
  let fail (reason : List Char) : Except (List Char) (Stream × State) :=
    .error ("cannot create ".toList ++ path ++ ": ".toList ++ reason)
  let shared (number : Nat) : Except (List Char) (Stream × State) :=
    match s.stream? number with
    | some stream => .ok (stream, s)
    | none => fail "No such device or address".toList
  if absolute = "/dev/null" then .ok (.nowhere, s)
  else if absolute = "/dev/stdout" then shared 1
  else if absolute = "/dev/stderr" then shared 2
  else if mark = ">" && s.scope.options.contains 'C' && s.tree.isFile text then
    fail (openFault true .exists)
  else if atEnd && s.tree.isFile text then .ok (.file absolute, s)
  else
    let isThere := s.tree.exists? text
    match s.tree.openForWriting text with
    | .ok (files, place, _) =>
      let files := if isThere then files
        else files.put place (.file [] (0o666 - (0o666 &&& s.scope.mask)))
      .ok (.file absolute, { s with files := { files with workingDirectory := s.files.workingDirectory } })
    | .error fault => fail (openFault true fault)

def badNumber : List Char :=
  "Syntax error: Bad fd number".toList

def isFatal (reason : List Char) : Bool :=
  reason = badNumber

def redirect (s : State) (r : Redirect) (target : List Char) : Except (List Char) State :=
  match r.mark with
  | "<<" | "<<-" | "<<'" =>
    let (index, s) := s.newBuffer (Path.bytesOf target)
    .ok (s.putStream r.stream (some (.buffer index)))
  | "<&" | ">&" =>
    if target = ['-'] then .ok (s.putStream r.stream none)
    else
      match (digits? target).bind s.stream? with
      | some stream => .ok (s.putStream r.stream (some stream))
      | none =>
        .error (if (digits? target).isSome then target ++ ": Bad file descriptor".toList
          else badNumber)
  | "<" =>
    if target = "/dev/null".toList then .ok (s.putStream r.stream (some .nowhere))
    else
      match s.tree.readFile (String.ofList target) with
      | .ok content =>
        let (index, s) := s.newBuffer content
        .ok (s.putStream r.stream (some (.content index)))
      | .error fault =>
        .error ("cannot open ".toList ++ target ++ ": ".toList ++ openFault false fault)
  | mark => (s.openFile target mark).map fun (stream, s) => s.putStream r.stream (some stream)

def redirectAll (s : State) (targets : List (Redirect × List Char)) : Except (List Char) State :=
  targets.foldlM (fun s (r, target) => s.redirect r target) s

end State

end Scalpel.Shell
