import Scalpel.Shell.Features
import Scalpel.Shell.Program
import Scalpel.Shell.State

/-!
Lines that a script reads. A line is divided among variables, and the last one takes what is left; a
backslash quotes the character behind it, so that it divides nothing, and joins a line to the next.
-/

set_option autoImplicit false

namespace Scalpel.Shell

open Scalpel

variable [Halves]

/-- The number of bytes up to the end of the first line, the end included; `raw` says that backslashes
mean nothing. -/
def lineSize? (raw : Bool) : Bytes → Option Nat
  | [] => none
  | byte :: rest =>
    if byte = 10 then some 1
    else if byte = 92 && !raw then
      match rest with
      | [] => none
      | _ :: rest => (lineSize? raw rest).map (· + 2)
    else (lineSize? raw rest).map (· + 1)

/-- A character of a line, or a place where a quoted character or the end of a line was. -/
inductive LineItem where
  | live (c : Char)
  | fixed (c : Char)
  | cut

def lineItems (raw : Bool) : List Char → List LineItem
  | [] => []
  | '\\' :: c :: rest =>
    if raw then .live '\\' :: lineItems raw (c :: rest)
    else (if c = '\n' then .cut else .fixed c) :: lineItems raw rest
  | c :: rest =>
    if c = '\x00' || (c = '\\' && !raw) then lineItems raw rest else .live c :: lineItems raw rest

/-- The division of a line at work: the place, the beginning of the field, where the text ends if it
ends here, whether a blank has just ended a field, how many variables are left, and the fields. -/
structure Division where
  place : Nat := 0
  start : Nat := 0
  stop : Option Nat := none
  afterBlank : Bool := false
  left : Nat
  fields : List (Nat × Nat) := []

/-- An item is passed. The last variable takes a single field without what divides it from nothing, and
more fields with all that divides them but the blanks at the end. -/
def Division.pass (dividers : List Char) (d : Division) (item : LineItem) : Division :=
  match item with
  | .cut => { d with afterBlank := false }
  | .fixed _ => { d with place := d.place + 1, afterBlank := false }
  | .live c =>
    let here := d.place
    let behind := { d with place := here + 1 }
    let divides := dividers.contains c
    let isBlank := divides && (c = ' ' || c = '\t' || c = '\n')
    if d.left = 0 then
      if isBlank then { behind with stop := some (d.stop.getD here) }
      else if divides && d.afterBlank then { behind with afterBlank := false }
      else { behind with stop := none, afterBlank := false }
    else
      let start := if d.afterBlank then (if divides then here + 1 else here) else d.start
      if d.afterBlank && isBlank then { behind with start }
      else if divides && !d.afterBlank then
        if here = start && isBlank then { behind with start := here + 1, afterBlank := false }
        else if d.left = 1 then { behind with start, left := 0, stop := some here, afterBlank := isBlank }
        else
          { behind with
            start := here + 1, left := d.left - 1, afterBlank := isBlank
            fields := d.fields ++ [(start, here)] }
      else { behind with start, afterBlank := false }

def lineFields (dividers : List Char) (count : Nat) (items : List LineItem) : List (List Char) :=
  let chars := items.filterMap fun
    | .live c | .fixed c => some c
    | .cut => none
  let d := items.foldl (Division.pass dividers) { left := count }
  let last := (d.start, d.stop.getD chars.length)
  let places := if last.1 < last.2 then d.fields ++ [last] else d.fields
  places.map fun (first, last) => (chars.drop first).take (last - first)

/-- What reading a line into variables comes to; nothing when more input is needed. A signal ends the
waiting. -/
def State.readLine? (s : State) (raw : Bool) (names : List (List Char)) : Option State :=
  match s.readable 0 with
  | none => some (s.withStatus 1)
  | some (available, isOver) =>
    match lineSize? raw available with
    | none =>
      if !isOver && s.pending.isEmpty then none
      else some ((assign available (s.consume 0 available.length)).withStatus 1)
    | some size => some ((assign (available.take (size - 1)) (s.consume 0 size)).withStatus 0)
where
  /-- The variables get the fields of a line, but for those that may not change. -/
  assign (line : Bytes) (s : State) : State :=
    let fields := lineFields s.dividers names.length (lineItems raw (Path.ofBytes line))
    names.zipIdx.foldl (fun s (name, i) => if s.isFixed name then s else s.set name (fields.getD i [])) s

/-! ### Commands of the shell

Commands that a shell carries out itself, because they change the shell: its variables, its directory,
its streams, its loops and what it does about signals.
-/

namespace State

def changeDirectory (s : State) (words : List (List Char)) : State :=
  let words := words.filter fun word => word ≠ ['-', 'L'] && word ≠ ['-', 'P'] && word ≠ ['-', '-']
  let target :=
    match words with
    | [] => (s.get? "HOME".toList).getD []
    | ['-'] :: _ => (s.get? "OLDPWD".toList).getD []
    | word :: _ => word
  if target.isEmpty then s.withStatus 0
  else
    let path := Path.absolute s.scope.directory.toList target
    if s.tree.isDirectory (String.ofList path) then
      let before := s.scope.directory.toList
      let s := s.modifyScope fun scope => { scope with directory := String.ofList path }
      let s := (s.set "OLDPWD".toList before).set "PWD".toList path
      if words.head? = some ['-'] then s.print (path ++ ['\n']) 0 else s.withStatus 0
    else (s.protest ("cd: can't cd to ".toList ++ target)).withStatus 2

def declare (s : State) (command : String) (change : Variable → Variable) (words : List (List Char)) :
    State :=
  words.foldl (fun (s : State) word =>
    if s.ended.isSome then s
    else
      let name := word.takeWhile (· ≠ '=')
      let value := if name.length < word.length then some (word.drop (name.length + 1)) else none
      let fails (reason : String) : State :=
        (s.protest (command.toList ++ ": ".toList ++ name ++ reason.toList)).exit 2
      if !isName name then fails ": bad variable name"
      else if value.isSome && s.isFixed name then fails ": is read only"
      else
        let old := (s.held? name).getD {}
        s.putVariable name (some (change { old with value := value <|> old.value }))) (s.withStatus 0)

def signalCalled (s : State) (number : Nat) : State :=
  match if number = 9 then none else s.scope.handlers.lookup number with
  | some [] => s
  | some action => s.before (tasksOf action ++ [.status s.status])
  | none =>
    if isHarmless number then s
    else
      let own := s.scope.number
      { s with
        status := 128 + number
        tasks := s.tasks.dropWhile fun
          | .leave scope => scope.number = own
          | _ => true }

def send (s : State) (number target : Nat) : State :=
  if target = ownNumber || target = 0 then s.signal number
  else if target = s.scope.number then s.signalCalled number
  else
    match s.jobs.lookup target with
    | none => (s.protest "kill: No such process\n".toList).withStatus 1
    | some _ =>
      if isHarmless number then s
      else
        { s with
          jobs := s.jobs.filter fun job => job.1 ≠ target
          finished := (target, 128 + number) :: s.finished }

inductive Killing where
  | send (number : Nat) (targets : List (List Char))
  | show (numbers : List (List Char))
  | faulty (reason : List Char)

def killing (words : List (List Char)) : Killing :=
  let named (name : List Char) (targets : List (List Char)) : Killing :=
    match signal? name with
    | some number => .send number targets
    | none => .faulty ("invalid signal number or name: ".toList ++ name)
  match words with
  | [['-', 's']] => .faulty "No arg for -s option".toList
  | ['-', 's'] :: name :: rest => named name (if rest.head? = some ['-', '-'] then rest.drop 1 else rest)
  | ('-' :: 's' :: name) :: rest => named name rest
  | ['-', 'l'] :: rest => .show rest
  | ['-', '-'] :: rest => .send 15 rest
  | ('-' :: c :: name) :: rest =>
    match signal? (c :: name) with
    | some number => .send number rest
    | none => .faulty ("Illegal option -".toList ++ [c])
  | rest => .send 15 rest

def kill (s : State) (words : List (List Char)) : State :=
  let fails (s : State) (reason : List Char) : State :=
    (s.protest ("kill: ".toList ++ reason)).withStatus 2
  match killing words with
  | .faulty reason => fails s reason
  | .send _ [] => fails s ("Usage: kill [-s sigspec | -signum | -sigspec] [pid | job]... or\n"
      ++ "kill -l [exitstatus]").toList
  | .send number targets =>
    targets.foldl (fun (s : State) target =>
      if s.ended.isSome || s.status = 2 then s
      else
        match digits? target with
        | some target => s.send number target
        | none =>
          fails s ((if target.head? = some '%' then "No such job: " else "Illegal number: ").toList ++ target))
      (s.withStatus 0)
  | .show (number :: _) =>
    match digits? number with
    | none => fails s ("Illegal number: ".toList ++ number)
    | some n =>
      match signals.find? fun entry => entry.2 = n % 128 with
      | some (name, _) => s.print (name.toList ++ ['\n']) 0
      | none => fails s ("invalid signal number or exit status: ".toList ++ number)
  | .show [] => s.print (signalLines) 0

/-- The shell waits for commands in the background: for all, or for those with the given numbers. -/
def wait (s : State) (words : List (List Char)) : State :=
  let numbers? : Except (List Char) (List Nat) := words.mapM fun word =>
    match digits? word with
    | some number => .ok number
    | none =>
      .error ((if word.head? = some '%' then "No such job: " else "Illegal number: ").toList ++ word)
  match numbers? with
  | .error reason => (s.protest ("wait: ".toList ++ reason)).withStatus 2
  | .ok [] => { (s.withStatus 0).before (s.jobs.map jobTask ++ [.waited, .status 0]) with
    jobs := [] }
  | .ok numbers =>
    let tasks := numbers.map fun number =>
      match s.jobs.lookup number with
      | some job => jobTask (number, job)
      | none => .status ((s.finished.lookup number).getD 127)
    { s.before (tasks ++ [.waited]) with
      jobs := s.jobs.filter fun job => !numbers.contains job.1
      finished := s.finished.filter fun job => !numbers.contains job.1 }

def trapLines (s : State) : List Char :=
  signals.flatMap fun (name, number) =>
    match s.scope.handlers.lookup number with
    | some action => "trap -- ".toList ++ singleQuoted action ++ (" " ++ name ++ "\n").toList
    | none => []

def trap (s : State) (words : List (List Char)) : State :=
  let words := if words.head? = some ['-', '-'] then words.drop 1 else words
  let apply (action : Option (List Char)) (names : List (List Char)) : State :=
    names.foldl (fun (s : State) name =>
      if s.status ≠ 0 then s
      else
        match signal? name with
        | none => (s.complain ("trap: ".toList ++ name ++ ": bad trap\n".toList)).withStatus 1
        | some number => s.modifyScope fun scope =>
          let others := scope.handlers.filter fun h => h.1 ≠ number
          { scope with handlers :=
              match action with
              | some action => (number, action) :: others
              | none => others }) (s.withStatus 0)
  match words with
  | [] => s.print s.trapLines 0
  | [name] => apply none [name]
  | action :: names =>
    if action = ['-'] then apply none names
    else if (digits? action).isSome then apply none words
    else apply (some action) names

def setOptions (s : State) : Nat → List (List Char) → State
  | 0, _ | _, [] => s.withStatus 0
  | fuel + 1, word :: rest =>
    let arguments (words : List (List Char)) : State :=
      (s.modifyScope fun scope => { scope with arguments := words, place := {} }).withStatus 0
    match word with
    | ['-', '-'] => arguments rest
    | sign :: letter :: letters =>
      if sign = '-' || sign = '+' then
        match optionsFrom (sign = '-') s.scope.options (letter :: letters) rest with
        | .ok (options, rest) =>
          setOptions (s.modifyScope fun scope => { scope with options }) fuel rest
        | .error reason => (s.protest ("set: ".toList ++ reason)).exit 2
      else arguments (word :: rest)
    | _ => arguments (word :: rest)

/-- A status that is given, or the last one, which is the one before a signal while that is handled;
nothing where what is given is no number. -/
def givenStatus? (s : State) (words : List (List Char)) : Option Nat :=
  match words with
  | word :: _ => digits? word
  | [] =>
    let here := s.tasks.takeWhile fun
      | .leave _ => false
      | _ => true
    let handled := here.findSome? fun
      | .status code => some code
      | _ => none
    some (handled.getD s.status)

def returnFrom (s : State) (code : Nat) : State :=
  let isEnd : Task → Bool
    | .returned .. | .sourced | .leave _ => true
    | _ => false
  if s.tasks.any isEnd then { s.unwind isEnd s.tasks with status := code } else s.exit code

def keywords : List String :=
  ["!", "case", "do", "done", "elif", "else", "esac", "fi", "for", "if", "in", "then", "until", "while",
    "\x7b", "\x7d"]

def describe (s : State) (name : List Char) : Option (List Char) :=
  let text := String.ofList name
  if keywords.contains text then some name
  else if let some value := s.scope.aliases.lookup name then
    some ("alias ".toList ++ name ++ '=' :: singleQuoted value)
  else if (s.scope.functions.lookup name).isSome || builtins.contains text then some name
  else
    match s.commandPath? name with
    | .ok path => some path
    | .error _ => none

def kindOf? (s : State) (name : List Char) : Option (List Char) :=
  let text := String.ofList name
  if keywords.contains text then some " is a shell keyword".toList
  else if let some value := s.scope.aliases.lookup name then some (" is an alias for ".toList ++ value)
  else if (s.scope.functions.lookup name).isSome then some " is a shell function".toList
  else if specials.contains text then some " is a special shell builtin".toList
  else if builtins.contains text then some " is a shell builtin".toList
  else
    match s.commandPath? name with
    | .ok path =>
      some ((if s.scope.known.contains name then " is a tracked alias for " else " is ").toList ++ path)
    | .error _ => none

def tellKinds (s : State) (names : List (List Char)) : State :=
  names.foldl (fun (s : State) name =>
    match s.kindOf? name with
    | some kind => (s.print (name ++ kind ++ ['\n']) s.status).found name
    | none => s.print (name ++ ": not found\n".toList) 127) (s.withStatus 0)

def remember (s : State) (words : List (List Char)) : State :=
  match words with
  | [] =>
    let places := s.scope.known.mapM fun name => (s.commandPath? name).toOption
    s.print ((places.getD []).flatMap fun place => place ++ ['\n']) 0
  | ['-', 'r'] :: _ => (s.modifyScope fun scope => { scope with known := [] }).withStatus 0
  | words =>
    words.foldl (fun (s : State) name =>
      if (s.scope.functions.lookup name).isSome || builtins.contains (String.ofList name) then s
      else
        match s.commandPath? name with
        | .ok _ => s.found name
        | .error _ => (s.protest ("hash: ".toList ++ name ++ ": not found".toList)).withStatus 1)
      (s.withStatus 0)

def readOptions? : List (List Char) → Option (Bool × List (List Char))
  | ['-', 'p'] :: _ :: rest => readOptions? rest
  | ['-', 'r'] :: rest => (readOptions? rest).map fun (_, names) => (true, names)
  | ['-', '-'] :: rest => some (false, rest)
  | ('-' :: _) :: _ => none
  | names => some (false, names)

/-- The letters of the options in front of words, and the words behind them; a letter that is not known is
a fault. -/
def lettersOf (known : String) : List (List Char) → Except (List Char) (List Char × List (List Char))
  | ['-', '-'] :: rest => .ok ([], rest)
  | ('-' :: letter :: letters) :: rest =>
    match (letter :: letters).find? fun letter => !known.toList.contains letter with
    | some letter => .error ("Illegal option -".toList ++ [letter])
    | none => (lettersOf known rest).map fun (more, rest) => (letter :: letters ++ more, rest)
  | words => .ok ([], words)

/-- A command whose words are known is carried out by the shell itself, if it is one of its own. -/
def builtin? (s : State) (name : String) (words : List (List Char)) : Option Step :=
  let arguments := words.drop 1
  let done (s : State) : Option Step := some (.goesOn s)
  let fails (reason : List Char) : State :=
    (s.protest (name.toList ++ ": ".toList ++ reason)).withStatus 2
  let verdict (answer : Verdict Bool) : Option Step :=
    match answer with
    | .ok true => done (s.withStatus 0)
    | .ok false => done (s.withStatus 1)
    | .error fault => done (fails fault.message)
  let count? (rest : List (List Char)) : Except (List Char) Nat :=
    match rest with
    | [] => .ok 1
    | word :: _ =>
      match digits? word with
      | some n => .ok n
      | none => .error ("Illegal number: ".toList ++ word)
  match name with
  | ":" | "true" => done (s.withStatus 0)
  | "false" => done (s.withStatus 1)
  | "echo" => done (s.print (echoed arguments) 0)
  | "printf" =>
    match if arguments.head? = some ['-', '-'] then arguments.drop 1 else arguments with
    | [] => done (fails "usage: printf format [arg ...]".toList)
    | format :: arguments =>
      let f := formatted format arguments
      let s := (f.complaints ++ f.fault.toList).foldl (fun (s : State) complaint =>
        s.protest ("printf: ".toList ++ complaint)) s
      done (s.print f.text f.status)
  | "pwd" => done (s.print (s.scope.directory.toList ++ ['\n']) 0)
  | "cd" => done (s.changeDirectory arguments)
  | "exit" =>
    match s.givenStatus? arguments with
    | some code => done (s.exit code)
    | none => done ((fails ("Illegal number: ".toList ++ arguments.headD [])).exit 2)
  | "return" =>
    match s.givenStatus? arguments with
    | some code => done (s.returnFrom code)
    | none => done ((fails ("Illegal number: ".toList ++ arguments.headD [])).exit 2)
  | "break" | "continue" =>
    match count? arguments with
    | .error reason => done ((fails reason).exit 2)
    | .ok 0 => done ((fails "Illegal number: 0".toList).exit 2)
    | .ok n =>
      let count := min n s.loopCount
      if count = 0 then done (s.withStatus 0)
      else
        let s := (toLoop count s).withStatus 0
        match s.tasks with
        | .tested endsWhenTrue test body _ :: rest =>
          done { s with tasks :=
              if name = "break" then rest else .again endsWhenTrue test body :: rest }
        | tasks => done { s with tasks := if name = "break" then tasks.drop 1 else tasks }
  | "shift" =>
    match count? arguments with
    | .error reason => done ((fails reason).exit 2)
    | .ok n =>
      if s.scope.arguments.length < n then done ((fails "can't shift that many".toList).exit 2)
      else done { s.modifyScope fun scope =>
        { scope with arguments := scope.arguments.drop n, place := {} } with status := 0 }
  | "set" =>
    match arguments with
    | [] => done (s.print (s.variableLines "" fun v => v.value.isSome) 0)
    | [['-', 'o']] => done (s.print s.optionTable 0)
    | [['+', 'o']] => done (s.print s.optionCommands 0)
    | arguments => done (s.setOptions (arguments.length + 1) arguments)
  | "unset" =>
    match lettersOf "fv" arguments with
    | .error reason => done ((fails reason).exit 2)
    | .ok (letters, names) =>
    let isFunction := letters.getLast? = some 'f'
    done (names.foldl (fun (s : State) name =>
      if s.ended.isSome then s
      else if isFunction then
        s.modifyScope fun scope =>
          { scope with functions := scope.functions.filter fun entry => entry.1 ≠ name }
      else if !isName name then
        (s.protest ("unset: ".toList ++ name ++ ": bad variable name".toList)).exit 2
      else if s.isFixed name then (s.protest ("unset: ".toList ++ name ++ ": is read only".toList)).exit 2
      else s.putVariable name none) (s.withStatus 0))
  | "export" | "readonly" =>
    let change (v : Variable) : Variable :=
      if name = "export" then { v with isExported := true } else { v with isFixed := true }
    match lettersOf "p" arguments with
    | .error reason => done ((fails reason).exit 2)
    | .ok (_, []) => done (s.print (s.variableLines (name ++ " ")
        fun v => if name = "export" then v.isExported else v.isFixed) 0)
    | .ok (_, words) => done (s.declare name change words)
  | "local" =>
    match s.scope.locals with
    | none => done ((fails "not in a function".toList).exit 2)
    | some _ =>
      let s := arguments.foldl (fun (s : State) word =>
        let name := word.takeWhile (· ≠ '=')
        s.modifyScope fun scope =>
          { scope with locals := scope.locals.map fun l => (name, scope.store.lookup name) :: l }) s
      done (s.declare name id arguments)
  | "read" =>
    match readOptions? arguments with
    | none =>
      let word := (arguments.find? fun word => word.head? = some '-').getD []
      done (fails ("Illegal option ".toList ++ word.take 2))
    | some (raw, names) =>
      if names.isEmpty then done (fails "arg count".toList)
      else if let some name := names.find? fun name => !isName name then
        done (fails (name ++ ": bad variable name".toList))
      else
        match s.readLine? raw names with
        | some s =>
          match names.find? s.isFixed with
          | some name => done (fails (name ++ ": is read only".toList))
          | none => done s
        | none => some (.waits { s.before [.invoke words] with isHeld := true })
  | "test" => verdict (condition s.tree arguments)
  | "[" =>
    verdict (if arguments.getLast? = some [']'] then condition s.tree arguments.dropLast
      else .error .unclosed)
  | "eval" => done ((s.withStatus 0).before (tasksOf ([' '].intercalate arguments)))
  | "." =>
    match arguments with
    | [] => done (s.withStatus 0)
    | path :: _ =>
      match s.tree.readFile (String.ofList path) with
      | .ok content => done ((s.withStatus 0).before (tasksOf (Path.ofBytes content) ++ [.sourced]))
      | .error _ => done ((fails ("cannot open ".toList ++ path ++ ": No such file".toList)).exit 2)
  | "exec" =>
    if arguments.isEmpty then
      done { s.withStatus 0 with inputClosed := s.inputClosed || !(s.scope.streams.any fun entry =>
        entry.2 = .input) }
    else none
  | "trap" => done (s.trap arguments)
  | "kill" => done (s.kill arguments)
  | "wait" => done (s.wait arguments)
  | "command" =>
    match lettersOf "pvV" arguments with
    | .error reason => done (fails reason)
    | .ok (letters, name :: _) =>
      if letters.contains 'V' then done (s.tellKinds [name])
      else if letters.contains 'v' then
        match s.describe name with
        | some text => done (s.found name |>.print (text ++ ['\n']) 0)
        | none => done (s.withStatus 127)
      else none
    | .ok (_, []) => done (s.withStatus 0)
  | "type" => done (s.tellKinds arguments)
  | "umask" => done (s.maskWords arguments)
  | "alias" => done (s.aliasWords arguments)
  | "unalias" => done (s.forgetAliases arguments)
  | "bg" | "fg" => done (fails "No current job".toList)
  | "getopts" => done (s.readOption arguments)
  | "hash" => done (s.remember arguments)
  | "jobs" | "times" | "ulimit" => done (s.withStatus 0)
  | _ => none

end State

end Scalpel.Shell
