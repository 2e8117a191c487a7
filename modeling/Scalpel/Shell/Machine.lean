import Scalpel.Shell.Builtin

/-!
A shell carries out a script step by step. Each step takes a task; a task may put others in front of
what is left. A task that has to wait for input or for the end of a sleep stays in front and is taken
up again.
-/

set_option autoImplicit false

namespace Scalpel.Shell

open Scalpel

variable [Halves]

namespace State

def invokeProgram (s : State) (words : List (List Char)) : Step :=
  let name := words.headD []
  match s.commandPath? name with
  | .error code => .goesOn ((s.notFound name code).withStatus code)
  | .ok path => (s.found name).runPath readersInTurn path words

def replaceShell (s : State) (words : List (List Char)) : Step :=
  let name := words.headD []
  match s.commandPath? name with
  | .error code => .goesOn ((s.notFound ("exec: ".toList ++ name) code).exit code)
  | .ok path =>
    let tasks := s.tasks.dropWhile fun
      | .leave _ => false
      | _ => true
    { s.inner with tasks }.runPath readersInTurn path words

/-- A command whose words are known is carried out; functions come before commands of the shell, but
for the special ones, and these before programs. -/
def invoke (s : State) (words : List (List Char)) : Step :=
  match words with
  | [] => .goesOn (s.withStatus 0)
  | name :: arguments =>
    let text := String.ofList name
    match if specials.contains text then none else s.scope.functions.lookup name with
    | some body =>
      let back : Task := .returned s.scope.arguments s.scope.locals s.scope.place
      .goesOn ((s.before [.run body [], back]).modifyScope fun scope =>
        { scope with arguments, locals := some [], place := {} })
    | none =>
      match s.builtin? text words with
      | some step => step
      | none =>
        if text = "command" then
          let words := ((lettersOf "p" arguments).toOption.map (·.2)).getD []
          match s.builtin? (String.ofList (words.headD [])) words with
          | some step => step
          | none => if words.isEmpty then .goesOn (s.withStatus 0) else s.invokeProgram words
        else if text = "exec" then s.replaceShell arguments
        else s.invokeProgram words

/-! ### Tasks -/

/-- What the words of a simple command are replaced by: the words, the redirections with their targets
and the settings with their values, each of which sees those before it. -/
def expandSimple (settings : List (List Char × List Char)) (words : List (List Char))
    (redirects : List Redirect) :
    Expand (List (List Char) × List (Redirect × List Char) × List (List Char × List Char)) := do
  let declares := declaring.contains (String.ofList (words.headD []))
  let words ← words.mapM fun word => do
    if declares && (setting? word).isSome then return [← expandText word] else expandWords word
  let targets ← redirects.mapM fun r => do return (r, ← targetOf r)
  let before := (← theShell).scope.store
  let settings ← settings.mapM fun (name, value) => do
    let value ← expandText value
    modifyShell fun s => s.set name value
    return (name, value)
  modifyShell fun s => settings.foldl (fun (s : State) (name, _) =>
    s.putVariable name (before.lookup name)) s
  return (words.flatten, targets, settings)

def traced (s : State) (settings : List (List Char × List Char)) (words : List (List Char)) : State :=
  if !s.scope.options.contains 'x' || (settings.isEmpty && words.isEmpty) then s
  else
    let shown := settings.map (fun (name, value) => name ++ '=' :: value) ++ words
    s.complain ((s.get? "PS4".toList).getD [] ++ [' '].intercalate shown ++ ['\n'])

def runSimple (s : State) (isFresh : Bool) (words : List (List Char))
    (targets : List (Redirect × List Char)) (settings : List (List Char × List Char)) : State :=
  let name := String.ofList (words.headD [])
  let isSpecial := !words.isEmpty && specials.contains name
  let s := s.traced settings words
  match s.redirectAll targets with
  | .error reason =>
    let s := s.protest reason
    if isSpecial || isFatal reason then s.exit 2 else (s.withStatus 2).checked
  | .ok redirected =>
    if let some (name, _) := settings.find? fun setting => s.isFixed setting.1 then
      (redirected.protest (name ++ ": is read only".toList)).exit 2
    else if words.isEmpty then
      let s := { redirected with scope := { redirected.scope with streams := s.scope.streams } }
      let s := settings.foldl (fun (s : State) (name, value) => s.set name value) s
      (s.withStatus (if isFresh then 0 else s.outputStatus)).checked
    else
      let isPermanent := name = "exec"
      let back : List Task :=
        (if targets.isEmpty || isPermanent then [] else [.streams s.scope.streams])
        ++ (if settings.isEmpty || isSpecial then []
          else [.restore (settings.map fun setting => (setting.1, s.held? setting.1))])
        ++ [.check]
      let set := settings.foldl (fun (s : State) (name, value) =>
        if isSpecial then s.set name value
        else s.putVariable name (some { value := some value, isExported := true })) redirected
      set.before (.invoke words :: back)

def runCommand (s : State) (command : Command) (results : List (List Char)) : State :=
  let go (tasks : List Task) : State := s.before tasks
  match command with
  | .nothing => s.withStatus 0
  | .faulty => s.exit 2
  | .sequence first second => go [.run first [], .run second []]
  | .both first second => go [.run first [], .also true second]
  | .either first second => go [.run first [], .also false second]
  | .negated command => go [.run command [], .negate]
  | .background command =>
    let jobCount := s.jobCount + 1
    { s.withStatus 0 with jobs := s.jobs ++ [(ownNumber + jobCount, command)], jobCount }
  | .subshell command => (go [.run command [], .leave s.scope, .check]).inner
  | .piped first second =>
    let (index, s) := s.newBuffer []
    let s := s.before [.run first [], .leave s.scope, .feed index second, .check]
    s.inner.putStream 1 (some (.buffer index))
  | .choice test yes no => go [.run test [], .choose yes no]
  | .loop endsWhenTrue test body =>
    (go [.run test [], .tested endsWhenTrue test body 0]).withStatus 0
  | .each name items body =>
    let expand : Expand (List (List Char)) :=
      match items with
      | none => do return (← theShell).scope.arguments
      | some words => do return (← words.mapM expandWords).flatten
    s.expanding command results expand fun items s => (s.withStatus 0).before [.next name items body]
  | .cases subject branches =>
    let expand : Expand (Option Command) := do
      let text ← expandText subject
      branches.findSomeM? fun (patterns, body) => do
        let fitting ← patterns.anyM fun pattern => do
          return fits (elements (itemMarks (← expandWord pattern))) (byteChars text)
        return if fitting then some body else none
    s.expanding command results expand fun found s =>
      (s.withStatus 0).before ((found.map (Task.run · [])).toList)
  | .define name body =>
    s.withStatus 0 |>.modifyScope fun scope =>
      { scope with functions := (name, body) :: scope.functions.filter fun f => f.1 ≠ name }
  | .redirected inner redirects =>
    let expand : Expand (List (Redirect × List Char)) :=
      redirects.mapM fun r => do return (r, ← targetOf r)
    s.expanding command results expand fun targets redirected =>
      match redirected.redirectAll targets with
      | .ok redirected => redirected.before [.run inner [], .streams s.scope.streams]
      | .error reason =>
        let s := s.protest reason
        if isFatal reason then s.exit 2 else (s.withStatus 2).checked
  | .simple settings words redirects =>
    s.expanding command results (expandSimple settings words redirects)
      fun (words, targets, settings) s => s.runSimple results.isEmpty words targets settings

/-- Commands of a script that comes as input are carried out as soon as they are whole. What has been
read of the input is read for the script, so that its commands do not see it. -/
def interpret (s : State) (pending : List Char) : Step :=
  let isWhole (script : List Char) : Bool :=
    !(commands script).isEmpty && (commands script).all fun
      | .faulty => false
      | _ => true
  let ends := (pending.zipIdx.filter fun (c, _) => c = '\n').map fun (_, i) => i + 1
  match ends.find? fun size => isWhole (pending.take size), s.readable 0 with
  | some size, _ => .goesOn (s.before (tasksOf (pending.take size) ++ [.interpret (pending.drop size)]))
  | none, none => .goesOn (s.before (tasksOf pending))
  | none, some ([], true) => .goesOn (s.before (tasksOf pending))
  | none, some ([], false) => .waits (s.before [.interpret pending])
  | none, some (bytes, _) =>
    .goesOn ((s.consume 0 bytes.length).before [.interpret (pending ++ Path.ofBytes bytes)])

def carryOut (s : State) (task : Task) : Step :=
  let go (tasks : List Task) : Step := .goesOn (s.before tasks)
  match task with
  | .run command results =>
    .goesOn (if s.scope.options.contains 'n' then s else s.runCommand command results)
  | .collect buffer command results before =>
    let text := (Path.ofBytes (s.buffer buffer)).filter (· ≠ '\x00')
    let text := (text.reverse.dropWhile (· = '\n')).reverse
    let known : Task := .run command (results ++ [text])
    .goesOn { s.before [known] with status := before, outputStatus := s.status }
  | .lines tokens =>
    match nextLine? s.scope.aliases tokens with
    | none => .goesOn s
    | some (command, []) => go [.run command []]
    | some (command, rest) => go [.run command [], .lines rest]
  | .invoke words => s.invoke words
  | .program words => if words.isEmpty then .goesOn (s.withStatus 0) else s.invokeProgram words
  | .feed buffer command =>
    .goesOn ((s.before [.run command [], .leave s.scope]).inner.putStream 0 (some (.buffer buffer)))
  | .also wanted command => if (s.status = 0) = wanted then go [.run command []] else .goesOn s
  | .negate => .goesOn (s.withStatus (if s.status = 0 then 1 else 0))
  | .choose yes no => go [.run (if s.status = 0 then yes else no) []]
  | .tested endsWhenTrue test body last =>
    if (s.status = 0) = endsWhenTrue then .goesOn (s.withStatus last)
    else go [.run body [], .again endsWhenTrue test body]
  | .again endsWhenTrue test body => go [.run test [], .tested endsWhenTrue test body s.status]
  | .next name items body =>
    match items with
    | [] => .goesOn s
    | item :: items =>
      if s.isFixed name then .goesOn ((s.protest (name ++ ": is read only".toList)).exit 2)
      else .goesOn ((s.set name item).before [.run body [], .next name items body])
  | .streams before => .goesOn (s.modifyScope fun scope => { scope with streams := before })
  | .restore before =>
    .goesOn (before.foldl (fun s (name, old) => s.putVariable name old) s)
  | .leave scope =>
    match s.atEnd? s.status (.leave scope :: s.tasks) with
    | some s => .goesOn s
    | none => .goesOn { s with scope }
  | .returned arguments locals place =>
    let restored := (s.scope.locals.getD []).foldl (fun (s : State) (name, old) =>
      s.putVariable name old) s
    .goesOn (restored.modifyScope fun scope => { scope with arguments, locals, place })
  | .sourced | .waited => .goesOn s
  | .status code => .goesOn (s.withStatus code)
  | .check => .goesOn s.checked
  | .depart => .goesOn (s.exit s.status)
  | .interpret pending => s.interpret pending

/-- The shell turns to a signal that has reached it, unless a command or a subshell holds it up; it does
not wait for commands in the background any longer. -/
def interrupt? (s : State) : Option State :=
  let isWaited : Task → Bool
    | .waited => true
    | _ => false
  match s.pending with
  | [] => none
  | number :: pending =>
    let handle (s : State) : State :=
      let action := (s.scope.handlers.lookup number).getD []
      { s.before (tasksOf action ++ [.status s.status]) with pending }
    if s.tasks.any isWaited then
      let woken := s.unwind isWaited s.tasks
      some (handle { woken with status := 128 + number, pause := none, isHeld := false })
    else if s.isHeld || s.isInner then none
    else some (handle s)

def step (s : State) : Step :=
  match s.interrupt?, s.tasks with
  | some s, _ => .goesOn s
  | none, task :: rest => { s with tasks := rest, isHeld := false }.carryOut task
  | none, [] => .goesOn (s.exit s.status)

/-- The shell goes on until it has to wait or has ended. Fuel: each step takes a task. -/
def goOn : Nat → State → State
  | 0, s => s
  | fuel + 1, s =>
    if s.ended.isSome || s.isFull then s
    else
      match s.step with
      | .goesOn s => goOn fuel s
      | .waits s =>
        match s.leaving with
        | some code => { s with tasks := [], ended := some code }
        | none => s

end State

end Scalpel.Shell
