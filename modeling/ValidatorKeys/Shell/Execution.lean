import ValidatorKeys.Shell.Braces
import ValidatorKeys.Shell.Builtin.Table
import ValidatorKeys.Shell.Redirecting

/-!
# Execution of scripts

`step` runs one task; what it holds, scripts included, is run by the `run` that is handed in.
`runWithin n` is that function tied to itself `n` deep.

    runWithin (n + 1) c t = step (runWithin n) c t
-/

namespace ValidatorKeys.Shell

open Kernel (Bytes Work)

/-! ## Statuses -/

/-- A step behind which signals are seen to, and a failure may end the shell. -/
def checked (run : Running) (c : Standing) (act : Act Unit) : Act Unit := do
  act
  runTraps run
  let f ← get
  if f.has "errexit" && !c.tested && f.status ≠ 0 then throw (.exit f.status)

/-- A turn of a loop; answers whether another one may follow. -/
def turn (body : Act Unit) : Act Bool := do
  modify fun f => { f with loops := f.loops + 1 }
  let finish : Act Unit := modify fun f => { f with loops := f.loops - 1 }
  try
    body
    finish
    pure true
  catch
    | .leave n => do
      finish
      if n ≤ 1 then pure false else throw (.leave (n - 1))
    | .again n => do
      finish
      if n ≤ 1 then pure true else throw (.again (n - 1))
    | stop => do
      finish
      throw stop

/-! ## Assignments -/

/-- Gives a variable its value; answers how that is written. -/
def assign (run : Running) (a : Assignment) : Act Bytes := do
  let text ← assignedText (capture run) a.2
  assignText a.1 text
  pure (a.1 ++ '=' :: text)

/-! ## Commands -/

/-- What the name of a command means. -/
inductive Meaning where
  | function (body : Statement)
  | builtin (b : Builtin)
  | program
  | missing (e : FileError)

/-- What the name of a command means where programs are looked for along a path. -/
def meaningOf (functions : Bool) (path name : Bytes) : Act Meaning := do
  let f ← get
  let body := if functions then f.function? name else none
  let text := String.ofList name
  match body, namedBuiltin? name with
  | some body, _ => pure (.function body)
  | none, some b => pure (.builtin b)
  | none, none =>
    if text = "type" then pure (.builtin typeBuiltin)
    else
      match ← work (Work.onFiles fun t cwd => locate path name t cwd) with
      | .ok _ => pure .program
      | .error e => pure (.missing e)

/-- The option letters of `command`, of which `p` alone lets a command be run; the arguments behind
them, and whether the standard path is meant. -/
def commandArguments : List Bytes → Option (Bool × List Bytes)
  | [] => none
  | s :: rest =>
    match s with
    | ['-', '-'] => if rest.isEmpty then none else some (false, rest)
    | '-' :: c :: more =>
      if (c :: more).all (· = 'p') then (commandArguments rest).map fun (_, args) => (true, args)
      else none
    | _ => some (false, s :: rest)

/-- Describes commands instead of running them. -/
def commandBuiltin : Builtin where
  perform _ _ args := do
    let (options, names) ← readOptions "pvV" args
    setStatus 0
    let f ← get
    let path := if given options 'p' then standardPath else pathOf f
    if given options 'v' then describeAll true path (names.take 1)
    else if given options 'V' then describeAll false path (names.take 1)

/-- A command with its arguments behind any number of `command` in front, at most `n` of them: whether
there was one, the path along which programs are looked for, and what is to be run. -/
def unwrap (f : Frame) (path : Bytes) : Nat → Bool → List Bytes → Bool × Bytes × List Bytes
  | 0, seen, args => (seen, path, args)
  | n + 1, seen, name :: args =>
    if name = "command".toList && (seen || (f.function? name).isNone) then
      match commandArguments args with
      | some (standard, rest) => unwrap f (if standard then standardPath else path) n true rest
      | none => (seen, path, name :: args)
    else (seen, path, name :: args)
  | _, seen, [] => (seen, path, [])

/-- How deep calls of functions may be nested. -/
def callLimit : Nat := 1000

/-- Calls a function. -/
def callFunction (run : Running) (c : Standing) (body : Statement) (args : List Bytes) :
    Act Unit := do
  let before ← get
  if callLimit ≤ before.calls then
    abort "Maximum function recursion depth (1000) reached".toList
  set { before with
    arguments := args, loops := 0, calls := before.calls + 1, saved := [] :: before.saved
    optionIndex := 1, optionOffset := 0 }
  let restore : Act Unit := modify fun f =>
    let f := f.restored (f.saved.headD [])
    { f with
      arguments := before.arguments, loops := before.loops, calls := before.calls
      saved := f.saved.tail, optionIndex := before.optionIndex
      optionOffset := before.optionOffset }
  try
    run { tested := c.tested } (.statement body)
    restore
  catch
    | .back => restore
    | stop => do
      restore
      throw stop

/-- Runs a command of the shell; one that is not special only fails where the shell would end. -/
def callBuiltin (run : Running) (c : Standing) (special : Bool) (b : Builtin) (name : Bytes)
    (args : List Bytes) : Act Unit := do
  let before := (← get).command
  modify fun f => { f with command := some name }
  let restore : Act Unit := modify fun f => { f with command := before }
  try
    b.perform run c args
    restore
  catch
    | .failed status => do
      restore
      if special then throw (.failed status) else setStatus status
    | stop => do
      restore
      throw stop

/-- The arguments that words make.  Behind a command that takes assignments, those that assign stay
whole. -/
def argumentsOf (run : Running) (words : List Word) : Act (List Bytes) := do
  let words := match (← get).dialect with
    | .plain => words
    | .extended => words.flatMap Braces.alternatives
  let rec go (assigning : Bool) : List Word → Act (List Bytes)
    | [] => pure []
    | w :: rest => do
      match assigning, Word.assignment? w with
      | true, some _ => do
        let text ← assignedText (capture run) w
        pure (text :: (← go assigning rest))
      | _, _ => do
        let fields ← fieldsOf (capture run) w
        pure (fields ++ (← go assigning rest))
  match words with
  | [] => pure []
  | w :: rest => do
    let fields ← fieldsOf (capture run) w
    let assigning := match fields with
      | [name] => ["export", "readonly", "local"].contains (String.ofList name)
      | _ => false
    pure (fields ++ (← go assigning rest))

/-- The frame with those variables as they are in another one. -/
def Frame.withVariables (f before : Frame) (names : List Bytes) : Frame :=
  names.foldl (fun f name =>
    match before.find? name with
    | some v => f.put v
    | none => f.drop name) f

def commandTime : Nat := 5

/-- Shows a command before it is run. -/
def trace (asides : List Aside) (texts : List Bytes) : Act Unit := do
  let start := ((← get).named? "PS4").getD []
  let number := ((asides.find? fun a => a.1 == 2).bind Prod.snd).getD 2
  let _ ← work (Work.write number (start ++ List.intercalate [' '] texts ++ ['\n']))

/-- What becomes of a command with arguments, when its assignments and redirections are made. -/
def perform (run : Running) (c : Standing) (seen : Bool) (path : Bytes) (meaning : Meaning)
    (args : List Bytes) : Act Unit := do
  let name := args.headD []
  match meaning with
  | .function body => callFunction run c body args.tail
  | .builtin b => callBuiltin run c (b.special && !seen) b name args.tail
  | .program => runProgram run c path name args.tail
  | .missing e => do
    complain (startComplaint name e)
    setStatus 127

/-- Runs a simple command.  Assignments in front of a command hold for it alone, unless it is a
special one of the shell. -/
def runSimple (run : Running) (c : Standing) (assignments : List Assignment) (words : List Word)
    (redirections : List Redirection) : Act Unit := do
  work (Work.rest commandTime)
  modify fun f => { f with outputStatus := 0 }
  let fields ← argumentsOf run words
  let changes ← redirections.mapM (changeOf run)
  let f ← get
  let (seen, path, args) := unwrap f (pathOf f) fields.length false fields
  let isCommand := args.head? = some "command".toList && (f.function? "command".toList).isNone
  let special ← match args with
    | [] => pure false
    | name :: _ => do
      match if seen then none else f.function? name, namedBuiltin? name with
      | none, some b => pure (b.special && !seen)
      | _, _ => pure false
  let isExec := special && args.head? = some "exec".toList
  let (made, asides) ← makeChanges run [] changes
  let undo : Act Unit :=
    if isExec && made then
      work (asides.forM fun a =>
        match a.2 with
        | some aside => Work.close aside
        | none => pure ())
    else putBack asides
  if !made then
    putBack asides
    setStatus 2
    if special then throw (.failed 2)
  else
    let lasting := args.isEmpty || special
    ensuring (do
      let shown ← assignments.mapM fun a => do
        let text ← assign run a
        if !lasting then modify fun f => f.put { f.variableOf a.1 with exported := true }
        pure text
      if (← get).has "xtrace" then trace asides (shown ++ fields)
      if args.isEmpty then modify fun g => { g with status := g.outputStatus }
      else
        let g ← get
        let path := if path = pathOf f then pathOf g else path
        let meaning ←
          if isCommand then pure (.builtin commandBuiltin)
          else meaningOf (!seen) path (args.headD [])
        perform run c seen path meaning args)
      (do
        undo
        if !lasting then modify fun g => g.withVariables f (assignments.map Prod.fst))

/-! ## Conditions in double brackets -/

/-- Decides a condition in double brackets. -/
def decideTest (run : Running) : Test → Act Bool
  | .word w => do pure !(← textOf (capture run) w).isEmpty
  | .negated t => do pure !(← decideTest run t)
  | .both s t => do
    if ← decideTest run s then decideTest run t else pure false
  | .either s t => do
    if ← decideTest run s then pure true else decideTest run t
  | .unary operator w => do
    let s ← textOf (capture run) w
    match ← work (Work.onFiles fun t cwd => Condition.askOne t cwd (operator.getLastD 'e') s) with
    | .ok b => pure b
    | .error _ => pure false
  | .binary left operator right => do
    let a ← textOf (capture run) left
    let op := String.ofList operator
    if op = "=" ∨ op = "==" ∨ op = "!=" then
      let items ← patternOf (capture run) right
      pure (Pattern.isMatch items a != (op = "!="))
    else
      let b ← textOf (capture run) right
      match Condition.comparison? op with
      | some compare => pure (compare (← evaluate a) (← evaluate b))
      | none =>
        match ← work (Work.onFiles fun t cwd => Condition.askTwo t cwd a operator b) with
        | .ok b => pure b
        | .error _ => pure false

/-! ## Children -/

/-- Starts the parts of a pipeline, the first of which reads from `input`; answers the children. -/
def startParts (run : Running) (c : Standing) (input : Option Nat) :
    List Statement → Act (List Nat)
  | [] => pure []
  | s :: rest => do
    let ends? ← if rest.isEmpty then pure none else do pure (some (← work Work.pipe))
    let id ← subshell run do
      match ends? with
      | some (r, _) => work (Work.close r)
      | none => pure ()
      match input with
      | some number => work (Work.become number 0)
      | none => pure ()
      match ends? with
      | some (_, w) => work (Work.become w 1)
      | none => pure ()
      run { c with final := true } (.statement s)
    match input with
    | some number => work (Work.close number)
    | none => pure ()
    match ends? with
    | some (r, w) => do
      work (Work.close w)
      pure (id :: (← startParts run c (some r) rest))
    | none => pure [id]

/-- Runs a pipeline; its status is that of its last part. -/
def runPipeline (run : Running) (c : Standing) (parts : List Statement) : Act Unit := do
  let ids ← startParts run c none parts
  let statuses ← ids.mapM awaitChild
  setStatus (statuses.getLastD 0)

/-- Runs a statement beside the shell, without input. -/
def runBackground (run : Running) (body : Statement) : Act Unit := do
  let id ← subshell run do
    work (Work.provide 2 true false)
    work (Work.provide 3 true false)
    work (Work.close 0)
    let _ ← work (Work.openFile "/dev/null" .reading 0)
    match body with
    | .subshell _ inner [] => run { final := true } (.statement inner)
    | body => run { final := true } (.statement body)
  modify fun f => { f with
    background := some id, status := 0, jobs := { process := id } :: f.jobs }

/-- Runs a statement in a subshell; when nothing follows, in place of the shell. -/
def runSubshell (run : Running) (c : Standing) (body : Statement)
    (redirections : List Redirection) : Act Unit := do
  let inner : Act Unit := do
    if ← redirectForGood run redirections then
      run { tested := c.tested, final := true } (.statement body)
    else throw (.failed 2)
  let f ← get
  if c.final && !(f.traps.any fun t => !t.2.isEmpty) then
    modify fun f => { f with isSubshell := true, jobs := [] }
    inner
    throw (.exit (← get).status)
  else inSubshell run inner

/-! ## Statements -/

/-- Runs a body as long as a test allows it, at most `n` times; `status` is that of the last turn. -/
def runLoop (run : Running) (c : Standing) (untilTrue : Bool) (test body : Statement) :
    Nat → Nat → Act Unit
  | 0, status => setStatus status
  | n + 1, status => do
    if ← turn (run .looked (.statement test)) then
      let holds := (← get).status = 0
      if holds != untilTrue then
        let more ← turn (run { tested := c.tested } (.statement body))
        let status := (← get).status
        if more then runLoop run c untilTrue test body n status else setStatus status
      else setStatus status

/-- How often a loop may turn. -/
def turnLimit : Nat := 1000000000000000

/-- Runs a body for each of the values of a variable. -/
def runEach (body : Act Unit) (name : Bytes) : List Bytes → Act Unit
  | [] => pure ()
  | value :: rest => do
    assignText name value
    if ← turn body then runEach body name rest

/-- Runs the first arm of a choice that has a pattern for the text. -/
def runArms (run : Running) (c : Standing) (text : Bytes) :
    List (List Word × Statement) → Act Unit
  | [] => pure ()
  | (patterns, body) :: rest => do
    if ← patterns.anyM fun w => do
        pure (Pattern.isMatch (← patternOf (capture run) w) text) then
      match body with
      | .nothing => pure ()
      | body => run c (.statement body)
    else runArms run c text rest

def setLine (line : Nat) : Act Unit := modify fun f => { f with line := line }

/-- Runs one statement. -/
def runStatement (run : Running) (c : Standing) : Statement → Act Unit
  | .nothing => pure ()
  | .simple line assignments words redirections => do
    setLine line
    checked run c (runSimple run c assignments words redirections)
  | .sequence first second => do
    run { tested := c.tested } (.statement first)
    run c (.statement second)
  | .both first second => do
    run .looked (.statement first)
    if (← get).status = 0 then run c (.statement second)
  | .either first second => do
    run .looked (.statement first)
    if (← get).status ≠ 0 then run c (.statement second)
  | .negated body => do
    run .looked (.statement body)
    let status := (← get).status
    setStatus (if status = 0 then 1 else 0)
    runTraps run
  | .pipeline parts => checked run c (runPipeline run c parts)
  | .background body => do
    runBackground run body
    runTraps run
  | .conditional test yes no => do
    run .looked (.statement test)
    if (← get).status = 0 then run c (.statement yes)
    else
      match no with
      | some no => run c (.statement no)
      | none => setStatus 0
    runTraps run
  | .loop untilTrue test body => do
    runLoop run c untilTrue test body turnLimit 0
    runTraps run
  | .each line name items body => do
    setLine line
    let values ← match items with
      | some words => argumentsOf run words
      | none => do pure (← get).arguments
    setStatus 0
    runEach (run { tested := c.tested } (.statement body)) name values
    runTraps run
  | .choice line subject arms => do
    setLine line
    let text ← textOf (capture run) subject
    setStatus 0
    runArms run c text arms
    runTraps run
  | .redirected line body redirections => do
    setLine line
    redirecting run redirections (setStatus 2)
      (run { tested := c.tested } (.statement body))
    runTraps run
  | .subshell line body redirections => do
    setLine line
    checked run c (runSubshell run c body redirections)
  | .define line name body => do
    setLine line
    modify fun f => { f with
      functions := (name, body) :: f.functions.filter fun p => p.1 ≠ name, status := 0 }
  | .condition line test => do
    setLine line
    checked run c do
      work (Work.rest commandTime)
      let holds ← decideTest run test
      setStatus (if holds then 0 else 1)

/-! ## Scripts -/

/-- Runs the lines of a script, of which there are at most `n`. -/
def runLines (run : Running) (c : Standing) (isFile : Bool) : Nat → Script → Act Unit
  | 0, _ => pure ()
  | n + 1, s => do
    match s.next with
    | .error fault => do
      setLine fault.line
      complain ("Syntax error: ".toList ++ fault.message.toList)
      throw (.failed 2)
    | .ok (statement?, rest) => do
      let f ← get
      let passed := s.rest.take (s.rest.length - rest.rest.length)
      if isFile && f.has "verbose" then tell passed
      modify fun f => { f with readLine := rest.line }
      match statement? with
      | some statement =>
        let last := rest.rest.isEmpty && passed.getLast? != some '\n'
        run { c with final := c.final && last } (.statement statement)
      | none => pure ()
      if rest.rest.isEmpty then pure () else runLines run c isFile n rest

/-- Runs one task; what it holds is run by `run`. -/
def step (run : Running) (c : Standing) : Task → Act Unit
  | .statement s => do
    if !(← get).has "noexec" then runStatement run c s
  | .script text line isFile => do
    let f ← get
    runLines run c isFile (text.length + 1) { rest := text, line := line, dialect := f.dialect }
    modify fun g => { g with readLine := f.readLine }

/-- Runs a task that is at most `n` deep. -/
def runWithin : Nat → Running
  | 0, _, _ => throw (.failed 2)
  | n + 1, c, t => step (runWithin n) c t

/-- How deep a script may go. -/
def depthLimit : Nat := 1000000

/-- Runs a task. -/
def runTask : Running := runWithin depthLimit

end ValidatorKeys.Shell
