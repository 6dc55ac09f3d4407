import ValidatorKeys.Shell.Execution

/-!
# Shells as programs

How a shell begins: its options, the variables that it has from the start and those that it was
handed, and where its script comes from.
-/

namespace ValidatorKeys.Shell

open Kernel (Bytes Work)

/-! ## Options -/

/-- What the arguments of a shell ask for. -/
structure Invocation where
  options : List (Bool × String) := []
  fromArgument : Bool := false
  arguments : List Bytes := []

/-- Reads the options in front of the arguments, of which there are at most `n`; answers the option
that there is none of. -/
def Invocation.read (i : Invocation) : Nat → List Bytes → Except Bytes Invocation
  | 0, args => .ok { i with arguments := args }
  | _, [] => .ok i
  | n + 1, s :: rest =>
    match s with
    | ['-'] => .ok { i with arguments := rest }
    | ['-', '-'] => .ok { i with arguments := rest }
    | sign :: c :: more =>
      if sign ≠ '-' ∧ sign ≠ '+' then .ok { i with arguments := s :: rest }
      else
        let on : Bool := sign = '-'
        let letters := c :: more
        let own := letters.filter fun d => d ≠ 'c' && d ≠ 'l' && d ≠ 'o'
        match own.find? fun d => (optionOfLetter? d).isNone with
        | some d => .error ['-', d]
        | none =>
          let i := { i with
            options := i.options ++ (own.filterMap optionOfLetter?).map fun o => (on, o)
            fromArgument := i.fromArgument || letters.contains 'c' }
          if letters.contains 'o' then
            match rest with
            | [] => .ok i
            | name :: rest =>
              let text := String.ofList name
              if isOption text then
                Invocation.read { i with options := i.options ++ [(on, text)] } n rest
              else .error ("-o ".toList ++ name)
          else i.read n rest
    | _ => .ok { i with arguments := s :: rest }

/-! ## Variables -/

def firstVariables : List (String × Bytes) :=
  [("IFS", [' ', '\t', '\n']), ("OPTIND", ['1']), ("PATH", standardPath), ("PS1", "# ".toList),
    ("PS2", "> ".toList), ("PS4", "+ ".toList)]

def Frame.importing (f : Frame) (handed : List Bytes) : Frame :=
  handed.foldl (fun f s =>
    let name := s.takeWhile (· ≠ '=')
    if isName name && name.length < s.length then
      let value := if name = "IFS".toList then [' ', '\t', '\n']
        else if name = "OPTIND".toList then ['1'] else s.drop (name.length + 1)
      f.put { f.variableOf name with value := some value, exported := true }
    else f) f

def firstFrame (dialect : Dialect) (name : Bytes) : Work Frame := do
  let base : Frame := {
    dialect := dialect, name := name
    vars := firstVariables.map fun v => { name := v.1.toList, value := some v.2 } }
  let f := base.importing (← Work.environment)
  let f := f.set "PPID".toList (← Work.parent).repr.toList
  let cwd ← Work.directory
  let same ← match f.named? "PWD" with
    | some path => Work.onFiles fun t cwd =>
      path.head? == some '/' && t.isSame cwd (Text.stringOfOctets path) "."
    | none => pure false
  let f := f.putExported "PWD" (if same then (f.named? "PWD").getD [] else Text.octetsOf cwd)
  pure { f with shell := ← Work.self, line := 0 }

/-! ## Scripts -/

def runScript (text : Bytes) (isFile : Bool) : Act Unit := do
  modify fun f => { f with line := 1 }
  runTask { final := !isFile } (.script text 1 isFile)

/-- Ends a shell that is called by a name with a complaint. -/
def refuseStart (name text : Bytes) : Act Unit := do
  tell (name ++ ": 0: ".toList ++ text ++ ['\n'])
  work (Work.finish (.exited 2))

/-- Runs the script that the arguments name, or that stands in them or in the input. -/
def runInvocation (name : Bytes) (i : Invocation) : Act Unit := do
  modify fun f => i.options.foldl (fun f o => f.withOption o.2 o.1) f
  if i.fromArgument then
    match i.arguments with
    | [] => refuseStart name "-c requires an argument".toList
    | script :: rest =>
      modify fun f => { f with name := rest.headD name, arguments := rest.tail }
      runScript script false
  else
    match i.arguments, (← get).has "stdin" with
    | path :: rest, false =>
      match ← work (Work.contentOf (Text.stringOfOctets path)) with
      | .ok text =>
        modify fun f => { f with name := path, arguments := rest }
        runScript text true
      | .error e =>
        if e ≠ .isDirectory then
          refuseStart name ("cannot open ".toList ++ path ++ ": ".toList ++
            (if isMissing e then "No such file" else e.text).toList)
    | args, _ =>
      modify fun f => { f.withOption "stdin" true with arguments := args }
      match ← work (Work.readAll 0) with
      | .ok text => runScript text true
      | .error _ => pure ()

def shell (dialect : Dialect) (name : Bytes) (args : List Bytes) : Work Unit := do
  let f ← firstFrame dialect name
  let act : Act Unit :=
    match Invocation.read {} (args.length + 1) args with
    | .ok i => runInvocation name i
    | .error option => refuseStart name ("Illegal option ".toList ++ option)
  let _ ← (live runTask act).run.run f

end ValidatorKeys.Shell
