import ValidatorKeys.Utility.Printing

/-!
# Starting other programs

`env` becomes another program in an environment of its making, or prints that environment.
-/

namespace ValidatorKeys.Utility

open Kernel (Bytes Image Work)

/-! ## Start -/

/-- Becomes a program that is searched for in the path of these variables; answers why it cannot. -/
def become (name : Bytes) (args vars : List Bytes) : Work FileError :=
  let path := (vars.find? fun v => "PATH=".toList.isPrefixOf v).map fun v =>
    Text.stringOfOctets (v.drop 5)
  Work.start (fun t cwd =>
    Image.ofCommandOrScript t cwd path (Text.stringOfOctets name) args vars) vars

/-! ## Environments -/

/-- Variables without one of them. -/
def withoutVariable (name : Bytes) (vars : List Bytes) : List Bytes :=
  vars.filter fun v => !((name ++ ['=']).isPrefixOf v)

/-- Variables with one of them set, in its place if it is there. -/
def withVariable (setting : Bytes) (vars : List Bytes) : List Bytes :=
  let start := setting.takeWhile (· ≠ '=') ++ ['=']
  if vars.any fun v => start.isPrefixOf v then
    vars.map fun v => if start.isPrefixOf v then setting else v
  else vars ++ [setting]

/-- The words of a text between blanks, behind a part of one; quotes keep blanks within a word.  There
are none where a quote is not closed. -/
def splitWords (quoted : Option Char) (word : Option Bytes) : Bytes → Option (List Bytes)
  | [] => if quoted.isSome then none else some word.toList
  | c :: rest =>
    if quoted = some c then splitWords none (some (word.getD [])) rest
    else if quoted.isNone ∧ (c = '\x27' ∨ c = '"') then
      splitWords (some c) (some (word.getD [])) rest
    else if quoted.isNone ∧ Printing.isBlank c then
      (splitWords none none rest).map (word.toList ++ ·)
    else splitWords quoted (some (word.getD [] ++ [c])) rest

/-- What is advised where options stand in one argument with the name of a program. -/
def splitAdvice : Bytes := "use -[v]S to pass options in shebang lines".toList

/-- The arguments with the words that `-S` asks for in its place, where it stands in front. -/
def splitArguments : List Bytes → Run (List Bytes)
  | ('-' :: 'S' :: s) :: rest =>
    let (s, rest) := if s.isEmpty then (rest.headD [], rest.tail) else (s, rest)
    match splitWords none none s with
    | some words => pure (words ++ rest)
    | none => abort 125 "no terminating quote in -S string".toList
  | args => pure args

/-- Prints the variables, or becomes a program with other ones. -/
def env (args : List Bytes) : Run Unit := do
  onWriteStatus 125
  let vars ← work Work.environment
  let args ← splitArguments args
  let (g, operands) ← arguments { letters := "iu:", inOrder := true, status := 125 } args
  let cleared := g.has 'i' || operands.head? = some ['-']
  let operands := if operands.head? = some ['-'] then operands.tail else operands
  let vars := if cleared then [] else (g.all 'u').foldl (fun vars u => withoutVariable u vars) vars
  for u in g.all 'u' do
    if u.isEmpty || u.contains '=' then
      abort 125 ("cannot unset ".toList ++ quote u ++ ": Invalid argument".toList)
  let settings := operands.takeWhile fun s => s.contains '='
  let command := operands.drop settings.length
  let vars := settings.foldl (fun vars s => withVariable s vars) vars
  if command.isEmpty then
    for v in vars do outLine v
  else
    let name := command.headD []
    let e ← work (become name command.tail vars)
    complain (quote name ++ ": ".toList ++ e.text.toList)
    if e = .notFound && name.any Printing.isBlank then complain splitAdvice
    finish (if e = .notFound then 127 else 126)

end ValidatorKeys.Utility
