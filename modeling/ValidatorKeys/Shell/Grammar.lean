import ValidatorKeys.Shell.Condition
import ValidatorKeys.Shell.Source

/-!
# The grammar of scripts

A script is read line by line: each line is one statement, and what stands wrong in a later line
does not keep the earlier ones from being run.  Reserved words count where a command may begin.

    list      = pipelines joined by && and ||, with ; or & or line feeds between
    pipeline  = commands joined by |, with ! in front if the status is turned round
    command   = a compound command with its redirections, a function, or a simple command

Every function takes a number that bounds how deep it may go; `fuelOf` is enough for any script of
a given length.
-/

namespace ValidatorKeys.Shell

open Kernel (Bytes)

namespace Reader

/-! ## Characters and reserved words -/

/-- Whether a character outside quotes ends a word. -/
def isBoundary (c : Char) : Bool := " \t\n;&|<>()".toList.contains c

/-- Whether a character alone names a parameter. -/
def isSpecial (c : Char) : Bool := "@*#?$!-".toList.contains c || c.isDigit

/-- Words that count where a command may begin. -/
def reservedWords : List String :=
  ["!", "case", "do", "done", "elif", "else", "esac", "fi", "for", "if", "in", "then", "until",
    "while", "\x7b", "\x7d"]

/-- Reserved words and symbols that end a list. -/
def closers : List String :=
  [")", ";;", "do", "done", "elif", "else", "esac", "fi", "then", "\x7d"]

/-- Commands that no function may be named for. -/
def specialCommands : List String :=
  [".", ":", "break", "continue", "eval", "exec", "exit", "export", "local", "readonly", "return",
    "set", "shift", "times", "trap", "unset"]

def describe : Token → String
  | .ended => "end of file"
  | .newline => "newline"
  | .symbol s => "\"" ++ s ++ "\""
  | .redirection _ _ _ => "redirection"
  | .word _ _ => "word"

/-- Stops at a token that may not stand here. -/
def refuse {α : Type} (expected : Option String) (t : Token) : Reader α := do
  fail fun l => .unexpected l (describe t) (expected.map fun e => "\"" ++ e ++ "\"")

/-- Within what a word, or a part of one, stands.  `nested` and `inner` tell of braces within
quotes and of quotes within braces. -/
inductive Place where
  | word
  | braces
  | quotes (nested : Bool)
  | quotedBraces (inner document : Bool)
  | arithmetic (depth : Nat)
  | document
  deriving Repr, DecidableEq

def Place.inQuotes : Place → Bool
  | .word => false
  | .braces => false
  | _ => true

/-- Whether a backslash keeps this character between double quotes. -/
def Place.keeps (p : Place) (c : Char) : Bool :=
  c = '\\' || c = '\x60' || c = '$' ||
    (c = '"' && match p with
      | .document => false
      | _ => true) ||
    (c = '\x7d' && match p with
      | .quotes nested => nested
      | .quotedBraces _ _ => true
      | _ => false)

/-- A word with a character more in front, quoted or not. -/
def addChar (quoted : Bool) (c : Char) (w : Word) : Word :=
  if quoted then w.addQuoted c else w.addLiteral c

/-- Stops where a word or a part of one is cut off by the end of the script. -/
def cutOff (p : Place) : Reader (Word × Bool) :=
  match p with
  | .word => pure ([], false)
  | .document => pure ([], false)
  | .braces => fail fun l => .missing l "\x7d"
  | .quotedBraces _ true => fail fun l => .missing l "\x7d"
  | .arithmetic _ => fail fun l => .missing l "))"
  | _ => fail .unterminatedQuotes

/-- What is asked of the next token: whether line feeds are passed over, and reserved words count. -/
structure Wanted where
  lines : Bool := false
  reserved : Bool := false

def Wanted.command : Wanted := { reserved := true }

/-- What is asked where a command may begin on a later line. -/
def Wanted.laterCommand : Wanted := { lines := true, reserved := true }

/-- How a list ends: with its line, at a closer behind its first command, or at any closer. -/
inductive Ends where
  | line
  | closer
  | anyCloser
  deriving Repr, DecidableEq

def append : Option Statement → Statement → Statement
  | none, s => s
  | some r, s => .sequence r s

/-! ## The grammar -/

def redirectionKind : Reader (RedirectionKind × Bool) := do
  if ← accept '>' then
    if ← accept '>' then pure (.append, false)
    else if ← accept '|' then pure (.overwrite, false)
    else if ← accept '&' then pure (.duplicate true, false)
    else pure (.output, false)
  else
    skip
    if ← accept '<' then
      pure (.document, ← accept '-')
    else if ← accept '&' then pure (.duplicate false, false)
    else if ← accept '>' then pure (.both, false)
    else pure (.input, false)

/-- Whether an unquoted text asks a question about the word behind it. -/
def isQuestion (s : Bytes) : Bool := Condition.kind? s = some .unary

/-- Whether an unquoted text compares the words around it. -/
def isComparison (s : Bytes) : Bool := s = "==".toList || Condition.kind? s = some .binary

mutual

/-- The pieces of a word or of a part of one, with whether anything in it is quoted. -/
def readPieces (p : Place) : Nat → Reader (Word × Bool)
  | 0 => cutOff p
  | n + 1 => do
    match ← look with
    | none => cutOff p
    | some c =>
      match p, c with
      | .word, c => if isBoundary c then pure ([], false) else readPiece p c n
      | .braces, '\x7d' => do
        skip
        pure ([], false)
      | .quotes _, '"' => do
        skip
        pure ([], true)
      | .quotedBraces false _, '\x7d' => do
        skip
        pure ([], false)
      | .quotedBraces inner document, '"' => do
        skip
        let (w, _) ← readPieces (.quotedBraces (!inner) document) n
        pure (w, true)
      | .arithmetic depth, '(' => do
        skip
        let (w, q) ← readPieces (.arithmetic (depth + 1)) n
        pure (w.addQuoted '(', q)
      | .arithmetic 0, ')' => do
        skip
        if ← accept ')' then pure ([], false)
        else
          let (w, q) ← readPieces (.arithmetic 0) n
          pure (w.addQuoted ')', q)
      | .arithmetic (depth + 1), ')' => do
        skip
        let (w, q) ← readPieces (.arithmetic depth) n
        pure (w.addQuoted ')', q)
      | p, c => readPiece p c n

/-- The piece that begins with a character, and those behind it. -/
def readPiece (p : Place) (c : Char) : Nat → Reader (Word × Bool)
  | 0 => cutOff p
  | n + 1 => do
    skip
    match c with
    | '\\' => do
      match ← takeRaw with
      | none => do
        let (w, _) ← readPieces p n
        pure (w.addQuoted '\\', true)
      | some d => do
        let (w, _) ← readPieces p n
        pure (if p.inQuotes && !p.keeps d then (w.addQuoted d).addQuoted '\\' else w.addQuoted d,
          true)
    | '\x27' => do
      if p.inQuotes then
        let (w, q) ← readPieces p n
        pure (w.addQuoted c, q)
      else
        let text ← singleQuoted
        let (w, _) ← readPieces p n
        pure (.quoted text :: w, true)
    | '"' => do
      if p.inQuotes then
        let (w, q) ← readPieces p n
        pure (w.addQuoted c, q)
      else
        let (inner, _) ← readPieces (.quotes (p = .braces)) n
        let (w, _) ← readPieces p n
        pure ((if inner.isEmpty then [.quoted []] else inner) ++ w, true)
    | '$' => do
      let piece ← readDollar p n
      let (w, q) ← readPieces p n
      pure (match piece with
        | .literal ['$'] => w.addLiteral '$'
        | .quoted ['$'] => w.addQuoted '$'
        | piece => piece :: w, q)
    | '\x60' => do
      let piece ← readBackquotes p.inQuotes n
      let (w, q) ← readPieces p n
      pure (piece :: w, q)
    | c => do
      let (w, q) ← readPieces p n
      pure (addChar p.inQuotes c w, q)

def readDollar (p : Place) : Nat → Reader Piece
  | 0 => pure (.literal ['$'])
  | n + 1 => do
    let alone : Piece := if p.inQuotes then .quoted ['$'] else .literal ['$']
    match ← look with
    | some '(' => do
      skip
      if ← accept '(' then
        let (w, _) ← readPieces (.arithmetic 0) n
        pure (.value w p.inQuotes)
      else
        let body ← readEnclosed n
        pure (.output body p.inQuotes)
    | some '\x7b' => do
      skip
      readBraces p n
    | some c =>
      if isNameStart c then
        let name ← takeWhile isNameChar n
        pure (.parameter name .plain [] p.inQuotes)
      else if isSpecial c then
        skip
        pure (.parameter [c] .plain [] p.inQuotes)
      else pure alone
    | none => pure alone

/-- The expansion of a parameter behind its opening brace. -/
def readBraces (p : Place) : Nat → Reader Piece
  | 0 => fail fun l => .missing l "\x7d"
  | n + 1 => do
    let (c, d) ← lookTwo
    let next := c.getD '\n'
    if isNameStart next then
      let name ← takeWhile isNameChar n
      readForm p name n
    else if next.isDigit then
      let name ← takeWhile Char.isDigit n
      readForm p name n
    else if next = '#' then
      let d := d.getD '\n'
      skip
      if isNameStart d then
        let name ← takeWhile isNameChar n
        if ← accept '\x7d' then pure (.parameter name .length [] p.inQuotes)
        else readMalformed p n
      else if d.isDigit then
        let name ← takeWhile Char.isDigit n
        if ← accept '\x7d' then pure (.parameter name .length [] p.inQuotes)
        else readMalformed p n
      else
        let (_, e) ← lookTwo
        if d = '\x7d' ∨ e ≠ some '\x7d' then readForm p ['#'] n
        else
          skip
          if isSpecial d then
            skip
            pure (.parameter [d] .length [] p.inQuotes)
          else readMalformed p n
    else if isSpecial next then
      skip
      readForm p [next] n
    else if next = '\x7d' then readMalformed p n
    else
      if c.isSome then skip
      readMalformed p n

/-- The form behind the name of a parameter, up to the closing brace. -/
def readForm (p : Place) (name : Bytes) : Nat → Reader Piece
  | 0 => fail fun l => .missing l "\x7d"
  | n + 1 => do
    let argument (form : Form) (cutting : Bool) : Reader Piece := do
      let place := match p, cutting with
        | _, true => Place.braces
        | .document, _ => .quotedBraces false true
        | .quotedBraces _ document, _ => .quotedBraces false document
        | p, _ => if p.inQuotes then .quotedBraces false false else .braces
      let (w, _) ← readPieces place n
      pure (.parameter name form w p.inQuotes)
    let formOf (c : Char) (colon : Bool) : Option Form :=
      match c with
      | '-' => some (.fallback colon)
      | '=' => some (.assign colon)
      | '?' => some (.require colon)
      | '+' => some (.instead colon)
      | _ => none
    match ← look with
    | some '\x7d' => do
      skip
      pure (.parameter name .plain [] p.inQuotes)
    | some ':' => do
      skip
      let c := (← look).getD '\n'
      match formOf c true with
      | some form => do
        skip
        argument form false
      | none => do
        if (← look).isSome then skip
        readMalformed p n
    | some '%' => do
      skip
      let longest ← accept '%'
      argument (.cut true longest) true
    | some '#' => do
      skip
      let longest ← accept '#'
      argument (.cut false longest) true
    | some c => do
      skip
      match formOf c false with
      | some form => argument form false
      | none => readMalformed p n
    | none => readMalformed p n

/-- An expansion that cannot be made, up to its closing brace. -/
def readMalformed (p : Place) : Nat → Reader Piece
  | 0 => fail fun l => .missing l "\x7d"
  | n + 1 => do
    let place := match p with
      | .document => Place.quotedBraces false true
      | .quotedBraces _ document => .quotedBraces false document
      | p => if p.inQuotes then .quotedBraces false false else .braces
    let (w, _) ← readPieces place n
    pure (.parameter [] .malformed w p.inQuotes)

/-- The list up to a closing parenthesis. -/
def readEnclosed : Nat → Reader Statement
  | 0 => fail fun l => .missing l ")"
  | n + 1 => do
    let outer := (← get).promises
    modify fun s => { s with promises := [], pushed := none }
    let body ← readList .anyCloser none n
    let t ← next {} n
    match t with
    | .symbol ")" => do
      modify fun s => { s with promises := outer, pushed := none }
      pure (body.getD .nothing)
    | t => refuse (some ")") t

def readBackquotes (inQuotes : Bool) : Nat → Reader Piece
  | 0 => fail fun l => .unterminatedBackquotes l
  | n + 1 => do
    let s ← get
    match backquoted inQuotes s.rest with
    | none => throw (.unterminatedBackquotes (s.line + s.rest.count '\n'))
    | some (text, rest) => do
      let passed := (s.rest.take (s.rest.length - rest.length)).count '\n'
      set { s with rest := text, promises := [], pushed := none }
      let body ← readList .anyCloser none n
      let inner ← get
      set { s with
        rest := rest, line := s.line + passed, pushed := none
        documents := inner.documents, found := inner.found, nested := inner.nested }
      pure (.output (body.getD .nothing) inQuotes)

/-- Reads the documents that were promised; the end of a line calls for them. -/
def readDocuments : Nat → Reader Unit
  | 0 => pure ()
  | n + 1 => do
    let s ← get
    match s.promises with
    | [] => pure ()
    | p :: rest => do
      let (text, after) := takeDocument p (s.rest.length + 1) false s.rest
      let passed := (s.rest.take (s.rest.length - after.length)).count '\n'
      set { s with promises := [], rest := text }
      let w ← if p.verbatim then pure [.quoted text] else do pure (← readPieces .document n).1
      modify fun t => { t with
        promises := rest, rest := after, line := s.line + passed, found := (p.index, w) :: t.found
        nested := t.nested + (if s.documents < t.documents then 1 else 0) }
      readDocuments n

def readToken : Nat → Reader Token
  | 0 => pure .ended
  | n + 1 => do
    let s ← get
    match s.pushed with
    | some t => do
      set { s with pushed := none }
      pure t
    | none =>
      match ← look with
      | none => pure .ended
      | some ' ' => do
        skip
        readToken n
      | some '\t' => do
        skip
        readToken n
      | some '#' => do
        modify fun s => { s with rest := s.rest.dropWhile (· ≠ '\n') }
        readToken n
      | some '\n' => do
        skip
        readDocuments n
        pure .newline
      | some '&' => do
        skip
        pure (.symbol (if ← accept '&' then "&&" else "&"))
      | some '|' => do
        skip
        pure (.symbol (if ← accept '|' then "||" else "|"))
      | some ';' => do
        skip
        pure (.symbol (if ← accept ';' then ";;" else ";"))
      | some '(' => do
        skip
        pure (.symbol "(")
      | some ')' => do
        skip
        pure (.symbol ")")
      | some _ => do
        let (w, quoted) ← readPieces .word n
        let c := (← look).getD '\n'
        let descriptor? : Option (Option Nat) :=
          match w with
          | [] => some none
          | [.literal [d]] => if d.isDigit then some (some (d.toNat - 48)) else none
          | _ => none
        match descriptor?, (c = '<' || c = '>') && !quoted with
        | some descriptor, true => do
          let (kind, strip) ← redirectionKind
          pure (.redirection descriptor kind strip)
        | _, _ => pure (.word w quoted)

def next (wanted : Wanted) : Nat → Reader Token
  | 0 => pure .ended
  | n + 1 => do
    match ← readToken n with
    | .newline => if wanted.lines then next wanted n else pure .newline
    | .word w quoted => do
      match (if quoted then none else w.bare?) with
      | none => pure (.word w quoted)
      | some text =>
        let counts := reservedWords.any (·.toList == text) ||
          text = "[[".toList && (← get).dialect = .extended
        if wanted.reserved && counts then pure (.symbol (String.ofList text))
        else pure (.word w quoted)
    | t => pure t

/-- Passes over a symbol or a reserved word. -/
def expect (text : String) (wanted : Wanted) : Nat → Reader Unit
  | 0 => pure ()
  | n + 1 => do
    match ← next wanted n with
    | .symbol s => if s = text then pure () else refuse (some text) (.symbol s)
    | t => refuse (some text) t

def readRedirection (descriptor : Option Nat) (kind : RedirectionKind) (strip : Bool) :
    Nat → Reader Redirection
  | 0 => fail fun l => .badDescriptor l
  | n + 1 => do
    let number := descriptor.getD (match kind with
      | .input => 0
      | .both => 0
      | .document => 0
      | .duplicate false => 0
      | _ => 1)
    match ← next {} n with
    | .word w quoted =>
      if kind = .document then
        let s ← get
        let p : Promise := ⟨s.documents, w.unquoted, strip, quoted⟩
        set { s with promises := s.promises ++ [p], documents := s.documents + 1 }
        let known := (s.known.find? fun d => d.1 == p.index).map Prod.snd
        pure (.redirection number kind (known.getD []))
      else pure (.redirection number kind w)
    | t => refuse none t

def readRedirections (wanted : Wanted) : Nat → Reader (List Redirection)
  | 0 => pure []
  | n + 1 => do
    match ← next wanted n with
    | .redirection descriptor kind strip => do
      let r ← readRedirection descriptor kind strip n
      pure (r :: (← readRedirections {} n))
    | t => do
      push t
      pure []

/-- A list of pipelines behind what was read of it before; none when there is nothing. -/
def readList (ends : Ends) (before : Option Statement) : Nat → Reader (Option Statement)
  | 0 => pure before
  | n + 1 => do
    match ← next { Wanted.command with lines := ends != Ends.line } n with
    | .newline => pure before
    | .ended => do
      push .ended
      pure before
    | t => do
      push t
      let closes := match t with
        | .symbol s => ends == Ends.anyCloser && closers.contains s
        | _ => false
      if closes then pure before
      else
        let s ← readAndOr n
        let later := if ends == Ends.line then Ends.line else Ends.anyCloser
        match ← next {} n with
        | .symbol "&" => readList later (some (append before (.background s))) n
        | .symbol ";" => readList later (some (append before s)) n
        | .newline => do
          if ends == Ends.line then pure (some (append before s))
          else readList later (some (append before s)) n
        | .ended => do
          push .ended
          pure (some (append before s))
        | t => do
          if ends == Ends.line then refuse none t
          push t
          pure (some (append before s))

/-- Pipelines joined by `&&` and `||`. -/
def readAndOr : Nat → Reader Statement
  | 0 => pure .nothing
  | n + 1 => do
    let s ← readPipeline {} n
    readJoined s n

/-- What is joined to a first pipeline. -/
def readJoined (s : Statement) : Nat → Reader Statement
  | 0 => pure s
  | n + 1 => do
    match ← next {} n with
    | .symbol "&&" => do
      let right ← readPipeline .laterCommand n
      readJoined (.both s right) n
    | .symbol "||" => do
      let right ← readPipeline .laterCommand n
      readJoined (.either s right) n
    | t => do
      push t
      pure s

/-- Commands joined by `|`, with `!` in front if the status is turned round. -/
def readPipeline (wanted : Wanted) : Nat → Reader Statement
  | 0 => pure .nothing
  | n + 1 => do
    match ← next wanted n with
    | .symbol "!" => do pure (.negated (← readPiped (← readCommand .command n) n))
    | t => do
      push t
      readPiped (← readCommand {} n) n

/-- The rest of a pipeline behind its first command. -/
def readPiped (s : Statement) : Nat → Reader Statement
  | 0 => pure s
  | n + 1 => do
    match ← readParts n with
    | [] => pure s
    | parts => pure (.pipeline (s :: parts))

/-- The commands behind the bars of a pipeline. -/
def readParts : Nat → Reader (List Statement)
  | 0 => pure []
  | n + 1 => do
    match ← next {} n with
    | .symbol "|" => do
      let s ← readCommand .laterCommand n
      pure (s :: (← readParts n))
    | t => do
      push t
      pure []

def readCommand (wanted : Wanted) : Nat → Reader Statement
  | 0 => pure .nothing
  | n + 1 => do
    let line := (← get).line
    match ← next wanted n with
    | .symbol "if" => do
      let s ← readConditional n
      readBehind line s n
    | .symbol "while" => do
      let test ← readBlock n
      expect "do" {} n
      let body ← readBlock n
      expect "done" {} n
      readBehind line (.loop false test body) n
    | .symbol "until" => do
      let test ← readBlock n
      expect "do" {} n
      let body ← readBlock n
      expect "done" {} n
      readBehind line (.loop true test body) n
    | .symbol "for" => do
      let s ← readFor line n
      readBehind line s n
    | .symbol "case" => do
      match ← next {} n with
      | .word subject _ => do
        expect "in" .laterCommand n
        let arms ← readArms n
        readBehind line (.choice line subject arms) n
      | t => fail fun l => .unexpected l (describe t) (some "word")
    | .symbol "\x7b" => do
      let body ← readBlock n
      expect "\x7d" {} n
      readBehind line body n
    | .symbol "(" => do
      let body ← readBlock n
      expect ")" {} n
      let rs ← readRedirections .command n
      pure (.subshell line body rs)
    | .symbol "[[" => do
      let t ← readTest n
      match ← next { lines := true } n with
      | .word w false =>
        if w.bare? = some "]]".toList then pure () else refuse (some "]]") (.word w false)
      | u => refuse (some "]]") u
      readBehind line (.condition line t) n
    | .word w quoted => do
      push (.word w quoted)
      readSimple (← get).line [] [] [] n
    | .redirection descriptor kind strip => do
      push (.redirection descriptor kind strip)
      readSimple (← get).line [] [] [] n
    | t => refuse none t

/-- A compound command with the redirections behind it. -/
def readBehind (line : Nat) (s : Statement) : Nat → Reader Statement
  | 0 => pure s
  | n + 1 => do
    match ← readRedirections .command n with
    | [] => pure s
    | rs => pure (.redirected line s rs)

/-- A list within a compound command. -/
def readBlock : Nat → Reader Statement
  | 0 => pure .nothing
  | n + 1 => do pure ((← readList .closer none n).getD .nothing)

/-- What stands behind `if` or `elif`, up to and with `fi`. -/
def readConditional : Nat → Reader Statement
  | 0 => pure .nothing
  | n + 1 => do
    let test ← readBlock n
    expect "then" {} n
    let yes ← readBlock n
    match ← next {} n with
    | .symbol "elif" => pure (.conditional test yes (some (← readConditional n)))
    | .symbol "else" => do
      let no ← readBlock n
      expect "fi" {} n
      pure (.conditional test yes (some no))
    | .symbol "fi" => pure (.conditional test yes none)
    | t => refuse (some "fi") t

/-- What stands behind `for`. -/
def readFor (line : Nat) : Nat → Reader Statement
  | 0 => pure .nothing
  | n + 1 => do
    match ← next {} n with
    | .word w quoted => do
      match (if quoted then none else w.bare?) with
      | none => fail fun l => .badLoopVariable l
      | some name =>
        if !isName name then fail fun l => .badLoopVariable l
        else
          match ← next .laterCommand n with
          | .symbol "in" => do
            let (items, t) ← readItems n
            match t with
            | .newline => pure ()
            | .symbol ";" => pure ()
            | t => refuse none t
            let body ← readLoopBody n
            pure (.each line name (some items) body)
          | t => do
            match t with
            | .symbol ";" => pure ()
            | t => push t
            let body ← readLoopBody n
            pure (.each line name none body)
    | _ => fail fun l => .badLoopVariable l

/-- The body of a loop, between `do` and `done`. -/
def readLoopBody : Nat → Reader Statement
  | 0 => pure .nothing
  | n + 1 => do
    match ← next .laterCommand n with
    | .symbol "do" => do
      let body ← readBlock n
      expect "done" {} n
      pure body
    | t => refuse (some "do") t

def readItems : Nat → Reader (List Word × Token)
  | 0 => pure ([], .ended)
  | n + 1 => do
    match ← next {} n with
    | .word w _ => do
      let (ws, t) ← readItems n
      pure (w :: ws, t)
    | t => pure ([], t)

/-- The arms of a choice, up to and with `esac`. -/
def readArms : Nat → Reader (List (List Word × Statement))
  | 0 => pure []
  | n + 1 => do
    match ← next { lines := true, reserved := true } n with
    | .symbol "esac" => pure []
    | t => do
      let t ← match t with
        | .symbol "(" => next {} n
        | t => pure t
      let patterns ← readPatterns t n
      let body ← readList .anyCloser none n
      match ← next { lines := true, reserved := true } n with
      | .symbol "esac" => pure [(patterns, body.getD .nothing)]
      | .symbol ";;" => do pure ((patterns, body.getD .nothing) :: (← readArms n))
      | t => refuse (some ";;") t

/-- The patterns of an arm from its first token on, up to the parenthesis behind them. -/
def readPatterns (t : Token) : Nat → Reader (List Word)
  | 0 => pure []
  | n + 1 => do
    let w := match t with
      | .word w _ => w
      | .symbol s => [.literal s.toList]
      | _ => []
    match ← next {} n with
    | .symbol "|" => do
      let t ← next {} n
      pure (w :: (← readPatterns t n))
    | .symbol ")" => pure [w]
    | t => refuse (some ")") t

/-- A simple command: assignments, then words, with redirections anywhere; or a function. -/
def readSimple (line : Nat) (assignments : List Assignment) (words : List Word)
    (redirections : List Redirection) : Nat → Reader Statement
  | 0 => pure .nothing
  | n + 1 => do
    match ← next {} n with
    | .word w _ =>
      match (if words.isEmpty then w.assignment? else none) with
      | some a => readSimple line (assignments ++ [a]) words redirections n
      | none => readSimple line assignments (words ++ [w]) redirections n
    | .redirection descriptor kind strip => do
      let r ← readRedirection descriptor kind strip n
      readSimple line assignments words (redirections ++ [r]) n
    | .symbol "(" =>
      match assignments, words, redirections with
      | [], [w], [] => do
        expect ")" {} n
        let name := w.unquoted
        if !isName name || specialCommands.any (·.toList == name) then
          fail fun l => .badFunctionName l
        let begun := (← get).line
        let body ← readCommand .laterCommand n
        pure (.define begun name body)
      | _, _, _ => do
        push (.symbol "(")
        pure (.simple line assignments words redirections)
    | t => do
      push t
      pure (.simple line assignments words redirections)

/-- A condition in double brackets, alternatives first. -/
def readTest : Nat → Reader Test
  | 0 => pure (.word [])
  | n + 1 => do
    let t ← readTestBoth n
    match ← next { lines := true } n with
    | .symbol "||" => pure (.either t (← readTest n))
    | u => do
      push u
      pure t

def readTestBoth : Nat → Reader Test
  | 0 => pure (.word [])
  | n + 1 => do
    let t ← readTestOne n
    match ← next { lines := true } n with
    | .symbol "&&" => pure (.both t (← readTestBoth n))
    | u => do
      push u
      pure t

def readTestOne : Nat → Reader Test
  | 0 => pure (.word [])
  | n + 1 => do
    match ← next { lines := true } n with
    | .symbol "(" => do
      let t ← readTest n
      expect ")" { lines := true } n
      pure t
    | .word w quoted => do
      let bare := if quoted then [] else w.bare?.getD []
      if bare = ['!'] then pure (.negated (← readTestOne n))
      else
        match ← next {} n with
        | .word v quoted =>
          let operator := v.bare?.getD []
          if isComparison operator then pure (.binary w operator (← readOperand n))
          else if isQuestion bare then pure (.unary bare v)
          else do
            push (.word v quoted)
            pure (.word w)
        | t => do
          push t
          pure (.word w)
    | t => refuse none t

/-- The right side of a condition about two words. -/
def readOperand : Nat → Reader Word
  | 0 => pure []
  | n + 1 => do
    match ← next {} n with
    | .word w _ => pure w
    | t => refuse none t

end

end Reader

/-! ## Scripts -/

/-- How deep the reading of a text may go. -/
def fuelOf (s : Bytes) : Nat := 12 * s.length + 200

/-- A script that is being read. -/
structure Script where
  rest : Bytes
  line : Nat := 1
  dialect : Dialect := .plain

namespace Script

def readLine (source : Source) : Except SyntaxFault (Option Statement × Source) :=
  (Reader.readList .line none (fuelOf source.rest)).run source

/-- Reads the first line of a script `n` times more, each time with the documents that were found
before. -/
def readAgain (source : Source) :
    Nat → Option Statement × Source → Except SyntaxFault (Option Statement × Source)
  | 0, r => pure r
  | n + 1, r => do readAgain source n (← readLine { source with known := r.2.found })

/-- The statement on the first line of a script, none when the line is empty, and the rest of the
script.  Documents are found in a first reading and put in their places in a second one; one within
another takes one reading more. -/
def next (s : Script) : Except SyntaxFault (Option Statement × Script) := do
  let source : Source := { rest := s.rest, line := s.line, dialect := s.dialect }
  let first ← readLine source
  let again := if first.2.documents = 0 then 0 else 1 + first.2.nested
  let (statement, after) ← readAgain source again first
  pure (statement, { s with rest := after.rest, line := after.line })

end Script

end ValidatorKeys.Shell
