import ValidatorKeys.Shell.Pattern
import ValidatorKeys.Utility.Options

/-!
# Exchanging characters

`tr` exchanges the characters of one set for those of another, or takes characters away.  A set is
spelled by single characters, ranges and classes.
-/

namespace ValidatorKeys.Utility

open Kernel (Bytes Work)

namespace Exchanging

/-! ## Sets -/

/-- A character of a set, and whether a backslash stood in front of it. -/
structure SetChar where
  char : Char
  escaped : Bool := false

/-- Whether this is a character that stands for itself in a construct. -/
def SetChar.is (s : SetChar) (c : Char) : Bool := s.char = c && !s.escaped

/-- The character that a letter behind a backslash stands for. -/
def escapeOf : Char → Char
  | 'n' => '\n'
  | 'r' => '\r'
  | 't' => '\t'
  | c => c

/-- The characters that a text spells. -/
def setChars : Bytes → List SetChar
  | '\\' :: c :: r => ⟨escapeOf c, true⟩ :: setChars r
  | c :: r => ⟨c, false⟩ :: setChars r
  | [] => []

def allBytes : Bytes := (List.range 256).map Char.ofNat

def classBytes? (name : String) : Option Bytes :=
  (Shell.characterClass? name).map fun p => allBytes.filter fun c => c.toNat < 128 && p c

/-- What stands in front of the end of a class, and what follows it. -/
def closed? : List SetChar → Option (Bytes × List SetChar)
  | a :: b :: r =>
    if a.is ':' && b.is ']' then some ([], r)
    else (closed? (b :: r)).map fun (inner, rest) => (a.char :: inner, rest)
  | _ => none

/-- The bytes of a set, read in at most `n` steps. -/
def setBytes : Nat → List SetChar → Except Bytes Bytes
  | 0, _ => .ok []
  | _, [] => .ok []
  | n + 1, a :: rest => do
    let opened := if a.is '[' && (rest.head?.map fun b => b.is ':').getD false then closed? rest.tail
      else none
    match opened, rest with
    | some (name, rest), _ =>
      match classBytes? (String.ofList name) with
      | some cs => pure (cs ++ (← setBytes n rest))
      | none => throw ("invalid character class ".toList ++ quote name)
    | none, dash :: c :: rest' =>
      if !dash.is '-' then pure (a.char :: (← setBytes n rest))
      else if c.char < a.char then
        throw ("range-endpoints of '".toList ++ [a.char, '-', c.char] ++
          "' are in reverse collating sequence order".toList)
      else
        let row := (List.range (c.char.toNat - a.char.toNat + 1)).map fun k =>
          Char.ofNat (a.char.toNat + k)
        pure (row ++ (← setBytes n rest'))
    | none, rest => pure (a.char :: (← setBytes n rest))

def readSet (s : Bytes) : Run Bytes := do
  let chars := setChars s
  match setBytes (chars.length + 1) chars with
  | .ok cs => pure cs
  | .error text => abort 1 text

/-! ## What is exchanged for what -/

/-- What a character becomes; the last of the new characters stands for all that are missing. -/
def exchanged (old new : Bytes) (c : Char) : Char :=
  ((old.zip (new ++ List.replicate (old.length - new.length) (new.getLastD c))).reverse.find?
    fun p => p.1 == c).elim c Prod.snd

/-- Exchanges what the input gives, block by block, at most `n` of them. -/
def exchangeBlocks (change : Bytes → Bytes) : Nat → Run Unit
  | 0 => pure ()
  | n + 1 => do
    match ← work (Work.read 0 (.bytes 65536)) with
    | .error e => abort 1 ("read error: ".toList ++ e.text.toList)
    | .ok [] => pure ()
    | .ok text => do
      out (change text)
      exchangeBlocks change n

end Exchanging

open Exchanging in
def tr (args : List Bytes) : Run Unit := do
  let (g, sets) ← arguments { letters := "d", inOrder := true } args
  match g.has 'd', sets with
  | _, [] => refuse 1 "missing operand".toList
  | true, [old] => do
    let old ← readSet old
    exchangeBlocks (·.filter fun c => !old.contains c) Work.blockLimit
  | false, [old, new] => do
    let old ← readSet old
    let new ← readSet new
    if new.isEmpty && !old.isEmpty then
      abort 1 "when not truncating set1, string2 must be non-empty".toList
    exchangeBlocks (·.map (exchanged old new)) Work.blockLimit
  | false, [old] => do
    complain ("missing operand after ".toList ++ quote old)
    tell ("Two strings must be given when translating.\n".toList ++ advice (← get).name ++ ['\n'])
    close 1
  | deleting, _ => refuse 1 ("extra operand ".toList ++ quote (sets.getD (if deleting then 1 else 2) []))

end ValidatorKeys.Utility
