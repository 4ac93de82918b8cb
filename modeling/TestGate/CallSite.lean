import TestGate.Issue.Reference
import TestGate.Text.Digit
import TestGate.Text.WordChar

/-!
Guards in source code: conditions such as `if is_open('BZ:1625783')` and `if not is_open(...)`.
-/

namespace TestGate

open Text Issue

/-- A guard in source code that asks whether an issue is open. -/
structure CallSite where
  issue : Reference
  negated : Bool
deriving DecidableEq, Repr, Inhabited

namespace CallSite

def usage (site : CallSite) : String :=
  if site.negated then "not is_open" else "is_open"

/-- The text behind `word` when the text starts with it. -/
def passWord (word chars : List Char) : Option (List Char) :=
  match word, chars with
  | [], rest => some rest
  | _ :: _, [] => none
  | letter :: word, c :: rest => if c = letter then passWord word rest else none

/-- The text behind one or more blanks. -/
def passBlanks : List Char → Option (List Char)
  | c :: rest => if isBlank c then some (rest.dropWhile isBlank) else none
  | [] => none

/-- The text behind a quote of either kind. -/
def passQuote : List Char → Option (List Char)
  | '\'' :: rest | '"' :: rest => some rest
  | _ => none

/-- The text behind `not` and the blanks that must follow it. -/
def passNot (chars : List Char) : Option (List Char) :=
  (passWord "not".toList chars).bind passBlanks

def isIdChar (c : Char) : Bool :=
  isWordChar c || c == '-'

/-- What a guard says: whether it is negated, the tag and the id. -/
structure Guard where
  negated : Bool
  tag : List Char
  id : List Char

/-- The two characters of a tag, neither of them a digit, and the text behind them. -/
def passTag : List Char → Option (List Char × List Char)
  | first :: second :: rest =>
    if isDecimalDigit first || isDecimalDigit second then none else some ([first, second], rest)
  | _ => none

/-- Reads a guard from its `if` on; also gives the text behind it. -/
def readGuard? (chars : List Char) : Option (Guard × List Char) := do
  let chars ← passBlanks (← passWord "if".toList chars)
  let (negated, chars) :=
    match passNot chars with
    | some rest => (true, rest)
    | none => (false, chars)
  let chars ← passWord "is_open(".toList chars
  let chars ← passQuote (chars.dropWhile isBlank)
  let (tag, chars) ← passTag chars
  let chars ← passWord [':'] (chars.dropWhile isBlank)
  let chars := chars.dropWhile isBlank
  let id := chars.takeWhile isIdChar
  if id.isEmpty then
    none
  let chars ← passQuote (chars.dropWhile isIdChar)
  let chars ← passWord [')'] (chars.dropWhile isBlank)
  return (⟨negated, tag, id⟩, chars)

/-- The call site of a guard, if its tag names a tracker. -/
def Guard.site? (guard : Guard) : Option CallSite :=
  (Tracker.ofTag? (String.ofList guard.tag)).map fun tracker =>
    ⟨⟨tracker, String.ofList guard.id⟩, guard.negated⟩

/-- Scans for guards behind `previous`, the character before; the next `skip` characters belong to
the last guard. A guard starts where a word starts. -/
def scanFrom (skip : Nat) (previous : Option Char) : List Char → List CallSite
  | [] => []
  | c :: rest =>
    match skip with
    | skip + 1 => scanFrom skip (some c) rest
    | 0 =>
      match if previous.any isWordChar then none else readGuard? (c :: rest) with
      | some (guard, behind) =>
        guard.site?.toList ++ scanFrom (rest.length - behind.length) (some c) rest
      | none => scanFrom 0 (some c) rest

/-- The guards in a source text whose tag names a tracker, in order. -/
def scan (source : String) : List CallSite :=
  scanFrom 0 none source.toList

end CallSite

end TestGate
