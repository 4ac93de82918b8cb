import TestGate.Text.Hex
import TestGate.Yaml.Cursor

/-!
Scalars of YAML texts: plain, quoted and block scalars. Line ends inside plain and quoted scalars
are folded: one becomes a blank, and of several the first is dropped.
-/

namespace TestGate.Yaml

open Text

/-- How a scalar is written. -/
inductive Style where
  | plain
  | singleQuoted
  | doubleQuoted
  | literal
  | folded
deriving DecidableEq, Repr, Inhabited

/-! ## Gaps -/

/-- The blanks and line ends between two parts of a scalar. -/
structure Gap where
  blanks : List Char := []
  firstBreak : List Char := []
  moreBreaks : List Char := []
  broken : Bool := false

def Gap.text (gap : Gap) : List Char :=
  if gap.broken then
    if gap.firstBreak.head? == some '\n' then
      if gap.moreBreaks.isEmpty then [' '] else gap.moreBreaks
    else
      gap.firstBreak ++ gap.moreBreaks
  else
    gap.blanks

/-- Reads on in a gap. In the indentation, which is `indent` wide, tabs are refused. -/
def readGap (indent : Nat) : (fuel : Nat) → Gap → Cursor → Except Error (Gap × Cursor)
  | 0, gap, cursor => .ok (gap, cursor)
  | fuel + 1, gap, cursor =>
    match cursor.rest with
    | [] => .ok (gap, cursor)
    | c :: _ =>
      if isSpace c then
        if gap.broken then
          if c == '\t' && cursor.column < indent then
            .error .malformed
          else
            readGap indent fuel gap (cursor.skip 1)
        else
          readGap indent fuel { gap with blanks := gap.blanks ++ [c] } (cursor.skip 1)
      else if isBreak c then
        let (text, next) := cursor.readBreak
        if gap.broken then
          readGap indent fuel { gap with moreBreaks := gap.moreBreaks ++ text } next
        else
          readGap indent fuel { firstBreak := text, broken := true } next
      else
        .ok (gap, cursor)

/-! ## Plain scalars -/

/-- Characters that part the items of flow collections. -/
def isFlowIndicator (c : Char) : Bool :=
  [',', '[', ']', '\x7b', '\x7d'].contains c

/-- The characters of a plain scalar up to a blank or an indicator that ends it. -/
def plainRun (inFlow : Bool) : List Char → Except Error (List Char)
  | [] => .ok []
  | c :: rest =>
    if isGap c then
      .ok []
    else if inFlow && c == ':'
        && rest.head?.any (fun next => isFlowIndicator next || next == '?') then
      .error .malformed
    else if (c == ':' && atGap rest) || (inFlow && isFlowIndicator c) then
      .ok []
    else
      (plainRun inFlow rest).map (c :: ·)

/-- Reads on in a plain scalar behind `text` and a gap; its lines are indented by at least `indent`
outside flow collections. Also tells whether it ends behind a line end. -/
def readPlain (inFlow : Bool) (indent : Nat) :
    (fuel : Nat) → (text : List Char) → Gap → Cursor → Except Error (List Char × Bool × Cursor)
  | 0, text, gap, cursor => .ok (text, gap.broken, cursor)
  | fuel + 1, text, gap, cursor =>
    if cursor.atDocumentMarker || cursor.rest.head? == some '#' then
      .ok (text, gap.broken, cursor)
    else do
      let run ← plainRun inFlow cursor.rest
      let (text, gap) := if run.isEmpty then (text, gap) else (text ++ gap.text ++ run, {})
      let cursor := cursor.skip run.length
      if !cursor.rest.head?.any isGap then
        return (text, gap.broken, cursor)
      let (gap, cursor) ← readGap indent cursor.rest.length gap cursor
      if !inFlow && cursor.column < indent then
        return (text, gap.broken, cursor)
      else
        readPlain inFlow indent fuel text gap cursor

/-! ## Quoted scalars -/

def charOf (digits : List Char) : Except Error Char :=
  match hexValue? digits with
  | some value =>
    if (0xD800 ≤ value ∧ value ≤ 0xDFFF) ∨ 0x10FFFF < value then
      .error .malformed
    else
      .ok (Char.ofNat value)
  | none => .error .malformed

/-- The character that a backslash makes of a letter. -/
def escaped? : Char → Option Char
  | '0' => some '\x00'
  | 'a' => some '\x07'
  | 'b' => some '\x08'
  | 't' | '\t' => some '\t'
  | 'n' => some '\n'
  | 'v' => some '\x0b'
  | 'f' => some '\x0c'
  | 'r' => some '\r'
  | 'e' => some '\x1b'
  | ' ' => some ' '
  | '"' => some '"'
  | '/' => some '/'
  | '\\' => some '\\'
  | 'N' => some '\u0085'
  | '_' => some '\u00a0'
  | 'L' => some '\u2028'
  | 'P' => some '\u2029'
  | _ => none

/-- A part of a quoted scalar without blanks, and what follows it. -/
structure QuotedRun where
  text : List Char := []
  rest : List Char

def QuotedRun.cons (c : Char) (run : QuotedRun) : QuotedRun :=
  { run with text := c :: run.text }

/-- Reads up to a blank or the closing quote; a quote written twice stands for one. -/
def singleRun : List Char → QuotedRun
  | '\'' :: '\'' :: rest => (singleRun rest).cons '\''
  | '\'' :: rest => ⟨[], '\'' :: rest⟩
  | c :: rest => if isGap c then ⟨[], c :: rest⟩ else (singleRun rest).cons c
  | [] => ⟨[], []⟩

/-- Reads up to a blank, the closing quote or an escaped line end. -/
def doubleRun : List Char → Except Error QuotedRun
  | [] => .ok ⟨[], []⟩
  | '"' :: rest => .ok ⟨[], '"' :: rest⟩
  | '\\' :: 'x' :: a :: b :: rest => do
    return (← doubleRun rest).cons (← charOf [a, b])
  | '\\' :: 'u' :: a :: b :: c :: d :: rest => do
    return (← doubleRun rest).cons (← charOf [a, b, c, d])
  | '\\' :: 'U' :: a :: b :: c :: d :: e :: f :: g :: h :: rest => do
    return (← doubleRun rest).cons (← charOf [a, b, c, d, e, f, g, h])
  | '\\' :: c :: rest =>
    if isBreak c then
      .ok ⟨[], '\\' :: c :: rest⟩
    else
      match escaped? c with
      | some char => do return (← doubleRun rest).cons char
      | none => .error .malformed
  | ['\\'] => .error .malformed
  | c :: rest =>
    if isGap c then
      .ok ⟨[], c :: rest⟩
    else do
      return (← doubleRun rest).cons c

/-- Reads on in a quoted scalar behind `text` up to its closing quote. -/
def readQuoted (single : Bool) :
    (fuel : Nat) → (text : List Char) → Cursor → Except Error (List Char × Cursor)
  | 0, _, _ => .error .malformed
  | fuel + 1, text, cursor =>
    if cursor.atDocumentMarker || cursor.rest.isEmpty then
      .error .malformed
    else do
      let run ← if single then pure (singleRun cursor.rest) else doubleRun cursor.rest
      let text := text ++ run.text
      let cursor := cursor.skipTo run.rest
      let escapedBreak := !single && cursor.rest.head? == some '\\'
      let cursor := if escapedBreak then (cursor.skip 1).skipBreak else cursor
      if cursor.rest.head? == some (if single then '\'' else '"') then
        return (text, cursor.skip 1)
      let (gap, cursor) ← readGap 0 cursor.rest.length { broken := escapedBreak } cursor
      readQuoted single fuel (text ++ gap.text) cursor

/-! ## Block scalars -/

/-- What becomes of the line ends at the end of a block scalar. -/
inductive Chomping where
  | strip
  | clip
  | keep
deriving DecidableEq, Repr

/-- The header of a block scalar: the digit that gives its indentation, and its chomping. -/
structure BlockHeader where
  increment : Option Nat
  chomping : Chomping

def chompingOf? : Char → Option Chomping
  | '+' => some .keep
  | '-' => some .strip
  | _ => none

/-- The indentation that a digit gives; zero is refused. -/
def incrementOf (c : Char) : Except Error Nat :=
  if c == '0' then .error .malformed else .ok (c.toNat - '0'.toNat)

/-- Reads the header of a block scalar behind its indicator: chomping and indentation, in either
order. -/
def readBlockHeader (cursor : Cursor) : Except Error (BlockHeader × Cursor) :=
  match cursor.rest with
  | first :: rest =>
    match chompingOf? first with
    | some chomping =>
      match rest with
      | second :: _ =>
        if second.isDigit then do
          return (⟨some (← incrementOf second), chomping⟩, cursor.skip 2)
        else
          return (⟨none, chomping⟩, cursor.skip 1)
      | [] => return (⟨none, chomping⟩, cursor.skip 1)
    | none =>
      if first.isDigit then do
        let increment ← incrementOf first
        match rest.head?.bind chompingOf? with
        | some chomping => return (⟨some increment, chomping⟩, cursor.skip 2)
        | none => return (⟨some increment, .clip⟩, cursor.skip 1)
      else
        return (⟨none, .clip⟩, cursor)
  | [] => return (⟨none, .clip⟩, cursor)

/-- Passes over empty lines before a line of a block scalar and over its indentation, which is not
known yet when `indent` is none. Gives the line ends and the widest indentation passed. -/
def readBlockBreaks (indent : Option Nat) :
    (fuel : Nat) → (breaks : List Char) → (widest : Nat) → Cursor →
      Except Error (List Char × Nat × Cursor)
  | 0, breaks, widest, cursor => .ok (breaks, widest, cursor)
  | fuel + 1, breaks, widest, cursor =>
    let spaces := (cursor.rest.takeWhile (· == ' ')).length
    let cursor := cursor.skip <|
      match indent with
      | some indent => min spaces (indent - cursor.column)
      | none => spaces
    let widest := max widest cursor.column
    if cursor.rest.head? == some '\t' && indent.all (cursor.column < ·) then
      .error .malformed
    else if cursor.rest.head?.any isBreak then
      let (text, next) := cursor.readBreak
      readBlockBreaks indent fuel (breaks ++ text) widest next
    else
      .ok (breaks, widest, cursor)

/-- The text of a block scalar as read so far. -/
structure BlockText where
  text : List Char := []
  lastBreak : List Char := []
  moreBreaks : List Char := []
  blankBefore : Bool := false

/-- Reads the lines of a block scalar that is indented by `indent`. -/
def readBlockLines (isLiteral : Bool) (indent : Nat) :
    (fuel : Nat) → BlockText → Cursor → Except Error (BlockText × Cursor)
  | 0, block, cursor => .ok (block, cursor)
  | fuel + 1, block, cursor =>
    if cursor.column != indent || cursor.rest.isEmpty then
      .ok (block, cursor)
    else do
      let blank := cursor.rest.head?.any isSpace
      let folds :=
        !isLiteral && block.lastBreak.head? == some '\n' && !block.blankBefore && !blank
      let joint :=
        if folds then (if block.moreBreaks.isEmpty then [' '] else []) else block.lastBreak
      let line := cursor.rest.takeWhile fun c => !isBreak c
      let (lastBreak, cursor) := (cursor.skip line.length).readBreak
      let (moreBreaks, _, cursor) ←
        readBlockBreaks (some indent) (cursor.rest.length + 1) [] 0 cursor
      readBlockLines isLiteral indent fuel
        { text := block.text ++ joint ++ block.moreBreaks ++ line
          lastBreak, moreBreaks, blankBefore := blank }
        cursor

/-- Reads a block scalar from its indicator on, inside a block that is indented by `parent`, which
is negative outside all blocks. -/
def readBlock (isLiteral : Bool) (parent : Int) (cursor : Cursor) :
    Except Error (List Char × Cursor) := do
  let (header, cursor) ← readBlockHeader (cursor.skip 1)
  let cursor ← cursor.finishLine
  let fixed := header.increment.map (parent.toNat + ·)
  let (breaks, widest, cursor) ← readBlockBreaks fixed (cursor.rest.length + 1) [] 0 cursor
  let indent := fixed.getD (max widest (max (parent + 1).toNat 1))
  let (block, cursor) ←
    readBlockLines isLiteral indent (cursor.rest.length + 1) { moreBreaks := breaks } cursor
  let tail :=
    match header.chomping with
    | .strip => []
    | .clip => block.lastBreak
    | .keep => block.lastBreak ++ block.moreBreaks
  return (block.text ++ tail, cursor)

end TestGate.Yaml
