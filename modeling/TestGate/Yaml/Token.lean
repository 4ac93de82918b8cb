import TestGate.Text.Number
import TestGate.Yaml.Scalar

/-!
Tokens of YAML texts. The indentation of block collections and the keys of mappings are found here:
a collection starts where a line is indented further, ends where one is indented less, and what
stands before a colon on its line turns out to be a key only when the colon is reached.
-/

namespace TestGate.Yaml

open Text

/-- A token of a YAML text. -/
inductive Token where
  | streamEnd
  | version (major minor : Nat)
  | tagDirective (handle expansion : List Char)
  | documentStart
  | documentEnd
  | blockSequence
  | blockMapping
  | blockEnd
  | flowSequence
  | flowSequenceEnd
  | flowMapping
  | flowMappingEnd
  | blockEntry
  | flowEntry
  | key
  | value
  | alias (name : List Char)
  | anchor (name : List Char)
  | tag (handle suffix : List Char)
  | scalar (style : Style) (text : String)
deriving DecidableEq, Repr, Inhabited

/-- A place where a key may start: its number among the tokens, whether a key must start there, and
where it lies. -/
structure SimpleKey where
  required : Bool
  number : Nat
  index : Nat
  line : Nat
  column : Nat

/-- A scan under way. -/
structure Scan where
  cursor : Cursor
  /-- The tokens found, the last one first. -/
  tokens : List Token := []
  /-- The indentation of the innermost block, negative outside all blocks. -/
  indent : Int := -1
  /-- The indentations of the blocks around it, the innermost first. -/
  indents : List Int := []
  /-- Whether a key may start here. -/
  keyAllowed : Bool := true
  /-- Where a key may have started in the innermost collection. -/
  key : Option SimpleKey := none
  /-- The same for the flow collections around it, the innermost first. -/
  outerKeys : List (Option SimpleKey) := []

namespace Scan

def inFlow (scan : Scan) : Bool :=
  !scan.outerKeys.isEmpty

def push (scan : Scan) (token : Token) : Scan :=
  { scan with tokens := token :: scan.tokens }

/-- Puts a token in front of the one with this number. -/
def insert (scan : Scan) (number : Nat) (token : Token) : Scan :=
  let later := scan.tokens.length - number
  { scan with tokens := scan.tokens.take later ++ token :: scan.tokens.drop later }

def skip (scan : Scan) (count : Nat) : Scan :=
  { scan with cursor := scan.cursor.skip count }

def allowKey (scan : Scan) (allowed : Bool) : Scan :=
  { scan with keyAllowed := allowed }

/-! ## Keys and indentation -/

/-- Gives up on a key that may have started; where a key must have started this is refused. -/
def dropKey (scan : Scan) : Except Error Scan :=
  if scan.key.any SimpleKey.required then .error .malformed else .ok { scan with key := none }

/-- Notes that a key may start here. -/
def saveKey (scan : Scan) : Except Error Scan :=
  if scan.keyAllowed then do
    let cursor := scan.cursor
    let dropped ← scan.dropKey
    return { dropped with
      key := some {
        required := !scan.inFlow && scan.indent == cursor.column
        number := scan.tokens.length
        index := cursor.index
        line := cursor.line
        column := cursor.column } }
  else
    .ok scan

/-- The characters that a key may take up together with what stands before its colon. -/
def longestKey : Nat := 1024

/-- Gives up on a key that lies on another line or too far back. -/
def freshKey (cursor : Cursor) : Option SimpleKey → Except Error (Option SimpleKey)
  | none => .ok none
  | some key =>
    if key.line < cursor.line || key.index + longestKey < cursor.index then
      if key.required then .error .malformed else .ok none
    else
      .ok (some key)

/-- Gives up on all keys that lie on another line or too far back. -/
def freshKeys (scan : Scan) : Except Error Scan := do
  let key ← freshKey scan.cursor scan.key
  let outerKeys ← scan.outerKeys.mapM (freshKey scan.cursor)
  return { scan with key, outerKeys }

/-- Starts a block at a column that lies deeper than the innermost block; its token goes in front of
the one with this number. -/
def roll (scan : Scan) (column number : Nat) (token : Token) : Scan :=
  if scan.inFlow || column ≤ scan.indent then
    scan
  else
    { scan.insert number token with indent := column, indents := scan.indent :: scan.indents }

/-- Ends blocks, given by their indentations, that lie deeper than a column. -/
def endBlocks (column indent : Int) (tokens : List Token) : List Int → Int × List Int × List Token
  | [] => (indent, [], tokens)
  | outer :: indents =>
    if column < indent then
      endBlocks column outer (.blockEnd :: tokens) indents
    else
      (indent, outer :: indents, tokens)

/-- Ends all blocks that lie deeper than a column. -/
def unroll (scan : Scan) (column : Int) : Scan :=
  if scan.inFlow then
    scan
  else
    let (indent, indents, tokens) := endBlocks column scan.indent scan.tokens scan.indents
    { scan with indent, indents, tokens }

/-! ## Between tokens -/

/-- Passes over blanks, comments and line ends. Tabs do not count as blanks where a key may start. A
line end allows a key outside flow collections. -/
def passGaps : (fuel : Nat) → Scan → Scan
  | 0, scan => scan
  | fuel + 1, scan =>
    let cursor := scan.cursor
    let cursor :=
      if cursor.index == 0 && cursor.rest.head? == some '\ufeff' then cursor.skip 1 else cursor
    let tabs := scan.inFlow || !scan.keyAllowed
    let cursor := (cursor.skipWhile fun c => c == ' ' || (tabs && c == '\t')).skipComment
    if cursor.rest.head?.any isBreak then
      passGaps fuel
        { scan with cursor := cursor.skipBreak, keyAllowed := scan.keyAllowed || !scan.inFlow }
    else
      { scan with cursor := cursor }

/-! ## Directives -/

/-- The most digits that a number of a version may have. -/
def longestVersionNumber : Nat := 9

def readVersionNumber (cursor : Cursor) : Except Error (Nat × Cursor) :=
  let digits := cursor.rest.takeWhile Char.isDigit
  if digits.isEmpty || longestVersionNumber < digits.length then
    .error .malformed
  else
    .ok (digitsValue digits, cursor.skip digits.length)

def readVersion (cursor : Cursor) : Except Error (Token × Cursor) := do
  let (major, cursor) ← readVersionNumber (cursor.skipWhile isSpace)
  if cursor.rest.head? != some '.' then
    throw .malformed
  let (minor, cursor) ← readVersionNumber (cursor.skip 1)
  return (.version major minor, cursor)

/-- Reads a tag handle: an exclamation mark, a name and perhaps another mark. In a directive the
second mark may only be missing behind an empty name. -/
def readTagHandle (inDirective : Bool) (cursor : Cursor) : Except Error (List Char × Cursor) :=
  match cursor.rest with
  | '!' :: rest =>
    let name := rest.takeWhile isNameChar
    let cursor := cursor.skip (name.length + 1)
    if cursor.rest.head? == some '!' then
      .ok ('!' :: name ++ ['!'], cursor.skip 1)
    else if inDirective && !name.isEmpty then
      .error .malformed
    else
      .ok ('!' :: name, cursor)
  | _ => .error .malformed

/-- Characters of tags. Some indicators are only allowed where the tag is set off. -/
def isTagChar (setOff : Bool) (c : Char) : Bool :=
  isNameChar c
    || [';', '/', '?', ':', '@', '&', '=', '+', '$', '.', '%', '!', '~', '*', '\'', '(',
      ')'].contains c
    || (setOff && [',', '[', ']'].contains c)

/-- The number of bytes of a character by its first byte. -/
def byteCount? (byte : Nat) : Option Nat :=
  if byte < 0x80 then some 1
  else if byte / 0x20 = 6 then some 2
  else if byte / 0x10 = 14 then some 3
  else if byte / 0x8 = 30 then some 4
  else none

/-- Reads the bytes behind the first of an escaped character. -/
def readTailBytes (value : Nat) : (count : Nat) → List Char → Except Error (Nat × List Char)
  | 0, rest => .ok (value, rest)
  | count + 1, '%' :: a :: b :: rest =>
    match hexValue? [a, b] with
    | some byte =>
      if byte / 0x40 = 2 then
        readTailBytes (value * 0x40 + byte % 0x40) count rest
      else
        .error .malformed
    | none => .error .malformed
  | _ + 1, _ => .error .malformed

/-- Reads an escaped character: its bytes, each as a percent sign with two digits. -/
def readEscaped : List Char → Except Error (Char × List Char)
  | '%' :: a :: b :: rest =>
    match hexValue? [a, b] with
    | some byte =>
      match byteCount? byte with
      | some count => do
        let lead := if count = 1 then byte else byte % Nat.pow 2 (7 - count)
        let (value, rest) ← readTailBytes lead (count - 1) rest
        return (Char.ofNat value, rest)
      | none => .error .malformed
    | none => .error .malformed
  | _ => .error .malformed

/-- Reads the characters of a tag as far as they reach. -/
def readTagChars (setOff : Bool) : (fuel : Nat) → List Char → Except Error (List Char × List Char)
  | 0, chars => .ok ([], chars)
  | fuel + 1, chars =>
    match chars with
    | [] => .ok ([], [])
    | c :: rest =>
      if !isTagChar setOff c then
        .ok ([], c :: rest)
      else do
        let (char, rest) ← if c == '%' then readEscaped (c :: rest) else pure (c, rest)
        let (text, rest) ← readTagChars setOff fuel rest
        return (char :: text, rest)

/-- Reads the text of a tag behind what has been read of it, which is a mark and perhaps more. -/
def readTagText (setOff : Bool) (head : List Char) (cursor : Cursor) :
    Except Error (List Char × Cursor) := do
  let (text, rest) ← readTagChars setOff (cursor.rest.length + 1) cursor.rest
  if head.isEmpty && text.isEmpty then
    throw .malformed
  return (head.drop 1 ++ text, cursor.skipTo rest)

/-- Reads the handle of a tag directive and what it stands for. -/
def readTagDirective (cursor : Cursor) : Except Error (Token × Cursor) := do
  let (handle, cursor) ← readTagHandle true (cursor.skipWhile isSpace)
  if !cursor.rest.head?.any isSpace then
    throw .malformed
  let (expansion, cursor) ← readTagText true [] (cursor.skipWhile isSpace)
  if !atGap cursor.rest then
    throw .malformed
  return (.tagDirective handle expansion, cursor)

/-- Reads a directive from its percent sign on. -/
def readDirective (cursor : Cursor) : Except Error (Token × Cursor) := do
  let cursor := cursor.skip 1
  let name := cursor.rest.takeWhile isNameChar
  let cursor := cursor.skip name.length
  if name.isEmpty || !atGap cursor.rest then
    throw .malformed
  let (token, cursor) ←
    if name = "YAML".toList then readVersion cursor
    else if name = "TAG".toList then readTagDirective cursor
    else throw .malformed
  return (token, ← cursor.finishLine)

/-! ## Properties of nodes -/

/-- Characters that may follow a name without a blank. -/
def endsName (chars : List Char) : Bool :=
  atGap chars || chars.head?.any ['?', ':', ',', ']', '\x7d', '%', '@', '`'].contains

/-- Reads the name of an anchor or an alias behind its indicator. -/
def readName (cursor : Cursor) : Except Error (List Char × Cursor) :=
  let cursor := cursor.skip 1
  let name := cursor.rest.takeWhile isNameChar
  let cursor := cursor.skip name.length
  if name.isEmpty || !endsName cursor.rest then .error .malformed else .ok (name, cursor)

/-- Whether a text that starts a tag is a handle: it has a mark at either end. -/
def isHandle (text : List Char) : Bool :=
  1 < text.length && text.head? == some '!' && text.getLast? == some '!'

/-- Reads a tag from its exclamation mark on. -/
def readTag (inFlow : Bool) (cursor : Cursor) : Except Error (Token × Cursor) := do
  let (token, cursor) ←
    if cursor.rest.take 2 = ['!', '<'] then do
      let (suffix, cursor) ← readTagText true [] (cursor.skip 2)
      if cursor.rest.head? != some '>' then
        throw .malformed
      pure (Token.tag [] suffix, cursor.skip 1)
    else do
      let (start, cursor) ← readTagHandle false cursor
      if isHandle start then do
        let (suffix, cursor) ← readTagText false [] cursor
        pure (Token.tag start suffix, cursor)
      else do
        let (suffix, cursor) ← readTagText false start cursor
        pure (if suffix.isEmpty then Token.tag [] ['!'] else Token.tag ['!'] suffix, cursor)
  if atGap cursor.rest || (inFlow && cursor.rest.head? == some ',') then
    return (token, cursor)
  throw .malformed

/-! ## Single tokens -/

/-- Ends the stream, on a line of its own. -/
def fetchStreamEnd (scan : Scan) : Except Error Scan := do
  let scan ← (scan.unroll (-1)).dropKey
  return (scan.allowKey false).push .streamEnd

def fetchDirective (scan : Scan) : Except Error Scan := do
  let scan ← (scan.unroll (-1)).dropKey
  let (token, cursor) ← readDirective scan.cursor
  return { scan.allowKey false with cursor := cursor }.push token

def fetchDocumentMarker (scan : Scan) (token : Token) : Except Error Scan := do
  let scan ← (scan.unroll (-1)).dropKey
  return ((scan.allowKey false).skip 3).push token

def fetchFlowStart (scan : Scan) (token : Token) : Except Error Scan := do
  let scan ← scan.saveKey
  return (({ scan with key := none, outerKeys := scan.key :: scan.outerKeys }.allowKey true).skip
    1).push token

def fetchFlowEnd (scan : Scan) (token : Token) : Except Error Scan := do
  let scan ← scan.dropKey
  let scan :=
    match scan.outerKeys with
    | key :: outerKeys => { scan with key := key, outerKeys := outerKeys }
    | [] => scan
  return ((scan.allowKey false).skip 1).push token

def fetchFlowEntry (scan : Scan) : Except Error Scan := do
  let scan ← scan.dropKey
  return ((scan.allowKey true).skip 1).push .flowEntry

/-- Starts a block here, where a key must be allowed, unless the scan is inside a flow collection.
-/
def startBlock (scan : Scan) (token : Token) : Except Error Scan :=
  if scan.inFlow then
    .ok scan
  else if scan.keyAllowed then
    .ok (scan.roll scan.cursor.column scan.tokens.length token)
  else
    .error .malformed

/-- Reads the indicator of an item of a block sequence. -/
def fetchBlockEntry (scan : Scan) : Except Error Scan := do
  let scan ← (← scan.startBlock .blockSequence).dropKey
  return ((scan.allowKey true).skip 1).push .blockEntry

def fetchKey (scan : Scan) : Except Error Scan := do
  let scan ← (← scan.startBlock .blockMapping).dropKey
  return ((scan.allowKey !scan.inFlow).skip 1).push .key

/-- Reads the indicator of a value. If a key may have started before it, it has. -/
def fetchValue (scan : Scan) : Except Error Scan :=
  match scan.key with
  | some key =>
    let scan := (scan.insert key.number .key).roll key.column key.number .blockMapping
    .ok (({ scan with key := none }.allowKey false |>.skip 1).push .value)
  | none => do
    let scan ← scan.startBlock .blockMapping
    return ((scan.allowKey !scan.inFlow).skip 1).push .value

def fetchName (scan : Scan) (token : List Char → Token) : Except Error Scan := do
  let scan ← scan.saveKey
  let (name, cursor) ← readName scan.cursor
  return { scan.allowKey false with cursor := cursor }.push (token name)

def fetchTag (scan : Scan) : Except Error Scan := do
  let scan ← scan.saveKey
  let (token, cursor) ← readTag scan.inFlow scan.cursor
  return { scan.allowKey false with cursor := cursor }.push token

def fetchBlockScalar (scan : Scan) (isLiteral : Bool) : Except Error Scan := do
  let scan ← scan.dropKey
  let (text, cursor) ← readBlock isLiteral scan.indent scan.cursor
  return { scan.allowKey true with cursor := cursor }.push
    (.scalar (if isLiteral then .literal else .folded) (String.ofList text))

def fetchQuoted (scan : Scan) (single : Bool) : Except Error Scan := do
  let scan ← scan.saveKey
  let cursor := scan.cursor.skip 1
  let (text, cursor) ← readQuoted single (cursor.rest.length + 1) [] cursor
  return { scan.allowKey false with cursor := cursor }.push
    (.scalar (if single then .singleQuoted else .doubleQuoted) (String.ofList text))

/-- Reads a plain scalar. A key may follow it when it ends behind a line end. -/
def fetchPlain (scan : Scan) : Except Error Scan := do
  let scan ← scan.saveKey
  let (text, broken, cursor) ←
    readPlain scan.inFlow (scan.indent + 1).toNat (scan.cursor.rest.length + 1) [] {} scan.cursor
  return { scan.allowKey broken with cursor := cursor }.push (.scalar .plain (String.ofList text))

/-- Characters that cannot start a plain scalar. -/
def indicators : List Char :=
  ['-', '?', ':', ',', '[', ']', '\x7b', '\x7d', '#', '&', '*', '!', '|', '>', '\'', '"', '%', '@',
    '`']

/-- Whether a plain scalar starts here. Three indicators start one when a word goes on behind them,
two of them only outside flow collections. -/
def startsPlain (inFlow : Bool) (c : Char) (rest : List Char) : Bool :=
  (!isGap c && !indicators.contains c) || (c == '-' && !rest.head?.any isSpace)
    || (!inFlow && (c == '?' || c == ':') && !atGap rest)

/-- Reads the next token, with the tokens that indentation puts before it. -/
def fetch (scan : Scan) : Except Error Scan := do
  let scan ← (scan.passGaps (scan.cursor.rest.length + 1)).freshKeys
  let scan := scan.unroll scan.cursor.column
  match scan.cursor.rest with
  | [] => scan.fetchStreamEnd
  | c :: rest =>
    if scan.cursor.column == 0 && c == '%' then scan.fetchDirective
    else if scan.cursor.atMarker '-' then scan.fetchDocumentMarker .documentStart
    else if scan.cursor.atMarker '.' then scan.fetchDocumentMarker .documentEnd
    else if c == '[' then scan.fetchFlowStart .flowSequence
    else if c == '\x7b' then scan.fetchFlowStart .flowMapping
    else if c == ']' then scan.fetchFlowEnd .flowSequenceEnd
    else if c == '\x7d' then scan.fetchFlowEnd .flowMappingEnd
    else if c == ',' then scan.fetchFlowEntry
    else if c == '-' && atGap rest then scan.fetchBlockEntry
    else if c == '?' && (scan.inFlow || atGap rest) then scan.fetchKey
    else if c == ':' && (scan.inFlow || atGap rest) then scan.fetchValue
    else if c == '*' then scan.fetchName .alias
    else if c == '&' then scan.fetchName .anchor
    else if c == '!' then scan.fetchTag
    else if c == '|' && !scan.inFlow then scan.fetchBlockScalar true
    else if c == '>' && !scan.inFlow then scan.fetchBlockScalar false
    else if c == '\'' then scan.fetchQuoted true
    else if c == '"' then scan.fetchQuoted false
    else if startsPlain scan.inFlow c rest then scan.fetchPlain
    else throw .malformed

def fetchAll : (fuel : Nat) → Scan → Except Error Scan
  | 0, _ => .error .malformed
  | fuel + 1, scan => do
    let scan ← scan.fetch
    if scan.tokens.head? == some .streamEnd then return scan else fetchAll fuel scan

end Scan

/-- The tokens of a text. Each of them but the last takes at least one character. -/
def tokens (text : String) : Except Error (List Token) := do
  let chars := text.toList
  if !chars.all isAllowed then
    throw .malformed
  let scan ← Scan.fetchAll (chars.length + 2) { cursor := { rest := chars } }
  return scan.tokens.reverse

end TestGate.Yaml
