/-!
A place in a YAML text: the characters still to come and the place of the first of them.
-/

namespace TestGate.Yaml

/-- Why a YAML text could not be read. -/
inductive Error where
  /-- The text is no YAML, or more than one document. -/
  | malformed
  /-- The value has another shape than what is read from it. -/
  | unfit
deriving DecidableEq, Repr

def Error.message : Error → String
  | malformed => "malformed YAML"
  | unfit => "unexpected YAML shape"

/-! ## Characters -/

/-- Characters that end a line. -/
def isBreak (c : Char) : Bool :=
  c == '\n' || c == '\r' || c == '\u0085' || c == '\u2028' || c == '\u2029'

/-- Blanks inside a line. -/
def isSpace (c : Char) : Bool :=
  c == ' ' || c == '\t'

/-- A blank or a line end. -/
def isGap (c : Char) : Bool :=
  isSpace c || isBreak c

/-- Whether a line ends here. -/
def atBreak (chars : List Char) : Bool :=
  chars.head?.all isBreak

/-- Whether a word ends here. -/
def atGap (chars : List Char) : Bool :=
  chars.head?.all isGap

/-- Characters of names. -/
def isNameChar (c : Char) : Bool :=
  c.isAlphanum || c == '_' || c == '-'

/-- Characters that a text may hold. -/
def isAllowed (c : Char) : Bool :=
  c == '\t' || c == '\n' || c == '\r' || (' ' ≤ c && c ≤ '~') || c == '\u0085'
    || ('\u00a0' ≤ c && c ≤ '\ufffd') || 0x10000 ≤ c.toNat

/-! ## Places -/

/-- The rest of a text and the place where it starts: characters before it, line and column. -/
structure Cursor where
  rest : List Char
  index : Nat := 0
  line : Nat := 0
  column : Nat := 0

namespace Cursor

def skip (cursor : Cursor) (count : Nat) : Cursor :=
  { rest := cursor.rest.drop count
    index := cursor.index + count
    line := cursor.line
    column := cursor.column + count }

/-- Passes over the characters before `rest`, which lie within a line. -/
def skipTo (cursor : Cursor) (rest : List Char) : Cursor :=
  cursor.skip (cursor.rest.length - rest.length)

/-- Passes over the characters that satisfy a condition, all within a line. -/
def skipWhile (cursor : Cursor) (condition : Char → Bool) : Cursor :=
  cursor.skip (cursor.rest.takeWhile condition).length

/-- Starts a new line `count` characters on. -/
def newLine (cursor : Cursor) (count : Nat) : Cursor :=
  { rest := cursor.rest.drop count
    index := cursor.index + count
    line := cursor.line + 1
    column := 0 }

/-- Reads a line end, if there is one: a separator of lines or paragraphs stays what it is, any
other is a line feed. -/
def readBreak (cursor : Cursor) : List Char × Cursor :=
  match cursor.rest with
  | '\r' :: '\n' :: _ => (['\n'], cursor.newLine 2)
  | c :: _ =>
    if c == '\u2028' || c == '\u2029' then ([c], cursor.newLine 1)
    else if isBreak c then (['\n'], cursor.newLine 1)
    else ([], cursor)
  | [] => ([], cursor)

/-- Passes over a line end, if there is one. -/
def skipBreak (cursor : Cursor) : Cursor :=
  cursor.readBreak.2

/-- Passes over a comment up to its line end, if there is one. -/
def skipComment (cursor : Cursor) : Cursor :=
  if cursor.rest.head? == some '#' then cursor.skipWhile fun c => !isBreak c else cursor

/-- Whether a line starts here with the marker, three times the same character. -/
def atMarker (cursor : Cursor) (c : Char) : Bool :=
  cursor.column == 0 && cursor.rest.take 3 == [c, c, c] && atGap (cursor.rest.drop 3)

def atDocumentMarker (cursor : Cursor) : Bool :=
  cursor.atMarker '-' || cursor.atMarker '.'

/-- Passes over what may follow a directive or a block header: blanks, a comment and a line end. -/
def finishLine (cursor : Cursor) : Except Error Cursor :=
  let cursor := (cursor.skipWhile isSpace).skipComment
  if atBreak cursor.rest then .ok cursor.skipBreak else .error .malformed

end Cursor

end TestGate.Yaml
