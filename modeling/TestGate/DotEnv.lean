import TestGate.Settings
import TestGate.Text.Alphanumeric

/-!
Files that set environment variables, one on a line: a name, `=` and a value, in which quotes,
backslashes and `$` have a meaning. A quoted value may go on over several lines. Variables that are
set already keep their values, and the first malformed line ends the file.
-/

namespace TestGate.DotEnv

open Text

/-! ## Lines -/

/-- Where reading stands in a line. -/
inductive Mark where
  /-- Behind nothing but blanks. -/
  | start
  | plain
  | blank
  | escape
  | strong
  | strongEscape
  | weak
  | weakEscape
  | comment
deriving DecidableEq, Repr

namespace Mark

/-- Whether a line end is the end of the line. -/
def endsLine : Mark → Bool
  | start | plain | blank | escape | comment => true
  | strong | strongEscape | weak | weakEscape => false

/-- Where reading stands behind a character that is neither quoted nor escaped. -/
def afterPlain (c : Char) : Mark :=
  if c = '\\' then escape
  else if c = '"' then weak
  else if c = '\'' then strong
  else plain

def after (mark : Mark) (c : Char) : Mark :=
  match mark with
  | start => if c = '#' then comment else if isBlank c then start else afterPlain c
  | plain => if isBlank c && c != '\r' then blank else afterPlain c
  | blank => if c = '#' then comment else afterPlain c
  | escape => plain
  | strong => if c = '\\' then strongEscape else if c = '\'' then plain else strong
  | strongEscape => strong
  | weak => if c = '\\' then weakEscape else if c = '"' then plain else weak
  | weakEscape => weak
  | comment => comment

end Mark

/-- The lines of a text without their comments; `line` holds the characters of the current one, the
last one first. A line that is not complete at the end of the text is none. -/
def lines : Mark → (line : List Char) → List Char → List (Option (List Char))
  | mark, line, [] =>
    match mark with
    | .start | .plain | .comment => [some line.reverse]
    | _ => [none]
  | mark, line, c :: rest =>
    if c = '\n' && mark.endsLine then
      some line.reverse :: lines .start [] rest
    else
      match mark.after c with
      | .comment => lines .comment line rest
      | next => lines next (c :: line) rest

/-! ## Values -/

/-- Where reading stands in a value. -/
inductive Phase where
  | plain
  | escape
  | strong
  /-- Behind the value. -/
  | ended
  /-- In a name behind `$`, whose characters are given from the last to the first. -/
  | name (chars : List Char)
  /-- In a name in braces. -/
  | braced (chars : List Char)
deriving DecidableEq, Repr

/-- The value of the variable with this name, given backwards; nothing if it is not set. -/
def valueOf (environment : Environment) (name : List Char) : List Char :=
  ((environment (String.ofList name.reverse)).getD "").toList

def unescape? (c : Char) : Option Char :=
  if c = 'n' then some '\n'
  else if ['\\', '\'', '"', '$', ' '].contains c then some c
  else none

/-- Reads a value. `quoted` tells whether double quotes are open, and `out` holds what has been
read, the last character first. A name behind `$` goes on as long as letters and numbers do. -/
def readValue (environment : Environment) :
    Phase → (quoted : Bool) → (out : List Char) → List Char → Option (List Char)
  | phase, quoted, out, [] =>
    if quoted then
      none
    else
      match phase with
      | .strong | .braced _ => none
      | .name name => some (out.reverse ++ valueOf environment name)
      | _ => some out.reverse
  | .ended, quoted, out, c :: rest =>
    if c = ' ' ∨ c = '\t' then readValue environment .ended quoted out rest
    else if c = '#' then some out.reverse
    else none
  | .escape, quoted, out, c :: rest =>
    match unescape? c with
    | some c => readValue environment .plain quoted (c :: out) rest
    | none => none
  | .strong, quoted, out, c :: rest =>
    if c = '\'' then readValue environment .plain quoted out rest
    else readValue environment .strong quoted (c :: out) rest
  | .name name, quoted, out, c :: rest =>
    if isAlphanumeric c then
      readValue environment (.name (c :: name)) quoted out rest
    else if c = '\x7b' ∧ name = [] then
      readValue environment (.braced []) quoted out rest
    else
      let out := (valueOf environment name).reverse ++ out
      if c = '$' then readValue environment (.name []) quoted out rest
      else readValue environment .plain quoted (c :: out) rest
  | .braced name, quoted, out, c :: rest =>
    if c = '\x7d' then
      readValue environment .plain quoted ((valueOf environment name).reverse ++ out) rest
    else
      readValue environment (.braced (c :: name)) quoted out rest
  | .plain, quoted, out, c :: rest =>
    if c = '$' then readValue environment (.name []) quoted out rest
    else if c = '\\' then readValue environment .escape quoted out rest
    else if c = '"' then readValue environment .plain (!quoted) out rest
    else if quoted then readValue environment .plain quoted (c :: out) rest
    else if c = '\'' then readValue environment .strong quoted out rest
    else if c = ' ' ∨ c = '\t' then readValue environment .ended quoted out rest
    else readValue environment .plain quoted (c :: out) rest

/-! ## Assignments -/

def startsName (c : Char) : Bool :=
  c.isAlpha || c == '_'

def isInName (c : Char) : Bool :=
  c.isAlphanum || c == '_' || c == '.'

/-- The name at the front of a line, and what stands behind it and the blanks that follow. -/
def readName? (line : List Char) : Option (List Char × List Char) :=
  if line.head?.any startsName then
    some (line.takeWhile isInName, (line.dropWhile isInName).dropWhile isBlank)
  else
    none

/-- The name in a line, and what stands behind the sign of equality. The word `export` in front of
the name does not count, unless it is the name. -/
def readTarget? (line : List Char) : Option (List Char × List Char) :=
  (readName? line).bind fun (name, rest) =>
    match rest with
    | '=' :: rest => some (name, rest.dropWhile isBlank)
    | _ =>
      if String.ofList name = "export" then
        (readName? rest).bind fun (name, rest) =>
          match rest with
          | '=' :: rest => some (name, rest.dropWhile isBlank)
          | _ => none
      else
        none

/-- The environment after a line; none if the line is malformed. -/
def readLine? (environment : Environment) (line : List Char) : Option Environment :=
  let line := trimChars line
  if line.isEmpty || line.head? == some '#' then
    some environment
  else
    (readTarget? line).bind fun (name, rest) =>
      let value? :=
        if rest.head? == some '#' then some [] else readValue environment .plain false [] rest
      value?.map fun value other =>
        if other = String.ofList name then (environment other).or (some (String.ofList value))
        else environment other

/-- The environment after some lines, up to a malformed one. -/
def readLines (environment : Environment) : List (Option (List Char)) → Environment
  | [] | none :: _ => environment
  | some line :: rest =>
    match readLine? environment line with
    | some environment => readLines environment rest
    | none => environment

/-! ## Files -/

/-- The bytes of each line, line ends left out. -/
def byteLines (bytes : ByteArray) : List ByteArray :=
  (bytes.toList.splitOnP (· == 10)).map fun line => ⟨line.toArray⟩

/-- The text of a file, up to a line that is no text. A mark of the byte order at its front does not
count. -/
def textOf (bytes : ByteArray) : List Char :=
  let readable := ((byteLines bytes).map String.fromUTF8?).takeWhile Option.isSome
  let text := ("\n".intercalate readable.reduceOption).toList
  if text.head? == some '\uFEFF' then text.drop 1 else text

/-- The names in a file: of variables that it sets and of those that it may refer to. -/
def namesIn (bytes : ByteArray) : List String :=
  ((splitWhere (fun c => !isInName c) (textOf bytes)).filter (· != [])).map String.ofList

def load (bytes : ByteArray) (environment : Environment) : Environment :=
  readLines environment (lines .start [] (textOf bytes))

end TestGate.DotEnv
