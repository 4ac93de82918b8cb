import TestGate.Json.Literal

/-!
Reading JSON texts into trees. Lists and objects may lie in one another up to `deepest` levels; what
lies deeper can only be skipped.
-/

namespace TestGate.Json

/-- How deep lists and objects may lie in one another. -/
def deepest : Nat := 127

def isJsonBlank (c : Char) : Bool :=
  c == ' ' || c == '\n' || c == '\t' || c == '\r'

def skipBlanks (text : List Char) : List Char :=
  text.dropWhile isJsonBlank

/-- The text behind the colon that follows a key. -/
def passColon (text : List Char) : Except Fault (List Char) :=
  match skipBlanks text with
  | [] => .error .truncated
  | ':' :: rest => .ok rest
  | _ => .error .malformed

mutual

/-- Reads a value, `depth` levels above the deepest one. -/
def readTree : (fuel depth : Nat) → List Char → Reading
  | 0, _, _ => .stop .malformed
  | fuel + 1, depth, chars =>
    match skipBlanks chars with
    | [] => .stop .truncated
    | 'n' :: rest => readWord "ull".toList .null rest
    | 't' :: rest => readWord "rue".toList (.bool true) rest
    | 'f' :: rest => readWord "alse".toList (.bool false) rest
    | '-' :: rest => readNumber true rest
    | '"' :: rest =>
      match readQuoted rest with
      | .sound value rest => (.text value, some rest)
      | .unsound rest => (.unsound, some rest)
      | .broken strict skipping => (.broken strict skipping, none)
    | '[' :: rest =>
      let (items, behind) := readItems fuel (depth - 1) true rest
      (.list (if depth = 0 then .barred items.skipFault? else items), behind)
    | '\x7b' :: rest =>
      let (members, behind) := readMembers fuel (depth - 1) true rest
      (.object (if depth = 0 then .barred members.skipFault? else members), behind)
    | c :: rest => if c.isDigit then readNumber false (c :: rest) else .stop .malformed

/-- Reads the items of a list, `first` before any item has been read. -/
def readItems : (fuel depth : Nat) → (first : Bool) → List Char → Items × Option (List Char)
  | 0, _, _, _ => (.fault .malformed, none)
  | fuel + 1, depth, first, chars =>
    match skipBlanks chars with
    | [] => (.fault .truncated, none)
    | ']' :: rest => (.closed, some rest)
    | ',' :: rest =>
      if first then
        (.cons (.broken .malformed .malformed) .closed, none)
      else
        readItem fuel depth rest
    | rest => if first then readItem fuel depth rest else (.fault .malformed, none)

def readItem : (fuel depth : Nat) → List Char → Items × Option (List Char)
  | 0, _, _ => (.fault .malformed, none)
  | fuel + 1, depth, chars =>
    match readTree fuel depth chars with
    | (item, none) => (.cons item .closed, none)
    | (item, some behind) =>
      let (items, behind) := readItems fuel depth false behind
      (.cons item items, behind)

/-- Reads the members of an object, `first` before any member has been read. -/
def readMembers : (fuel depth : Nat) → (first : Bool) → List Char → Members × Option (List Char)
  | 0, _, _, _ => (.fault .malformed, none)
  | fuel + 1, depth, first, chars =>
    match skipBlanks chars with
    | [] => (.fault .truncated, none)
    | '\x7d' :: rest => (.closed, some rest)
    | ',' :: rest => if first then (.fault .malformed, none) else readMember fuel depth rest
    | rest => if first then readMember fuel depth rest else (.fault .malformed, none)

def readMember : (fuel depth : Nat) → List Char → Members × Option (List Char)
  | 0, _, _ => (.fault .malformed, none)
  | fuel + 1, depth, chars =>
    match skipBlanks chars with
    | [] => (.fault .truncated, none)
    | '"' :: rest =>
      match readQuoted rest with
      | .sound key behind => readMemberValue fuel depth (.sound key) behind
      | .unsound behind => readMemberValue fuel depth .unsound behind
      | .broken strict skipping => (.brokenKey strict skipping, none)
    | _ => (.fault .malformed, none)

/-- Reads the value of a member behind its key, and the members behind it. -/
def readMemberValue : (fuel depth : Nat) → Key → List Char → Members × Option (List Char)
  | 0, _, _, _ => (.fault .malformed, none)
  | fuel + 1, depth, key, chars =>
    match passColon chars with
    | .error fault => (.cons key (.broken fault fault) .closed, none)
    | .ok chars =>
      match readTree fuel depth chars with
      | (value, none) => (.cons key value .closed, none)
      | (value, some behind) =>
        let (members, behind) := readMembers fuel depth false behind
        (.cons key value members, behind)

end

/-- A whole JSON text: its value, and whether something follows it. -/
structure Document where
  tree : Tree
  trailing : Bool

/-- Reads a whole text. Each call of a reader takes a character or hands on to one that does. -/
def Document.ofText (text : String) : Document :=
  let chars := text.toList
  let (tree, behind) := readTree (4 * chars.length + 4) deepest chars
  ⟨tree, behind.any fun rest => !(skipBlanks rest).isEmpty⟩

end TestGate.Json
