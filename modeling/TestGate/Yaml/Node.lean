import TestGate.Yaml.Token

/-!
Nodes of YAML documents: what the tokens of a text describe. A text holds one document or none; a
missing node stands for an empty plain scalar.
-/

namespace TestGate.Yaml

/-- A node of a document. An anchored node has a number, by which aliases refer to it. -/
inductive Node where
  | scalar (anchor : Option Nat) (tag : Option String) (style : Style) (text : String)
  | sequence (anchor : Option Nat) (items : List Node)
  | mapping (anchor : Option Nat) (entries : List (Node × Node))
  | alias (target : Nat)
deriving Repr, Inhabited

/-- The node that is not there. -/
def Node.missing : Node :=
  .scalar none none .plain ""

/-! ## Composing -/

/-- The tokens still to come, the anchors by name with their numbers, and the meanings of tag
handles. -/
structure Composer where
  tokens : List Token
  anchors : List (List Char × Nat) := []
  handles : List (List Char × List Char) := []

abbrev Compose (α : Type) := StateT Composer (Except Error) α

namespace Compose

def peek : Compose Token := do
  return (← get).tokens.head?.getD .streamEnd

def advance : Compose Unit :=
  modify fun composer => { composer with tokens := composer.tokens.drop 1 }

/-- Passes over the next token if it is this one. -/
def accept (token : Token) : Compose Bool := do
  if (← peek) = token then
    advance
    return true
  else
    return false

/-- Passes over the next token, which must be this one. -/
def expect (token : Token) : Compose Unit := do
  unless ← accept token do
    throw .malformed

/-- Gives an anchor its number: how many names there were before. An old name takes a new number as
well. -/
def nameAnchor (name : List Char) : Compose Nat := do
  let composer ← get
  let number := composer.anchors.length
  set { composer with
    anchors := (name, number) :: composer.anchors.filter fun anchor => anchor.1 != name }
  return number

def findAnchor (name : List Char) : Compose Nat := do
  match (← get).anchors.lookup name with
  | some number => return number
  | none => throw .malformed

/-- The tag that a handle and a suffix stand for. -/
def expandTag (handle suffix : List Char) : Compose String := do
  if handle.isEmpty then
    return String.ofList suffix
  match (← get).handles.lookup handle with
  | some expansion => return String.ofList (expansion ++ suffix)
  | none => throw .malformed

/-- Reads an anchor and a tag, in either order. -/
def properties : Compose (Option (List Char) × Option (List Char × List Char)) := do
  match ← peek with
  | .anchor name =>
    advance
    match ← peek with
    | .tag handle suffix =>
      advance
      return (some name, some (handle, suffix))
    | _ => return (some name, none)
  | .tag handle suffix =>
    advance
    match ← peek with
    | .anchor name =>
      advance
      return (some name, some (handle, suffix))
    | _ => return (none, some (handle, suffix))
  | _ => return (none, none)

mutual

/-- Reads a node. Block collections only start where `inBlock` holds; a sequence that is not
indented further only where `flush` holds. -/
def node : (fuel : Nat) → (inBlock flush : Bool) → Compose Node
  | 0, _, _ => throw .malformed
  | fuel + 1, inBlock, flush => do
    match ← peek with
    | .alias name =>
      advance
      return .alias (← findAnchor name)
    | _ =>
      let (name, parts) ← properties
      let tag ← parts.mapM fun (handle, suffix) => expandTag handle suffix
      let token ← peek
      let isNode :=
        match token with
        | .blockEntry => flush
        | .blockSequence | .blockMapping => inBlock
        | .scalar _ _ | .flowSequence | .flowMapping => true
        | _ => false
      if !isNode && name.isNone && tag.isNone then
        throw .malformed
      let anchor ← name.mapM nameAnchor
      if !isNode then
        return .scalar anchor tag .plain ""
      match token with
      | .scalar style text =>
        advance
        return .scalar anchor tag style text
      | .blockEntry => return .sequence anchor (← flushItems fuel)
      | .blockSequence =>
        advance
        return .sequence anchor (← blockItems fuel)
      | .blockMapping =>
        advance
        return .mapping anchor (← blockEntries fuel)
      | .flowSequence =>
        advance
        return .sequence anchor (← flowItems fuel true)
      | _ =>
        advance
        return .mapping anchor (← flowEntries fuel true)

/-- Reads a node unless one of the tokens that end its place comes next. -/
def nodeUnless : (fuel : Nat) → (inBlock flush : Bool) → (ends : Token → Bool) → Compose Node
  | 0, _, _, _ => throw .malformed
  | fuel + 1, inBlock, flush, ends => do
    if ends (← peek) then return .missing else node fuel inBlock flush

/-- Reads the items of a block sequence up to its end. -/
def blockItems : (fuel : Nat) → Compose (List Node)
  | 0 => throw .malformed
  | fuel + 1 => do
    if ← accept .blockEntry then
      let item ← nodeUnless fuel true false fun token => token = .blockEntry ∨ token = .blockEnd
      return item :: (← blockItems fuel)
    else if ← accept .blockEnd then
      return []
    else
      throw .malformed

/-- Reads the items of a sequence that is not indented further than its key. -/
def flushItems : (fuel : Nat) → Compose (List Node)
  | 0 => throw .malformed
  | fuel + 1 => do
    if ← accept .blockEntry then
      let item ← nodeUnless fuel true false fun token =>
        token = .blockEntry ∨ token = .key ∨ token = .value ∨ token = .blockEnd
      return item :: (← flushItems fuel)
    else
      return []

/-- Reads the entries of a block mapping up to its end. -/
def blockEntries : (fuel : Nat) → Compose (List (Node × Node))
  | 0 => throw .malformed
  | fuel + 1 => do
    let ends (token : Token) : Bool := token = .key ∨ token = .value ∨ token = .blockEnd
    if ← accept .key then
      let key ← nodeUnless fuel true true ends
      let value ← if ← accept .value then nodeUnless fuel true true ends else pure .missing
      return (key, value) :: (← blockEntries fuel)
    else if ← accept .blockEnd then
      return []
    else
      throw .malformed

/-- Reads the items of a flow sequence up to its end, `first` before any item. -/
def flowItems : (fuel : Nat) → (first : Bool) → Compose (List Node)
  | 0, _ => throw .malformed
  | fuel + 1, first => do
    if ← accept .flowSequenceEnd then
      return []
    unless first do
      expect .flowEntry
    if ← accept .key then
      let entry ← flowPair fuel
      return .mapping none [entry] :: (← flowItems fuel false)
    else if ← accept .flowSequenceEnd then
      return []
    else
      let item ← node fuel false false
      return item :: (← flowItems fuel false)

/-- Reads a single entry inside a flow sequence, behind the token of its key. Where the key is
missing, the token that shows it is passed over. -/
def flowPair : (fuel : Nat) → Compose (Node × Node)
  | 0 => throw .malformed
  | fuel + 1 => do
    let ends (token : Token) : Bool := token = .flowEntry ∨ token = .flowSequenceEnd
    let token ← peek
    let key ←
      if token = .value ∨ ends token then do
        advance
        pure .missing
      else
        node fuel false false
    let value ← if ← accept .value then nodeUnless fuel false false ends else pure .missing
    return (key, value)

/-- Reads the entries of a flow mapping up to its end, `first` before any entry. -/
def flowEntries : (fuel : Nat) → (first : Bool) → Compose (List (Node × Node))
  | 0, _ => throw .malformed
  | fuel + 1, first => do
    let ends (token : Token) : Bool := token = .flowEntry ∨ token = .flowMappingEnd
    if ← accept .flowMappingEnd then
      return []
    unless first do
      expect .flowEntry
    if ← accept .key then
      let key ← nodeUnless fuel false false fun token => token = .value ∨ ends token
      let value ← if ← accept .value then nodeUnless fuel false false ends else pure .missing
      return (key, value) :: (← flowEntries fuel false)
    else if ← accept .flowMappingEnd then
      return []
    else
      let key ← node fuel false false
      return (key, .missing) :: (← flowEntries fuel false)

end

/-- The meanings that two handles have in every document. -/
def standardHandles : List (List Char × List Char) :=
  [(['!'], ['!']), (['!', '!'], "tag:yaml.org,2002:".toList)]

/-- Reads directives in front of a document: one version at most, and each handle once. -/
def directives : (fuel : Nat) → (versionSeen : Bool) → (handles : List (List Char × List Char)) →
    Compose (List (List Char × List Char))
  | 0, _, _ => throw .malformed
  | fuel + 1, versionSeen, handles => do
    match ← peek with
    | .version major minor =>
      if versionSeen || major != 1 || (minor != 1 && minor != 2) then
        throw .malformed
      advance
      directives fuel true handles
    | .tagDirective handle expansion =>
      if (handles.lookup handle).isSome then
        throw .malformed
      advance
      directives fuel versionSeen (handles ++ [(handle, expansion)])
    | _ => return handles

/-- Whether a token starts a document or its directives. -/
def startsDocument : Token → Bool
  | .version _ _ | .tagDirective _ _ | .documentStart => true
  | _ => false

/-- Reads the document of a stream and the end of the stream. -/
def document : Compose Node := do
  let fuel := 4 * (← get).tokens.length + 4
  let first ← peek
  if first = .streamEnd then
    return .missing
  let root ←
    if startsDocument first then do
      let handles ← directives fuel false []
      modify fun composer => { composer with handles := handles ++ standardHandles }
      expect .documentStart
      nodeUnless fuel true false fun token =>
        startsDocument token || token = .documentEnd || token = .streamEnd
    else do
      modify fun composer => { composer with handles := standardHandles }
      node fuel true false
  modify fun composer =>
    { composer with tokens := composer.tokens.dropWhile (· = .documentEnd) }
  if (← peek) = .streamEnd then return root else throw .malformed

end Compose

def Node.ofText (text : String) : Except Error Node := do
  let (root, _) ← Compose.document.run { tokens := ← tokens text }
  return root

end TestGate.Yaml
