import TestGate.Text.Blank
import TestGate.Text.Number
import TestGate.Text.Percent

/-!
Addresses on the web. An address names a server, a path and perhaps a query; what stands behind a
`#` is not sent. The path is read step by step, so that `..` leads back.
-/

namespace TestGate.Http

open Text

/-- An address. -/
structure Url where
  /-- The protocol, the name of the server and, if it is not the usual one, the server's number. -/
  origin : String
  path : String
  query : Option String := none
deriving DecidableEq, Repr, Inhabited

namespace Url

/-- Whether a character is a control character of ASCII, the last one included. -/
def isControl (c : Char) : Bool :=
  c.toNat < 32 || c.toNat == 127

/-- Whether a character stands for itself in a path or a query, `reserved` characters apart. -/
def isKept (reserved : List Char) (c : Char) : Bool :=
  32 < c.toNat && c.toNat < 127 && !reserved.contains c

def reservedInPath : List Char :=
  ['"', '#', '<', '>', '?', '`', '\x7b', '\x7d']

def reservedInQuery : List Char :=
  ['"', '#', '<', '>', '\'']

/-- The address as it is read: without control characters and spaces at either end, and without line
ends and tabs anywhere. -/
def clean (chars : List Char) : List Char :=
  let isEdge (c : Char) : Bool := c.toNat ≤ 32
  let inner := ((chars.dropWhile isEdge).reverse.dropWhile isEdge).reverse
  inner.filter fun c => c != '\t' && c != '\n' && c != '\r'

/-- Whether a character parts the steps of a path. -/
def isSlash (c : Char) : Bool :=
  c == '/' || c == '\\'

/-! ## Servers -/

/-- The protocols that are spoken, each with the usual number of its servers. -/
def protocols : List (String × Nat) :=
  [("http", 80), ("https", 443)]

def forbiddenInHost : List Char :=
  [' ', '#', '%', '/', ':', '<', '>', '?', '@', '[', '\\', ']', '^', '|']

def isHost (chars : List Char) : Bool :=
  match chars with
  | '[' :: rest =>
    rest.getLast? == some ']'
      && rest.dropLast.all fun c => c.isDigit || ('a' ≤ c && c ≤ 'f') || c == ':' || c == '.'
  | [] => false
  | chars => chars.all fun c => !isControl c && !forbiddenInHost.contains c

/-- The number of a server: `some none` if the text is empty, and none if it is no such number. -/
def readServerNumber (chars : List Char) : Option (Option Nat) :=
  if chars.isEmpty then
    some none
  else
    match readNat? chars with
    | some number => if number < 65536 then some (some number) else none
    | none => none

/-- The name of a server and what stands behind the colon. -/
def splitHost (chars : List Char) : List Char × List Char :=
  let name :=
    match chars with
    | '[' :: _ => chars.takeWhile (· != ']') ++ (chars.dropWhile (· != ']')).take 1
    | _ => chars.takeWhile (· != ':')
  (name, chars.drop name.length)

def origin? (protocol : String) (usualNumber : Nat) (chars : List Char) : Option String :=
  let (host, rest) := splitHost (chars.map Char.toLower)
  let number? :=
    match rest with
    | [] => some none
    | ':' :: digits => readServerNumber digits
    | _ => none
  match isHost host, number? with
  | true, some number =>
    let shown := number.filter (· != usualNumber)
    some (protocol ++ "://" ++ String.ofList host
      ++ (shown.elim "" fun number => ":" ++ natText number))
  | _, _ => none

/-! ## Paths -/

/-- How many steps up a step leads, if it is one of points: none or one. -/
def upward? (step : List Char) : Option Nat :=
  let plain := String.ofList (step.map Char.toLower)
  if ["." , "%2e"].contains plain then some 0
  else if ["..", ".%2e", "%2e.", "%2e%2e"].contains plain then some 1
  else none

/-- The steps of a path with those of points carried out; `taken` holds the steps so far, the last
one first. -/
def walk (taken : List (List Char)) : List (List Char) → List (List Char)
  | [] => taken.reverse
  | step :: steps =>
    match upward? step with
    | some count =>
      let taken := taken.drop count
      walk (if steps.isEmpty then [] :: taken else taken) steps
    | none => walk (step :: taken) steps

def pathText (chars : List Char) : String :=
  let steps := walk [] (splitWhere isSlash (chars.drop 1))
  String.join <| steps.map fun step =>
    "/" ++ String.ofList (percentEncode (isKept reservedInPath) step)

/-! ## Reading -/

/-- Reads what stands behind the protocol. -/
def ofRest? (protocol : String) (usualNumber : Nat) (chars : List Char) : Option Url :=
  let rest := chars.dropWhile isSlash
  let isEnd (c : Char) : Bool := isSlash c || c == '?' || c == '#'
  let authority := rest.takeWhile fun c => !isEnd c
  let server := (authority.reverse.takeWhile (· != '@')).reverse
  let sent := (rest.drop authority.length).takeWhile (· != '#')
  let query :=
    match sent.dropWhile (· != '?') with
    | _ :: query => some (String.ofList (percentEncode (isKept reservedInQuery) query))
    | [] => none
  (origin? protocol usualNumber server).map fun origin =>
    { origin, path := pathText (sent.takeWhile (· != '?')), query }

def parse? (text : String) : Option Url :=
  let chars := clean text.toList
  match chars.dropWhile (· != ':') with
  | _ :: rest =>
    let protocol := String.ofList ((chars.takeWhile (· != ':')).map Char.toLower)
    (protocols.lookup protocol).bind fun usualNumber => ofRest? protocol usualNumber rest
  | [] => none

/-- The address with parameters behind those that it has. -/
def withParameters (url : Url) (parameters : String) : Url :=
  { url with
    query :=
      match url.query with
      | none | some "" => some parameters
      | some query => some (query ++ "&" ++ parameters) }

/-- What is asked of the server: the path and the query. -/
def target (url : Url) : String :=
  url.path ++ url.query.elim "" fun query => "?" ++ query

end Url

end TestGate.Http
