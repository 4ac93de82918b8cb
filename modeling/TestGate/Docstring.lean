import TestGate.Text.Blank
import TestGate.Text.LowerCase

/-!
Fields in docstrings: lines such as `:CaseComponent: Repositories`. A field stands on one line and
takes nothing from the next. Of the component and the importance the first line with a word counts,
of the issue lists the last line, even an empty one.
-/

namespace TestGate.Docstring

open Text

/-- Blanks inside a line. -/
def isLineBlank (c : Char) : Bool :=
  c == ' ' || c == '\t'

/-- Whether `c` is the small letter `letter` in any case; the long s is a form of s. -/
def isFormOf (letter c : Char) : Bool :=
  c.toLower == letter || (letter == 's' && c == 'ſ')

/-- The text behind `name` when the text starts with it, in any case; the name is given in small
letters. -/
def passName (name chars : List Char) : Option (List Char) :=
  match name, chars with
  | [], rest => some rest
  | _ :: _, [] => none
  | letter :: name, c :: rest => if isFormOf letter c then passName name rest else none

/-- The value of the field `name`, given in small letters, if the line holds this field. -/
def fieldValue? (name : String) (line : List Char) : Option (List Char) :=
  (passName (":" ++ name ++ ":").toList (line.dropWhile isLineBlank)).map fun value =>
    ((value.dropWhile isLineBlank).reverse.dropWhile isLineBlank).reverse

/-- The values of the field `name` on all lines that hold it. -/
def fieldValues (name text : String) : List (List Char) :=
  (splitWhere (· == '\n') text.toList).filterMap (fieldValue? name)

/-- The first word of the first value that has one. -/
def firstWord? (name text : String) : Option String :=
  (fieldValues name text).findSome? fun value => (words value).head?.map String.ofList

/-- The comma-separated parts of the last value. -/
def lastList (name text : String) : List String :=
  ((fieldValues name text).getLast?.map listed).getD []

/-- The fields of a docstring that matter here. -/
structure Fields where
  component : Option String
  importance : Option String
  bugzillaIds : List String
  jiraKeys : List String
deriving DecidableEq, Repr, Inhabited

def component? (text : String) : Option String :=
  firstWord? "casecomponent" text

def fields (text : String) : Fields where
  component := component? text
  importance := firstWord? "caseimportance" text
  bugzillaIds := lastList "bz" text
  jiraKeys := lastList "jr" text

/-- Characters that the short form of a component leaves out. -/
def isSlugSeparator (c : Char) : Bool :=
  [' ', '&', '/', '-', '(', ')'].contains c

/-- The short form of a component: what stands before the first comma, in lower case and without
separators. -/
def componentSlug (component : String) : String :=
  lowerCase <| String.ofList <|
    (component.toList.takeWhile (· != ',')).filter fun c => !isSlugSeparator c

end TestGate.Docstring
