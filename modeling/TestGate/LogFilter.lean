import TestGate.Notice
import TestGate.Text.AsciiCase
import TestGate.Text.WordChar

/-!
Which notices are shown. A filter is a list of rules parted by commas, each a level, the name of a
part of the program, or both. Of the rules whose name a notice begins with, the longest name
counts, and of equal ones the last.
-/

namespace TestGate

open Text

/-- How much is shown, from nothing to all. -/
inductive Verbosity where
  | off
  | error
  | warn
  | info
  | debug
  | trace
deriving DecidableEq, Repr, Inhabited

namespace Verbosity

/-- All verbosities with their names, in rising order. -/
def all : List (String × Verbosity) :=
  [("off", off), ("error", error), ("warn", warn), ("info", info), ("debug", debug),
    ("trace", trace)]

/-- The verbosity with this number or name, in any case; an empty name is that of errors. -/
def ofText? (text : String) : Option Verbosity :=
  let digits := match text.toList with
    | '+' :: rest => rest
    | chars => chars
  let byNumber := (readNat? digits).bind fun place => (all[place]?).map (·.2)
  let byName := if text = "" then some error else (all.find? fun entry =>
    equalIgnoringCase entry.1 text).map (·.2)
  byNumber.or byName

/-- How much must be shown for notices of a level. -/
def least : Level → Verbosity
  | .warn => warn
  | .info => info
  | .debug => debug

/-- The place of a verbosity in rising order. -/
def rank : Verbosity → Nat
  | off => 0
  | error => 1
  | warn => 2
  | info => 3
  | debug => 4
  | trace => 5

def shows (verbosity : Verbosity) (level : Level) : Bool :=
  (least level).rank ≤ verbosity.rank

end Verbosity

/-- A rule of a filter. -/
structure LogRule where
  /-- What the parts of the program begin with that the rule is for. -/
  scope : Option String := none
  verbosity : Verbosity := .trace
  /-- Whether the rule is for certain spans of work, of which there are none. -/
  isForSpans : Bool := false
deriving DecidableEq, Repr

namespace LogRule

def parse? (text : String) : Option LogRule :=
  match trimChars text.toList with
  | [] => none
  | c :: rest =>
    if c = '[' then
      some { isForSpans := true }
    else if !(isWordChar c || c == '-' || c == ':') then
      none
    else
      match (c :: rest).span fun c => c != '=' && c != '[' with
      | (scope, '=' :: level) =>
        let scope := some (String.ofList scope)
        if level.isEmpty then some { scope := scope }
        else (Verbosity.ofText? (String.ofList level)).map fun verbosity => { scope, verbosity }
      | (_, _ :: _) => some { isForSpans := true }
      | (name, []) =>
        match Verbosity.ofText? (String.ofList name) with
        | some verbosity => some { verbosity := verbosity }
        | none => some { scope := some (String.ofList name) }

/-- Whether a rule is for a part of the program. -/
def covers (rule : LogRule) (target : String) : Bool :=
  !rule.isForSpans && (rule.scope.getD "").isPrefixOf target

/-- The length of the name in a rule; a rule without a name comes behind all others. -/
def weight (rule : LogRule) : Nat :=
  match rule.scope with
  | some scope => scope.length + 1
  | none => 0

end LogRule

/-- A list of rules. -/
structure LogFilter where
  rules : List LogRule
deriving DecidableEq, Repr

namespace LogFilter

/-- Reads a filter. Empty rules do not count. -/
def parse? (text : String) : Option LogFilter :=
  (((text.splitOn ",").filter (· != "")).mapM LogRule.parse?).map LogFilter.mk

/-- The filter that is used when there is no other: all from the program but what helps to debug
it. -/
def standard : LogFilter where
  rules := [{ scope := some "issuegate", verbosity := .info }, { verbosity := .warn }]

def ofSetting (setting : Option String) : LogFilter :=
  (setting.bind parse?).getD standard

/-- The rule that counts for a part of the program. -/
def ruleFor? (filter : LogFilter) (target : String) : Option LogRule :=
  (filter.rules.filter fun rule => rule.covers target).foldl
    (fun best rule =>
      match best with
      | some old => if rule.weight < old.weight then best else some rule
      | none => some rule)
    none

def admits (filter : LogFilter) (notice : Notice) : Bool :=
  (filter.ruleFor? notice.target).any fun rule => rule.verbosity.shows notice.level

end LogFilter

end TestGate
