import TestGate.Failure
import TestGate.Verdict

/-!
Duplicates are judged by the issue they lead to. The walk ends at a record that is no duplicate, or
at the last record that the index holds; it fails when it comes back to an issue that it has passed
or when it passes more than `longestChain` issues.
-/

namespace TestGate.Issue.Index

/-- The most issues that a chain of duplicates may hold. -/
def longestChain : Nat := 16

/-- The issue that a record duplicates with its record, if the index holds one. -/
def successor? (index : Index) (tracker : Tracker) (record : Record) :
    Option (Reference × Record) :=
  match record.duplicated? tracker with
  | some id => (index.record? ⟨tracker, id⟩).map fun next => (⟨tracker, id⟩, next)
  | none => none

/-- Walks on from `record`, which was reached through `passed`, last one first; up to `more` issues
may still be passed. -/
def walk (index : Index) (start : Reference) :
    (more : Nat) → (passed : List Reference) → Record → Except Failure Record
  | more, passed, record =>
    match index.successor? start.tracker record with
    | none => .ok record
    | some (issue, next) =>
      let chain := issue :: passed
      match more with
      | 0 => .error (.malformedDuplicateChain start.toText (chain.reverse.map Reference.toText))
      | more + 1 =>
        if passed.contains issue then
          .error (.malformedDuplicateChain start.toText (chain.reverse.map Reference.toText))
        else
          walk index start more chain next

/-- The record that decides about an issue: the last one of its chain of duplicates. `none` means
that nothing is known about the issue itself. -/
def canonical (index : Index) (start : Reference) : Except Failure (Option Record) :=
  match index.record? start with
  | none => .ok none
  | some record => (index.walk start (longestChain - 1) [start] record).map some

end TestGate.Issue.Index
