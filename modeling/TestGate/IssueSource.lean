import TestGate.Issue.Record
import TestGate.Issue.Tracker
import TestGate.Notice

/-!
Where issue data comes from. A source answers a list of ids with records or with an error; it may
change some memory of its own while it does. All calls and waits of a run are kept in its journal,
in order.
-/

namespace TestGate

open Issue

/-- What a source has to say to one call. -/
structure Reply where
  outcome : Except String (List Record)
  notices : List Notice := []

/-- A source of issue data with memory of type `σ`. -/
structure IssueSource (σ : Type) where
  /-- Whether the source may be asked at all. -/
  hasCredentials : Bool
  /-- Asks for the issues with these ids. -/
  fetch : List String → σ → Reply × σ

/-- A source for each tracker; they share one memory. -/
abbrev IssueSources (σ : Type) := Tracker → IssueSource σ

/-- Something that a run does or says. -/
inductive Event where
  | asked (tracker : Tracker) (ids : List String)
  | waited (seconds : Nat)
  | noted (notice : Notice)
deriving DecidableEq, Repr

/-- The memory of the sources, and what has happened so far. -/
structure World (σ : Type) where
  memory : σ
  journal : List Event := []

namespace World

variable {σ : Type}

def record (world : World σ) (events : List Event) : World σ :=
  { world with journal := world.journal ++ events }

def note (world : World σ) (notice : Notice) : World σ :=
  world.record [.noted notice]

def ask (world : World σ) (source : IssueSource σ) (tracker : Tracker) (ids : List String) :
    Except String (List Record) × World σ :=
  let (reply, memory) := source.fetch ids world.memory
  (reply.outcome,
    { world with memory := memory }.record (.asked tracker ids :: reply.notices.map .noted))

end World

/-- The calls among events: the ids asked of a tracker. -/
def callsOf (tracker : Tracker) (events : List Event) : List (List String) :=
  events.filterMap fun
    | .asked asked ids => if asked = tracker then some ids else none
    | _ => none

def waitsOf (events : List Event) : List Nat :=
  events.filterMap fun
    | .waited seconds => some seconds
    | _ => none

def noticesOf (events : List Event) : List Notice :=
  events.filterMap fun
    | .noted notice => some notice
    | _ => none

end TestGate
