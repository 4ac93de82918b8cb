import TestGate.IssueSource

/-!
Repeating failed calls: up to a number of attempts, with one fixed wait between two of them.
-/

namespace TestGate

open Issue

/-- How often a call is attempted and how long the wait between two attempts is, in seconds. -/
structure RetryPolicy where
  maxAttempts : Nat := 4
  delay : Nat := 20
deriving DecidableEq, Repr, Inhabited

namespace RetryPolicy

def once : RetryPolicy where
  maxAttempts := 1
  delay := 0

/-- The number of attempts; there is always one. -/
def attempts (policy : RetryPolicy) : Nat :=
  max policy.maxAttempts 1

end RetryPolicy

variable {σ : Type}

/-- The attempts from number `attempt` on, of which `more` may follow the first. -/
def attemptFetch
    (source : IssueSource σ) (tracker : Tracker) (policy : RetryPolicy) (ids : List String) :
    (more attempt : Nat) → World σ → Except String (List Record) × World σ
  | 0, _, world => world.ask source tracker ids
  | more + 1, attempt, world =>
    match world.ask source tracker ids with
    | (.ok records, world) => (.ok records, world)
    | (.error error, world) =>
      attemptFetch source tracker policy ids more (attempt + 1) <|
        world.record
          [.noted (.retrying tracker attempt policy.attempts error policy.delay),
            .waited policy.delay]

/-- Asks a source until it answers, as often as the policy allows; the last error counts. -/
def fetchWithRetry
    (source : IssueSource σ) (tracker : Tracker) (policy : RetryPolicy) (ids : List String)
    (world : World σ) :
    Except String (List Record) × World σ :=
  attemptFetch source tracker policy ids (policy.attempts - 1) 1 world

end TestGate
