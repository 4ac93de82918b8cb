import TestGate.Cache
import TestGate.CommandLine
import TestGate.Failure
import TestGate.IssueSource
import TestGate.Settings

/-!
What the commands of the program share: the circumstances of a run, and what a command leaves
behind.
-/

namespace TestGate

/-- When, as what and where a run takes place. -/
structure Occasion where
  now : Timestamp
  runId : String
  args : List String := []
  workingDirectory : String := ""
deriving DecidableEq, Repr, Inhabited

def Occasion.runMeta (occasion : Occasion) (settings : Settings) : Cache.RunMeta where
  version := settings.serverVersion.toText
  hostname := settings.server.hostname
  created := occasion.now
  runId := occasion.runId
  args := occasion.args
  workingDirectory := occasion.workingDirectory

/-- What a command leaves behind: its outcome, the files, and the world with all that happened. -/
structure Conclusion (φ σ α : Type) where
  outcome : Except Failure α
  files : φ
  world : World σ

namespace Conclusion

variable {φ σ α β : Type}

/-- The conclusion with another form of a successful outcome. -/
def map (change : α → β) (conclusion : Conclusion φ σ α) : Conclusion φ σ β :=
  { conclusion with outcome := conclusion.outcome.map change }

end Conclusion

def World.noteAll {σ : Type} (world : World σ) (notices : List Notice) : World σ :=
  world.record (notices.map .noted)

/-- The text of a report in JSON: indented by two blanks a level, with a line end behind it. -/
def Json.reportText (json : Json) : String :=
  json.render (.lines 2) ++ "\n"

end TestGate
