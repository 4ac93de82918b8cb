import TestGate.Bugzilla
import TestGate.Jira.Search

/-!
The trackers on the web that the settings name.
-/

namespace TestGate

def Settings.tracker (settings : Settings) : Issue.Tracker → TrackerSettings
  | .bugzilla => settings.bugzilla
  | .jira => settings.jira

/-- Each tracker as a source, with its settings. -/
def webSource (tracker : Issue.Tracker) (settings : TrackerSettings) : IssueSource Http.Network :=
  match tracker with
  | .bugzilla => Bugzilla.source settings
  | .jira => Jira.source settings

def Settings.sources (settings : Settings) : IssueSources Http.Network := fun tracker =>
  webSource tracker (settings.tracker tracker)

end TestGate
