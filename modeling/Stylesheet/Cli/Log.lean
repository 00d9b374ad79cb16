/-
  Stylesheet.Cli.Log
  ──────────────────
  **LOG LINES.**

  A verbose run tells the events of its computations, one to a line, each
  under the name of the part that it comes from.
-/
import Stylesheet.Traced

namespace Stylesheet

/-- The part that an event comes from. -/
def Event.source : Event → String
  | .unknownAtRule _ => "stylenest.atrules"
  | .mergedCondition .. => "stylenest.conditions"
  | .flattened _ => "stylenest.normalizer"

/-- The wording of an event. -/
def Event.message : Event → String
  | .unknownAtRule key =>
      "Unknown at-rule " ++ Text.quote key ++ " treated as " ++ AtRule.Kind.statement.word
  | .mergedCondition active key merged =>
      "Merged condition " ++ Text.quote active ++ " + " ++ Text.quote key ++ " -> " ++
        Text.quote merged
  | .flattened size => "Normalized style tree into " ++ toString size ++ " top-level entries"

/-- The log line of an event. -/
def Event.logLine (event : Event) : String :=
  "DEBUG " ++ event.source ++ ": " ++ event.message ++ "\n"

namespace Cli

/-- The log of some events, as the stream shows it; nothing unless the run is
verbose. -/
def log (verbose : Bool) (events : List Event) : String :=
  if verbose then Text.withoutHalves (String.join (events.map Event.logLine)) else ""

end Cli

end Stylesheet
