import Criteria.Showcase.Basic

/-!
A stream of change events filtered through the conditions of a subscriber before delivery.
-/
namespace Criteria.Showcase.Filter

def conditions : Json := json "\x7b\"and\": [
  \x7b\"attr\": \"object_type\", \"op\": \"in\", \"value\": [\"dcim.device\", \"dcim.interface\"]\x7d,
  \x7b\"attr\": \"data.status\", \"value\": \"active\"\x7d,
  \x7b\"OR\": [
    \x7b\"attr\": \"data.tags.slug\", \"op\": \"contains\", \"value\": \"monitored\"\x7d,
    \x7b\"attr\": \"data.name\", \"op\": \"regex\", \"value\": \"^(edge|core)-\"\x7d
  ]\x7d
]\x7d"

def events : List Json := [
  json "\x7b\"object_type\": \"dcim.device\",
    \"data\": \x7b\"name\": \"edge-fra-1\", \"status\": \"active\", \"tags\": []\x7d\x7d",
  json "\x7b\"object_type\": \"dcim.device\",
    \"data\": \x7b\"name\": \"lab-1\", \"status\": \"active\", \"tags\": [\x7b\"slug\": \"monitored\"\x7d]\x7d\x7d",
  json "\x7b\"object_type\": \"dcim.site\", \"data\": \x7b\"name\": \"core-fra\", \"status\": \"active\"\x7d\x7d",
  json "\x7b\"object_type\": \"dcim.interface\", \"data\": \x7b\"name\": \"eth0\", \"status\": \"planned\"\x7d\x7d"]

def typeText : Json → String
  | .object fields => ((Fields.get? "object_type" fields).getD .null).text
  | _ => Json.null.text

def line (event : Json) : Except Mismatch Bool → Line
  | .ok true => .plain ("deliver " ++ typeText event)
  | .ok false => .plain ("skip    " ++ typeText event)
  | .error mismatch => .plain ("error   " ++ typeText event ++ ": " ++ mismatch.message)

/-- A description that orders a string, which no operator does. -/
def broken : Json := json "\x7b\"and\": [\x7b\"attr\": \"data.name\", \"op\": \"gt\", \"value\": \"m\"\x7d]\x7d"

def rejection (explain : String → String) : Run :=
  match RuleSet.validate broken with
  | .ok () => .ok [] (RuleSet.buildRecords broken)
  | .error error => .ok [.plain ("rejected: " ++ error.message explain)] []

def run (explain : String → String) : Run :=
  building explain conditions fun _ =>
    building explain conditions fun rules =>
      .inOrder (.ok [.plain ("conditions: " ++ rules.text)] []
        :: events.map (fun event => evaluating rules (.ofJson event) (line event)) ++ [rejection explain])

end Criteria.Showcase.Filter
