import Criteria.Showcase.Basic

/-!
A detailed report on a document with a list in it.
-/
namespace Criteria.Showcase.Detailed

def description : Json := json "\x7b\"or\": [
  \x7b\"attr\": \"router.name\", \"op\": \"regex\", \"value\": \"^edge-\"\x7d,
  \x7b\"and\": [
    \x7b\"attr\": \"sessions.state\", \"op\": \"contains\", \"value\": \"established\"\x7d,
    \x7b\"attr\": \"status\", \"op\": \"in\", \"value\": [\"enabled\", \"draining\"]\x7d,
    \x7b\"attr\": \"maintenance\", \"value\": true, \"negate\": true\x7d
  ]\x7d
]\x7d"

def document : Value := .ofJson (json "\x7b
  \"router\": \x7b\"name\": \"core-ams-2\"\x7d,
  \"status\": \"draining\",
  \"maintenance\": false,
  \"sessions\": [\x7b\"state\": \"idle\"\x7d, \x7b\"state\": \"established\"\x7d]
\x7d")

def quotedList (texts : List String) : String :=
  "[" ++ Text.commaSeparated (texts.map fun text => String.ofList (Json.quoted text)) ++ "]"

def run (explain : String → String) : Run :=
  building explain description fun rules =>
    match rules.report document with
    | .error mismatch => .failed mismatch.message
    | .ok report =>
      .ok [.timed (report.text ++ ", duration: "),
          .plain "",
          .plain ("Predicates that held: " ++ quotedList report.passed),
          .timed "Duration: "]
        (rules.evaluationRecords document)

end Criteria.Showcase.Detailed
