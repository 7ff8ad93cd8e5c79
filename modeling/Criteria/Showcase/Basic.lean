import Criteria.Document
import Criteria.RuleSet.Journal
import Criteria.RuleSet.Loading
import Criteria.RuleSet.Report

/-!
Small programs that show the library at work. A showcase takes no input but the words for what is wrong
with a pattern; it prints lines and leaves records in the log.
-/
namespace Criteria.Showcase

inductive Line where
  | plain (text : String)
  /-- A line at whose end stands how long the evaluation took. -/
  | timed (text : String)

def Line.text : Line → String
  | .plain text => text
  | .timed text => text

structure Run where
  printed : List Line
  records : List Record
  failure : Option String

namespace Run

def ok (printed : List Line) (records : List Record) : Run := ⟨printed, records, none⟩

def failed (message : String) : Run := ⟨[], [], some message⟩

def andThen (first second : Run) : Run :=
  match first.failure with
  | some _ => first
  | none => ⟨first.printed ++ second.printed, first.records ++ second.records, second.failure⟩

def inOrder (runs : List Run) : Run := runs.foldl andThen (ok [] [])

end Run

def evaluating (rules : RuleSet) (document : Value) (line : Except Mismatch Bool → Line) : Run :=
  .ok [line (rules.evaluate document)] (rules.evaluationRecords document)

def building (explain : String → String) (description : Json) (next : RuleSet → Run) : Run :=
  match RuleSet.ofJson description with
  | .error error => .failed (error.message explain)
  | .ok rules => (Run.ok [] (RuleSet.buildRecords description)).andThen (next rules)

def json (text : String) : Json := (Json.ofText? text).getD .null

end Criteria.Showcase
