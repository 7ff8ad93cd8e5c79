import Criteria.Showcase.Basic

/-!
One set shared by four workers, each of which evaluates it on a document of its own. The workers finish
in any order, so their lines and records are given in the order of their texts.
-/
namespace Criteria.Showcase.Shared

def source : String := "\x7b\"and\": [
  \x7b\"attr\": \"user.age\", \"op\": \"gte\", \"value\": 18\x7d,
  \x7b\"attr\": \"user.status\", \"value\": \"active\"\x7d
]\x7d"

def document (worker : Nat) : Document :=
  (Document.empty.set "user.age" (16 + Int64.ofNat worker)).set "user.status" "active"

def resultText : Except Mismatch Bool → String
  | .ok answer => "Ok(" ++ Text.truth answer ++ ")"
  | .error mismatch => "Err(" ++ mismatch.message ++ ")"

def line (worker : Nat) (result : Except Mismatch Bool) : Line :=
  .plain ("Thread " ++ toString worker ++ ": " ++ resultText result)

def sorted (run : Run) : Run :=
  { run with
    printed := run.printed.mergeSort fun left right => !decide (right.text < left.text)
    records := run.records.mergeSort fun left right => !decide (right.text < left.text) }

def run : Run :=
  match RuleSet.ofText source with
  | .error _ => .failed "failed to build condition set"
  | .ok rules =>
    let workers := (List.range 4).map fun worker => evaluating rules (document worker).toValue (line worker)
    sorted ((Run.ok [] (RuleSet.buildRecords (json source))).andThen (.inOrder workers))

end Criteria.Showcase.Shared
