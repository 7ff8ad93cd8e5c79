import Criteria.Showcase.Basic

/-!
A set built in code: the status must be enabled, and the number private or very low.
-/
namespace Criteria.Showcase.Quickstart

def rules : Except BuildError RuleSet := do
  let enabled ← (attr "status").eq "enabled"
  let high ← (attr "asn").gte (64512 : Int64)
  let low ← (attr "asn").lt (200 : Int64)
  return .all [enabled, RuleSet.any [high, low]]

def line : Except Mismatch Bool → Line
  | .ok answer => .plain ("Result: " ++ Text.truth answer)
  | .error mismatch => .plain ("Evaluation failed: " ++ mismatch.message)

def run (explain : String → String) : Run :=
  match rules with
  | .error error => .failed (error.message explain)
  | .ok rules =>
    let complete := (Document.empty.set "status" "enabled").set "asn" (65001 : Int64)
    let partly := Document.empty.set "status" "enabled"
    .inOrder [
      .ok [.plain rules.text] [],
      evaluating rules complete.toValue line,
      evaluating rules partly.toValue line]

end Criteria.Showcase.Quickstart
