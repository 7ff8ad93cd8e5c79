import Criteria.Proofs.Document.Writing
import Criteria.Proofs.RuleSet.Positions
import Criteria.RuleSet.Report

/-!
What an evaluation depends on. A condition sees of a document only what its path leads to, and a set sees
only what its conditions answer. So a write that overlaps no path of a set leaves its evaluation as it was,
the answer or the failure and the whole report, provided that the write makes no mapping out of a list.
-/
namespace Criteria

/-- A condition sees of a document only what its path leads to. -/
theorem Condition.evaluate_of_resolve_eq {condition : Condition} {document other : Value}
    (same : condition.path.resolve document = condition.path.resolve other) :
    condition.evaluate document = condition.evaluate other := by
  rw [evaluate, evaluate, same]

namespace Rule

variable {document other : Value}

theorem trailAll_of_trail_eq (logic : Logic) {children : List Rule}
    (each : ∀ child ∈ children, child.trail document = child.trail other) :
    trailAll document logic children = trailAll other logic children := by
  induction children with
  | nil => rfl
  | cons rule rest ih =>
    have tail := ih (fun child member => each child (List.mem_cons_of_mem _ member))
    rw [trailAll, trailAll, each rule List.mem_cons_self, tail]

theorem trail_of_evaluate_eq {rule : Rule}
    (each : ∀ condition ∈ rule.conditions, condition.evaluate document = condition.evaluate other) :
    rule.trail document = rule.trail other := by
  induction rule with
  | leaf condition =>
    rw [conditions_leaf, List.forall_mem_singleton] at each
    rw [trail, trail, each]
  | node logic children ih =>
    rw [conditions_node, List.forall_mem_flatMap] at each
    rw [trail, trail]
    exact trailAll_of_trail_eq logic (fun child member => ih child member (each child member))

end Rule

namespace RuleSet

/-- No attribute of the set is a path that begins with the given one, or with which that one begins. -/
def Ignores (rules : RuleSet) (path : String) : Prop :=
  ∀ condition ∈ rules.toRule.conditions, ¬ Path.Overlap condition.path.segments (Path.segmentsOf path)

/-- A write does not change the evaluation of a set that ignores its path, unless a list stands in its way. -/
theorem evaluation_insert_ignored {rules : RuleSet} {document : Document} {path : String}
    (ignored : rules.Ignores path)
    (free : ¬ Document.MeetsList (Path.segmentsOf path) document.toValue) (value : Value) :
    rules.evaluate (document.insert path value).toValue = rules.evaluate document.toValue ∧
      rules.report (document.insert path value).toValue = rules.report document.toValue := by
  have trails : rules.trail (document.insert path value).toValue = rules.trail document.toValue := by
    apply Rule.trail_of_evaluate_eq
    intro condition member
    apply Condition.evaluate_of_resolve_eq
    exact Document.resolve_insert (ignored condition member) free value
  constructor
  · rw [evaluate, evaluate, trails]
  · rw [report, report, trails]

def numberedPeer : Document := (Document.empty.set "peer" (5 : Int64)).set "limit" (10 : Int64)

def namedOrNear : RuleSet :=
  .any [.leaf ⟨⟨"peer.name", by decide⟩, .eq, .string "edge", false, .equal (.string "edge"), rfl, rfl, rfl⟩,
    .leaf ⟨⟨"peer.metric", by decide⟩, .lt, .int 2, false, .order .less (.whole 2), rfl, rfl, rfl⟩]

theorem evaluation_insert_ignored_peer :
    namedOrNear.Ignores "peer.tags.first" ∧
      ¬ Document.MeetsList (Path.segmentsOf "peer.tags.first") numberedPeer.toValue ∧
      namedOrNear.evaluate (numberedPeer.insert "peer.tags.first" (.bool true)).toValue =
        namedOrNear.evaluate numberedPeer.toValue ∧
      namedOrNear.report (numberedPeer.insert "peer.tags.first" (.bool true)).toValue =
        namedOrNear.report numberedPeer.toValue := by
  have segments : Path.segmentsOf "peer.tags.first" = ["peer", "tags", "first"] := by decide +kernel
  have ignored : namedOrNear.Ignores "peer.tags.first" := by
    have name : Path.segmentsOf "peer.name" = ["peer", "name"] := by decide +kernel
    have metric : Path.segmentsOf "peer.metric" = ["peer", "metric"] := by decide +kernel
    simp [Ignores, namedOrNear, any, toRule, Path.Overlap, Path.segments, segments, name, metric]
  have free : ¬ Document.MeetsList (Path.segmentsOf "peer.tags.first") numberedPeer.toValue := by
    have fields : numberedPeer.toValue = .map [("limit", .int 10), ("peer", .int 5)] := by rfl
    rw [segments, fields]
    rintro ⟨before, items, start, proper, found⟩
    cases before with
    | nil => simp [Document.read?] at found
    | cons name before => cases before <;> simp_all [Document.read?, Fields.get?]
  exact ⟨ignored, free, evaluation_insert_ignored ignored free (.bool true)⟩

end RuleSet

end Criteria
