import Criteria.Proofs.Condition.Answering
import Criteria.Proofs.Path.Resolution

/-!
Conditions that look for equal values. Equality compares the value that is found, membership the elements of the
reference, and containment the elements of a list that is found. So a containment behind a path that leads to a list
of mappings asks whether in one of them a name holds what equality asks for: a name that a mapping lacks gives null
there and is no failure.
-/
namespace Criteria

namespace Path

theorem splitDots_eq_singleton {text : List Char} (plain : '.' ∉ text) : Text.splitDots text = [text] := by
  induction text with
  | nil => rfl
  | cons c rest ih =>
    rw [List.mem_cons, not_or] at plain
    obtain ⟨noStop, others⟩ := plain
    rw [Text.splitDots, if_neg (Ne.symm noStop), ih others]

theorem segmentsOf_eq_singleton {name : String} (plain : '.' ∉ name.toList) : segmentsOf name = [name] := by
  rw [segmentsOf, splitDots_eq_singleton plain, List.map_singleton, String.ofList_toList]

end Path

namespace Condition

section Answers

variable {condition : Condition} {document : Value}

theorem evaluate_of_holds_iff {answer : Bool}
    (applies : ∀ expected,
      ¬ condition.operator.Misfits condition.reference.kind (condition.path.resolve document).kind expected)
    (tells : answer = true ↔ condition.operator.Holds condition.reference (condition.path.resolve document)) :
    condition.evaluate document = .ok (condition.negated ^^ answer) := by
  obtain ⟨own, evaluated, holds⟩ := condition.exists_evaluate_eq_ok document applies
  have same : own = answer := Bool.eq_iff_iff.2 (holds.trans tells.symm)
  rw [evaluated, same]

theorem evaluate_of_eq (equality : condition.operator = .eq) :
    condition.evaluate document =
      .ok (condition.negated ^^ (condition.path.resolve document).equals condition.reference) := by
  apply evaluate_of_holds_iff
  · rw [equality]
    exact fun expected => Operator.not_misfits_of_universal (by decide)
  · rw [equality, Operator.Holds]

theorem evaluate_of_isIn {items : List Value} (membership : condition.operator = .isIn)
    (reference : condition.reference = .list items) :
    condition.evaluate document =
      .ok (condition.negated ^^ items.any fun item => item.equals (condition.path.resolve document)) := by
  apply evaluate_of_holds_iff
  · rw [membership]
    exact fun expected => Operator.not_misfits_of_universal (by decide)
  · simp [membership, reference, Operator.Holds]

theorem evaluate_of_contains {items : List Value} (containment : condition.operator = .contains)
    (found : condition.path.resolve document = .list items) :
    condition.evaluate document =
      .ok (condition.negated ^^ items.any fun item => item.equals condition.reference) := by
  apply evaluate_of_holds_iff
  · rw [containment, found]
    intro expected
    apply Operator.not_misfits_contains <;> simp [Value.kind, Kind.numeric]
  · simp [containment, found, Operator.Holds]

end Answers

end Condition

namespace Path

/-- One name more behind a path that leads to a list of mappings leads to what they hold under it. -/
theorem resolve_of_list_of_mappings {path longer : Path} {name : String} {document : Value} {items : List Value}
    (behind : longer.segments = path.segments ++ [name]) (found : path.resolve document = .list items)
    (mappings : ∀ item ∈ items, ∃ fields, item = .map fields) :
    longer.resolve document = .list (items.map (walk [name])) := by
  rw [resolve, behind, walk_append]
  exact (congrArg (walk [name]) found).trans (walk_cons_list name [] mappings)

end Path

namespace Condition

theorem exists_make_eq (path : Path) {reference : Value} (supported : reference.unsupportedPart? = none) :
    ∃ condition : Condition, (attr path.text).eq reference = .ok condition ∧
      ∀ document, condition.evaluate document = .ok ((path.resolve document).equals reference) := by
  have accepted : Operator.eq.accepts reference.kind = true := by
    rw [Operator.accepts_iff]
    cases reference <;> simp_all [Value.kind, Value.unsupportedPart?]
  obtain ⟨condition, made, own, wanted, equality, straight⟩ :=
    exists_make_of_accepted path supported accepted (by decide) false
  refine ⟨condition, made, ?_⟩
  intro document
  rw [evaluate_of_eq equality, straight, own, wanted, Bool.false_xor]

theorem exists_make_isIn (path : Path) {items : List Value} (scalars : ∀ item ∈ items, item.isScalar = true) :
    ∃ condition : Condition, (attr path.text).isIn items = .ok condition ∧
      ∀ document, condition.evaluate document = .ok (items.any fun item => item.equals (path.resolve document)) := by
  have supported : (Value.list items).unsupportedPart? = none :=
    (Value.unsupportedPart?_eq_none_iff _).2 (.inr ⟨items, rfl, scalars⟩)
  have accepted : Operator.isIn.accepts (Value.list items).kind = true := by rfl
  obtain ⟨condition, made, own, wanted, membership, straight⟩ :=
    exists_make_of_accepted path supported accepted (by decide) false
  have reference : toValue items = Value.list items := congrArg Value.list (List.map_id items)
  refine ⟨condition, ?_, ?_⟩
  · rw [Attribute.isIn, Attribute.compare, reference]
    exact made
  · intro document
    rw [evaluate_of_isIn membership wanted, straight, own, Bool.false_xor]

theorem exists_make_contains (path : Path) {reference : Value} (supported : reference.unsupportedPart? = none)
    (noNull : reference ≠ .null) :
    ∃ condition : Condition, (attr path.text).contains reference = .ok condition ∧
      ∀ document items, path.resolve document = .list items →
        condition.evaluate document = .ok (items.any fun item => item.equals reference) := by
  have accepted : Operator.contains.accepts reference.kind = true := by
    rw [Operator.accepts_iff]
    cases reference <;> simp_all [Value.kind, Value.unsupportedPart?]
  obtain ⟨condition, made, own, wanted, containment, straight⟩ :=
    exists_make_of_accepted path supported accepted (by decide) false
  refine ⟨condition, made, ?_⟩
  intro document items found
  rw [← own] at found
  rw [evaluate_of_contains containment found, straight, wanted, Bool.false_xor]

/-- Behind a path that leads to a list of mappings, containment under a name asks whether one of the mappings holds
under it what equality asks for. It always answers there, also when the name is absent. -/
theorem contains_iff_exists_element (path : Path) {name : String} (nonempty : name ≠ "") (plain : '.' ∉ name.toList)
    {reference : Value}
    (taken : reference.isScalar = true ∧ reference ≠ .null ∨
      ∃ items, reference = .list items ∧ ∀ item ∈ items, item.isScalar = true) :
    ∃ contained same : Condition,
      (attr (path.text ++ "." ++ name)).contains reference = .ok contained ∧
      (attr name).eq reference = .ok same ∧
      ∀ document items, path.resolve document = .list items → (∀ item ∈ items, ∃ fields, item = .map fields) →
        ∃ answer, contained.evaluate document = .ok answer ∧
          (answer = true ↔ ∃ item ∈ items, same.evaluate item = .ok true) := by
  have supported : reference.unsupportedPart? = none :=
    (Value.unsupportedPart?_eq_none_iff reference).2 (taken.imp And.left id)
  have noNull : reference ≠ .null := by
    rcases taken with ⟨-, noNull⟩ | ⟨items, rfl, -⟩
    · exact noNull
    · exact nofun
  have own := Path.segmentsOf_eq_singleton plain
  have behind : (path.join ⟨name, nonempty⟩).segments = path.segments ++ [name] := by
    rw [← own]
    exact Path.segmentsOf_join path.text name
  obtain ⟨contained, made, looks⟩ := exists_make_contains (path.join ⟨name, nonempty⟩) supported noNull
  obtain ⟨same, made', inside⟩ := exists_make_eq ⟨name, nonempty⟩ supported
  refine ⟨contained, same, made, made', ?_⟩
  intro document items found mappings
  have reached := Path.resolve_of_list_of_mappings behind found mappings
  refine ⟨_, looks document _ reached, ?_⟩
  rw [List.any_map, List.any_eq_true]
  simp only [inside, Path.resolve, Path.segments, own, Function.comp_apply, Except.ok.injEq]

def networks : Value :=
  .map [("nets", .list [.map [("peer", .map [("tag", .string "ix")])], .map [("peer", .map [])],
    .map [("peer", .map [("tag", .int 7)])]])]

theorem contains_iff_exists_element_networks :
    "tag" ≠ "" ∧ '.' ∉ "tag".toList ∧ (Value.string "ix").isScalar = true ∧ Value.string "ix" ≠ .null ∧
      ∃ contained same : Condition,
        (attr "nets.peer.tag").contains (Value.string "ix") = .ok contained ∧
        (attr "tag").eq (Value.string "ix") = .ok same ∧
        contained.evaluate networks = .ok true ∧ same.evaluate (.map [("tag", .string "ix")]) = .ok true := by
  have plain : '.' ∉ "tag".toList := by decide
  have taken : (Value.string "ix").isScalar = true ∧ Value.string "ix" ≠ .null := ⟨rfl, nofun⟩
  obtain ⟨contained, same, made, made', elements⟩ :=
    contains_iff_exists_element ⟨"nets.peer", by decide⟩ (by decide) plain (.inl taken)
  have found : Path.resolve ⟨"nets.peer", by decide⟩ networks =
      .list [.map [("tag", .string "ix")], .map [], .map [("tag", .int 7)]] := by rfl
  obtain ⟨answer, evaluated, tells⟩ := elements networks _ found (by simp)
  have computed : ((attr "tag").eq (Value.string "ix")).map (·.evaluate (.map [("tag", .string "ix")])) =
      .ok (.ok true) := by rfl
  rw [made'] at computed
  have own := Except.ok.inj computed
  have holds : answer = true := tells.2 ⟨_, List.mem_cons_self, own⟩
  exact ⟨by decide, plain, taken.1, taken.2, contained, same, made, made', holds ▸ evaluated, own⟩

end Condition

end Criteria
