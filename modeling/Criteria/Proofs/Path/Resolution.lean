import Criteria.Proofs.Document.Agreement

/-!
Where paths lead. A path that goes on from the end of another leads where the second leads from there; a walk
that has ended early leads to null, and so does every walk on from null. In a list a path leads to the list of
what it leads to in the elements, if it passes only mappings in all of them, and else to null: no element may be
in its way, not even one.
-/
namespace Criteria

namespace Path

def join (first second : Path) : Path :=
  ⟨first.text ++ "." ++ second.text, by simp⟩

theorem segmentsOf_join (first second : String) :
    segmentsOf (first ++ "." ++ second) = segmentsOf first ++ segmentsOf second := by
  have stop : (first ++ "." ++ second).toList = first.toList ++ '.' :: second.toList := by simp
  rw [segmentsOf, stop, Text.splitDots_append, List.map_append, segmentsOf, segmentsOf]

/-- The text of two paths with a full stop between them is a path; its names are those of the one and then those of
the other, and it leads where the second leads from the end of the first. -/
theorem resolve_join (first second : Path) (document : Value) :
    ofText? (first.text ++ "." ++ second.text) = some (first.join second) ∧
      (first.join second).segments = first.segments ++ second.segments ∧
      (first.join second).resolve document = second.resolve (first.resolve document) := by
  have segments : (first.join second).segments = first.segments ++ second.segments :=
    segmentsOf_join first.text second.text
  refine ⟨dif_pos (first.join second).nonempty, segments, ?_⟩
  rw [resolve, segments]
  exact walk_append first.segments second.segments document

end Path

namespace Document

/-- At every proper beginning of the names a mapping stands. -/
def PassesMappings (names : List String) (node : Value) : Prop :=
  ∀ before, before <+: names → before ≠ names → ∃ fields, read? before node = some (.map fields)

theorem read?_null_ne (names : List String) (fields : Fields Value) : read? names .null ≠ some (.map fields) := by
  cases names <;> simp [read?]

theorem passesMappings_nil (node : Value) : PassesMappings [] node := by
  intro before start proper
  exact absurd (List.prefix_nil.1 start) proper

theorem passesMappings_cons_iff (name : String) (rest : List String) (node : Value) :
    PassesMappings (name :: rest) node ↔
      ∃ fields, node = .map fields ∧ PassesMappings rest (Path.fieldOrNull name fields) := by
  constructor
  · intro passes
    obtain ⟨fields, starts⟩ := passes [] List.nil_prefix (by simp)
    obtain rfl : node = .map fields := Option.some.inj starts
    refine ⟨fields, rfl, ?_⟩
    intro before start proper
    have proper' : name :: before ≠ name :: rest := fun same => proper (List.cons.inj same).2
    obtain ⟨inner, found⟩ := passes (name :: before) (List.cons_prefix_cons.2 ⟨rfl, start⟩) proper'
    refine ⟨inner, ?_⟩
    rw [read?] at found
    split at found
    · rename_i next held
      rw [Path.fieldOrNull, held]
      exact found
    · cases found
  · rintro ⟨fields, rfl, passes⟩
    intro before start proper
    cases before with
    | nil => exact ⟨fields, rfl⟩
    | cons first before =>
      obtain ⟨rfl, behind⟩ := List.cons_prefix_cons.1 start
      obtain ⟨inner, found⟩ := passes before behind (fun same => proper (congrArg _ same))
      refine ⟨inner, ?_⟩
      rw [Path.fieldOrNull] at found
      rw [read?]
      cases held : Fields.get? first fields with
      | none =>
        rw [held] at found
        exact absurd found (read?_null_ne before inner)
      | some next =>
        rw [held] at found
        exact found

instance decidablePassesMappings : (names : List String) → (node : Value) → Decidable (PassesMappings names node)
  | [], node => isTrue (passesMappings_nil node)
  | name :: rest, .map fields =>
    have := decidablePassesMappings rest (Path.fieldOrNull name fields)
    decidable_of_iff (PassesMappings rest (Path.fieldOrNull name fields))
      ((passesMappings_cons_iff name rest _).trans (by simp)).symm
  | name :: rest, .null => isFalse (by simp [passesMappings_cons_iff])
  | name :: rest, .bool _ => isFalse (by simp [passesMappings_cons_iff])
  | name :: rest, .int _ => isFalse (by simp [passesMappings_cons_iff])
  | name :: rest, .float _ => isFalse (by simp [passesMappings_cons_iff])
  | name :: rest, .string _ => isFalse (by simp [passesMappings_cons_iff])
  | name :: rest, .list _ => isFalse (by simp [passesMappings_cons_iff])

end Document

namespace Path

open Document

/-- Past mappings alone a walk finds what a lookup of the document finds, and null where that finds nothing. -/
theorem walk_of_passesMappings {names : List String} {node : Value} (passes : PassesMappings names node) :
    walk names node = (read? names node).getD .null := by
  apply walk_of_not_meetsList
  rintro ⟨before, items, start, proper, found⟩
  obtain ⟨fields, mapping⟩ := passes before start proper
  rw [mapping] at found
  cases found

theorem broadcast_of_mappings (name : String) {items : List Value}
    (mappings : ∀ item ∈ items, ∃ fields, item = .map fields) :
    broadcast name items = some (items.map (walk [name])) := by
  induction items with
  | nil => rfl
  | cons item rest ih =>
    obtain ⟨⟨fields, rfl⟩, others⟩ := List.forall_mem_cons.1 mappings
    rw [broadcast, ih others]
    rfl

theorem broadcast_of_other (name : String) {items : List Value} {item : Value} (member : item ∈ items)
    (other : ∀ fields, item ≠ .map fields) : broadcast name items = none := by
  induction items with
  | nil => cases member
  | cons first rest ih =>
    cases first with
    | map fields =>
      obtain same | later := List.mem_cons.1 member
      · exact absurd same (other fields)
      · rw [broadcast, ih later]
        rfl
    | null => rfl
    | bool b => rfl
    | int n => rfl
    | float x => rfl
    | string s => rfl
    | list items => rfl

/-- A step into a list is a step into each of its elements, if they are mappings. -/
theorem walk_cons_list (name : String) (rest : List String) {items : List Value}
    (mappings : ∀ item ∈ items, ∃ fields, item = .map fields) :
    walk (name :: rest) (.list items) = walk rest (.list (items.map (walk [name]))) := by
  rw [walk, step, broadcast_of_mappings name mappings]
  rfl

theorem walk_list_of_passesMappings {names : List String} {items : List Value}
    (passes : ∀ item ∈ items, PassesMappings names item) :
    walk names (.list items) = .list (items.map (walk names)) := by
  induction names generalizing items with
  | nil =>
    have same : items.map (walk []) = items := List.map_id items
    rw [same]
    rfl
  | cons name rest ih =>
    have mappings : ∀ item ∈ items, ∃ fields, item = .map fields := by
      intro item member
      obtain ⟨fields, same, -⟩ := (passesMappings_cons_iff name rest item).1 (passes item member)
      exact ⟨fields, same⟩
    have onward : ∀ next ∈ items.map (walk [name]), PassesMappings rest next := by
      intro next member
      obtain ⟨item, within, rfl⟩ := List.mem_map.1 member
      obtain ⟨fields, rfl, passes⟩ := (passesMappings_cons_iff name rest item).1 (passes item within)
      exact passes
    have joined : walk rest ∘ walk [name] = walk (name :: rest) := by
      funext item
      exact (walk_append [name] rest item).symm
    rw [walk_cons_list name rest mappings, ih onward, List.map_map, joined]

theorem walk_list_of_blocked {names : List String} {items : List Value} {item : Value} (member : item ∈ items)
    (blocked : ¬ PassesMappings names item) : walk names (.list items) = .null := by
  induction names generalizing items item with
  | nil => exact absurd (passesMappings_nil item) blocked
  | cons name rest ih =>
    by_cases other : ∃ item ∈ items, ∀ fields, item ≠ .map fields
    · -- This element need not be the one that is known to block the names.
      obtain ⟨first, within, noMapping⟩ := other
      rw [walk, step, broadcast_of_other name within noMapping]
      rfl
    · have mappings : ∀ item ∈ items, ∃ fields, item = .map fields := by simpa using other
      obtain ⟨fields, rfl⟩ := mappings item member
      have onward : ¬ PassesMappings rest (walk [name] (.map fields)) :=
        fun passes => blocked ((passesMappings_cons_iff name rest _).2 ⟨fields, rfl, passes⟩)
      rw [walk_cons_list name rest mappings]
      exact ih (List.mem_map_of_mem member) onward

/-- A path leads in a list to the list of what it leads to in the elements, if in each of them a mapping stands at
every proper beginning of its names, and what it leads to in an element is then what is held under its names, or null;
if one element is in its way, the path leads to null. In an empty list it leads to the empty list. -/
theorem resolve_list (path : Path) (items : List Value) :
    path.resolve (.list items) =
        (if ∀ item ∈ items, PassesMappings path.segments item then .list (items.map path.resolve) else .null) ∧
      path.resolve (.list items) =
        (if ∀ item ∈ items, PassesMappings path.segments item then
          .list (items.map fun item => (read? path.segments item).getD .null)
        else .null) ∧
      path.resolve (.list []) = .list [] := by
  have empty : path.resolve (.list []) = .list [] :=
    walk_list_of_passesMappings (fun item member => absurd member List.not_mem_nil)
  by_cases blocked : ∃ item ∈ items, ¬ PassesMappings path.segments item
  · obtain ⟨item, member, blocks⟩ := blocked
    have null : path.resolve (.list items) = .null := walk_list_of_blocked member blocks
    have notAll : ¬ ∀ item ∈ items, PassesMappings path.segments item := fun all => blocks (all item member)
    rw [if_neg notAll, if_neg notAll]
    exact ⟨null, null, empty⟩
  · have passes : ∀ item ∈ items, PassesMappings path.segments item := by simpa using blocked
    have each : path.resolve (.list items) = .list (items.map path.resolve) := walk_list_of_passesMappings passes
    have held : items.map path.resolve = items.map fun item => (read? path.segments item).getD .null :=
      List.map_congr_left (fun item member => walk_of_passesMappings (passes item member))
    rw [if_pos passes, if_pos passes, ← held]
    exact ⟨each, each, empty⟩

-- The second element has no `a`, so the `b` of the first is not found either.
example : walk ["a", "b"] (.list [.map [("a", .map [("b", .bool true)])], .map []]) = .null := rfl

end Path

end Criteria
