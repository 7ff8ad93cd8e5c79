import Criteria.Document

/-!
Writing beside a lookup. Where neither of two lists of names begins with the other they part at some name.
Up to there a write makes mappings of what is in the way, and a lookup that turns off finds nothing in a
mapping that was just made, as it found nothing in the scalar, the null or the gap before. Only a list makes
a difference: a lookup goes into it, and the mapping that takes its place hides it.
-/
namespace Criteria

namespace Path

/-- One of two lists of names begins with the other. -/
def Overlap (names others : List String) : Prop := names <+: others ∨ others <+: names

theorem not_overlap_cons {name : String} {names others : List String}
    (apart : ¬ Overlap (name :: names) (name :: others)) : ¬ Overlap names others := by
  intro overlap
  apply apart
  exact overlap.imp (List.cons_prefix_cons.2 ⟨rfl, ·⟩) (List.cons_prefix_cons.2 ⟨rfl, ·⟩)

theorem walk_null (names : List String) : walk names .null = .null := by
  cases names <;> rfl

theorem walk_cons_map (name : String) (rest : List String) (fields : Fields Value) :
    walk (name :: rest) (.map fields) = walk rest (fieldOrNull name fields) := rfl

theorem walk_append (names others : List String) (node : Value) :
    walk (names ++ others) node = walk others (walk names node) := by
  induction names generalizing node with
  | nil => rfl
  | cons name rest ih =>
    rw [List.cons_append, walk, walk]
    cases step name node with
    | none => exact (walk_null others).symm
    | some next => exact ih next

end Path

namespace Document

/-- A list stands at a proper beginning of the names. -/
def MeetsList (names : List String) (node : Value) : Prop :=
  ∃ before items, before <+: names ∧ before ≠ names ∧ read? before node = some (.list items)

/-- What a write finds in its way and makes into a mapping leads nowhere, before and after, unless it is a
list. -/
theorem walk_fieldsOf {held : Option Value} (noList : ∀ items, held ≠ some (.list items)) (name : String)
    (rest : List String) :
    Path.walk (name :: rest) (.map (fieldsOf held)) = Path.walk (name :: rest) (held.getD .null) := by
  have nowhere : Path.walk (name :: rest) (.map []) = .null := Path.walk_null rest
  cases held with
  | none => exact nowhere
  | some node =>
    cases node with
    | map fields => rfl
    | list items => exact absurd rfl (noList items)
    | null => exact nowhere
    | bool b => exact nowhere
    | int n => exact nowhere
    | float x => exact nowhere
    | string s => exact nowhere

theorem meetsList_of_fieldsOf {name next : String} {rest : List String} {fields : Fields Value}
    (meets : MeetsList (next :: rest) (.map (fieldsOf (Fields.get? name fields)))) :
    MeetsList (name :: next :: rest) (.map fields) := by
  obtain ⟨before, items, start, proper, found⟩ := meets
  have start' : name :: before <+: name :: next :: rest := List.cons_prefix_cons.2 ⟨rfl, start⟩
  have proper' : name :: before ≠ name :: next :: rest := fun same => proper (List.cons.inj same).2
  refine ⟨name :: before, items, start', proper', ?_⟩
  have nothing : read? before (.map []) ≠ some (.list items) := by
    cases before <;> simp [read?, Fields.get?]
  cases held : Fields.get? name fields with
  | none =>
    rw [held] at found
    exact absurd found nothing
  | some node =>
    rw [held] at found
    rw [read?, held]
    cases node with
    | map inner => exact found
    | null => exact absurd found nothing
    | bool b => exact absurd found nothing
    | int n => exact absurd found nothing
    | float x => exact absurd found nothing
    | string s => exact absurd found nothing
    | list held => exact absurd found nothing

/-- A lookup does not see a write from which it parts, if the write meets no list. -/
theorem walk_write {names others : List String} (apart : ¬ Path.Overlap names others) (value : Value)
    {fields : Fields Value} (free : ¬ MeetsList names (.map fields)) :
    Path.walk others (.map (write names value fields)) = Path.walk others (.map fields) := by
  induction names generalizing others fields with
  | nil => exact absurd (.inl List.nil_prefix) apart
  | cons name rest ih =>
    cases others with
    | nil => exact absurd (.inr List.nil_prefix) apart
    | cons other turns =>
      rw [Path.walk_cons_map, Path.walk_cons_map, Path.fieldOrNull, Path.fieldOrNull]
      by_cases same : other = name
      · subst same
        have apart' := Path.not_overlap_cons apart
        cases rest with
        | nil => exact absurd (.inl List.nil_prefix) apart'
        | cons next more =>
          have noList : ∀ items, Fields.get? other fields ≠ some (.list items) := by
            intro items found
            refine free ⟨[other], items, ⟨next :: more, rfl⟩, by simp, ?_⟩
            simp [read?, found]
          have inside := ih apart' (fun meets => free (meetsList_of_fieldsOf meets))
          have made : write (other :: next :: more) value fields = Fields.put other
              (.map (write (next :: more) value (fieldsOf (Fields.get? other fields)))) fields := rfl
          rw [made, Fields.get?_put_self, Option.getD_some, inside]
          cases turns with
          | nil => exact absurd (.inr List.nil_prefix) apart'
          | cons turn onward => exact walk_fieldsOf noList turn onward
      · have kept : Fields.get? other (write (name :: rest) value fields) = Fields.get? other fields := by
          cases rest with
          | nil => exact Fields.get?_put_of_ne same _ fields
          | cons next more => exact Fields.get?_put_of_ne same _ fields
        rw [kept]

theorem resolve_insert {path : Path} {document : Document} {written : String}
    (apart : ¬ Path.Overlap path.segments (Path.segmentsOf written))
    (free : ¬ MeetsList (Path.segmentsOf written) document.toValue) (value : Value) :
    path.resolve (document.insert written value).toValue = path.resolve document.toValue := by
  have apart' : ¬ Path.Overlap (Path.segmentsOf written) path.segments := fun overlap => apart overlap.symm
  exact walk_write apart' value free

end Document

end Criteria
