import Criteria.Proofs.Document.Writing

/-!
Reading what was written. A write leaves its value under the names of its path, and at every proper beginning of them
a mapping with the entries that it held before, none if it was no mapping. A lookup that turns off somewhere else finds
what it found before: into a mapping that was just made it finds nothing, as it did in the scalar, the list or the gap
that stood there.
-/
namespace Criteria

def Fields.without {α : Type} (name : String) (fields : Fields α) : Fields α :=
  fields.filter fun field => field.1 ≠ name

theorem Fields.without_put {α : Type} (name : String) (value : α) (fields : Fields α) :
    without name (put name value fields) = without name fields := by
  induction fields with
  | nil => simp [put, without]
  | cons field rest ih =>
    obtain ⟨key, held⟩ := field
    unfold put
    split
    · rename_i same
      simp [without, same]
    · split
      · simp [without]
      · rename_i different _
        simp only [without, List.filter_cons] at ih ⊢
        rw [ih]

theorem Path.segmentsOf_ne_nil (text : String) : segmentsOf text ≠ [] := by
  rw [segmentsOf, ne_eq, List.map_eq_nil_iff]
  exact Text.splitDots_ne_nil text.toList

namespace Document

/-- What a write leaves in the place of what stood at the beginning of its names: the value itself where no name is
left, or else a mapping. -/
def placed : List String → Value → Option Value → Value
  | [], value, _ => value
  | name :: rest, value, held => .map (write (name :: rest) value (fieldsOf held))

theorem write_cons (name : String) (rest : List String) (value : Value) (fields : Fields Value) :
    write (name :: rest) value fields = Fields.put name (placed rest value (Fields.get? name fields)) fields := by
  cases rest <;> rfl

theorem toValue_insert (document : Document) (path : String) (value : Value) :
    (document.insert path value).toValue = placed (Path.segmentsOf path) value (some document.toValue) := by
  rw [insert, toValue]
  cases names : Path.segmentsOf path with
  | nil => exact absurd names (Path.segmentsOf_ne_nil path)
  | cons name rest => rfl

theorem read?_cons_map (name : String) (rest : List String) (fields : Fields Value) :
    read? (name :: rest) (.map fields) = (Fields.get? name fields).bind (read? rest) := by
  rw [read?]
  cases Fields.get? name fields <;> rfl

theorem bind_get?_fieldsOf (name : String) (rest : List String) (held : Option Value) :
    (Fields.get? name (fieldsOf held)).bind (read? rest) = held.bind (read? (name :: rest)) := by
  cases held with
  | none => rfl
  | some node =>
    cases node with
    | map fields => exact (read?_cons_map name rest fields).symm
    | _ => rfl

theorem read?_placed_cons (name : String) (names onward : List String) (value : Value) (held : Option Value) :
    read? (name :: onward) (placed (name :: names) value held) =
      read? onward (placed names value (Fields.get? name (fieldsOf held))) := by
  rw [placed, read?_cons_map, write_cons, Fields.get?_put_self, Option.bind_some]

theorem read?_placed_cons_of_ne {name other : String} (different : other ≠ name) (names onward : List String)
    (value : Value) (held : Option Value) :
    read? (other :: onward) (placed (name :: names) value held) = held.bind (read? (other :: onward)) := by
  rw [placed, read?_cons_map, write_cons, Fields.get?_put_of_ne different, bind_get?_fieldsOf]

theorem read?_placed_append (names rest : List String) (value : Value) (held : Option Value) :
    read? (names ++ rest) (placed names value held) = read? rest value := by
  induction names generalizing held with
  | nil => rfl
  | cons name names ih => rw [List.cons_append, read?_placed_cons, ih]

/-- At a proper beginning of the names of a write a mapping stands, with the other entries that stood there. -/
theorem exists_read?_placed (before : List String) (next : String) (rest : List String) (value : Value)
    (held : Option Value) :
    ∃ fields : Fields Value, read? before (placed (before ++ next :: rest) value held) = some (.map fields) ∧
      Fields.has next fields = true ∧
      Fields.without next fields = Fields.without next (fieldsOf (held.bind (read? before))) := by
  induction before generalizing held with
  | nil =>
    have whole : held.bind (read? []) = held := by cases held <;> rfl
    rw [whole]
    refine ⟨write (next :: rest) value (fieldsOf held), rfl, ?_, ?_⟩
    · rw [write_cons, Fields.has, Fields.get?_put_self, Option.isSome_some]
    · rw [write_cons, Fields.without_put]
  | cons name before ih =>
    rw [List.cons_append, read?_placed_cons, ← bind_get?_fieldsOf]
    exact ih (Fields.get? name (fieldsOf held))

theorem read?_placed_of_apart {names others : List String} (apart : ¬ Path.Overlap names others) (value : Value)
    (held : Option Value) : read? others (placed names value held) = held.bind (read? others) := by
  induction names generalizing others held with
  | nil => exact absurd (.inl List.nil_prefix) apart
  | cons name names ih =>
    cases others with
    | nil => exact absurd (.inr List.nil_prefix) apart
    | cons other onward =>
      by_cases same : other = name
      · subst same
        rw [read?_placed_cons, ih (Path.not_overlap_cons apart), bind_get?_fieldsOf]
      · exact read?_placed_cons_of_ne same names onward value held

/-- After a write its path leads to the written value, and a path that goes on from there to what the rest of its
names find in that value. A path that ends on the way leads to a mapping with the entries that stood there before
beside the one on the way, none if no mapping stood there. Every other path leads where it led before. -/
theorem get?_insert (document : Document) (path : String) (value : Value) :
    (document.insert path value).get? path = some value ∧
    (∀ other rest, Path.segmentsOf other = Path.segmentsOf path ++ rest →
      (document.insert path value).get? other = read? rest value) ∧
    (∀ other next rest, Path.segmentsOf path = Path.segmentsOf other ++ next :: rest →
      ∃ fields : Fields Value, (document.insert path value).get? other = some (.map fields) ∧
        Fields.has next fields = true ∧
        Fields.without next fields = Fields.without next (fieldsOf (document.get? other))) ∧
    ∀ other, ¬ Path.Overlap (Path.segmentsOf path) (Path.segmentsOf other) →
      (document.insert path value).get? other = document.get? other := by
  have onward (rest : List String) :
      read? (Path.segmentsOf path ++ rest) (document.insert path value).toValue = read? rest value := by
    rw [toValue_insert]
    exact read?_placed_append _ rest value _
  refine ⟨?_, ?_, ?_, ?_⟩
  · have found := onward []
    rw [List.append_nil] at found
    exact found
  · intro other rest behind
    rw [get?, behind]
    exact onward rest
  · intro other next rest ahead
    rw [get?, get?, toValue_insert, ahead]
    exact exists_read?_placed (Path.segmentsOf other) next rest value (some document.toValue)
  · intro other apart
    rw [get?, get?, toValue_insert]
    exact read?_placed_of_apart apart value (some document.toValue)

def flatPeer : Document := (empty.set "peer" (5 : Int64)).set "limit" (10 : Int64)

theorem get?_insert_flatPeer :
    Path.segmentsOf "peer.tag.first" = Path.segmentsOf "peer.tag" ++ ["first"] ∧
      Path.segmentsOf "peer.tag" = Path.segmentsOf "peer" ++ "tag" :: [] ∧
      ¬ Path.Overlap (Path.segmentsOf "peer.tag") (Path.segmentsOf "limit") ∧
      (flatPeer.insert "peer.tag" (.bool true)).get? "peer.tag" = some (.bool true) ∧
      (flatPeer.insert "peer.tag" (.bool true)).get? "peer.tag.first" = none ∧
      (∃ fields : Fields Value, (flatPeer.insert "peer.tag" (.bool true)).get? "peer" = some (.map fields) ∧
        Fields.has "tag" fields = true ∧ Fields.without "tag" fields = []) ∧
      (flatPeer.insert "peer.tag" (.bool true)).get? "limit" = some (.int 10) := by
  have tag : Path.segmentsOf "peer.tag" = ["peer", "tag"] := by decide +kernel
  have first : Path.segmentsOf "peer.tag.first" = ["peer", "tag", "first"] := by decide +kernel
  have peer : Path.segmentsOf "peer" = ["peer"] := by decide +kernel
  have limit : Path.segmentsOf "limit" = ["limit"] := by decide +kernel
  have behind : Path.segmentsOf "peer.tag.first" = Path.segmentsOf "peer.tag" ++ ["first"] := by rw [first, tag]; rfl
  have ahead : Path.segmentsOf "peer.tag" = Path.segmentsOf "peer" ++ "tag" :: [] := by rw [tag, peer]; rfl
  have apart : ¬ Path.Overlap (Path.segmentsOf "peer.tag") (Path.segmentsOf "limit") := by
    simp [Path.Overlap, tag, limit]
  have before : flatPeer.get? "peer" = some (.int 5) := by rfl
  have kept : flatPeer.get? "limit" = some (.int 10) := by rfl
  obtain ⟨written, onward, passed, elsewhere⟩ := get?_insert flatPeer "peer.tag" (.bool true)
  have mapping := passed _ _ _ ahead
  rw [before] at mapping
  exact ⟨behind, ahead, apart, written, onward _ _ behind, mapping, (elsewhere _ apart).trans kept⟩

end Document

end Criteria
