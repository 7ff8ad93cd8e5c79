import Criteria.Proofs.Document.Reading

/-!
Writing over what was written. Writes whose paths part may change places, even if both make mappings of the same
scalar or list on their way; a write hides an earlier one at its own path or further on; and writing what stands at a
path already changes nothing. The last holds because the fields of every mapping are sorted, which all writes keep: a
mapping is then determined by what stands under each of its names.
-/
namespace Criteria

namespace Value

theorem wellFormed_of_get? {name : String} {value : Value} {fields : Fields Value}
    (wellFormed : (Value.map fields).WellFormed) (found : Fields.get? name fields = some value) : value.WellFormed := by
  rw [WellFormed, wellFormedFields_iff] at wellFormed
  exact wellFormed.2 _ (Fields.mem_of_get? found)

theorem wellFormed_put {value : Value} {fields : Fields Value} (wellFormed : (Value.map fields).WellFormed)
    (sorted : value.WellFormed) (name : String) : (Value.map (Fields.put name value fields)).WellFormed := by
  rw [WellFormed, wellFormedFields_iff] at wellFormed ⊢
  refine ⟨Fields.sorted_put wellFormed.1 name value, ?_⟩
  intro field member
  rcases Fields.eq_or_mem_of_mem_put member with rfl | before
  · exact sorted
  · exact wellFormed.2 field before

end Value

namespace Document

theorem eq_of_toValue {left right : Document} (same : left.toValue = right.toValue) : left = right := by
  cases left
  cases right
  exact congrArg mk (Value.map.inj same)

theorem wellFormed_fieldsOf {held : Option Value} (wellFormed : ∀ node ∈ held, node.WellFormed) :
    (Value.map (fieldsOf held)).WellFormed := by
  have nothing : (Value.map []).WellFormed := ⟨List.Pairwise.nil, trivial⟩
  cases held with
  | none => exact nothing
  | some node =>
    cases node with
    | map fields => exact wellFormed _ rfl
    | _ => exact nothing

theorem placed_cons (name : String) (rest : List String) (value : Value) (held : Option Value) :
    placed (name :: rest) value held =
      .map (Fields.put name (placed rest value (Fields.get? name (fieldsOf held))) (fieldsOf held)) :=
  congrArg Value.map (write_cons name rest value (fieldsOf held))

/-- What a write leaves is sorted if the value is and what stood in its place was. -/
theorem wellFormed_placed (names : List String) {value : Value} (sorted : value.WellFormed) {held : Option Value}
    (wellFormed : ∀ node ∈ held, node.WellFormed) : (placed names value held).WellFormed := by
  induction names generalizing held with
  | nil => exact sorted
  | cons name rest ih =>
    have fields := wellFormed_fieldsOf wellFormed
    rw [placed_cons]
    apply Value.wellFormed_put fields
    apply ih
    intro node found
    exact Value.wellFormed_of_get? fields found

/-- A document that writes of sorted values make of the empty one. -/
inductive Reachable : Document → Prop
  | empty : Reachable empty
  | insert {document : Document} (before : Reachable document) (path : String) {value : Value}
      (sorted : value.WellFormed) : Reachable (document.insert path value)

theorem Reachable.wellFormed {document : Document} (reachable : document.Reachable) :
    document.toValue.WellFormed := by
  induction reachable with
  | empty => exact ⟨List.Pairwise.nil, trivial⟩
  | @insert document before path value sorted ih =>
    rw [toValue_insert]
    apply wellFormed_placed _ sorted
    intro node same
    rwa [← Option.some.inj same]

/-- A write leaves nothing to see of an earlier one at its own names or further on. -/
theorem placed_placed_of_prefix {others names : List String} (start : others <+: names) (value another : Value)
    (held : Option Value) : placed others another (some (placed names value held)) = placed others another held := by
  induction others generalizing names held with
  | nil => rfl
  | cons other onward ih =>
    cases names with
    | nil => cases List.prefix_nil.1 start
    | cons name rest =>
      obtain ⟨rfl, behind⟩ := List.cons_prefix_cons.1 start
      simp only [placed_cons, fieldsOf]
      rw [Fields.get?_put_self, ih behind, Fields.put_put]

theorem placed_comm {names others : List String} (apart : ¬ Path.Overlap names others) (value another : Value)
    (held : Option Value) :
    placed others another (some (placed names value held)) =
      placed names value (some (placed others another held)) := by
  induction names generalizing others held with
  | nil => exact absurd (.inl List.nil_prefix) apart
  | cons name names ih =>
    cases others with
    | nil => exact absurd (.inr List.nil_prefix) apart
    | cons other onward =>
      simp only [placed_cons, fieldsOf]
      -- Paths that part at this name write different fields; else they part further on in one field.
      by_cases same : other = name
      · subst same
        rw [Fields.get?_put_self, Fields.get?_put_self, Fields.put_put, Fields.put_put,
          ih (Path.not_overlap_cons apart)]
      · rw [Fields.get?_put_of_ne same, Fields.get?_put_of_ne (Ne.symm same), Fields.put_comm same]

theorem placed_of_read? {names : List String} {node value : Value} (wellFormed : node.WellFormed)
    (found : read? names node = some value) : placed names value (some node) = node := by
  induction names generalizing node with
  | nil => exact (Option.some.inj found).symm
  | cons name rest ih =>
    cases node with
    | map fields =>
      rw [read?_cons_map, Option.bind_eq_some_iff] at found
      obtain ⟨next, held, onward⟩ := found
      have unchanged := ih (Value.wellFormed_of_get? wellFormed held) onward
      rw [placed_cons, fieldsOf, held, unchanged, Fields.put_of_get? wellFormed.1 held]
    | _ => cases found

/-- The algebra of writes. Two writes of which neither path begins with the other give the same document in either
order; a write at the path of an earlier one, or at a beginning of it, gives what it gives without the earlier one; and
a write of what its path leads to gives the document itself. -/
theorem insert_algebra {document : Document} (reachable : document.Reachable) (path other : String)
    (value another : Value) :
    (¬ Path.Overlap (Path.segmentsOf path) (Path.segmentsOf other) →
      (document.insert path value).insert other another = (document.insert other another).insert path value) ∧
    (Path.segmentsOf other <+: Path.segmentsOf path →
      (document.insert path value).insert other another = document.insert other another) ∧
    (document.get? path = some value → document.insert path value = document) := by
  refine ⟨?_, ?_, ?_⟩
  · intro apart
    apply eq_of_toValue
    simp only [toValue_insert]
    exact placed_comm apart value another _
  · intro start
    apply eq_of_toValue
    simp only [toValue_insert]
    exact placed_placed_of_prefix start value another _
  · intro found
    apply eq_of_toValue
    rw [toValue_insert]
    exact placed_of_read? reachable.wellFormed found

/-- Two writes that both make a mapping of the number under `peer`, and one that hides it. -/
theorem insert_algebra_flatPeer :
    flatPeer.Reachable ∧
      ¬ Path.Overlap (Path.segmentsOf "peer.tag") (Path.segmentsOf "peer.name.first") ∧
      (flatPeer.insert "peer.tag" (.bool true)).insert "peer.name.first" .null =
        (flatPeer.insert "peer.name.first" .null).insert "peer.tag" (.bool true) ∧
      Path.segmentsOf "peer" <+: Path.segmentsOf "peer.tag" ∧
      (flatPeer.insert "peer.tag" (.bool true)).insert "peer" .null = flatPeer.insert "peer" .null ∧
      flatPeer.get? "peer" = some (.int 5) ∧
      flatPeer.insert "peer" (.int 5) = flatPeer := by
  have five : (Value.int 5).WellFormed := trivial
  have ten : (Value.int 10).WellFormed := trivial
  have reachable : flatPeer.Reachable := (Reachable.empty.insert "peer" five).insert "limit" ten
  have tag : Path.segmentsOf "peer.tag" = ["peer", "tag"] := by decide +kernel
  have first : Path.segmentsOf "peer.name.first" = ["peer", "name", "first"] := by decide +kernel
  have peer : Path.segmentsOf "peer" = ["peer"] := by decide +kernel
  have apart : ¬ Path.Overlap (Path.segmentsOf "peer.tag") (Path.segmentsOf "peer.name.first") := by
    simp [Path.Overlap, tag, first]
  have start : Path.segmentsOf "peer" <+: Path.segmentsOf "peer.tag" := by simp [tag, peer]
  have found : flatPeer.get? "peer" = some (.int 5) := by rfl
  exact ⟨reachable, apart, (insert_algebra reachable "peer.tag" "peer.name.first" (.bool true) .null).1 apart, start,
    (insert_algebra reachable "peer.tag" "peer" (.bool true) .null).2.1 start, found,
    (insert_algebra reachable "peer" "peer" (.int 5) .null).2.2 found⟩

end Document

end Criteria
