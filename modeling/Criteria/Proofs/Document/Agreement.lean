import Criteria.Proofs.Document.Writing

/-!
The two ways of looking a path up in a document. A lookup of the document ends where no mapping stands; resolution goes
on with null there, and into the elements of a list. So both agree where no list stands on the way: what the one finds
the other leads to, and where the one finds nothing the other leads to null. Behind a list the one finds nothing, and
the other goes on in it.
-/
namespace Criteria

namespace Document

theorem read?_append (names others : List String) (node : Value) :
    read? (names ++ others) node = (read? names node).bind (read? others) := by
  induction names generalizing node with
  | nil => rfl
  | cons name rest ih =>
    cases node with
    | map fields =>
      rw [List.cons_append, read?, read?]
      cases Fields.get? name fields with
      | none => rfl
      | some next => exact ih next
    | _ => rfl

/-- A list stands in the way of the names exactly if they go on behind some that find one. -/
theorem meetsList_iff (names : List String) (node : Value) :
    MeetsList names node ↔
      ∃ before name rest items, names = before ++ name :: rest ∧ read? before node = some (.list items) := by
  constructor
  · rintro ⟨before, items, ⟨behind, rfl⟩, proper, found⟩
    cases behind with
    | nil => exact absurd (List.append_nil before).symm proper
    | cons name rest => exact ⟨before, name, rest, items, rfl, found⟩
  · rintro ⟨before, name, rest, items, rfl, found⟩
    exact ⟨before, items, List.prefix_append before _, by simp, found⟩

theorem read?_of_meetsList {names : List String} {node : Value} (meets : MeetsList names node) :
    read? names node = none := by
  obtain ⟨before, name, rest, items, rfl, found⟩ := (meetsList_iff names node).1 meets
  rw [read?_append, found]
  rfl

theorem meetsList_of_get? {name : String} {rest : List String} {fields : Fields Value} {next : Value}
    (held : Fields.get? name fields = some next) (meets : MeetsList rest next) :
    MeetsList (name :: rest) (.map fields) := by
  rw [meetsList_iff] at meets ⊢
  obtain ⟨before, turn, onward, items, rfl, found⟩ := meets
  refine ⟨name :: before, turn, onward, items, rfl, ?_⟩
  rw [read?, held]
  exact found

end Document

namespace Path

open Document

/-- Where no list stands in the way a walk finds what a lookup of the document finds, and null where that finds
nothing. -/
theorem walk_of_not_meetsList {names : List String} {node : Value} (free : ¬ MeetsList names node) :
    walk names node = (read? names node).getD .null := by
  induction names generalizing node with
  | nil => rfl
  | cons name rest ih =>
    cases node with
    | map fields =>
      rw [walk_cons_map, fieldOrNull, read?]
      cases held : Fields.get? name fields with
      | none => exact walk_null rest
      | some next => exact ih (fun meets => free (meetsList_of_get? held meets))
    | list items => exact absurd ((meetsList_iff _ _).2 ⟨[], name, rest, items, rfl, rfl⟩) free
    | _ => rfl

theorem walk_of_read? {names : List String} {node value : Value} (found : read? names node = some value) :
    walk names node = value := by
  have free : ¬ MeetsList names node := by
    intro meets
    rw [read?_of_meetsList meets] at found
    cases found
  rw [walk_of_not_meetsList free, found, Option.getD_some]

end Path

namespace Document

/-- A path leads in a document to what the lookup of the document finds. If that finds nothing, the path leads to null,
unless a list stands at a proper beginning of its names; then the lookup finds nothing, and the path leads where the
rest of its names lead in the list. -/
theorem resolve_agrees_with_get? (path : Path) (document : Document) :
    (∀ value, document.get? path.text = some value → path.resolve document.toValue = value) ∧
    (document.get? path.text = none → ¬ MeetsList path.segments document.toValue →
      path.resolve document.toValue = .null) ∧
    ∀ before name rest items, path.segments = before ++ name :: rest →
      read? before document.toValue = some (.list items) →
      document.get? path.text = none ∧ path.resolve document.toValue = Path.walk (name :: rest) (.list items) := by
  refine ⟨?_, ?_, ?_⟩
  · intro value found
    exact Path.walk_of_read? found
  · intro nothing free
    have agreed := Path.walk_of_not_meetsList free
    rw [get?] at nothing
    rwa [Path.segments, nothing] at agreed
  · intro before name rest items split found
    have meets : MeetsList path.segments document.toValue :=
      (meetsList_iff _ _).2 ⟨before, name, rest, items, split, found⟩
    refine ⟨read?_of_meetsList meets, ?_⟩
    rw [Path.resolve, split, Path.walk_append, Path.walk_of_read? found]

def tagged : Document := (empty.set "peer.limit" (10 : Int64)).set "peer.tags" [Value.map [("name", .string "ix")]]

theorem resolve_agrees_with_get?_tagged :
    tagged.get? "peer.limit" = some (.int 10) ∧
      Path.resolve ⟨"peer.limit", by decide⟩ tagged.toValue = .int 10 ∧
      tagged.get? "peer.limit.most" = none ∧
      ¬ MeetsList (Path.segmentsOf "peer.limit.most") tagged.toValue ∧
      Path.resolve ⟨"peer.limit.most", by decide⟩ tagged.toValue = .null ∧
      Path.segmentsOf "peer.tags.name" = ["peer", "tags"] ++ "name" :: [] ∧
      read? ["peer", "tags"] tagged.toValue = some (.list [.map [("name", .string "ix")]]) ∧
      tagged.get? "peer.tags.name" = none ∧
      Path.resolve ⟨"peer.tags.name", by decide⟩ tagged.toValue = .list [.string "ix"] := by
  have limit : tagged.get? "peer.limit" = some (.int 10) := by rfl
  have nothing : tagged.get? "peer.limit.most" = none := by rfl
  have most : Path.segmentsOf "peer.limit.most" = ["peer", "limit", "most"] := by decide +kernel
  have free : ¬ MeetsList (Path.segmentsOf "peer.limit.most") tagged.toValue := by
    rw [most]
    rintro ⟨before, items, start, proper, found⟩
    simp only [List.prefix_cons_iff, List.prefix_nil] at start
    rcases start with rfl | ⟨_, rfl, rfl | ⟨_, rfl, rfl | ⟨_, rfl, rfl⟩⟩⟩
    · cases found
    · cases found
    · cases found
    · exact proper rfl
  have names : Path.segmentsOf "peer.tags.name" = ["peer", "tags"] ++ "name" :: [] := by decide +kernel
  have tags : read? ["peer", "tags"] tagged.toValue = some (.list [.map [("name", .string "ix")]]) := by rfl
  obtain ⟨hidden, inside⟩ :=
    (resolve_agrees_with_get? ⟨"peer.tags.name", by decide⟩ tagged).2.2 _ _ _ _ names tags
  exact ⟨limit, (resolve_agrees_with_get? ⟨"peer.limit", by decide⟩ tagged).1 _ limit, nothing, free,
    (resolve_agrees_with_get? ⟨"peer.limit.most", by decide⟩ tagged).2.1 nothing free, names, tags, hidden, inside⟩

end Document

end Criteria
