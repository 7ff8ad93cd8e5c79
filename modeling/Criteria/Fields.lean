/-!
Named fields in the order of their names. Names are compared by code point, an insertion keeps the
order, and a name occurs at most once, so equal mappings have equal representations.

The nodes of nested data hold lists of nodes and of fields, and functions on nodes go through these lists
one element at a time. What such a function comes to is stated first.
-/
namespace Criteria

section Elementwise

variable {α β : Type}

theorem eq_map_of_cons {change : α → β} {changes : List α → List β} (nil : changes [] = [])
    (cons : ∀ first rest, changes (first :: rest) = change first :: changes rest) (items : List α) :
    changes items = items.map change := by
  induction items with
  | nil => exact nil
  | cons first rest ih => rw [cons, ih, List.map_cons]

theorem eq_flatMap_of_cons {parts : α → List β} {allParts : List α → List β} (nil : allParts [] = [])
    (cons : ∀ first rest, allParts (first :: rest) = parts first ++ allParts rest) (items : List α) :
    allParts items = items.flatMap parts := by
  induction items with
  | nil => exact nil
  | cons first rest ih => rw [cons, ih, List.flatMap_cons]

theorem iff_forall_of_cons {holds : α → Prop} {allHold : List α → Prop} (nil : allHold [])
    (cons : ∀ first rest, allHold (first :: rest) ↔ holds first ∧ allHold rest) (items : List α) :
    allHold items ↔ ∀ item ∈ items, holds item := by
  induction items with
  | nil => exact iff_of_true nil (List.forall_mem_nil holds)
  | cons first rest ih => rw [cons, ih, List.forall_mem_cons]

end Elementwise

abbrev Fields (α : Type) := List (String × α)

namespace Fields

variable {α : Type}

def get? (name : String) : Fields α → Option α
  | [] => none
  | (key, value) :: rest => if key = name then some value else get? name rest

def put (name : String) (value : α) : Fields α → Fields α
  | [] => [(name, value)]
  | (key, held) :: rest =>
    if name = key then (name, value) :: rest
    else if name < key then (name, value) :: (key, held) :: rest
    else (key, held) :: put name value rest

/-- Fields from entries in any order, where a later entry replaces an earlier one of its name. -/
def ofEntries (entries : List (String × α)) : Fields α :=
  entries.foldl (fun fields entry => put entry.1 entry.2 fields) []

def has (name : String) (fields : Fields α) : Bool := (get? name fields).isSome

def Sorted (fields : Fields α) : Prop := fields.Pairwise fun left right => left.1 < right.1

theorem get?_put_self (name : String) (value : α) (fields : Fields α) :
    get? name (put name value fields) = some value := by
  induction fields with
  | nil => simp [put, get?]
  | cons entry rest ih =>
    obtain ⟨key, held⟩ := entry
    by_cases same : name = key
    · simp [put, get?, same]
    · by_cases before : name < key
      · simp [put, get?, same, before]
      · simp [put, get?, same, before, Ne.symm same, ih]

theorem get?_put_of_ne {name other : String} (different : other ≠ name) (value : α)
    (fields : Fields α) : get? other (put name value fields) = get? other fields := by
  induction fields with
  | nil => simp [put, get?, Ne.symm different]
  | cons entry rest ih =>
    obtain ⟨key, held⟩ := entry
    by_cases same : name = key
    · subst same
      simp [put, get?, Ne.symm different]
    · by_cases before : name < key
      · simp [put, get?, same, before, Ne.symm different]
      · simp [put, get?, same, before, ih]

theorem eq_or_mem_of_mem_put {name : String} {value : α} {fields : Fields α} {entry : String × α}
    (member : entry ∈ put name value fields) : entry = (name, value) ∨ entry ∈ fields := by
  induction fields with
  | nil => simpa [put] using member
  | cons first rest ih =>
    obtain ⟨key, held⟩ := first
    unfold put at member
    split at member
    · rcases List.mem_cons.1 member with same | later
      · exact .inl same
      · exact .inr (List.mem_cons_of_mem _ later)
    · split at member
      · rcases List.mem_cons.1 member with same | later
        · exact .inl same
        · exact .inr later
      · rcases List.mem_cons.1 member with same | later
        · exact .inr (same ▸ List.mem_cons_self)
        · exact (ih later).imp id (List.mem_cons_of_mem _)

theorem sorted_put {fields : Fields α} (sorted : Sorted fields) (name : String) (value : α) :
    Sorted (put name value fields) := by
  induction fields with
  | nil => simp [put, Sorted]
  | cons first rest ih =>
    obtain ⟨key, held⟩ := first
    obtain ⟨below, tail⟩ := List.pairwise_cons.1 sorted
    unfold put
    split
    · rename_i same
      exact List.pairwise_cons.2 ⟨fun entry member => same ▸ below entry member, tail⟩
    · rename_i different
      split
      · rename_i before
        refine List.pairwise_cons.2 ⟨fun entry member => ?_, sorted⟩
        rcases List.mem_cons.1 member with same | later
        · exact same ▸ before
        · exact String.lt_trans before (below entry later)
      · rename_i notBefore
        refine List.pairwise_cons.2 ⟨fun entry member => ?_, ih tail⟩
        rcases eq_or_mem_of_mem_put member with same | later
        · subst same
          exact Std.lt_of_le_of_ne (String.not_lt.1 notBefore) (Ne.symm different)
        · exact below entry later

theorem put_eq_append {name : String} {fields : Fields α} (behind : ∀ entry ∈ fields, entry.1 < name)
    (value : α) : put name value fields = fields ++ [(name, value)] := by
  induction fields with
  | nil => rfl
  | cons first rest ih =>
    obtain ⟨key, held⟩ := first
    have before : key < name := behind _ List.mem_cons_self
    have different : name ≠ key := Ne.symm (String.ne_of_lt before)
    rw [put, if_neg different, if_neg (String.lt_asymm before),
      ih (fun entry member => behind entry (List.mem_cons_of_mem _ member)), List.cons_append]

theorem ofEntries_eq_self {fields : Fields α} (sorted : Sorted fields) : ofEntries fields = fields := by
  suffices all : ∀ done : Fields α, Sorted (done ++ fields) →
      fields.foldl (fun fields entry => put entry.1 entry.2 fields) done = done ++ fields from
    all [] sorted
  clear sorted
  induction fields with
  | nil => exact fun done _ => (List.append_nil done).symm
  | cons entry rest ih =>
    intro done sorted
    have behind : ∀ earlier ∈ done, earlier.1 < entry.1 :=
      fun earlier member => (List.pairwise_append.1 sorted).2.2 earlier member entry List.mem_cons_self
    rw [List.append_cons] at sorted
    rw [List.foldl_cons, put_eq_append behind, ih _ sorted, List.append_assoc, List.singleton_append]

theorem mem_of_get? {name : String} {value : α} {fields : Fields α} (found : get? name fields = some value) :
    (name, value) ∈ fields := by
  induction fields with
  | nil => simp [get?] at found
  | cons entry rest ih =>
    obtain ⟨key, held⟩ := entry
    by_cases same : key = name
    · rw [get?, if_pos same] at found
      rw [same, Option.some.inj found]
      exact List.mem_cons_self
    · rw [get?, if_neg same] at found
      exact List.mem_cons_of_mem _ (ih found)

theorem get?_eq_none {name : String} {fields : Fields α} (absent : ∀ entry ∈ fields, entry.1 ≠ name) :
    get? name fields = none := by
  cases found : get? name fields with
  | none => rfl
  | some value => exact absurd rfl (absent _ (mem_of_get? found))

theorem get?_of_mem {name : String} {value : α} {fields : Fields α} (sorted : Sorted fields)
    (member : (name, value) ∈ fields) : get? name fields = some value := by
  induction fields with
  | nil => simp at member
  | cons entry rest ih =>
    obtain ⟨key, held⟩ := entry
    obtain ⟨below, tail⟩ := List.pairwise_cons.1 sorted
    rcases List.mem_cons.1 member with same | later
    · cases same
      simp [get?]
    · have different : key ≠ name := String.ne_of_lt (below _ later)
      rw [get?, if_neg different]
      exact ih tail later

theorem nodup_of_sorted {fields : Fields α} (sorted : Sorted fields) : fields.Nodup := by
  refine List.Pairwise.imp ?_ sorted
  intro left right before same
  rw [same] at before
  exact String.lt_irrefl _ before

/-- Sorted fields are determined by what stands under each name. -/
theorem eq_of_get? {left right : Fields α} (leftSorted : Sorted left) (rightSorted : Sorted right)
    (same : ∀ name, get? name left = get? name right) : left = right := by
  have members : ∀ entry, entry ∈ left ↔ entry ∈ right := by
    intro entry
    constructor
    · exact fun member => mem_of_get? (same entry.1 ▸ get?_of_mem leftSorted member)
    · exact fun member => mem_of_get? (same entry.1 ▸ get?_of_mem rightSorted member)
  have permuted : left.Perm right :=
    (List.perm_ext_iff_of_nodup (nodup_of_sorted leftSorted) (nodup_of_sorted rightSorted)).2 members
  refine permuted.eq_of_pairwise ?_ leftSorted rightSorted
  exact fun first second _ _ before after => absurd after (String.lt_asymm before)

theorem put_put (name : String) (first second : α) (fields : Fields α) :
    put name second (put name first fields) = put name second fields := by
  induction fields with
  | nil => simp [put]
  | cons entry rest ih =>
    obtain ⟨key, held⟩ := entry
    by_cases same : name = key
    · simp [put, same]
    · by_cases before : name < key
      · simp [put, same, before]
      · simp [put, same, before, ih]

theorem put_comm_of_lt {name other : String} (before : name < other) (value another : α) (fields : Fields α) :
    put name value (put other another fields) = put other another (put name value fields) := by
  have different : other ≠ name := Ne.symm (String.ne_of_lt before)
  have notBefore : ¬ other < name := String.lt_asymm before
  induction fields with
  | nil => simp [put, before, different, notBefore, Ne.symm different]
  | cons entry rest ih =>
    obtain ⟨key, held⟩ := entry
    by_cases same : name = key
    · subst same
      simp [put, different, notBefore]
    · by_cases first : name < key
      · -- Wherever the second name goes, the first comes before it and before the key.
        by_cases onKey : other = key
        · simp [put, same, first, onKey, Ne.symm same, String.lt_asymm first]
        · by_cases between : other < key
          · simp [put, same, first, onKey, between, before, different, notBefore, Ne.symm different]
          · simp [put, same, first, onKey, between, different, notBefore]
      · have behind : key < name := Std.lt_of_le_of_ne (String.not_lt.1 first) (Ne.symm same)
        have further : key < other := String.lt_trans behind before
        simp [put, same, first, Ne.symm (String.ne_of_lt further), String.lt_asymm further, ih]

theorem put_comm {name other : String} (different : name ≠ other) (value another : α) (fields : Fields α) :
    put name value (put other another fields) = put other another (put name value fields) := by
  by_cases before : name < other
  · exact put_comm_of_lt before value another fields
  · have behind : other < name := Std.lt_of_le_of_ne (String.not_lt.1 before) (Ne.symm different)
    exact (put_comm_of_lt behind another value fields).symm

theorem put_of_get? {name : String} {value : α} {fields : Fields α} (sorted : Sorted fields)
    (found : get? name fields = some value) : put name value fields = fields := by
  apply eq_of_get? (sorted_put sorted name value) sorted
  intro other
  by_cases same : other = name
  · rw [same, get?_put_self, found]
  · rw [get?_put_of_ne same]

end Fields

end Criteria
