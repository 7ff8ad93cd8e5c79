import Criteria.Proofs.Json.Scalars
import Criteria.Proofs.Value.Interchange

/-!
Trees read back. The compact text of a tree whose numbers are integers is read as the same tree if the
reader is given as many levels as the tree has, and refused if it is given fewer. A part is read back from
its text with anything behind it that may stand behind it inside a list or an object; the parts of a list
are then read one after another.
-/
namespace Criteria.Json

mutual

def Whole : Json → Prop
  | .number (.float _ _) => False
  | .array items => WholeItems items
  | .object fields => WholeFields fields
  | _ => True

def WholeItems : List Json → Prop
  | [] => True
  | item :: rest => Whole item ∧ WholeItems rest

def WholeFields : Fields Json → Prop
  | [] => True
  | (_, value) :: rest => Whole value ∧ WholeFields rest

end

@[simp] theorem whole_array (items : List Json) : Whole (.array items) ↔ ∀ item ∈ items, item.Whole := by
  rw [Whole]
  exact iff_forall_of_cons trivial (fun _ _ => Iff.rfl) items

@[simp] theorem whole_object (fields : Fields Json) :
    Whole (.object fields) ↔ ∀ field ∈ fields, field.2.Whole := by
  rw [Whole]
  exact iff_forall_of_cons trivial (fun _ _ => Iff.rfl) fields

section Starts

def StartsNumber (c : Char) : Prop := c = '-' ∨ c.isDigit = true

def StartsTree (c : Char) : Prop :=
  c = '[' ∨ c = '\x7b' ∨ c = '"' ∨ c = 'n' ∨ c = 't' ∨ c = 'f' ∨ StartsNumber c

theorem StartsNumber.ne {c : Char} (starts : StartsNumber c) (other : Char) (neither : other ≠ '-')
    (bare : other.isDigit = false) : c ≠ other := by
  intro same
  subst same
  obtain minus | digit := starts
  · exact neither minus
  · rw [bare] at digit
    cases digit

theorem StartsTree.isBlank {c : Char} (starts : StartsTree c) : Reader.isBlank c = false := by
  obtain rfl | rfl | rfl | rfl | rfl | rfl | number := starts
  iterate 6 decide
  have blank := number.ne ' ' (by decide) (by decide)
  have tab := number.ne '\t' (by decide) (by decide)
  have line := number.ne '\n' (by decide) (by decide)
  have feed := number.ne '\r' (by decide) (by decide)
  simp [Reader.isBlank, blank, tab, line, feed]

theorem StartsTree.ne_bracket {c : Char} (starts : StartsTree c) : c ≠ ']' := by
  obtain rfl | rfl | rfl | rfl | rfl | rfl | number := starts
  iterate 6 decide
  exact number.ne ']' (by decide) (by decide)

theorem print_int_eq_cons (n : Int) (inRange : -2 ^ 63 ≤ n ∧ n < 2 ^ 64) :
    ∃ c others, (Number.int n inRange).print = c :: others ∧ StartsNumber c := by
  rw [Number.print]
  split
  · exact ⟨_, _, rfl, .inl rfl⟩
  · cases written : Nat.toDigits 10 n.natAbs with
    | nil => exact absurd written Nat.toDigits_ne_nil
    | cons c others =>
      have digit := isDigit_toDigits n.natAbs c (by rw [written]; exact List.mem_cons_self)
      exact ⟨c, others, rfl, .inr digit⟩

theorem print_eq_cons {json : Json} (whole : json.Whole) :
    ∃ c others, json.print = c :: others ∧ StartsTree c := by
  cases json with
  | null => exact ⟨_, _, rfl, by simp [StartsTree]⟩
  | bool b => cases b <;> exact ⟨_, _, rfl, by simp [StartsTree]⟩
  | string s => exact ⟨_, _, rfl, by simp [StartsTree]⟩
  | array items => exact ⟨_, _, rfl, by simp [StartsTree]⟩
  | object fields => exact ⟨_, _, rfl, by simp [StartsTree]⟩
  | number n =>
    cases n with
    | float x finite => cases whole
    | int n inRange =>
      obtain ⟨c, others, written, starts⟩ := print_int_eq_cons n inRange
      exact ⟨c, others, written, by simp [StartsTree, starts]⟩

end Starts

section Scalars

variable {rest : List Char}

/-- A tree that starts neither a list nor an object spends no level. -/
theorem tree?_eq_scalar? {c : Char} (starts : StartsTree c) (noList : c ≠ '[') (noObject : c ≠ '\x7b')
    (levels : Nat) (text : List Char) : Reader.tree? levels (c :: text) = Reader.scalar? (c :: text) := by
  unfold Reader.tree?
  rw [skipBlanks_cons starts.isBlank]
  split
  · rename_i same
    exact absurd (List.cons.inj same).1 noList
  · rename_i same
    exact absurd (List.cons.inj same).1 noObject
  · rfl

theorem scalar?_eq_number? {c : Char} (starts : StartsNumber c) (text : List Char) :
    Reader.scalar? (c :: text) = (Reader.number? (c :: text)).map fun read => (.number read.1, read.2) := by
  unfold Reader.scalar?
  split
  iterate 4
    · rename_i same
      exact absurd (List.cons.inj same).1 (starts.ne _ (by decide) (by decide))
  · rfl

theorem tree?_null (levels : Nat) (rest : List Char) :
    Reader.tree? levels (print .null ++ rest) = some (.null, rest) := by
  rw [print, List.cons_append, tree?_eq_scalar? (by simp [StartsTree]) (by decide) (by decide)]
  rfl

theorem tree?_bool (b : Bool) (levels : Nat) (rest : List Char) :
    Reader.tree? levels (print (.bool b) ++ rest) = some (.bool b, rest) := by
  cases b
  · rw [print, List.cons_append, tree?_eq_scalar? (by simp [StartsTree]) (by decide) (by decide)]
    rfl
  · rw [print, List.cons_append, tree?_eq_scalar? (by simp [StartsTree]) (by decide) (by decide)]
    rfl

theorem tree?_string (s : String) (levels : Nat) (rest : List Char) :
    Reader.tree? levels (print (.string s) ++ rest) = some (.string s, rest) := by
  rw [print, quoted_append, tree?_eq_scalar? (by simp [StartsTree]) (by decide) (by decide), Reader.scalar?,
    string?_quoted, Option.map_some]

theorem tree?_int (n : Int) (inRange : -2 ^ 63 ≤ n ∧ n < 2 ^ 64) (levels : Nat) (delimited : Delimited rest) :
    Reader.tree? levels (print (.number (.int n inRange)) ++ rest) = some (.number (.int n inRange), rest) := by
  obtain ⟨c, others, written, starts⟩ := print_int_eq_cons n inRange
  have read := number?_print_int n inRange delimited
  have noList := starts.ne '[' (by decide) (by decide)
  have noObject := starts.ne '\x7b' (by decide) (by decide)
  have tree : StartsTree c := by simp [StartsTree, starts]
  rw [written, List.cons_append] at read
  rw [print, written, List.cons_append, tree?_eq_scalar? tree noList noObject, scalar?_eq_number? starts, read,
    Option.map_some]

end Scalars

def Rereads (levels : Nat) (json : Json) : Prop :=
  ∀ rest, Delimited rest →
    Reader.tree? levels (json.print ++ rest) = if json.depth ≤ levels then some (json, rest) else none

section Lists

theorem printItems_cons_cons (first second : Json) (rest : List Json) :
    printItems (first :: second :: rest) = print first ++ ',' :: printItems (second :: rest) := by
  rw [printItems]
  exact List.cons_ne_nil second rest

theorem length_le_printItems {items : List Json} (whole : ∀ item ∈ items, item.Whole) :
    items.length ≤ (printItems items).length := by
  induction items with
  | nil => exact Nat.zero_le _
  | cons item others ih =>
    obtain ⟨c, text, written, -⟩ := print_eq_cons (whole item List.mem_cons_self)
    have later := ih (fun item member => whole item (List.mem_cons_of_mem _ member))
    cases others with
    | nil => simp [printItems, written]
    | cons second others =>
      simp only [printItems, written, List.length_append, List.length_cons] at later ⊢
      omega

section Step

variable {item? : List Char → Option (Json × List Char)} {text rest : List Char} {first : Json}

theorem items?_of_comma (read : item? text = some (first, ',' :: rest)) (fuel : Nat) :
    Reader.items? item? (fuel + 1) text =
      (Reader.items? item? fuel rest).map fun others => (first :: others.1, others.2) := by
  rw [Reader.items?, read]
  simp only [Option.bind_eq_bind, Option.bind_some, skipBlanks_cons (c := ',') (by decide)]
  cases Reader.items? item? fuel rest <;> rfl

theorem items?_of_bracket (read : item? text = some (first, ']' :: rest)) (fuel : Nat) :
    Reader.items? item? (fuel + 1) text = some ([first], rest) := by
  rw [Reader.items?, read]
  simp only [Option.bind_eq_bind, Option.bind_some, skipBlanks_cons (c := ']') (by decide)]

theorem items?_of_none (refused : item? text = none) (fuel : Nat) : Reader.items? item? (fuel + 1) text = none := by
  rw [Reader.items?, refused]
  rfl

end Step

/-- The items of a list are read one after another, up to the first one that is nested too deeply. -/
theorem items?_printItems {levels : Nat} {items : List Json} (nonempty : items ≠ [])
    (each : ∀ item ∈ items, Rereads levels item) {fuel : Nat} (enough : items.length ≤ fuel) (rest : List Char) :
    Reader.items? (Reader.tree? levels) fuel (printItems items ++ ']' :: rest) =
      if depthItems items ≤ levels then some (items, rest) else none := by
  induction items generalizing fuel with
  | nil => exact absurd rfl nonempty
  | cons item others ih =>
    obtain ⟨fuel, rfl⟩ : ∃ less, fuel = less + 1 := ⟨fuel - 1, by simp at enough; omega⟩
    have first := each item List.mem_cons_self
    cases others with
    | nil =>
      have read := first _ (delimited_bracket rest)
      rw [printItems, depthItems, depthItems, Nat.max_zero]
      by_cases fits : item.depth ≤ levels
      · rw [if_pos fits] at read ⊢
        exact items?_of_bracket read fuel
      · rw [if_neg fits] at read ⊢
        exact items?_of_none read fuel
    | cons second others =>
      have read := first _ (delimited_comma (printItems (second :: others) ++ ']' :: rest))
      have later := ih (List.cons_ne_nil _ _) (fun item member => each item (List.mem_cons_of_mem _ member))
        (Nat.le_of_succ_le_succ enough)
      rw [printItems_cons_cons, List.append_assoc, List.cons_append, depthItems]
      by_cases fits : item.depth ≤ levels
      · rw [if_pos fits] at read
        simp only [items?_of_comma read fuel, later, Nat.max_le, fits, true_and]
        split <;> rfl
      · rw [if_neg fits] at read
        simp only [items?_of_none read fuel, Nat.max_le, fits, false_and, if_false]

theorem printItems_eq_cons {items : List Json} (nonempty : items ≠ []) (whole : ∀ item ∈ items, item.Whole) :
    ∃ c text, printItems items = c :: text ∧ StartsTree c := by
  cases items with
  | nil => exact absurd rfl nonempty
  | cons item others =>
    obtain ⟨c, text, written, starts⟩ := print_eq_cons (whole item List.mem_cons_self)
    cases others with
    | nil => exact ⟨c, text, written, starts⟩
    | cons second others =>
      rw [printItems_cons_cons, written]
      exact ⟨c, _, rfl, starts⟩

theorem array?_printItems {levels : Nat} {items : List Json} (whole : ∀ item ∈ items, item.Whole)
    (each : ∀ item ∈ items, Rereads levels item) (rest : List Char) :
    Reader.array? (Reader.tree? levels) (printItems items ++ ']' :: rest) =
      if depthItems items ≤ levels then some (.array items, rest) else none := by
  by_cases empty : items = []
  · subst empty
    simp [printItems, Reader.array?, skipBlanks_cons (c := ']') (by decide), depthItems]
  · obtain ⟨c, text, written, starts⟩ := printItems_eq_cons empty whole
    have enough : items.length ≤ (printItems items ++ ']' :: rest).length := by
      have printed := length_le_printItems whole
      rw [List.length_append]
      omega
    have read := items?_printItems empty each enough rest
    rw [written, List.cons_append] at read ⊢
    unfold Reader.array?
    rw [skipBlanks_cons starts.isBlank]
    split
    · rename_i same
      exact absurd (List.cons.inj same).1 starts.ne_bracket
    · rw [read]
      split <;> rfl

end Lists

section Objects

theorem printFields_cons_cons (name : String) (first : Json) (second : String × Json) (rest : Fields Json) :
    printFields ((name, first) :: second :: rest) =
      quoted name ++ ':' :: (print first ++ ',' :: printFields (second :: rest)) := by
  rw [printFields]
  exact List.cons_ne_nil second rest

theorem printFields_eq_cons {fields : Fields Json} (nonempty : fields ≠ []) :
    ∃ text, printFields fields = '"' :: text := by
  cases fields with
  | nil => exact absurd rfl nonempty
  | cons field others =>
    obtain ⟨name, value⟩ := field
    cases others with
    | nil => exact ⟨_, rfl⟩
    | cons second others =>
      rw [printFields_cons_cons]
      exact ⟨_, rfl⟩

theorem length_le_printFields (fields : Fields Json) : fields.length ≤ (printFields fields).length := by
  induction fields with
  | nil => exact Nat.zero_le _
  | cons field others ih =>
    obtain ⟨name, value⟩ := field
    cases others with
    | nil =>
      simp only [printFields, List.length_append, List.length_cons, List.length_nil]
      omega
    | cons second others =>
      simp only [printFields_cons_cons, List.length_append, List.length_cons] at ih ⊢
      omega

section Step

variable {value? : List Char → Option (Json × List Char)} {text rest : List Char} {name : String} {first : Json}

theorem entries?_of_comma (read : value? text = some (first, ',' :: rest)) (fuel : Nat) :
    Reader.entries? value? (fuel + 1) (quoted name ++ ':' :: text) =
      (Reader.entries? value? fuel rest).map fun others => ((name, first) :: others.1, others.2) := by
  rw [Reader.entries?, name?_quoted]
  simp only [Option.bind_eq_bind, Option.bind_some, read, skipBlanks_cons (c := ',') (by decide)]
  cases Reader.entries? value? fuel rest <;> rfl

theorem entries?_of_brace (read : value? text = some (first, '\x7d' :: rest)) (fuel : Nat) :
    Reader.entries? value? (fuel + 1) (quoted name ++ ':' :: text) = some ([(name, first)], rest) := by
  rw [Reader.entries?, name?_quoted]
  simp only [Option.bind_eq_bind, Option.bind_some, read, skipBlanks_cons (c := '\x7d') (by decide)]

theorem entries?_of_none (refused : value? text = none) (fuel : Nat) :
    Reader.entries? value? (fuel + 1) (quoted name ++ ':' :: text) = none := by
  rw [Reader.entries?, name?_quoted]
  simp only [Option.bind_eq_bind, Option.bind_some, refused, Option.bind_none]

end Step

theorem entries?_printFields {levels : Nat} {fields : Fields Json} (nonempty : fields ≠ [])
    (each : ∀ field ∈ fields, Rereads levels field.2) {fuel : Nat} (enough : fields.length ≤ fuel)
    (rest : List Char) :
    Reader.entries? (Reader.tree? levels) fuel (printFields fields ++ '\x7d' :: rest) =
      if depthFields fields ≤ levels then some (fields, rest) else none := by
  induction fields generalizing fuel with
  | nil => exact absurd rfl nonempty
  | cons field others ih =>
    obtain ⟨name, value⟩ := field
    obtain ⟨fuel, rfl⟩ : ∃ less, fuel = less + 1 := ⟨fuel - 1, by simp at enough; omega⟩
    have first := each (name, value) List.mem_cons_self
    cases others with
    | nil =>
      have read := first _ (delimited_brace rest)
      rw [printFields, List.append_assoc, List.cons_append, depthFields, depthFields, Nat.max_zero]
      by_cases fits : value.depth ≤ levels
      · rw [if_pos fits] at read ⊢
        exact entries?_of_brace read fuel
      · rw [if_neg fits] at read ⊢
        exact entries?_of_none read fuel
    | cons second others =>
      have read := first _ (delimited_comma (printFields (second :: others) ++ '\x7d' :: rest))
      have later := ih (List.cons_ne_nil _ _) (fun field member => each field (List.mem_cons_of_mem _ member))
        (Nat.le_of_succ_le_succ enough)
      rw [printFields_cons_cons, List.append_assoc, List.cons_append, List.append_assoc, List.cons_append, depthFields]
      by_cases fits : value.depth ≤ levels
      · rw [if_pos fits] at read
        simp only [entries?_of_comma read fuel, later, Nat.max_le, fits, true_and]
        split <;> rfl
      · rw [if_neg fits] at read
        simp only [entries?_of_none read fuel, Nat.max_le, fits, false_and, if_false]

theorem object?_printFields {levels : Nat} {fields : Fields Json} (sorted : Fields.Sorted fields)
    (each : ∀ field ∈ fields, Rereads levels field.2) (rest : List Char) :
    Reader.object? (Reader.tree? levels) (printFields fields ++ '\x7d' :: rest) =
      if depthFields fields ≤ levels then some (.object fields, rest) else none := by
  by_cases empty : fields = []
  · subst empty
    simp [printFields, Reader.object?, skipBlanks_cons (c := '\x7d') (by decide), depthFields]
  · obtain ⟨text, written⟩ := printFields_eq_cons empty
    have enough : fields.length ≤ (printFields fields ++ '\x7d' :: rest).length := by
      have printed := length_le_printFields fields
      rw [List.length_append]
      omega
    have read := entries?_printFields empty each enough rest
    rw [written, List.cons_append] at read ⊢
    unfold Reader.object?
    rw [skipBlanks_cons (by decide)]
    split
    · rename_i same
      cases same
    · rw [read]
      split
      · rw [Option.map_some, Fields.ofEntries_eq_self sorted]
      · rfl

end Objects

theorem tree?_array_succ (levels : Nat) (text : List Char) :
    Reader.tree? (levels + 1) ('[' :: text) = Reader.array? (Reader.tree? levels) text := rfl

theorem tree?_object_succ (levels : Nat) (text : List Char) :
    Reader.tree? (levels + 1) ('\x7b' :: text) = Reader.object? (Reader.tree? levels) text := rfl

/-- A tree of integers is read back from its compact text by a reader that is given as many levels as the
tree has, and by no other. -/
theorem rereads {json : Json} (whole : json.Whole) (wellFormed : json.WellFormed) (levels : Nat) :
    Rereads levels json := by
  intro rest delimited
  induction json generalizing levels rest with
  | null => exact tree?_null levels rest
  | bool b => exact tree?_bool b levels rest
  | string s => exact tree?_string s levels rest
  | number n =>
    cases n with
    | float x finite => cases whole
    | int n inRange => exact tree?_int n inRange levels delimited
  | array items ih =>
    rw [whole_array] at whole
    rw [WellFormed, wellFormedItems_iff] at wellFormed
    rw [print, List.cons_append, List.cons_append, List.append_assoc, List.singleton_append, depth]
    cases levels with
    | zero => rfl
    | succ inner =>
      have each : ∀ item ∈ items, Rereads inner item :=
        fun item member => ih item member (whole item member) (wellFormed item member) inner
      simp only [tree?_array_succ, array?_printItems whole each rest, Nat.add_le_add_iff_right]
  | object fields ih =>
    rw [whole_object] at whole
    rw [WellFormed, wellFormedFields_iff] at wellFormed
    rw [print, List.cons_append, List.cons_append, List.append_assoc, List.singleton_append, depth]
    cases levels with
    | zero => rfl
    | succ inner =>
      have each : ∀ field ∈ fields, Rereads inner field.2 :=
        fun field member => ih field member (whole field member) (wellFormed.2 field member) inner
      simp only [tree?_object_succ, object?_printFields wellFormed.1 each rest, Nat.add_le_add_iff_right]

theorem ofText?_text {json : Json} (whole : json.Whole) (wellFormed : json.WellFormed) :
    ofText? json.text = if json.depth ≤ levelLimit then some json else none := by
  have read := rereads whole wellFormed levelLimit [] delimited_nil
  rw [List.append_nil] at read
  rw [ofText?, ofChars?, text, String.toList_ofList, read]
  by_cases fits : json.depth ≤ levelLimit
  · rw [if_pos fits, if_pos fits]
    rfl
  · rw [if_neg fits, if_neg fits]

end Criteria.Json
