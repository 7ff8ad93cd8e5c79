import Criteria.Json.Printer
import Criteria.Json.Reader
import Mathlib.Algebra.Group.Int.Defs
import Mathlib.Algebra.Group.Nat.Defs

/-!
Strings and integers read back. A printed string contains no bare quote, so it ends where it was meant to
end; a printed integer ends at the first character that is not a digit, which must not be a full stop or
the mark of an exponent either.
-/
namespace Criteria.Json

/-- A text that is empty or starts with one of the characters that may follow a tree inside another. -/
def Delimited (text : List Char) : Prop :=
  ∀ c, text.head? = some c → c = ',' ∨ c = ']' ∨ c = '\x7d'

theorem delimited_nil : Delimited [] := by simp [Delimited]

theorem delimited_comma (text : List Char) : Delimited (',' :: text) := by simp [Delimited]

theorem delimited_bracket (text : List Char) : Delimited (']' :: text) := by simp [Delimited]

theorem delimited_brace (text : List Char) : Delimited ('\x7d' :: text) := by simp [Delimited]

theorem Delimited.cases {text : List Char} (delimited : Delimited text) :
    text = [] ∨ ∃ c rest, text = c :: rest ∧ (c = ',' ∨ c = ']' ∨ c = '\x7d') := by
  cases text with
  | nil => exact .inl rfl
  | cons c rest => exact .inr ⟨c, rest, rfl, delimited c rfl⟩

theorem skipBlanks_cons {c : Char} (bare : Reader.isBlank c = false) (rest : List Char) :
    Reader.skipBlanks (c :: rest) = c :: rest :=
  List.dropWhile_cons_of_neg (by rw [bare]; exact Bool.false_ne_true)

section Strings

theorem hexDigit?_digitChar {n : Nat} (small : n < 16) : Text.hexDigit? (Nat.digitChar n) = some n := by
  revert n
  decide

theorem unit?_hexPair {n : Nat} (small : n < 256) (rest : List Char) :
    Reader.unit? ('0' :: '0' :: hexPair n ++ rest) = some (n, rest) := by
  have zero : Text.hexDigit? '0' = some 0 := by decide
  have high := hexDigit?_digitChar (show n / 16 < 16 by omega)
  have low := hexDigit?_digitChar (show n % 16 < 16 by omega)
  have whole : ((0 * 16 + 0) * 16 + n / 16) * 16 + n % 16 = n := by omega
  simp only [hexPair, List.cons_append, List.nil_append, Reader.unit?, zero, high, low,
    Option.bind_eq_bind, Option.bind_some, whole]

theorem codePoint?_hexPair {c : Char} (control : c.toNat < 32) (rest : List Char) :
    Reader.codePoint? ('0' :: '0' :: hexPair c.toNat ++ rest) = some (c, rest) := by
  have single : ¬(0xD800 ≤ c.toNat ∧ c.toNat < 0xDC00) := by omega
  have whole : ¬(0xDC00 ≤ c.toNat ∧ c.toNat < 0xE000) := by omega
  rw [Reader.codePoint?, unit?_hexPair (by omega)]
  simp only [Option.bind_eq_bind, Option.bind_some, if_neg single, if_neg whole, Char.ofNat_toNat]

theorem character?_of_plain {c : Char} (printable : ¬c.toNat < 32) (plain : c ≠ '\\') (rest : List Char) :
    Reader.character? (c :: rest) = some (c, rest) := by
  unfold Reader.character?
  split <;> simp_all

/-- Every character is read back from the way it is written. -/
theorem character?_escape (c : Char) (rest : List Char) :
    Reader.character? (escape c ++ rest) = some (c, rest) := by
  unfold escape
  -- The quote, the backslash and the five control characters with a letter of their own come first.
  iterate 7
    split
    · subst_vars
      rfl
  split
  · rename_i control
    exact codePoint?_hexPair control rest
  · rename_i printable
    exact character?_of_plain printable ‹_› rest

theorem escape_cases (c : Char) : ∃ first others, escape c = first :: others ∧ first ≠ '"' := by
  unfold escape
  iterate 8
    split
    · exact ⟨_, _, rfl, by decide⟩
  exact ⟨c, [], rfl, ‹_›⟩

theorem length_le_flatMap_escape (chars : List Char) : chars.length ≤ (chars.flatMap escape).length := by
  induction chars with
  | nil => exact Nat.le_refl 0
  | cons c chars ih =>
    obtain ⟨first, others, written, -⟩ := escape_cases c
    simp only [List.flatMap_cons, List.length_append, List.length_cons, written]
    omega

theorem characters?_cons {fuel : Nat} {text rest after : List Char} {c : Char} {others : List Char}
    (unclosed : text.head? ≠ some '"') (first : Reader.character? text = some (c, rest))
    (later : Reader.characters? fuel rest = some (others, after)) :
    Reader.characters? (fuel + 1) text = some (c :: others, after) := by
  rw [Reader.characters?]
  · simp only [first, later, Option.bind_eq_bind, Option.bind_some]
  · intro rest same
    rw [same] at unclosed
    exact unclosed rfl

theorem characters?_flatMap_escape {chars : List Char} {fuel : Nat} (enough : chars.length ≤ fuel)
    (rest : List Char) : Reader.characters? fuel (chars.flatMap escape ++ '"' :: rest) = some (chars, rest) := by
  induction chars generalizing fuel with
  | nil => cases fuel <;> rfl
  | cons c chars ih =>
    obtain ⟨first, others, written, bare⟩ := escape_cases c
    obtain ⟨fuel, rfl⟩ : ∃ less, fuel = less + 1 := ⟨fuel - 1, by simp at enough; omega⟩
    have unclosed : (escape c ++ (chars.flatMap escape ++ '"' :: rest)).head? ≠ some '"' := by
      simpa [written] using bare
    rw [List.flatMap_cons, List.append_assoc]
    exact characters?_cons unclosed (character?_escape c _) (ih (Nat.le_of_succ_le_succ enough))

theorem quoted_append (s : String) (rest : List Char) :
    quoted s ++ rest = '"' :: (s.toList.flatMap escape ++ '"' :: rest) := by
  simp [quoted]

theorem string?_quoted (s : String) (rest : List Char) :
    Reader.string? (s.toList.flatMap escape ++ '"' :: rest) = some (s, rest) := by
  have enough : s.toList.length ≤ (s.toList.flatMap escape ++ '"' :: rest).length := by
    have written := length_le_flatMap_escape s.toList
    rw [List.length_append]
    omega
  rw [Reader.string?, characters?_flatMap_escape enough, Option.map_some, String.ofList_toList]

theorem name?_quoted (name : String) (rest : List Char) :
    Reader.name? (quoted name ++ ':' :: rest) = some (name, rest) := by
  rw [quoted_append, Reader.name?, skipBlanks_cons (by decide)]
  simp only [string?_quoted, Option.bind_eq_bind, Option.bind_some, skipBlanks_cons (c := ':') (by decide)]

end Strings

section Integers

theorem decimal_toDigits (n : Nat) : Text.decimal (Nat.toDigits 10 n) = n := by
  calc
    Text.decimal (Nat.toDigits 10 n) = Nat.ofDigitChars 10 (Nat.toDigits 10 n) 0 := by
      rw [Nat.ofDigitChars_eq_foldl, Text.decimal]
      simp only [Nat.mul_comm]
    _ = n := Nat.ofDigitChars_ten_toDigits

theorem head?_toDigits {n : Nat} (positive : 0 < n) : (Nat.toDigits 10 n).head? ≠ some '0' := by
  induction n using Nat.strongRecOn with
  | ind n ih =>
    by_cases small : n < 10
    · rw [Nat.toDigits_of_lt_base small]
      simp only [List.head?_cons, ne_eq, Option.some.injEq, Nat.digitChar_eq_zero]
      omega
    · rw [Nat.toDigits_of_base_le (by omega) (by omega), List.head?_append,
        Option.or_of_isSome (List.isSome_head?.2 Nat.toDigits_ne_nil)]
      exact ih (n / 10) (by omega) (by omega)

theorem isDigit_toDigits (n : Nat) : ∀ c ∈ Nat.toDigits 10 n, c.isDigit = true :=
  fun _ => Nat.isDigit_of_mem_toDigits (by omega) (by omega)

theorem Delimited.takeWhile_isDigit {rest : List Char} (delimited : Delimited rest) :
    rest.takeWhile Char.isDigit = [] ∧ rest.dropWhile Char.isDigit = rest := by
  obtain rfl | ⟨c, rest, rfl, stop⟩ := delimited.cases
  · exact ⟨rfl, rfl⟩
  · have bare : c.isDigit = false := by
      obtain rfl | rfl | rfl := stop <;> decide
    simp [bare]

theorem digits?_toDigits (n : Nat) {rest : List Char} (delimited : Delimited rest) :
    Reader.digits? (Nat.toDigits 10 n ++ rest) = some (Nat.toDigits 10 n, rest) := by
  obtain ⟨none, all⟩ := delimited.takeWhile_isDigit
  have taken : (Nat.toDigits 10 n ++ rest).takeWhile Char.isDigit = Nat.toDigits 10 n := by
    rw [List.takeWhile_append_of_pos (isDigit_toDigits n), none, List.append_nil]
  have dropped : (Nat.toDigits 10 n ++ rest).dropWhile Char.isDigit = rest := by
    rw [List.dropWhile_append_of_pos (isDigit_toDigits n), all]
  unfold Reader.digits?
  rw [taken, dropped]
  cases written : Nat.toDigits 10 n with
  | nil => exact absurd written Nat.toDigits_ne_nil
  | cons => rfl

theorem wholePart?_toDigits (n : Nat) {rest : List Char} (delimited : Delimited rest) :
    Reader.wholePart? (Nat.toDigits 10 n ++ rest) = some (Nat.toDigits 10 n, rest) := by
  rw [Reader.wholePart?, digits?_toDigits n delimited]
  split
  · rename_i second others _ same
    have written : Nat.toDigits 10 n = '0' :: second :: others := congrArg Prod.fst (Option.some.inj same)
    obtain rfl | positive := Nat.eq_zero_or_pos n
    · rw [Nat.toDigits_zero] at written
      cases written
    · exact absurd (by rw [written]; rfl) (head?_toDigits positive)
  · rfl

theorem Delimited.fractionPart? {rest : List Char} (delimited : Delimited rest) :
    Reader.fractionPart? rest = some (none, rest) := by
  obtain rfl | ⟨c, rest, rfl, rfl | rfl | rfl⟩ := delimited.cases <;> rfl

theorem Delimited.exponentPart? {rest : List Char} (delimited : Delimited rest) :
    Reader.exponentPart? rest = some (none, rest) := by
  obtain rfl | ⟨c, rest, rfl, rfl | rfl | rfl⟩ := delimited.cases <;> rfl

theorem unsigned?_toDigits (negative : Bool) (n : Nat) {rest : List Char} (delimited : Delimited rest) :
    Reader.unsigned? negative (Nat.toDigits 10 n ++ rest) =
      (Reader.integer? negative n).map fun number => (number, rest) := by
  rw [Reader.unsigned?, wholePart?_toDigits n delimited]
  simp only [Option.bind_eq_bind, Option.bind_some, delimited.fractionPart?, delimited.exponentPart?,
    decimal_toDigits]
  cases Reader.integer? negative n <;> rfl

theorem integer?_natAbs (n : Int) (inRange : -2 ^ 63 ≤ n ∧ n < 2 ^ 64) :
    Reader.integer? (decide (n < 0)) n.natAbs = some (.int n inRange) := by
  by_cases negative : n < 0
  · have magnitude : -(n.natAbs : Int) = n := by omega
    have nonzero : n.natAbs ≠ 0 := by omega
    simp only [Reader.integer?, negative, decide_true, if_true, magnitude, Bool.true_and, beq_iff_eq, nonzero,
      if_false, inRange, and_self, dite_true]
  · have magnitude : (n.natAbs : Int) = n := by omega
    simp only [Reader.integer?, negative, decide_false, magnitude, Bool.false_and, Bool.false_eq_true, if_false,
      inRange, and_self, dite_true]

theorem number?_of_unsigned {text : List Char} (unsigned : text.head? ≠ some '-') :
    Reader.number? text = Reader.unsigned? false text := by
  unfold Reader.number?
  split
  · simp at unsigned
  · rfl

theorem head?_toDigits_append (n : Nat) (rest : List Char) :
    ∃ c, (Nat.toDigits 10 n ++ rest).head? = some c ∧ c.isDigit = true := by
  cases written : Nat.toDigits 10 n with
  | nil => exact absurd written Nat.toDigits_ne_nil
  | cons c others => exact ⟨c, rfl, isDigit_toDigits n c (by rw [written]; exact List.mem_cons_self)⟩

/-- An integer is read back from its digits. -/
theorem number?_print_int (n : Int) (inRange : -2 ^ 63 ≤ n ∧ n < 2 ^ 64) {rest : List Char}
    (delimited : Delimited rest) :
    Reader.number? ((Number.int n inRange).print ++ rest) = some (.int n inRange, rest) := by
  have read := integer?_natAbs n inRange
  rw [Number.print]
  by_cases negative : n < 0
  · rw [decide_eq_true negative] at read
    rw [if_pos negative, List.cons_append, Reader.number?, unsigned?_toDigits true _ delimited, read, Option.map_some]
  · rw [decide_eq_false negative] at read
    have unsigned : (Nat.toDigits 10 n.natAbs ++ rest).head? ≠ some '-' := by
      obtain ⟨c, first, digit⟩ := head?_toDigits_append n.natAbs rest
      intro minus
      rw [first, Option.some.injEq] at minus
      rw [minus] at digit
      exact absurd digit (by decide)
    rw [if_neg negative, number?_of_unsigned unsigned, unsigned?_toDigits false _ delimited, read, Option.map_some]

end Integers

end Criteria.Json
