import Mathlib.Data.List.TakeDrop
import PartsList.Json.Printer
import PartsList.Json.Reader
import PartsList.Proofs.Number.Numeral

/-!
# Reading what was written

The text of a JSON value is read back as that value, whatever follows it, as long as what follows
cannot continue a number.  The values concerned are those whose strings denote texts and whose
numbers are proper numerals.
-/

namespace PartsList.Json

open Numeral

/-! ## Numbers -/

/-- Nothing that could continue a number stands in front. -/
def Closes (rest : List Char) : Prop :=
  ∀ c ∈ rest.head?, c.isDigit = false ∧ c ≠ '.' ∧ c ≠ 'e' ∧ c ≠ 'E'

theorem closes_nil : Closes [] := by
  simp [Closes]

theorem closes_cons {c : Char} (mem : c ∈ [',', ']', '}', ':', '"']) (rest : List Char) :
    Closes (c :: rest) := by
  intro d same
  cases same
  simp only [List.mem_cons, List.not_mem_nil, or_false] at mem
  rcases mem with rfl | rfl | rfl | rfl | rfl <;> decide

theorem spanDigits_append {digits rest : List Char} (all : ∀ c ∈ digits, c.isDigit)
    (stop : ∀ c ∈ rest.head?, c.isDigit = false) :
    spanDigits (digits ++ rest) = (digits, rest) := by
  have rest_taken : rest.takeWhile Char.isDigit = [] ∧ rest.dropWhile Char.isDigit = rest := by
    cases rest with
    | nil => simp
    | cons c rest => simp [stop c rfl]
  simp [spanDigits, List.span_eq_takeWhile_dropWhile, List.takeWhile_append_of_pos all,
    List.dropWhile_append_of_pos all, rest_taken]

/-- The point and the digits behind it. -/
def fractionChars : Option (List Char) → List Char
  | some digits => '.' :: digits
  | none => []

/-- The exponent with its letter and its sign. -/
def exponentChars : Option (Bool × List Char) → List Char
  | some (true, digits) => 'e' :: '-' :: digits
  | some (false, digits) => 'e' :: '+' :: digits
  | none => []

theorem chars_eq_parts (n : Numeral) :
    n.chars true =
      (if n.negative then ['-'] else []) ++
        (n.whole ++ (fractionChars n.fraction ++ exponentChars n.exponent)) := by
  obtain ⟨negative, whole, fraction, exponent⟩ := n
  rcases exponent with _ | ⟨sign, digits⟩
  · cases fraction <;> simp [Numeral.chars, fractionChars, exponentChars]
  · cases fraction <;> cases sign <;> simp [Numeral.chars, fractionChars, exponentChars]

theorem readExponent_append {exponent : Option (Bool × List Char)} {rest : List Char}
    (proper : ∀ part ∈ exponent, AreDigits part.2) (closes : Closes rest) :
    readExponent (exponentChars exponent ++ rest) = some (exponent, rest) := by
  have stop : ∀ c ∈ rest.head?, c.isDigit = false := fun c mem => (closes c mem).1
  rcases exponent with _ | ⟨sign, digits⟩
  · cases rest with
    | nil => rfl
    | cons c rest =>
        have no_letter := (closes c rfl).2.2
        simp [exponentChars, readExponent, no_letter]
  · obtain ⟨some_digits, all_digits⟩ := proper (sign, digits) rfl
    obtain ⟨first, others, rfl⟩ := List.exists_cons_of_ne_nil some_digits
    have spanned := spanDigits_append all_digits stop
    cases sign <;>
      simp only [exponentChars, List.cons_append, readExponent, readSign, true_or, if_true] <;>
      rw [← List.cons_append, spanned]

theorem head_exponentChars_append (exponent : Option (Bool × List Char)) {rest : List Char}
    (closes : Closes rest) :
    ∀ c ∈ (exponentChars exponent ++ rest).head?, c.isDigit = false ∧ c ≠ '.' := by
  rcases exponent with _ | ⟨sign, digits⟩
  · exact fun c mem => ⟨(closes c mem).1, (closes c mem).2.1⟩
  · intro c mem
    cases sign <;> simp [exponentChars] at mem <;> subst mem <;> decide

theorem readFraction_append {fraction : Option (List Char)} {rest : List Char}
    (proper : ∀ digits ∈ fraction, AreDigits digits)
    (stop : ∀ c ∈ rest.head?, c.isDigit = false ∧ c ≠ '.') :
    readFraction (fractionChars fraction ++ rest) = some (fraction, rest) := by
  cases fraction with
  | none =>
      cases rest with
      | nil => rfl
      | cons c rest =>
          have no_point := (stop c rfl).2
          simp only [fractionChars, List.nil_append]
          unfold readFraction
          split
          · next same => exact absurd (by cases same; rfl) no_point
          · rfl
  | some digits =>
      obtain ⟨some_digits, all_digits⟩ := proper digits rfl
      obtain ⟨first, others, rfl⟩ := List.exists_cons_of_ne_nil some_digits
      have spanned := spanDigits_append all_digits fun c mem => (stop c mem).1
      simp only [fractionChars, List.cons_append, readFraction]
      rw [← List.cons_append, spanned]

theorem head_fractionChars_append (fraction : Option (List Char)) {rest : List Char}
    (stop : ∀ c ∈ rest.head?, c.isDigit = false) :
    ∀ c ∈ (fractionChars fraction ++ rest).head?, c.isDigit = false := by
  cases fraction with
  | none => exact stop
  | some digits =>
      intro c mem
      simp [fractionChars] at mem
      subst mem
      decide

theorem readWhole_append {whole rest : List Char} (proper : AreDigits whole)
    (lead : whole.head? = some '0' → whole = ['0'])
    (stop : ∀ c ∈ rest.head?, c.isDigit = false) :
    readWhole (whole ++ rest) = some (whole, rest) := by
  obtain ⟨some_digits, all_digits⟩ := proper
  unfold readWhole
  rw [spanDigits_append all_digits stop]
  split
  · next same => exact absurd (congrArg Prod.fst same) some_digits
  · next same =>
    cases same
    simp at lead
  · next same =>
    cases same
    rfl

theorem readUnsigned_append {n : Numeral} (proper : n.Proper) {rest : List Char}
    (closes : Closes rest) :
    readUnsigned n.negative
        (n.whole ++ (fractionChars n.fraction ++ exponentChars n.exponent) ++ rest) =
      some (n, rest) := by
  have exponent_stop := head_exponentChars_append n.exponent closes
  have fraction_stop := head_fractionChars_append n.fraction
    fun c mem => (exponent_stop c mem).1
  simp only [List.append_assoc, readUnsigned,
    readWhole_append proper.whole proper.lead fraction_stop,
    readFraction_append proper.fraction exponent_stop,
    readExponent_append proper.exponent closes, Option.bind_eq_bind, Option.bind_some,
    Option.pure_def]

/-- A proper numeral is read back. -/
theorem readNumber_append {n : Numeral} (proper : n.Proper) {rest : List Char}
    (closes : Closes rest) : readNumber (n.chars true ++ rest) = some (n, rest) := by
  have read := readUnsigned_append proper closes
  rw [chars_eq_parts]
  cases sign : n.negative with
  | true =>
      rw [sign] at read
      simpa [readNumber] using read
  | false =>
      rw [sign] at read
      obtain ⟨first, others, whole_eq⟩ := List.exists_cons_of_ne_nil proper.whole.1
      have first_digit : first.isDigit := proper.whole.2 first (by simp [whole_eq])
      simp only [Bool.false_eq_true, if_false, List.nil_append, List.append_assoc] at read ⊢
      unfold readNumber
      split
      · next same =>
        rw [whole_eq, List.cons_append, List.cons.injEq] at same
        rw [same.1] at first_digit
        exact absurd first_digit (by decide)
      · exact read

/-! ## Strings -/

theorem readCodes_plain {c : Char} (quote : c ≠ '"') (backslash : c ≠ '\\')
    (printable : 32 ≤ c.toNat) (rest : List Char) :
    readCodes (c :: rest) =
      (readCodes rest).map fun read => (c.toNat :: read.1, read.2) := by
  have no_stray : c ≠ strayMark := by
    rintro rfl
    exact absurd printable (by decide)
  have no_control : (decide (c.toNat < 32) || c == '\\') = false := by
    simp [backslash, printable]
  rw [readCodes.eq_def]
  split
  · next same => cases same
  · next same => cases same; exact absurd rfl quote
  · next same => cases same; exact absurd rfl backslash
  · next same => cases same; exact absurd rfl backslash
  · next same =>
    cases same
    rw [if_neg no_stray, if_neg (by simp [no_control])]
    cases readCodes rest <;> rfl

theorem readCodes_escapeChar (c : Char) (rest : List Char) :
    readCodes (escapeChar c ++ rest) =
      (readCodes rest).map fun read => (c.toNat :: read.1, read.2) := by
  have named {escape : Char} (code : escapedChar escape = some c) (letter : escape ≠ 'u') :
      readCodes (['\\', escape] ++ rest) =
        (readCodes rest).map fun read => (c.toNat :: read.1, read.2) := by
    rw [readCodes.eq_def]
    simp only [List.cons_append, List.nil_append]
    split
    · next same => cases same
    · next same => cases same
    · next same => cases same; exact absurd rfl letter
    · next same =>
      cases same
      simp only [code, Option.bind_eq_bind, Option.bind_some]
      cases readCodes rest <;> rfl
    · next no_escape same =>
      cases same
      exact (no_escape _ _ rfl rfl).elim
  have of_code {n : Nat} (code : c.toNat = n) : c = Char.ofNat n := by
    rw [← code, Char.ofNat_toNat]
  unfold escapeChar
  split
  · next same => subst same; exact named rfl (by decide)
  split
  · next same => subst same; exact named rfl (by decide)
  split
  · next same => exact named (by rw [of_code same]; rfl) (by decide)
  split
  · next same => exact named (by rw [of_code same]; rfl) (by decide)
  split
  · next same => exact named (by rw [of_code same]; rfl) (by decide)
  split
  · next same => exact named (by rw [of_code same]; rfl) (by decide)
  split
  · next same => exact named (by rw [of_code same]; rfl) (by decide)
  split
  · next control =>
    have code : hexCode '0' '0' (Hexadecimal.digit (c.toNat / 16))
        (Hexadecimal.digit (c.toNat % 16)) = some c.toNat := Hexadecimal.number?_digits (by omega)
    simp only [List.cons_append, List.nil_append, readCodes, code, Option.bind_eq_bind,
      Option.bind_some]
    cases readCodes rest <;> rfl
  · next quote backslash _ _ _ _ _ printable =>
    exact readCodes_plain quote backslash (by omega) rest

/-- The codes of a written string are those of its characters. -/
theorem readCodes_escaped (cs rest : List Char) :
    readCodes (cs.flatMap escapeChar ++ '"' :: rest) = some (cs.map Char.toNat, rest) := by
  induction cs with
  | nil => rfl
  | cons c cs induction =>
      rw [List.flatMap_cons, List.append_assoc, readCodes_escapeChar, induction]
      rfl

theorem joinHalves_map_toNat (cs : List Char) : joinHalves (cs.map Char.toNat) = some cs := by
  induction cs with
  | nil => rfl
  | cons c cs induction =>
      have valid : c.toNat < 0xD800 ∨ 0xDFFF < c.toNat ∧ c.toNat < 0x110000 := c.valid
      have high : isHighHalf c.toNat = false := by
        simp only [isHighHalf, Bool.and_eq_false_iff, decide_eq_false_iff_not]
        omega
      have low : isLowHalf c.toNat = false := by
        simp only [isLowHalf, Bool.and_eq_false_iff, decide_eq_false_iff_not]
        omega
      have no_stray : c.toNat ≠ strayCode := by
        simp only [strayCode]
        omega
      rw [List.map_cons, joinHalves.eq_def]
      simp [high, low, no_stray, induction, Char.ofNat_toNat]

/-- A written string is read back. -/
theorem readString_escaped (value : String) (rest : List Char) :
    readString (value.toList.flatMap escapeChar ++ '"' :: rest) = some (some value, rest) := by
  simp [readString, readCodes_escaped, joinHalves_map_toNat]

/-! ## Values -/

mutual

/-- All strings of the value denote texts, and all its numbers are proper. -/
def Writable : Json → Prop
  | .null | .bool _ => True
  | .number n => n.Proper
  | .string s => s.isSome
  | .array items => WritableItems items
  | .object members => WritableMembers members

/-- All items can be written. -/
def WritableItems : List Json → Prop
  | [] => True
  | item :: items => Writable item ∧ WritableItems items

/-- All members and their names can be written. -/
def WritableMembers : List (Option String × Json) → Prop
  | [] => True
  | (name, value) :: members => name.isSome ∧ Writable value ∧ WritableMembers members

end

theorem skipSpace_cons {c : Char} (solid : isSpace c = false) (cs : List Char) :
    skipSpace (c :: cs) = c :: cs := by
  simp [skipSpace, solid]

theorem skipSpace_append {blank : List Char} (all : ∀ c ∈ blank, isSpace c) (rest : List Char) :
    skipSpace (blank ++ rest) = skipSpace rest :=
  List.dropWhile_append_of_pos all

theorem isSpace_of_isDigit {c : Char} (digit : c.isDigit) : isSpace c = false := by
  simp only [isSpace, Bool.or_eq_false_iff, beq_eq_false_iff_ne, ne_eq]
  refine ⟨⟨⟨?_, ?_⟩, ?_⟩, ?_⟩ <;> (rintro rfl; exact absurd digit (by decide))

/-- A proper numeral begins with a sign or a digit. -/
theorem numeral_chars_cons {n : Numeral} (proper : n.Proper) :
    ∃ c cs, n.chars true = c :: cs ∧ (c = '-' ∨ c.isDigit) := by
  rw [chars_eq_parts]
  obtain ⟨first, others, whole_eq⟩ := List.exists_cons_of_ne_nil proper.whole.1
  have first_digit : first.isDigit := proper.whole.2 first (by simp [whole_eq])
  cases n.negative with
  | true => exact ⟨'-', _, rfl, .inl rfl⟩
  | false => exact ⟨first, _, by rw [whole_eq]; rfl, .inr first_digit⟩

/-- The text of a value begins with a character that is no blank and closes nothing. -/
theorem chars_cons {value : Json} (writable : Writable value) :
    ∃ c cs, chars value = c :: cs ∧ isSpace c = false ∧ c ≠ ']' := by
  cases value with
  | null => exact ⟨'n', _, rfl, by decide, by decide⟩
  | bool value => cases value <;> exact ⟨_, _, rfl, by decide, by decide⟩
  | number n =>
      obtain ⟨c, cs, chars_eq, first⟩ := numeral_chars_cons (by simpa [Writable] using writable)
      refine ⟨c, cs, by rw [chars, chars_eq], ?_⟩
      rcases first with rfl | digit
      · decide
      · refine ⟨isSpace_of_isDigit digit, ?_⟩
        rintro rfl
        exact absurd digit (by decide)
  | string s => exact ⟨'"', _, by rw [chars]; rfl, by decide, by decide⟩
  | array items => exact ⟨'[', _, by rw [chars], by decide, by decide⟩
  | object members => exact ⟨'{', _, by rw [chars], by decide, by decide⟩

-- The equations of the readers are made once, here; every lemma below unfolds them.
attribute [local simp] readValue readItems readMembers

theorem readValue_number {n : Numeral} (proper : n.Proper) {rest : List Char}
    (closes : Closes rest) (fuel : Nat) :
    readValue (fuel + 1) (n.chars true ++ rest) = some (.number n, rest) := by
  have read := readNumber_append proper closes
  obtain ⟨c, cs, chars_eq, first⟩ := numeral_chars_cons proper
  have solid : isSpace c = false := by
    rcases first with rfl | digit
    · decide
    · exact isSpace_of_isDigit digit
  have letter {d : Char} (other : d ≠ '-') (no_digit : d.isDigit = false) : c ≠ d := by
    rintro rfl
    rcases first with same | digit
    · exact other same
    · rw [no_digit] at digit
      cases digit
  rw [chars_eq, List.cons_append] at read ⊢
  unfold readValue
  rw [skipSpace_cons solid]
  split
  · next same => exact absurd (List.cons.inj same).1 (letter (by decide) (by decide))
  · next same => exact absurd (List.cons.inj same).1 (letter (by decide) (by decide))
  · next same => exact absurd (List.cons.inj same).1 (letter (by decide) (by decide))
  · next same => exact absurd (List.cons.inj same).1 (letter (by decide) (by decide))
  · next same => exact absurd (List.cons.inj same).1 (letter (by decide) (by decide))
  · next same => exact absurd (List.cons.inj same).1 (letter (by decide) (by decide))
  · simp [read]

theorem readValue_string (value : String) (rest : List Char) (fuel : Nat) :
    readValue (fuel + 1) (quoteChars value ++ rest) = some (.string (some value), rest) := by
  have shape : quoteChars value ++ rest =
      '"' :: (value.toList.flatMap escapeChar ++ '"' :: rest) := by
    simp [quoteChars]
  rw [shape, readValue, skipSpace_cons (by decide)]
  simp [readString_escaped]

theorem readValue_array {input rest : List Char} {items : List Json} {fuel : Nat} {c : Char}
    {cs : List Char} (shape : input = c :: cs) (solid : isSpace c = false) (open_ : c ≠ ']')
    (read : readItems fuel input = some (items, rest)) :
    readValue (fuel + 1) ('[' :: input) = some (.array items, rest) := by
  rw [readValue, skipSpace_cons (by decide)]
  simp only
  rw [shape] at read ⊢
  rw [skipSpace_cons solid]
  split
  · next same => cases same; exact absurd rfl open_
  · simp [read]

theorem readValue_object {input rest : List Char} {members : List (Option String × Json)}
    {fuel : Nat} (read : readMembers fuel ('"' :: input) = some (members, rest)) :
    readValue (fuel + 1) ('{' :: '"' :: input) = some (.object members, rest) := by
  rw [readValue, skipSpace_cons (by decide)]
  simp only
  rw [skipSpace_cons (by decide)]
  simp [read]

theorem stringChars_append (name : String) (rest : List Char) :
    stringChars (some name) ++ rest = '"' :: (name.toList.flatMap escapeChar ++ '"' :: rest) := by
  simp [stringChars, quoteChars]

theorem readItems_last {item : Json} {input more rest : List Char} {fuel : Nat}
    (read : readValue fuel input = some (item, more)) (closing : skipSpace more = ']' :: rest) :
    readItems (fuel + 1) input = some ([item], rest) := by
  simp [read, closing]

theorem readItems_next {item : Json} {items : List Json} {input more rest : List Char} {fuel : Nat}
    (read : readValue fuel input = some (item, ',' :: more))
    (others : readItems fuel more = some (items, rest)) :
    readItems (fuel + 1) input = some (item :: items, rest) := by
  rw [readItems, read]
  simp only [Option.bind_eq_bind, Option.bind_some]
  rw [skipSpace_cons (by decide)]
  simp [others]

theorem readMembers_last {name : String} {value : Json} {input more rest : List Char} {fuel : Nat}
    (read : readValue fuel input = some (value, more)) (closing : skipSpace more = '}' :: rest) :
    readMembers (fuel + 1) (stringChars (some name) ++ ':' :: input) =
      some ([(some name, value)], rest) := by
  rw [stringChars_append, readMembers, skipSpace_cons (by decide)]
  simp only [readString_escaped, Option.bind_eq_bind, Option.bind_some]
  rw [skipSpace_cons (by decide)]
  simp only [read, Option.bind_some]
  rw [closing]
  rfl

theorem readMembers_next {name : String} {value : Json} {members : List (Option String × Json)}
    {input more rest : List Char} {fuel : Nat}
    (read : readValue fuel input = some (value, ',' :: more))
    (others : readMembers fuel more = some (members, rest)) :
    readMembers (fuel + 1) (stringChars (some name) ++ ':' :: input) =
      some ((some name, value) :: members, rest) := by
  rw [stringChars_append, readMembers, skipSpace_cons (by decide)]
  simp only [readString_escaped, Option.bind_eq_bind, Option.bind_some]
  rw [skipSpace_cons (by decide)]
  simp only [read, Option.bind_some]
  rw [skipSpace_cons (by decide)]
  simp [others]

/-! The readers call each other with one less of fuel, so all three are settled by one induction on
the fuel.  The depth of the calls is at most twice the length of the text. -/

/-- With the given fuel, each value whose text is short enough is read back. -/
def ReadsValues (fuel : Nat) : Prop :=
  ∀ value rest, Writable value → Closes rest → 2 * (chars value).length ≤ fuel →
    readValue fuel (chars value ++ rest) = some (value, rest)

/-- With the given fuel, all items whose text is short enough are read back. -/
def ReadsItems (fuel : Nat) : Prop :=
  ∀ items rest, items ≠ [] → WritableItems items → 2 * (itemChars items).length + 1 ≤ fuel →
    readItems fuel (itemChars items ++ ']' :: rest) = some (items, rest)

/-- With the given fuel, all members whose text is short enough are read back. -/
def ReadsMembers (fuel : Nat) : Prop :=
  ∀ members rest, members ≠ [] → WritableMembers members →
    2 * (memberChars members).length + 1 ≤ fuel →
    readMembers fuel (memberChars members ++ '}' :: rest) = some (members, rest)

theorem itemChars_cons_append (item : Json) (items : List Json) (rest : List Char) :
    ∃ more, itemChars (item :: items) ++ rest = chars item ++ more := by
  cases items with
  | nil => exact ⟨rest, by rw [itemChars]⟩
  | cons next items => exact ⟨_, by rw [itemChars, List.append_assoc]⟩

theorem memberChars_cons_append (name : String) (value : Json)
    (members : List (Option String × Json)) (rest : List Char) :
    ∃ more, memberChars ((some name, value) :: members) ++ rest = '"' :: more := by
  cases members with
  | nil => exact ⟨_, by rw [memberChars, List.append_assoc, stringChars_append]⟩
  | cons next members => exact ⟨_, by rw [memberChars, List.append_assoc, stringChars_append]⟩

theorem readsValues_succ {fuel : Nat} (items_read : ReadsItems fuel)
    (members_read : ReadsMembers fuel) : ReadsValues (fuel + 1) := by
  intro value rest writable closes enough
  cases value with
  | null => rw [chars, readValue, List.cons_append, skipSpace_cons (by decide)]; rfl
  | bool value =>
      cases value <;>
        (rw [chars, readValue, List.cons_append, skipSpace_cons (by decide)]; rfl)
  | number n =>
      rw [chars]
      exact readValue_number (by simpa [Writable] using writable) closes fuel
  | string text =>
      obtain ⟨text, rfl⟩ := Option.isSome_iff_exists.mp (by simpa [Writable] using writable)
      rw [chars]
      exact readValue_string text rest fuel
  | array items =>
      simp only [Writable] at writable
      rw [chars, List.length_cons, List.length_append, List.length_singleton] at enough
      rw [chars, List.cons_append, List.append_assoc]
      cases items with
      | nil =>
          rw [readValue, skipSpace_cons (by decide)]
          simp only [itemChars, List.nil_append, List.cons_append]
          rw [skipSpace_cons (by decide)]
          rfl
      | cons item items =>
          have read := items_read (item :: items) rest (by simp) writable (by omega)
          obtain ⟨c, cs, item_eq, solid, open_⟩ := chars_cons writable.1
          obtain ⟨more, shape⟩ := itemChars_cons_append item items (']' :: rest)
          rw [item_eq, List.cons_append] at shape
          exact readValue_array shape solid open_ read
  | object members =>
      simp only [Writable] at writable
      rw [chars, List.length_cons, List.length_append, List.length_singleton] at enough
      rw [chars, List.cons_append, List.append_assoc]
      cases members with
      | nil =>
          rw [readValue, skipSpace_cons (by decide)]
          simp only [memberChars, List.nil_append, List.cons_append]
          rw [skipSpace_cons (by decide)]
          rfl
      | cons member members =>
          have read := members_read (member :: members) rest (by simp) writable (by omega)
          obtain ⟨name, value⟩ := member
          obtain ⟨name, rfl⟩ := Option.isSome_iff_exists.mp writable.1
          obtain ⟨more, shape⟩ := memberChars_cons_append name value members ('}' :: rest)
          rw [shape] at read
          rw [List.cons_append, List.nil_append, shape]
          exact readValue_object read

theorem readsItems_succ {fuel : Nat} (values_read : ReadsValues fuel)
    (items_read : ReadsItems fuel) : ReadsItems (fuel + 1) := by
  intro items rest some_items writable enough
  match items with
  | [] => exact absurd rfl some_items
  | [item] =>
      rw [itemChars] at enough ⊢
      exact readItems_last
        (values_read item _ writable.1 (closes_cons (by simp) rest) (by omega))
        (skipSpace_cons (by decide) rest)
  | item :: next :: items =>
      rw [itemChars, List.length_append, List.length_cons] at enough
      rw [itemChars, List.append_assoc, List.cons_append]
      exact readItems_next
        (values_read item _ writable.1 (closes_cons (by simp) _) (by omega))
        (items_read (next :: items) rest (by simp) writable.2 (by omega))

theorem readsMembers_succ {fuel : Nat} (values_read : ReadsValues fuel)
    (members_read : ReadsMembers fuel) : ReadsMembers (fuel + 1) := by
  intro members rest some_members writable enough
  match members with
  | [] => exact absurd rfl some_members
  | [(name, value)] =>
      obtain ⟨some_name, value_writable, -⟩ := writable
      obtain ⟨name, rfl⟩ := Option.isSome_iff_exists.mp some_name
      simp only [memberChars, List.length_append, List.length_cons] at enough
      simp only [memberChars, List.append_assoc, List.cons_append]
      exact readMembers_last
        (values_read value _ value_writable (closes_cons (by simp) rest) (by omega))
        (skipSpace_cons (by decide) rest)
  | (name, value) :: next :: members =>
      obtain ⟨some_name, value_writable, members_writable⟩ := writable
      obtain ⟨name, rfl⟩ := Option.isSome_iff_exists.mp some_name
      rw [memberChars] at enough ⊢
      simp only [List.length_append, List.length_cons] at enough
      simp only [List.append_assoc, List.cons_append]
      exact readMembers_next
        (values_read value _ value_writable (closes_cons (by simp) _) (by omega))
        (members_read (next :: members) rest (by simp) members_writable (by omega))

theorem reads_all (fuel : Nat) : ReadsValues fuel ∧ ReadsItems fuel ∧ ReadsMembers fuel := by
  induction fuel with
  | zero =>
      refine ⟨?_, ?_, ?_⟩
      · intro value rest writable closes enough
        obtain ⟨c, cs, chars_eq, -⟩ := chars_cons writable
        rw [chars_eq, List.length_cons] at enough
        omega
      · intro items rest some_items writable enough
        omega
      · intro members rest some_members writable enough
        omega
  | succ fuel induction =>
      obtain ⟨values_read, items_read, members_read⟩ := induction
      exact ⟨readsValues_succ items_read members_read, readsItems_succ values_read items_read,
        readsMembers_succ values_read members_read⟩

/-- A written value is read back, and what follows it is left. -/
theorem readValue_append {value : Json} (writable : Writable value) {rest : List Char}
    (closes : Closes rest) {fuel : Nat} (enough : 2 * (chars value).length ≤ fuel) :
    readValue fuel (chars value ++ rest) = some (value, rest) :=
  (reads_all fuel).1 value rest writable closes enough

theorem readChars_chars {value : Json} (writable : Writable value) :
    readChars (chars value) = some value := by
  have read : readValue (2 * (chars value).length + 2) (chars value ++ []) = some (value, []) :=
    readValue_append writable closes_nil (by omega)
  rw [List.append_nil] at read
  simp only [readChars, read, Option.bind_eq_bind, Option.bind_some]
  rfl

/-! ## Texts

The text of a value holds no control characters, so it is one line, and none of its characters has
to make way for the marks of the reader. -/

theorem printable_of_isDigit {c : Char} (digit : c.isDigit) : 32 ≤ c.toNat := by
  simp only [Char.isDigit, Bool.and_eq_true, decide_eq_true_eq] at digit
  have low : 48 ≤ c.toNat := digit.1
  omega

theorem printable_of_all {cs : List Char} (all : cs.all fun c => 32 ≤ c.toNat) :
    ∀ c ∈ cs, 32 ≤ c.toNat := by
  simpa using all

theorem printable_escapeChar {c d : Char} (mem : d ∈ escapeChar c) : 32 ≤ d.toNat := by
  unfold escapeChar at mem
  split at mem
  · exact printable_of_all (by decide) d mem
  split at mem
  · exact printable_of_all (by decide) d mem
  split at mem
  · exact printable_of_all (by decide) d mem
  split at mem
  · exact printable_of_all (by decide) d mem
  split at mem
  · exact printable_of_all (by decide) d mem
  split at mem
  · exact printable_of_all (by decide) d mem
  split at mem
  · exact printable_of_all (by decide) d mem
  split at mem
  · next control =>
    simp only [List.mem_cons, List.not_mem_nil, or_false] at mem
    rcases mem with rfl | rfl | rfl | rfl | rfl | rfl
    · decide
    · decide
    · decide
    · decide
    · exact Hexadecimal.le_toNat_digit (by omega)
    · exact Hexadecimal.le_toNat_digit (by omega)
  · next printable =>
    cases List.mem_singleton.mp mem
    omega

theorem printable_stringChars {value : Option String} {c : Char} (mem : c ∈ stringChars value) :
    32 ≤ c.toNat := by
  simp only [stringChars, quoteChars, List.mem_cons, List.mem_append, List.mem_flatMap,
    List.not_mem_nil, or_false] at mem
  rcases mem with rfl | ⟨d, -, mem⟩ | rfl
  · decide
  · exact printable_escapeChar mem
  · decide

theorem printable_numeral {n : Numeral} (proper : n.Proper) {c : Char} (mem : c ∈ n.chars true) :
    32 ≤ c.toNat := by
  rw [chars_eq_parts] at mem
  rcases List.mem_append.mp mem with sign | mem
  · split at sign
    · cases List.mem_singleton.mp sign
      decide
    · cases sign
  rcases List.mem_append.mp mem with whole | mem
  · exact printable_of_isDigit (proper.whole.2 c whole)
  rcases List.mem_append.mp mem with fraction | exponent
  · cases fraction_eq : n.fraction with
    | none => simp [fraction_eq, fractionChars] at fraction
    | some digits =>
        rw [fraction_eq, fractionChars] at fraction
        rcases List.mem_cons.mp fraction with rfl | digit
        · decide
        · exact printable_of_isDigit ((proper.fraction digits fraction_eq).2 c digit)
  · rcases exponent_eq : n.exponent with _ | ⟨sign, digits⟩
    · simp [exponent_eq, exponentChars] at exponent
    · have all_digits := (proper.exponent (sign, digits) exponent_eq).2
      rw [exponent_eq] at exponent
      cases sign <;>
        (simp only [exponentChars, List.mem_cons] at exponent
         rcases exponent with rfl | rfl | digit
         · decide
         · decide
         · exact printable_of_isDigit (all_digits c digit))

mutual

theorem printable_chars : (value : Json) → Writable value → ∀ c ∈ chars value, 32 ≤ c.toNat
  | .null, _ => printable_of_all (by decide)
  | .bool true, _ => printable_of_all (by decide)
  | .bool false, _ => printable_of_all (by decide)
  | .number _, writable => fun _ mem =>
      printable_numeral (by simpa [Writable] using writable) (by simpa [chars] using mem)
  | .string _, _ => fun _ mem => printable_stringChars (by simpa [chars] using mem)
  | .array items, writable => by
      intro c mem
      simp only [Writable] at writable
      rw [chars, List.mem_cons, List.mem_append, List.mem_singleton] at mem
      rcases mem with rfl | mem | rfl
      · decide
      · exact printable_itemChars items writable c mem
      · decide
  | .object members, writable => by
      intro c mem
      simp only [Writable] at writable
      rw [chars, List.mem_cons, List.mem_append, List.mem_singleton] at mem
      rcases mem with rfl | mem | rfl
      · decide
      · exact printable_memberChars members writable c mem
      · decide

theorem printable_itemChars :
    (items : List Json) → WritableItems items → ∀ c ∈ itemChars items, 32 ≤ c.toNat
  | [], _ => by simp [itemChars]
  | [item], writable => by
      rw [itemChars]
      exact printable_chars item writable.1
  | item :: next :: items, writable => by
      intro c mem
      rw [itemChars, List.mem_append, List.mem_cons] at mem
      rcases mem with mem | rfl | mem
      · exact printable_chars item writable.1 c mem
      · decide
      · exact printable_itemChars (next :: items) writable.2 c mem

theorem printable_memberChars :
    (members : List (Option String × Json)) → WritableMembers members →
      ∀ c ∈ memberChars members, 32 ≤ c.toNat
  | [], _ => by simp [memberChars]
  | [(name, value)], writable => by
      intro c mem
      rw [memberChars, List.mem_append, List.mem_cons] at mem
      rcases mem with mem | rfl | mem
      · exact printable_stringChars mem
      · decide
      · exact printable_chars value writable.2.1 c mem
  | (name, value) :: next :: members, writable => by
      intro c mem
      rw [memberChars, List.mem_append, List.mem_cons, List.mem_append, List.mem_cons] at mem
      rcases mem with mem | rfl | mem | rfl | mem
      · exact printable_stringChars mem
      · decide
      · exact printable_chars value writable.2.1 c mem
      · decide
      · exact printable_memberChars (next :: members) writable.2.2 c mem

end

theorem markText_of_printable {c : Char} (printable : 32 ≤ c.toNat) : markText c = c := by
  have no_stray : c ≠ strayMark := by
    rintro rfl
    exact absurd printable (by decide)
  rw [markText, if_neg no_stray]

theorem map_markText {cs : List Char} (printable : ∀ c ∈ cs, 32 ≤ c.toNat) :
    cs.map markText = cs :=
  (List.map_congr_left fun c mem => markText_of_printable (printable c mem)).trans cs.map_id

/-- The text of a value is read back as the value. -/
theorem read_render {value : Json} (writable : Writable value) :
    read value.render = some value := by
  rw [read, render, String.toList_ofList, map_markText (printable_chars value writable)]
  exact readChars_chars writable

end PartsList.Json
