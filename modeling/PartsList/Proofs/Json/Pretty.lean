import PartsList.Proofs.Json.RoundTrip
import PartsList.Proofs.Text.Utf8

/-!
# Reading back what was spread over lines

The reader passes over the blanks between the parts of a value, so a text that is spread over lines
is read back as well.
-/

namespace PartsList.Json

theorem isSpace_newLine {level : Nat} {c : Char} (mem : c ∈ newLine level) : isSpace c = true := by
  rcases List.mem_cons.1 mem with rfl | mem
  · rfl
  · rw [(List.mem_replicate.1 mem).2]
    rfl

/-- A new line in front of a character that is no blank is passed over. -/
theorem skipSpace_newLine (level : Nat) {c : Char} (solid : isSpace c = false) (rest : List Char) :
    skipSpace (newLine level ++ c :: rest) = c :: rest := by
  rw [skipSpace_append (fun _ => isSpace_newLine), skipSpace_cons solid]

theorem closes_newLine (level : Nat) (rest : List Char) : Closes (newLine level ++ rest) := by
  intro c same
  cases same
  decide

/-! ## Blanks in front -/

theorem readValue_blank {blank : List Char} (all : ∀ c ∈ blank, isSpace c) (fuel : Nat)
    (input : List Char) : readValue fuel (blank ++ input) = readValue fuel input := by
  cases fuel with
  | zero => rw [readValue, readValue]
  | succ fuel => rw [readValue, readValue, skipSpace_append all]

theorem readItems_blank {blank : List Char} (all : ∀ c ∈ blank, isSpace c) (fuel : Nat)
    (input : List Char) : readItems fuel (blank ++ input) = readItems fuel input := by
  cases fuel with
  | zero => rw [readItems, readItems]
  | succ fuel => rw [readItems, readItems, readValue_blank all]

theorem readMembers_blank {blank : List Char} (all : ∀ c ∈ blank, isSpace c) (fuel : Nat)
    (input : List Char) : readMembers fuel (blank ++ input) = readMembers fuel input := by
  cases fuel with
  | zero => rw [readMembers, readMembers]
  | succ fuel => rw [readMembers, readMembers, skipSpace_append all]

/-! ## Values -/

/-- What has no parts is written as on one line. -/
theorem prettyChars_of_flat {value : Json} (array : ∀ item items, value ≠ .array (item :: items))
    (object : ∀ member members, value ≠ .object (member :: members)) (level : Nat) :
    prettyChars level value = chars value := by
  cases value with
  | null => rw [prettyChars, chars]
  | bool value => cases value <;> rw [prettyChars, chars]
  | number => rw [prettyChars, chars]
  | string => rw [prettyChars, chars]
  | array items =>
      cases items with
      | nil => rw [prettyChars, chars, itemChars, List.nil_append]
      | cons item items => exact absurd rfl (array item items)
  | object members =>
      cases members with
      | nil => rw [prettyChars, chars, memberChars, List.nil_append]
      | cons member members => exact absurd rfl (object member members)

/-- The text of a value begins with a character that is no blank and closes nothing. -/
theorem prettyChars_cons {value : Json} (writable : Writable value) (level : Nat) :
    ∃ c cs, prettyChars level value = c :: cs ∧ isSpace c = false ∧ c ≠ ']' := by
  by_cases array : ∃ item items, value = .array (item :: items)
  · obtain ⟨item, items, rfl⟩ := array
    exact ⟨'[', _, by rw [prettyChars], by decide, by decide⟩
  · by_cases object : ∃ member members, value = .object (member :: members)
    · obtain ⟨member, members, rfl⟩ := object
      exact ⟨'{', _, by rw [prettyChars], by decide, by decide⟩
    · rw [prettyChars_of_flat (fun item items same => array ⟨item, items, same⟩)
        (fun member members same => object ⟨member, members, same⟩)]
      exact chars_cons writable

theorem prettyItems_cons (level : Nat) (item : Json) (items : List Json) (rest : List Char) :
    ∃ more, prettyItems level (item :: items) ++ rest =
      newLine level ++ (prettyChars level item ++ more) := by
  cases items with
  | nil => exact ⟨rest, by rw [prettyItems, List.append_assoc]⟩
  | cons next items => exact ⟨_, by rw [prettyItems, List.append_assoc, List.append_assoc]⟩

theorem prettyMembers_cons (level : Nat) (name : String) (value : Json)
    (members : List (Option String × Json)) (rest : List Char) :
    ∃ more, prettyMembers level ((some name, value) :: members) ++ rest =
      newLine level ++ '"' :: more := by
  cases members with
  | nil =>
      exact ⟨_, by rw [prettyMembers, List.append_assoc, List.append_assoc, stringChars_append]⟩
  | cons next members =>
      exact ⟨_, by rw [prettyMembers, List.append_assoc, List.append_assoc, stringChars_append]⟩

/-- With the given fuel, each value whose text is short enough is read back. -/
def ReadsPretty (fuel : Nat) : Prop :=
  ∀ level value rest, Writable value → Closes rest → 2 * (prettyChars level value).length ≤ fuel →
    readValue fuel (prettyChars level value ++ rest) = some (value, rest)

/-- With the given fuel, all items whose text is short enough are read back. -/
def ReadsPrettyItems (fuel : Nat) : Prop :=
  ∀ level outer items rest, items ≠ [] → WritableItems items →
    2 * (prettyItems level items).length + 1 ≤ fuel →
    readItems fuel (prettyItems level items ++ (newLine outer ++ ']' :: rest)) = some (items, rest)

/-- With the given fuel, all members whose text is short enough are read back. -/
def ReadsPrettyMembers (fuel : Nat) : Prop :=
  ∀ level outer members rest, members ≠ [] → WritableMembers members →
    2 * (prettyMembers level members).length + 1 ≤ fuel →
    readMembers fuel (prettyMembers level members ++ (newLine outer ++ '}' :: rest)) =
      some (members, rest)

theorem readsPretty_succ {fuel : Nat} (items_read : ReadsPrettyItems fuel)
    (members_read : ReadsPrettyMembers fuel) : ReadsPretty (fuel + 1) := by
  intro level value rest writable closes enough
  by_cases array : ∃ item items, value = .array (item :: items)
  · obtain ⟨item, items, rfl⟩ := array
    simp only [Writable] at writable
    rw [prettyChars, List.length_cons, List.length_append, List.length_append,
      List.length_singleton] at enough
    have read := items_read (level + 1) level (item :: items) rest (by simp) writable (by omega)
    obtain ⟨more, shape⟩ := prettyItems_cons (level + 1) item items (newLine level ++ ']' :: rest)
    obtain ⟨c, cs, item_eq, solid, open_⟩ := prettyChars_cons writable.1 (level + 1)
    rw [shape, readItems_blank (fun _ => isSpace_newLine), item_eq, List.cons_append] at read
    have text : prettyChars level (.array (item :: items)) ++ rest =
        '[' :: (newLine (level + 1) ++ c :: (cs ++ more)) := by
      rw [item_eq, List.cons_append] at shape
      rw [prettyChars, ← shape]
      simp [List.append_assoc]
    rw [text, readValue, skipSpace_cons (by decide)]
    simp only
    rw [skipSpace_newLine _ solid]
    split
    · next same => cases same; exact absurd rfl open_
    · simp [read]
  · by_cases object : ∃ member members, value = .object (member :: members)
    · obtain ⟨⟨name, value⟩, members, rfl⟩ := object
      simp only [Writable] at writable
      obtain ⟨name, rfl⟩ := Option.isSome_iff_exists.mp writable.1
      rw [prettyChars, List.length_cons, List.length_append, List.length_append,
        List.length_singleton] at enough
      have read := members_read (level + 1) level ((some name, value) :: members) rest (by simp)
        writable (by omega)
      obtain ⟨more, shape⟩ := prettyMembers_cons (level + 1) name value members
        (newLine level ++ '}' :: rest)
      rw [shape, readMembers_blank (fun _ => isSpace_newLine)] at read
      have text : prettyChars level (.object ((some name, value) :: members)) ++ rest =
          '{' :: (newLine (level + 1) ++ '"' :: more) := by
        rw [prettyChars, ← shape]
        simp [List.append_assoc]
      rw [text, readValue, skipSpace_cons (by decide)]
      simp only
      rw [skipSpace_newLine _ (by decide)]
      simp [read]
    · have flat := prettyChars_of_flat (fun item items same => array ⟨item, items, same⟩)
        (fun member members same => object ⟨member, members, same⟩) level
      rw [flat] at enough ⊢
      exact readValue_append writable closes enough

theorem readsPrettyItems_succ {fuel : Nat} (values_read : ReadsPretty fuel)
    (items_read : ReadsPrettyItems fuel) : ReadsPrettyItems (fuel + 1) := by
  intro level outer items rest some_items writable enough
  match items with
  | [] => exact absurd rfl some_items
  | [item] =>
      rw [prettyItems, List.length_append] at enough
      rw [prettyItems, List.append_assoc, readItems_blank (fun _ => isSpace_newLine)]
      exact readItems_last
        (values_read level item _ writable.1 (closes_newLine outer _) (by omega))
        (skipSpace_newLine outer (by decide) rest)
  | item :: next :: items =>
      simp only [prettyItems, List.length_append, List.length_cons] at enough
      rw [prettyItems, List.append_assoc, List.append_assoc, List.cons_append,
        readItems_blank (fun _ => isSpace_newLine)]
      exact readItems_next
        (values_read level item _ writable.1 (closes_cons (by simp) _) (by omega))
        (items_read level outer (next :: items) rest (by simp) writable.2 (by omega))

theorem readsPrettyMembers_succ {fuel : Nat} (values_read : ReadsPretty fuel)
    (members_read : ReadsPrettyMembers fuel) : ReadsPrettyMembers (fuel + 1) := by
  intro level outer members rest some_members writable enough
  have blank : ∀ c ∈ [' '], isSpace c := List.forall_mem_singleton.2 (by decide)
  match members with
  | [] => exact absurd rfl some_members
  | [(name, value)] =>
      obtain ⟨some_name, value_writable, -⟩ := writable
      obtain ⟨name, rfl⟩ := Option.isSome_iff_exists.mp some_name
      simp only [prettyMembers, List.length_append, List.length_cons] at enough
      simp only [prettyMembers, List.append_assoc, List.cons_append]
      rw [readMembers_blank (fun _ => isSpace_newLine)]
      refine readMembers_last ?_ (skipSpace_newLine outer (by decide) rest)
      exact (readValue_blank blank fuel _).trans
        (values_read level value _ value_writable (closes_newLine outer _) (by omega))
  | (name, value) :: next :: members =>
      obtain ⟨some_name, value_writable, members_writable⟩ := writable
      obtain ⟨name, rfl⟩ := Option.isSome_iff_exists.mp some_name
      simp only [prettyMembers, List.length_append, List.length_cons] at enough
      rw [prettyMembers]
      simp only [List.append_assoc, List.cons_append]
      rw [readMembers_blank (fun _ => isSpace_newLine)]
      refine readMembers_next ?_
        (members_read level outer (next :: members) rest (by simp) members_writable (by omega))
      exact (readValue_blank blank fuel _).trans
        (values_read level value _ value_writable (closes_cons (by simp) _) (by omega))

theorem reads_pretty (fuel : Nat) :
    ReadsPretty fuel ∧ ReadsPrettyItems fuel ∧ ReadsPrettyMembers fuel := by
  induction fuel with
  | zero =>
      refine ⟨?_, ?_, ?_⟩
      · intro level value rest writable closes enough
        obtain ⟨c, cs, chars_eq, -⟩ := prettyChars_cons writable level
        rw [chars_eq, List.length_cons] at enough
        omega
      · intro level outer items rest some_items writable enough
        omega
      · intro level outer members rest some_members writable enough
        omega
  | succ fuel induction =>
      obtain ⟨values_read, items_read, members_read⟩ := induction
      exact ⟨readsPretty_succ items_read members_read,
        readsPrettyItems_succ values_read items_read,
        readsPrettyMembers_succ values_read members_read⟩

theorem readChars_prettyChars {value : Json} (writable : Writable value) :
    readChars (prettyChars 0 value) = some value := by
  have read := (reads_pretty (2 * (prettyChars 0 value).length + 2)).1 0 value [] writable
    closes_nil (by omega)
  rw [List.append_nil] at read
  simp only [readChars, read, Option.bind_eq_bind, Option.bind_some]
  rfl

/-! ## Bytes

No character of the text stands for a stray byte to the reader. -/

theorem unmarked_of_all {text : List Char} (all : text.all (· != strayMark) = true) :
    ∀ c ∈ text, c ≠ strayMark := by
  simpa using all

theorem unmarked_of_printable {c : Char} (printable : 32 ≤ c.toNat) : c ≠ strayMark := by
  rintro rfl
  exact absurd printable (by decide)

theorem unmarked_newLine {level : Nat} {c : Char} (mem : c ∈ newLine level) : c ≠ strayMark := by
  rintro rfl
  exact absurd (isSpace_newLine mem) (by decide)

mutual

theorem unmarked_prettyChars (level : Nat) :
    (value : Json) → Writable value → ∀ c ∈ prettyChars level value, c ≠ strayMark
  | .null, _ => by rw [prettyChars]; exact unmarked_of_all (by decide)
  | .bool true, _ => by rw [prettyChars]; exact unmarked_of_all (by decide)
  | .bool false, _ => by rw [prettyChars]; exact unmarked_of_all (by decide)
  | .number n, writable => by
      rw [prettyChars]
      exact fun c mem =>
        unmarked_of_printable (printable_numeral (by simpa [Writable] using writable) mem)
  | .string text, _ => by
      rw [prettyChars]
      exact fun c mem => unmarked_of_printable (printable_stringChars mem)
  | .array [], _ => by rw [prettyChars]; exact unmarked_of_all (by decide)
  | .object [], _ => by rw [prettyChars]; exact unmarked_of_all (by decide)
  | .array (item :: items), writable => by
      intro c mem
      simp only [Writable] at writable
      rw [prettyChars, List.mem_cons, List.mem_append, List.mem_append, List.mem_singleton] at mem
      rcases mem with rfl | (mem | mem) | rfl
      · decide
      · exact unmarked_prettyItems (level + 1) (item :: items) writable c mem
      · exact unmarked_newLine mem
      · decide
  | .object (member :: members), writable => by
      intro c mem
      simp only [Writable] at writable
      rw [prettyChars, List.mem_cons, List.mem_append, List.mem_append, List.mem_singleton] at mem
      rcases mem with rfl | (mem | mem) | rfl
      · decide
      · exact unmarked_prettyMembers (level + 1) (member :: members) writable c mem
      · exact unmarked_newLine mem
      · decide

theorem unmarked_prettyItems (level : Nat) :
    (items : List Json) → WritableItems items → ∀ c ∈ prettyItems level items, c ≠ strayMark
  | [], _ => by simp [prettyItems]
  | [item], writable => by
      intro c mem
      rw [prettyItems, List.mem_append] at mem
      rcases mem with mem | mem
      · exact unmarked_newLine mem
      · exact unmarked_prettyChars level item writable.1 c mem
  | item :: next :: items, writable => by
      intro c mem
      rw [prettyItems, List.mem_append, List.mem_append, List.mem_cons] at mem
      rcases mem with (mem | mem) | rfl | mem
      · exact unmarked_newLine mem
      · exact unmarked_prettyChars level item writable.1 c mem
      · decide
      · exact unmarked_prettyItems level (next :: items) writable.2 c mem

theorem unmarked_prettyMembers (level : Nat) :
    (members : List (Option String × Json)) → WritableMembers members →
      ∀ c ∈ prettyMembers level members, c ≠ strayMark
  | [], _ => by simp [prettyMembers]
  | [(name, value)], writable => by
      intro c mem
      rw [prettyMembers, List.mem_append, List.mem_append, List.mem_cons, List.mem_cons] at mem
      rcases mem with (mem | mem) | rfl | rfl | mem
      · exact unmarked_newLine mem
      · exact unmarked_of_printable (printable_stringChars mem)
      · decide
      · decide
      · exact unmarked_prettyChars level value writable.2.1 c mem
  | (name, value) :: next :: members, writable => by
      intro c mem
      rw [prettyMembers, List.mem_append, List.mem_append, List.mem_cons, List.mem_cons,
        List.mem_append, List.mem_cons] at mem
      rcases mem with (mem | mem) | rfl | rfl | mem | rfl | mem
      · exact unmarked_newLine mem
      · exact unmarked_of_printable (printable_stringChars mem)
      · decide
      · decide
      · exact unmarked_prettyChars level value writable.2.1 c mem
      · decide
      · exact unmarked_prettyMembers level (next :: members) writable.2.2 c mem

end

/-- The bytes of a text that is spread over lines are read back as the value. -/
theorem readBytes_renderPretty {value : Json} (writable : Writable value) :
    readBytes (Disk.bytesOf value.renderPretty) = some value := by
  have marked : (prettyChars 0 value).map markText = prettyChars 0 value :=
    (List.map_congr_left fun c mem =>
      if_neg (unmarked_prettyChars 0 value writable c mem)).trans (List.map_id _)
  rw [readBytes, Utf8.decode_bytesOf, renderPretty, String.toList_ofList, List.map_map]
  exact (congrArg readChars marked).trans (readChars_prettyChars writable)

end PartsList.Json
