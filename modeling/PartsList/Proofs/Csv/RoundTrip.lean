import PartsList.Csv

/-!
# Records read back

A reader of comma separated values finds the records of which a text was written, if each of them
shows: a record without fields and one whose only field is empty are lines without a character, over
which a reader passes.
-/

namespace PartsList

namespace Csv

variable {reader after : Reader} {field : List Char}

namespace Reader

/-- The reader has read all of a field of which the other had read nothing. -/
structure HasRead (reader after : Reader) (field : List Char) : Prop where
  /-- It holds the field. -/
  holds : after.field = field.reverse
  /-- The fields before are kept. -/
  fields : after.fields = reader.fields
  /-- The records before are kept. -/
  records : after.records = reader.records
  /-- It is not inside of quotes. -/
  unquoted : after.state ≠ .quoted
  /-- In front of a field it has read nothing. -/
  blank : after.state = .start → field = []

theorem foldl_doubleQuotes (chars : List Char) (quoted : reader.state = .quoted) :
    (doubleQuotes chars).foldl step reader =
      { reader with field := chars.reverse ++ reader.field } := by
  induction chars generalizing reader with
  | nil => rfl
  | cons c rest induction =>
    have pushed : (reader.push .quoted c).state = .quoted := rfl
    by_cases quote : c = '"'
    · subst quote
      have twice : (reader.step '"').step '"' = reader.push .quoted '"' := by
        simp [step, quoted, push]
      rw [doubleQuotes, if_pos rfl, List.foldl_cons, List.foldl_cons, twice, induction pushed]
      simp [push, quoted]
    · have once : reader.step c = reader.push .quoted c := by
        simp [step, quoted, quote]
      rw [doubleQuotes, if_neg quote, List.foldl_cons, once, induction pushed]
      simp [push, quoted]

theorem stepPlain_of_not_isSpecial {c : Char} (plain : isSpecial c = false) :
    reader.stepPlain c = reader.push .plain c := by
  simp only [isSpecial, Bool.or_eq_false_iff, beq_eq_false_iff_ne] at plain
  obtain ⟨⟨⟨comma, -⟩, carriage⟩, newline⟩ := plain
  simp [stepPlain, comma, carriage, newline]

theorem foldl_plain (chars : List Char) (plain : chars.any isSpecial = false)
    (unquoted : reader.state = .plain) :
    chars.foldl step reader = { reader with field := chars.reverse ++ reader.field } := by
  induction chars generalizing reader with
  | nil => rfl
  | cons c rest induction =>
    obtain ⟨first, others⟩ := Bool.or_eq_false_iff.1 plain
    have pushed : (reader.push .plain c).state = .plain := rfl
    have once : reader.step c = reader.push .plain c := by
      simp [step, unquoted, stepPlain_of_not_isSpecial first]
    rw [List.foldl_cons, once, induction others pushed]
    simp [push, unquoted]

theorem hasRead_fieldChars (field : List Char) (start : reader.state = .start)
    (empty : reader.field = []) :
    HasRead reader ((fieldChars field).foldl step reader) field := by
  by_cases special : field.any isSpecial = true
  · -- The quotes take the reader in and out, so that it stands behind the second of them.
    have read : (fieldChars field).foldl step reader =
        { reader with state := .closing, field := field.reverse } := by
      simp only [fieldChars, special, ↓reduceIte, List.foldl_cons, List.foldl_append,
        List.foldl_nil]
      rw [foldl_doubleQuotes field (by simp [step, start])]
      simp [step, start, empty]
    rw [read]
    exact ⟨rfl, rfl, rfl, by simp, by simp⟩
  · have plain : field.any isSpecial = false := Bool.eq_false_iff.2 special
    rw [fieldChars, if_neg special]
    cases field with
    | nil => exact ⟨by simp [empty], rfl, rfl, by simp [start], fun _ => rfl⟩
    | cons c rest =>
      obtain ⟨first, others⟩ := Bool.or_eq_false_iff.1 plain
      have unquote : c ≠ '"' := by
        rintro rfl
        simp [isSpecial] at first
      have pushed : (reader.push .plain c).state = .plain := rfl
      have once : reader.step c = reader.push .plain c := by
        simp [step, start, unquote, stepPlain_of_not_isSpecial first]
      rw [List.foldl_cons, once, foldl_plain rest others pushed]
      exact ⟨by simp [push, empty], rfl, rfl, by simp [push], by simp [push]⟩

/-- The reader in front of a field of a record. -/
def before (fields : List String) (records : List (List String)) : Reader where
  fields := fields
  records := records

theorem HasRead.step_comma {fields : List String} {records : List (List String)}
    (read : HasRead (before fields records) after field) :
    after.step ',' = before (String.ofList field :: fields) records := by
  have ended : after.endField = before (String.ofList field :: fields) records := by
    simp [endField, read.holds, read.fields, read.records, before]
  cases state : after.state with
  | start => simpa [step, state, stepPlain] using ended
  | plain => simpa [step, state, stepPlain] using ended
  | quoted => exact (read.unquoted state).elim
  | closing => simpa [step, state, stepPlain, endField] using ended

theorem HasRead.step_newline {fields : List String} {records : List (List String)}
    (read : HasRead (before fields records) after field) (shown : fields ≠ [] ∨ field ≠ []) :
    after.step '\n' = before [] ((String.ofList field :: fields).reverse :: records) := by
  have ended :
      after.endRecord = before [] ((String.ofList field :: fields).reverse :: records) := by
    simp [endRecord, endField, read.holds, read.fields, read.records, before]
  cases state : after.state with
  | start =>
    have middle : after.atRecordStart = false := by
      have fields_ne : fields ≠ [] := shown.resolve_right (fun ne => ne (read.blank state))
      simpa [atRecordStart, state, read.fields, before] using fields_ne
    simpa [step, state, stepPlain, middle] using ended
  | plain => simpa [step, state, stepPlain, atRecordStart] using ended
  | quoted => exact (read.unquoted state).elim
  | closing => simpa [step, state, stepPlain, atRecordStart, endRecord, endField] using ended

end Reader

open Reader

theorem foldl_fieldsChars (fields : List (List Char)) (done : List String)
    (records : List (List String)) (ne : fields ≠ []) (shown : done ≠ [] ∨ fields ≠ [[]]) :
    (fieldsChars fields ++ ['\n']).foldl step (before done records) =
      before [] ((done.reverse ++ fields.map String.ofList) :: records) := by
  induction fields generalizing done with
  | nil => exact (ne rfl).elim
  | cons field rest induction =>
    have read := @hasRead_fieldChars (before done records) field rfl rfl
    cases rest with
    | nil =>
      rw [fieldsChars, List.foldl_append, List.foldl_cons, List.foldl_nil,
        read.step_newline (shown.imp_right fun ne eq => ne (by rw [eq]))]
      simp
    | cons next rest =>
      rw [fieldsChars, List.append_assoc, List.foldl_append, List.cons_append, List.foldl_cons,
        read.step_comma, induction (String.ofList field :: done) (by simp) (.inl (by simp))]
      simp

/-- The record is more than a line without a character. -/
def Shows (fields : List String) : Prop :=
  fields ≠ [] ∧ fields ≠ [""]

theorem foldl_recordChars {fields : List String} (shows : Shows fields)
    (records : List (List String)) :
    (recordChars fields).foldl step (before [] records) = before [] (fields :: records) := by
  have one : fields.map String.toList ≠ [[]] := by
    intro eq
    obtain ⟨field, rfl, empty⟩ := List.map_eq_singleton_iff.1 eq
    exact shows.2 (by rw [String.toList_eq_nil_iff.1 empty])
  rw [recordChars, foldl_fieldsChars _ _ _ (by simpa using shows.1) (.inr one)]
  simp [Function.comp_def, String.ofList_toList]

theorem foldl_records {texts : List (List String)} (shows : ∀ fields ∈ texts, Shows fields)
    (records : List (List String)) :
    (texts.flatMap recordChars).foldl step (before [] records) =
      before [] (texts.reverse ++ records) := by
  induction texts generalizing records with
  | nil => rfl
  | cons fields rest induction =>
    rw [List.flatMap_cons, List.foldl_append, foldl_recordChars (shows _ List.mem_cons_self),
      induction fun fields mem => shows fields (List.mem_cons_of_mem _ mem)]
    simp

/-- A reader finds the records of which a text was written. -/
theorem read_write {records : List (List String)} (shows : ∀ fields ∈ records, Shows fields) :
    read (write records) = records := by
  rw [read, write, String.toList_ofList]
  have done := foldl_records shows []
  rw [before] at done
  rw [done]
  simp [before, finish, atRecordStart]

end Csv

end PartsList
