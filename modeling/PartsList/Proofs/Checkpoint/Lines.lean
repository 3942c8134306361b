import PartsList.Proofs.Checkpoint.Reading
import PartsList.Proofs.Spill.Lines

/-!
# The lines of checkpoints

The text of a checkpoint is spread over lines, none of which is the line of a result: the first one
is a brace, and all others begin with a string or with the end of an array or record.
-/

namespace PartsList

open Disk

namespace Json

/-- The characters with which lines of a checkpoint's text begin, apart from the first one. -/
def lineMarks : List Char := ['"', ']', '\x7d']

/-- Every line break is followed by blanks, and then by a string or by the end of an array or
record. -/
def Continues (text : List Char) : Prop :=
  ∀ back, '\n' :: back <:+ text → ∃ count, ∃ c ∈ lineMarks, ∃ more,
    back = List.replicate count ' ' ++ c :: more

variable {text : List Char} {level : Nat} {c : Char}

theorem continues_nil : Continues [] :=
  fun _ there => nomatch List.suffix_nil.1 there

theorem Continues.suffix {behind : List Char} (continues : Continues text)
    (suffix : behind <:+ text) : Continues behind :=
  fun back there => continues back (there.trans suffix)

theorem Continues.append_line (line : List Char) (one : '\n' ∉ line) (continues : Continues text) :
    Continues (line ++ text) := by
  induction line with
  | nil => exact continues
  | cons c line induction =>
      obtain ⟨other, one⟩ := not_or.1 (mt List.mem_cons.2 one)
      intro back there
      rcases List.suffix_cons_iff.1 there with same | there
      · exact absurd (List.cons.inj same).1 other
      · exact induction one back there

theorem Continues.append_newLine (mark : c ∈ lineMarks) (continues : Continues (c :: text)) :
    Continues (newLine level ++ c :: text) := by
  intro back there
  rcases List.suffix_cons_iff.1 there with same | there
  · exact ⟨2 * level, c, mark, text, (List.cons.inj same).2⟩
  · have blank : '\n' ∉ List.replicate (2 * level) ' ' := fun mem =>
      absurd (List.mem_replicate.1 mem).2 (by decide)
    exact continues.append_line _ blank back there

theorem Continues.append_text (name : String) (continues : Continues text) :
    Continues (newLine level ++ (stringChars (some name) ++ text)) := by
  have one : '\n' ∉ stringChars (some name) := fun mem =>
    absurd (printable_stringChars mem) (by decide)
  have rest := continues.append_line _ one
  rw [stringChars_append] at rest ⊢
  exact rest.append_newLine (by decide)

theorem continues_prettyItems (level : Nat) (names : List String) (continues : Continues text) :
    Continues (prettyItems level (names.map Json.text) ++ text) := by
  induction names with
  | nil => rwa [List.map_nil, prettyItems]
  | cons name names induction =>
      cases names with
      | nil =>
          rw [List.map_singleton, prettyItems, List.append_assoc, Json.text, prettyChars]
          exact continues.append_text name
      | cons next names =>
          have comma := induction.append_line [','] (by decide)
          rw [List.map_cons, List.map_cons, prettyItems, List.append_assoc, List.append_assoc,
            Json.text, prettyChars]
          exact comma.append_text name

theorem continues_texts (level : Nat) (names : List String) (continues : Continues text) :
    Continues (prettyChars level (.array (names.map Json.text)) ++ text) := by
  have last := continues.append_line [']'] (by decide)
  cases names with
  | nil =>
      rw [List.map_nil, prettyChars]
      exact last.append_line ['['] (by decide)
  | cons name names =>
      have items := continues_prettyItems (level + 1) (name :: names)
        (@Continues.append_newLine text level ']' (by decide) last)
      have opened := items.append_line ['['] (by decide)
      rw [List.map_cons] at opened ⊢
      rw [prettyChars]
      simpa using opened

theorem continues_optionalText (level : Nat) (name : Option String) (continues : Continues text) :
    Continues (prettyChars level (.optionalText name) ++ text) := by
  cases name with
  | none =>
      rw [optionalText, Option.elim, prettyChars]
      exact continues.append_line _ (by decide)
  | some name =>
      rw [optionalText, Option.elim, Json.text, prettyChars]
      exact continues.append_line _ fun mem => absurd (printable_stringChars mem) (by decide)

/-- What begins with a string or with the end of an array or record is a string, if it is a
value. -/
theorem string_of_mark (mark : c ∈ lineMarks) {input : List Char} {value : Json} {count : Nat}
    (read : readChars (List.replicate count ' ' ++ c :: input) = some value) :
    ∃ name, value = .string name := by
  unfold readChars at read
  obtain ⟨⟨found, rest⟩, first, last⟩ := Option.bind_eq_some_iff.1 read
  have same : found = value := by
    dsimp only at last
    split at last
    · exact Option.some.inj last
    · cases last
  subst same
  have blank : ∀ c ∈ List.replicate count ' ', isSpace c := fun c mem => by
    rw [(List.mem_replicate.1 mem).2]
    rfl
  rw [readValue_blank blank] at first
  generalize 2 * _ + 2 = fuel at first
  cases fuel with
  | zero => cases first
  | succ fuel =>
      simp only [lineMarks, List.mem_cons, List.not_mem_nil, or_false] at mark
      rcases mark with rfl | rfl | rfl
      · rw [readValue, skipSpace_cons (by decide)] at first
        obtain ⟨⟨name, behind⟩, -, same⟩ := Option.bind_eq_some_iff.1 first
        cases same
        exact ⟨name, rfl⟩
      · rw [readValue, skipSpace_cons (by decide)] at first
        cases first
      · rw [readValue, skipSpace_cons (by decide)] at first
        cases first

end Json

namespace SpillContent

theorem readLine_ne_of_none {text : String} (none : ExtractionResult.ofLine? text = none)
    (result : ExtractionResult) : readLine (bytesOf text) ≠ .result result := by
  intro held
  rw [readLine, textOf?_bytesOf] at held
  dsimp only at held
  rw [none] at held
  split at held <;> cases held

/-- A line that is a string, if it is a value, is the line of no result. -/
theorem readLine_ne_result {c : Char} (mark : c ∈ Json.lineMarks) (count : Nat) (input : List Char)
    (result : ExtractionResult) :
    readLine (bytesOf (String.ofList (List.replicate count ' ' ++ c :: input))) ≠
      .result result := by
  refine readLine_ne_of_none ?_ result
  have blank : (List.replicate count ' ').map Json.markText = List.replicate count ' ' := by
    rw [List.map_replicate]
    rfl
  have marks : (Json.lineMarks.all fun c => decide (Json.markText c = c)) = true := by decide
  have plain := of_decide_eq_true (List.all_eq_true.1 marks c mark)
  rw [ExtractionResult.ofLine?, Json.read, String.toList_ofList, List.map_append, blank,
    List.map_cons, plain]
  cases read : Json.readChars (List.replicate count ' ' ++ c :: input.map Json.markText) with
  | none => rfl
  | some value =>
      obtain ⟨name, rfl⟩ := Json.string_of_mark mark read
      rfl

theorem results_addLine {line : LineContent} (none : ∀ result, line ≠ .result result)
    (content : SpillContent) : (addLine line content).results = content.results := by
  cases line with
  | result result => exact absurd rfl (none result)
  | blank => rfl
  | unreadable => rfl

theorem lineFeed_not_mem {line : List Char} (one : '\n' ∉ line) :
    lineFeed ∉ bytesOf (String.ofList line) := by
  intro mem
  rw [bytesOf_eq, String.toList_ofList] at mem
  obtain ⟨c, inside, mem⟩ := List.mem_flatMap.1 mem
  rcases mem_utf8EncodeChar mem with ⟨-, code⟩ | large
  · have same : c = '\n' := Char.toNat_inj.1 code.symm
    exact one (same ▸ inside)
  · exact absurd large (by decide)

/-- A text holds no results if its first line is that of none and each other line begins with a
string or with the end of an array or record. -/
theorem results_of_continues {text : List Char} (continues : Json.Continues text)
    (breaks : ∀ c, text.head? = some c → c = '\n') {line : List Char} (one : '\n' ∉ line)
    (none : ∀ result, readLine (bytesOf (String.ofList line)) ≠ .result result) :
    (ofBytes (bytesOf (String.ofList (line ++ text)))).results = [] := by
  induction size : text.length using Nat.strong_induction_on generalizing text line with
  | h n induction =>
      subst size
      have feed := lineFeed_not_mem one
      cases text with
      | nil =>
          rw [List.append_nil]
          by_cases empty : bytesOf (String.ofList line) = []
          · rw [empty]
            rfl
          · rw [ofBytes, splitLines_part empty feed, List.foldr_cons, results_addLine none]
            rfl
      | cons c back =>
          obtain rfl := breaks c rfl
          obtain ⟨count, mark, among, more, rfl⟩ := continues back List.suffix_rfl
          have split : List.replicate count ' ' ++ mark :: more =
              (List.replicate count ' ' ++ mark :: more.takeWhile (· != '\n')) ++
                more.dropWhile (· != '\n') := by
            rw [List.append_assoc, List.cons_append, List.takeWhile_append_dropWhile]
          have lines : bytesOf (String.ofList
                (line ++ '\n' :: (List.replicate count ' ' ++ mark :: more))) =
              bytesOf (String.ofList line) ++ lineFeed ::
                bytesOf (String.ofList (List.replicate count ' ' ++ mark :: more)) := by
            simp only [bytesOf_eq, String.toList_ofList, List.flatMap_append, List.flatMap_cons]
            rfl
          rw [lines, ofBytes_line feed, results_addLine none, split]
          refine induction _ ?_ (continues.suffix ?_) (fun c first => ?_) (fun mem => ?_)
            (readLine_ne_result among count _) rfl
          · have shorter := (List.dropWhile_suffix (l := more) (· != '\n')).length_le
            simp only [List.length_cons, List.length_append]
            omega
          · refine (List.dropWhile_suffix _).trans ?_
            exact ⟨'\n' :: List.replicate count ' ' ++ [mark], by simp⟩
          · have stop := List.head?_dropWhile_not (· != '\n') more
            rw [first] at stop
            simpa using stop
          · rcases List.mem_append.1 mem with mem | mem
            · exact absurd (List.mem_replicate.1 mem).2 (by decide)
            · rcases List.mem_cons.1 mem with rfl | mem
              · exact absurd among (by decide)
              · have other := List.mem_takeWhile_imp mem
                simp at other

end SpillContent

namespace Checkpoint

theorem continues_fileText (checkpoint : Checkpoint) : ∃ text,
    checkpoint.fileText = String.ofList (['\x7b'] ++ text) ∧ Json.Continues text ∧
      ∀ c, text.head? = some c → c = '\n' := by
  have last : Json.Continues (Json.newLine 0 ++ ['\x7d']) :=
    .append_newLine (by decide) (Json.continues_nil.append_line ['\x7d'] (by decide))
  have comma {text : List Char} (continues : Json.Continues text) : Json.Continues (',' :: text) :=
    continues.append_line [','] (by decide)
  have member {text : List Char} (name : String) (continues : Json.Continues text) :
      Json.Continues (Json.newLine 1 ++ (Json.stringChars (some name) ++ ':' :: ' ' :: text)) :=
    (continues.append_line [':', ' '] (by decide)).append_text name
  have paths {text : List Char} (set : PathSet) (continues : Json.Continues text) :
      Json.Continues (Json.prettyChars 1 set.toJson ++ text) := by
    have texts := Json.continues_texts 1 (set.paths.map Path.spelling) continues
    rwa [List.map_map] at texts
  have time := Json.continues_optionalText 1 (checkpoint.updatedAt.map Timestamp.write) last
  have text := member "completed" (paths checkpoint.completed (comma
    (member "failed" (paths checkpoint.failed (comma (member "updated_at" time))))))
  refine ⟨_, ?_, text, fun c first => (Option.some.inj first).symm⟩
  simp [fileText, Json.renderPretty, toJson, Json.record, Json.prettyChars, Json.prettyMembers]

/-- The text of a checkpoint holds no results. -/
theorem results_fileText (checkpoint : Checkpoint) :
    (SpillContent.ofBytes (bytesOf checkpoint.fileText)).results = [] := by
  obtain ⟨text, same, continues, breaks⟩ := continues_fileText checkpoint
  have brace : ExtractionResult.ofLine? (String.ofList ['\x7b']) = none := rfl
  rw [same]
  exact SpillContent.results_of_continues continues breaks (by decide)
    (SpillContent.readLine_ne_of_none brace)

end Checkpoint

end PartsList
