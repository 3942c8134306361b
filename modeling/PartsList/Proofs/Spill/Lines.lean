import PartsList.Proofs.Json.Torn
import PartsList.Proofs.Result.RoundTrip
import PartsList.Proofs.Text.Utf8
import PartsList.Spill

/-!
# Lines behind any content

What the lines of results hold that are added to a file, whatever the file held.  They are read back
as they are, except that the first of them joins the part behind the last line end, which it has to
share its line with.
-/

namespace PartsList

namespace SpillContent

/-- The part behind the last line end. -/
def tornTail (bytes : List UInt8) : List UInt8 :=
  (bytes.reverse.takeWhile (· != lineFeed)).reverse

/-- The part up to the last line end. -/
def wholeLines (bytes : List UInt8) : List UInt8 :=
  (bytes.reverse.dropWhile (· != lineFeed)).reverse

/-- The bytes are empty or end a line. -/
def EndsLine (bytes : List UInt8) : Prop :=
  bytes = [] ∨ bytes.getLast? = some lineFeed

/-- All bytes are blanks of the format. -/
def AreBlanks (bytes : List UInt8) : Prop :=
  ∀ byte ∈ bytes, byte = 32 ∨ byte = 9 ∨ byte = 13

instance (bytes : List UInt8) : Decidable (AreBlanks bytes) :=
  List.decidableBAll _ bytes

/-- There is nothing behind the last line end but blanks of the format. -/
def EndsClean (bytes : List UInt8) : Prop :=
  ∀ byte ∈ tornTail bytes, byte = 32 ∨ byte = 9 ∨ byte = 13

instance (bytes : List UInt8) : Decidable (EndsClean bytes) :=
  inferInstanceAs (Decidable (AreBlanks (tornTail bytes)))

theorem wholeLines_append_tornTail (bytes : List UInt8) :
    wholeLines bytes ++ tornTail bytes = bytes := by
  rw [wholeLines, tornTail, ← List.reverse_append, List.takeWhile_append_dropWhile,
    List.reverse_reverse]

theorem not_mem_tornTail (bytes : List UInt8) : lineFeed ∉ tornTail bytes := by
  intro mem
  have other := List.mem_takeWhile_imp (List.mem_reverse.1 mem)
  simp at other

theorem endsLine_wholeLines (bytes : List UInt8) : EndsLine (wholeLines bytes) := by
  unfold EndsLine wholeLines
  rw [List.reverse_eq_nil_iff, List.getLast?_reverse]
  cases left : bytes.reverse.dropWhile (· != lineFeed) with
  | nil => exact Or.inl rfl
  | cons byte rest =>
      have stop := List.head?_dropWhile_not (· != lineFeed) bytes.reverse
      rw [left] at stop
      simpa using stop

theorem EndsLine.append {front more : List UInt8} (first : EndsLine front) (ends : EndsLine more) :
    EndsLine (front ++ more) := by
  rcases ends with rfl | last
  · rwa [List.append_nil]
  · exact Or.inr (by rw [List.getLast?_append, last, Option.some_or])

/-- Whole lines behind clean bytes leave them clean. -/
theorem EndsClean.append {front more : List UInt8} (clean : EndsClean front)
    (ends : EndsLine more) : EndsClean (front ++ more) := by
  rcases ends with rfl | last
  · rwa [List.append_nil]
  · obtain ⟨line, rfl⟩ := List.getLast?_eq_some_iff.1 last
    unfold EndsClean tornTail
    rw [← List.append_assoc, List.reverse_append, List.reverse_singleton, List.singleton_append,
      List.takeWhile_cons_of_neg (by simp)]
    exact nofun

theorem EndsLine.clean {bytes : List UInt8} (ends : EndsLine bytes) : EndsClean bytes :=
  @EndsClean.append [] bytes nofun ends

theorem splitLines_ne_nil {bytes : List UInt8} (some : bytes ≠ []) : splitLines bytes ≠ [] := by
  cases bytes with
  | nil => exact absurd rfl some
  | cons byte bytes =>
      unfold splitLines
      split
      · exact nofun
      · split <;> exact nofun

theorem splitLines_append {front : List UInt8} (ends : EndsLine front) (rest : List UInt8) :
    splitLines (front ++ rest) = splitLines front ++ splitLines rest := by
  induction front with
  | nil => rfl
  | cons byte front induction =>
      rw [List.cons_append]
      by_cases stop : byte = lineFeed
      · have ends' : EndsLine front := by
          cases front with
          | nil => exact Or.inl rfl
          | cons next front => exact Or.inr (by simpa [EndsLine] using ends)
        rw [splitLines, if_pos stop, splitLines, if_pos stop, induction ends', List.cons_append]
      · have more : front ≠ [] := by
          rintro rfl
          simp [EndsLine, stop] at ends
        have ends' : EndsLine front := by
          refine Or.inr ?_
          obtain ⟨next, front, rfl⟩ := List.exists_cons_of_ne_nil more
          simpa [EndsLine] using ends
        obtain ⟨line, lines, split⟩ := List.exists_cons_of_ne_nil (splitLines_ne_nil more)
        rw [splitLines, if_neg stop, splitLines, if_neg stop, induction ends', split]
        rfl

theorem splitLines_line {line : List UInt8} (one : lineFeed ∉ line) (rest : List UInt8) :
    splitLines (line ++ lineFeed :: rest) = line :: splitLines rest := by
  induction line with
  | nil => rw [List.nil_append, splitLines, if_pos rfl]
  | cons byte line induction =>
      obtain ⟨other, one⟩ := not_or.1 (mt List.mem_cons.2 one)
      rw [List.cons_append, splitLines, if_neg (Ne.symm other), induction one]

theorem splitLines_part {line : List UInt8} (some : line ≠ []) (one : lineFeed ∉ line) :
    splitLines line = [line] := by
  induction line with
  | nil => exact absurd rfl some
  | cons byte line induction =>
      obtain ⟨other, one⟩ := not_or.1 (mt List.mem_cons.2 one)
      rw [splitLines, if_neg (Ne.symm other)]
      cases line with
      | nil => rfl
      | cons next line => rw [induction nofun one]

theorem foldr_addLine (lines : List (List UInt8)) (content : SpillContent) :
    lines.foldr (fun line content => addLine (readLine line) content) content =
      { results := (lines.foldr (fun line content => addLine (readLine line) content) {}).results ++
          content.results
        skipped := (lines.foldr (fun line content => addLine (readLine line) content) {}).skipped +
          content.skipped } := by
  induction lines with
  | nil => simp
  | cons line lines induction =>
      rw [List.foldr_cons, List.foldr_cons, induction]
      cases readLine line with
      | blank => rfl
      | result result => rfl
      | unreadable => simp [addLine, Nat.add_right_comm]

/-- Whole lines hold what they hold whatever follows. -/
theorem ofBytes_append {front : List UInt8} (ends : EndsLine front) (rest : List UInt8) :
    ofBytes (front ++ rest) =
      { results := (ofBytes front).results ++ (ofBytes rest).results
        skipped := (ofBytes front).skipped + (ofBytes rest).skipped } := by
  rw [ofBytes, splitLines_append ends, List.foldr_append, foldr_addLine]
  rfl

theorem ofBytes_line {line : List UInt8} (one : lineFeed ∉ line) (rest : List UInt8) :
    ofBytes (line ++ lineFeed :: rest) = addLine (readLine line) (ofBytes rest) := by
  rw [ofBytes, splitLines_line one]
  rfl

end SpillContent

namespace ExtractionResult

theorem chars_toJson (result : ExtractionResult) :
    ∃ more, result.toJson.chars = '{' :: '"' :: 'f' :: more := by
  have name : Json.stringChars (some "filename") = '"' :: 'f' :: "ilename\"".toList := by decide
  rw [toJson, Json.record, List.map_cons, List.map_cons, Json.chars, Json.memberChars, name]
  exact ⟨_, rfl⟩

/-- A result is read behind blanks and behind nothing else. -/
theorem ofLine?_append {result : ExtractionResult} (fits : result.Fits) (torn : String) :
    ofLine? (torn ++ result.line) = if torn.toList.all Json.isSpace then some result else none := by
  obtain ⟨more, shape⟩ := result.chars_toJson
  have blank : (torn.toList.map Json.markText).all Json.isSpace = torn.toList.all Json.isSpace := by
    rw [List.all_map]
    congr 1
    funext c
    by_cases stray : c = Json.strayMark
    · subst stray
      decide
    · rw [Function.comp_apply, Json.markText, if_neg stray]
  rw [ofLine?, line, Json.read, String.toList_append, Json.render, String.toList_ofList,
    List.map_append, Json.map_markText (Json.printable_chars _ result.writable_toJson),
    Json.readChars_torn result.writable_toJson shape, blank]
  split
  · exact ofJson?_toJson fits
  · rfl

theorem lineFeed_not_mem_line (result : ExtractionResult) :
    SpillContent.lineFeed ∉ Disk.bytesOf result.line := by
  intro mem
  rw [Disk.bytesOf_eq] at mem
  obtain ⟨c, inside, mem⟩ := List.mem_flatMap.1 mem
  have printable := printable_line inside
  rcases Disk.mem_utf8EncodeChar mem with ⟨-, code⟩ | large
  · rw [← code] at printable
    exact absurd printable (by decide)
  · exact absurd large (by decide)

end ExtractionResult

namespace SpillContent

theorem all_isSpace_iff {text : String} (one : lineFeed ∉ Disk.bytesOf text) :
    text.toList.all Json.isSpace ↔ AreBlanks (Disk.bytesOf text) := by
  rw [Disk.bytesOf_eq] at one ⊢
  rw [List.all_eq_true, AreBlanks]
  constructor
  · intro blank byte mem
    obtain ⟨c, inside, mem⟩ := List.mem_flatMap.1 mem
    have space := blank c inside
    simp only [Json.isSpace, Bool.or_eq_true, beq_iff_eq] at space
    rcases space with ((rfl | rfl) | rfl) | rfl
    · exact Or.inl (List.mem_singleton.1 mem)
    · exact absurd (List.mem_flatMap.2 ⟨_, inside, List.mem_singleton.2 rfl⟩) one
    · exact Or.inr (Or.inr (List.mem_singleton.1 mem))
    · exact Or.inr (Or.inl (List.mem_singleton.1 mem))
  · intro blank c inside
    obtain ⟨byte, bytes, encoded⟩ :=
      List.exists_cons_of_ne_nil (@String.utf8EncodeChar_ne_nil c)
    have mem : byte ∈ String.utf8EncodeChar c := encoded ▸ List.mem_cons_self
    have code := Disk.mem_utf8EncodeChar mem
    rcases blank byte (List.mem_flatMap.2 ⟨c, inside, mem⟩) with rfl | rfl | rfl
    all_goals
      rcases code with ⟨-, code⟩ | large
      · rw [← Char.ofNat_toNat c, ← code]
        decide
      · exact absurd large (by decide)

/-- A result's line is read behind blanks and behind nothing else. -/
theorem readLine_append {result : ExtractionResult} (fits : result.Fits) {torn : List UInt8}
    (one : lineFeed ∉ torn) :
    readLine (torn ++ Disk.bytesOf result.line) =
      if AreBlanks torn then .result result else .unreadable := by
  obtain ⟨more, shape⟩ := result.chars_toJson
  have chars : result.line.toList = '{' :: '"' :: 'f' :: more := by
    rw [ExtractionResult.line, Json.render, String.toList_ofList, shape]
  rw [readLine, Disk.textOf?_append chars (by decide)]
  cases read : Disk.textOf? torn with
  | none =>
      have some : ¬AreBlanks torn := by
        intro blank
        obtain ⟨text, rfl⟩ := Disk.exists_bytesOf_of_lt fun byte mem => by
          rcases blank byte mem with rfl | rfl | rfl <;> decide
        rw [Disk.textOf?_bytesOf] at read
        cases read
      rw [if_neg some]
      rfl
  | some text =>
      obtain rfl := Disk.textOf?_eq_some.1 read
      have solid : Text.isBlankText (text ++ result.line) = false := by
        rw [Text.isBlankText, String.toList_append, List.all_append, chars, List.all_cons]
        have brace : Text.isBlank '{' = false := by decide
        rw [brace, Bool.false_and, Bool.and_false]
      simp only [Option.map_some, solid, Bool.false_eq_true, if_false,
        ExtractionResult.ofLine?_append fits, all_isSpace_iff one]
      by_cases blank : AreBlanks (Disk.bytesOf text)
      · rw [if_pos blank, if_pos blank]
      · rw [if_neg blank, if_neg blank]

/-- Blanks hold nothing. -/
theorem ofBytes_blank {bytes : List UInt8} (one : lineFeed ∉ bytes)
    (blank : AreBlanks bytes) : ofBytes bytes = {} := by
  by_cases none : bytes = []
  · rw [none]
    rfl
  · obtain ⟨text, rfl⟩ := Disk.exists_bytesOf_of_lt fun byte mem => by
      rcases blank byte mem with rfl | rfl | rfl <;> decide
    have spaces := List.all_eq_true.1 ((all_isSpace_iff one).2 blank)
    have read : readLine (Disk.bytesOf text) = .blank := by
      rw [readLine, Disk.textOf?_bytesOf]
      refine if_pos (List.all_eq_true.2 fun c mem => ?_)
      have space := spaces c mem
      simp only [Json.isSpace, Bool.or_eq_true, beq_iff_eq] at space
      rcases space with ((rfl | rfl) | rfl) | rfl <;> decide
    rw [ofBytes, splitLines_part none one, List.foldr_cons, read]
    rfl

/-- The bytes of results' lines. -/
def linesOf (results : List ExtractionResult) : List UInt8 :=
  results.flatMap SpillFile.lineBytes

theorem lineBytes_append (result : ExtractionResult) (rest : List UInt8) :
    SpillFile.lineBytes result ++ rest = Disk.bytesOf result.line ++ lineFeed :: rest := by
  rw [SpillFile.lineBytes, Disk.bytesOf_append, List.append_assoc]
  rfl

theorem endsLine_lineBytes (result : ExtractionResult) : EndsLine (SpillFile.lineBytes result) := by
  have line := lineBytes_append result []
  rw [List.append_nil] at line
  rw [line]
  exact Or.inr List.getLast?_concat

theorem ofBytes_linesOf {results : List ExtractionResult} (fits : ∀ result ∈ results, result.Fits) :
    ofBytes (linesOf results) = { results := results } := by
  induction results with
  | nil => rfl
  | cons result results induction =>
      have read :=
        readLine_append (fits result List.mem_cons_self) (List.not_mem_nil (a := lineFeed))
      rw [List.nil_append, if_pos (show AreBlanks [] from List.forall_mem_nil _)] at read
      rw [linesOf, List.flatMap_cons, lineBytes_append, ofBytes_line result.lineFeed_not_mem_line,
        read, ← linesOf, induction fun other mem => fits other (List.mem_cons_of_mem _ mem)]
      rfl

/-- What a file holds to which lines of results were added. -/
theorem ofBytes_append_linesOf {results : List ExtractionResult}
    (fits : ∀ result ∈ results, result.Fits) (prior : List UInt8) :
    ofBytes (prior ++ linesOf results) =
      if results = [] ∨ EndsClean prior then
        { results := (ofBytes prior).results ++ results, skipped := (ofBytes prior).skipped }
      else
        { results := (ofBytes (wholeLines prior)).results ++ results.tail
          skipped := (ofBytes (wholeLines prior)).skipped + 1 } := by
  cases results with
  | nil => simp [linesOf]
  | cons result results =>
      have one := not_mem_tornTail prior
      have joined : lineFeed ∉ tornTail prior ++ Disk.bytesOf result.line := fun mem =>
        (List.mem_append.1 mem).elim one result.lineFeed_not_mem_line
      have whole : prior ++ linesOf (result :: results) = wholeLines prior ++
          ((tornTail prior ++ Disk.bytesOf result.line) ++ lineFeed :: linesOf results) := by
        rw [List.append_assoc, ← lineBytes_append, ← List.append_assoc,
          wholeLines_append_tornTail]
        rfl
      have read : readLine (tornTail prior ++ Disk.bytesOf result.line) =
          if EndsClean prior then .result result else .unreadable :=
        readLine_append (fits result List.mem_cons_self) one
      rw [whole, ofBytes_append (endsLine_wholeLines prior), ofBytes_line joined, read,
        ofBytes_linesOf fun other mem => fits other (List.mem_cons_of_mem _ mem)]
      by_cases clean : EndsClean prior
      · have before := ofBytes_append (endsLine_wholeLines prior) (tornTail prior)
        rw [wholeLines_append_tornTail, ofBytes_blank one clean, List.append_nil] at before
        rw [if_pos clean, if_pos (Or.inr clean), before]
        rfl
      · rw [if_neg clean, if_neg (not_or.2 ⟨nofun, clean⟩)]
        rfl

end SpillContent

end PartsList
