import PartsList.Proofs.Json.Cut
import PartsList.Proofs.Spill.Survival

/-!
# Spill files that end in a part of a line

A result's line is one line, and it is read back as the result.  A part of the line that was cut off
before its end, even in the middle of a character, is the line of nothing.  So what a crash leaves
of the last line of a spill file costs that line and no other.
-/

namespace PartsList

open Disk

namespace ExtractionResult

/-- A part of a result's line that ends before the line does describes no result. -/
theorem ofLine?_cut {result : ExtractionResult} {front back : String}
    (cut : front ++ back = result.line) (some_ : back ≠ "") : ofLine? front = none := by
  have chars : result.toJson.chars = front.toList ++ back.toList := by
    rw [← String.toList_append, cut, line, Json.render, String.toList_ofList]
  have plain : ∀ c ∈ front.toList, 32 ≤ c.toNat := by
    intro c mem
    refine printable_line (?_ : c ∈ result.line.toList)
    rw [← cut, String.toList_append]
    exact List.mem_append_left _ mem
  have writable := result.writable_toJson
  rw [ofLine?, Json.read, Json.map_markText plain]
  unfold toJson Json.record at chars writable
  rw [Json.readChars_cut writable chars fun none => some_ (String.toList_inj.1 none)]
  rfl

end ExtractionResult

namespace SpillContent

variable {result : ExtractionResult} {torn rest : List UInt8}

/-- A line that was cut off holds nothing. -/
theorem readLine_cut (cut : torn ++ rest = bytesOf result.line) (begun : torn ≠ [])
    (unfinished : rest ≠ []) : readLine torn = .unreadable := by
  unfold readLine
  split
  · rfl
  · next text read =>
      obtain rfl := textOf?_eq_some.1 read
      obtain ⟨back, whole, rfl⟩ := exists_append_of_bytesOf cut
      have some_ : back ≠ "" := by
        rintro rfl
        exact unfinished rfl
      have solid : ¬Text.isBlankText text := by
        obtain ⟨more, shape⟩ := result.chars_toJson
        have chars : text.toList ++ back.toList = '{' :: '"' :: 'f' :: more := by
          rw [← String.toList_append, whole, ExtractionResult.line, Json.render,
            String.toList_ofList, shape]
        cases first : text.toList with
        | nil =>
            rw [bytesOf_eq, first] at begun
            exact absurd rfl begun
        | cons c cs =>
            rw [first] at chars
            obtain ⟨rfl, -⟩ := List.cons.inj chars
            have brace : Text.isBlank '{' = false := by decide
            rw [Text.isBlankText, first, List.all_cons, brace, Bool.false_and]
            decide
      rw [if_neg solid, ExtractionResult.ofLine?_cut whole some_]

/-- Whole lines and a part of one more hold the results of the whole lines. -/
theorem ofBytes_linesOf_cut {results : List ExtractionResult}
    (fits : ∀ result ∈ results, result.Fits) (cut : torn ++ rest = bytesOf result.line)
    (unfinished : rest ≠ []) :
    ofBytes (linesOf results ++ torn) =
      { results := results, skipped := if torn = [] then 0 else 1 } := by
  have whole : EndsLine (linesOf results) := by
    induction results with
    | nil => exact Or.inl rfl
    | cons first results induction =>
        exact (endsLine_lineBytes first).append
          (induction fun other mem => fits other (List.mem_cons_of_mem _ mem))
  rw [ofBytes_append whole, ofBytes_linesOf fits]
  by_cases begun : torn = []
  · subst begun
    rw [if_pos rfl]
    simp [ofBytes, splitLines]
  · have one : lineFeed ∉ torn := fun mem =>
      result.lineFeed_not_mem_line (cut ▸ List.mem_append_left _ mem)
    have nothing : ofBytes torn = { results := [], skipped := 1 } := by
      rw [ofBytes, splitLines_part begun one, List.foldr_cons, readLine_cut cut begun unfinished]
      rfl
    rw [nothing, if_neg begun]
    simp

end SpillContent

/-- A result's line holds no line break, it is read back as the result, and no part of it that ends
before it is read as any result.  Results whose lines are followed by such a part of one more line,
cut off at any byte, are read back in their order, and the part is skipped. -/
theorem torn_lines_skipped {result : ExtractionResult} (fits : result.Fits) :
    ('\n' ∉ result.line.toList ∧ '\r' ∉ result.line.toList ∧
      ExtractionResult.ofLine? result.line = some result ∧
      ∀ front back, front ++ back = result.line → back ≠ "" →
        ExtractionResult.ofLine? front = none) ∧
    ∀ results : List ExtractionResult, (∀ other ∈ results, other.Fits) →
      ∀ torn rest, torn ++ rest = bytesOf result.line → rest ≠ [] →
        ∀ (path : Path) (disk : Disk) (id : FileId), disk.Leads path id →
          (disk.content? id).map Content.toBytes = some (SpillContent.linesOf results ++ torn) →
          (∀ error, disk.faults.head? ≠ some (some error)) →
            (Spill.read path disk).1 =
              .ok { results := results, skipped := if torn = [] then 0 else 1 } := by
  have printable {c : Char} (control : c.toNat < 32) : c ∉ result.line.toList := fun mem =>
    absurd (ExtractionResult.printable_line mem) (Nat.not_le_of_lt control)
  refine ⟨⟨printable (by decide), printable (by decide), ExtractionResult.ofLine?_line fits,
    fun front back => ExtractionResult.ofLine?_cut⟩, ?_⟩
  intro results fits' torn rest cut unfinished path disk id leads content calm
  rw [Spill.read, readFile_of_leads leads calm, content, Option.getD_some]
  exact congrArg Except.ok (SpillContent.ofBytes_linesOf_cut fits' cut unfinished)

/-- A file whose name takes two bytes for its first character. -/
def ExtractionResult.ofAccentedFile : ExtractionResult :=
  .failed ⟨"\u00e9.pdf"⟩ .fileEmpty "file is empty" {}

/-- The line of that file, cut off behind the first byte of its name. -/
def SpillContent.accentedPart : List UInt8 :=
  (bytesOf ExtractionResult.ofAccentedFile.line).take 14

/-- A disk with a spill file that ends in that part of a line. -/
def Disk.withAccentedSpill : Disk where
  entries := [(["worker-1.jsonl"], .file 0)]
  contents :=
    [(0, .ofBytes (SpillContent.linesOf [.ofEmptyFile] ++ SpillContent.accentedPart))]
  nextFile := 1

theorem torn_lines_skipped_accented :
    textOf? SpillContent.accentedPart = none ∧
      (Spill.read ⟨"worker-1.jsonl"⟩ .withAccentedSpill).1 =
        .ok { results := [.ofEmptyFile], skipped := 1 } := by
  have inside : textOf? SpillContent.accentedPart = none := by decide +kernel
  have leads : Disk.withAccentedSpill.Leads ⟨"worker-1.jsonl"⟩ 0 :=
    ⟨["worker-1.jsonl"], by decide +kernel⟩
  have unfinished : (bytesOf ExtractionResult.ofAccentedFile.line).drop 14 ≠ [] := by
    decide +kernel
  have begun : SpillContent.accentedPart ≠ [] := by decide +kernel
  have fits : ExtractionResult.ofAccentedFile.Fits :=
    ⟨nofun, ⟨by decide, by decide, by decide, nofun⟩, by decide⟩
  have fits' : ∀ other ∈ [ExtractionResult.ofEmptyFile], other.Fits := by
    intro other mem
    rw [List.mem_singleton.1 mem]
    exact ⟨nofun, ⟨by decide, by decide, by decide, nofun⟩, by decide⟩
  have content : (Disk.withAccentedSpill.content? 0).map Content.toBytes =
      some (SpillContent.linesOf [.ofEmptyFile] ++ SpillContent.accentedPart) := by
    simp [Disk.withAccentedSpill, content?, Content.ofBytes, Content.toBytes]
  have read := (torn_lines_skipped fits).2 _ fits' SpillContent.accentedPart _
    (List.take_append_drop _ _) unfinished ⟨"worker-1.jsonl"⟩ .withAccentedSpill 0 leads content
    (fun _ => by simp [Disk.withAccentedSpill])
  rw [if_neg begun] at read
  exact ⟨inside, read⟩

end PartsList
