import PartsList.Proofs.Json.RoundTrip
import PartsList.Result.Line

/-!
# Reading result lines

A result is read back from its line as it was, if its numbers fit their words and the text of its
figure reads back as the figure.
-/

namespace PartsList

namespace Json

theorem writable_text (value : String) : Writable (text value) := by
  simp [text, Writable]

theorem writable_optionalText (value : Option String) : Writable (optionalText value) := by
  cases value with
  | none => simp [optionalText, Writable]
  | some value => exact writable_text value

theorem writable_natural (n : Nat) : Writable (natural n) := by
  simpa [natural, Writable] using Numeral.proper_ofNat n

theorem writable_double (x : Float) : Writable (double x) := by
  unfold double
  cases written : NumberStyle.lineDouble.numeral? (Binary.ofDouble x) with
  | none => simp [Writable]
  | some numeral =>
      have proper := NumberStyle.proper_of_numeral? (by decide) (by decide) written
      simpa [Writable] using proper

theorem writable_array {items : List Json} (all : ∀ item ∈ items, Writable item) :
    Writable (.array items) := by
  rw [Writable]
  induction items with
  | nil => simp [WritableItems]
  | cons item items induction =>
      rw [WritableItems]
      exact ⟨all item (by simp), induction fun other mem => all other (by simp [mem])⟩

theorem writable_record {members : List (String × Json)}
    (all : ∀ member ∈ members, Writable member.2) : Writable (record members) := by
  rw [record, Writable]
  induction members with
  | nil => simp [WritableMembers]
  | cons member members induction =>
      rw [List.map_cons, WritableMembers]
      exact ⟨rfl, all member (by simp), induction fun other mem => all other (by simp [mem])⟩

theorem toText?_text (value : String) : (text value).toText? = some value := rfl

theorem toOption?_optionalText (value : Option String) :
    toOption? toText? (optionalText value) = some value := by
  cases value <;> rfl

theorem toNat?_natural {n limit : Nat} (fits : n < limit) :
    (natural n).toNat? limit = some n := by
  simp [natural, toNat?, Numeral.toNat?, Numeral.ofNat, Numeral.isIntegral,
    Numeral.digitsValue_digits, fits]

theorem toList?_array {α : Type} {reader : Json → Option α} {writer : α → Json} (values : List α)
    (inverse : ∀ value ∈ values, reader (writer value) = some value) :
    toList? reader (.array (values.map writer)) = some values := by
  simp only [toList?, toItems?, Option.bind_eq_bind, Option.bind_some]
  induction values with
  | nil => rfl
  | cons value values induction =>
      rw [List.map_cons, List.mapM_cons, inverse value (by simp),
        induction fun other mem => inverse other (by simp [mem])]
      rfl

end Json

theorem Stage.ofName?_name (stage : Stage) : Stage.ofName? stage.name = some stage := by
  cases stage <;> decide

theorem ErrorCode.ofName?_name (code : ErrorCode) : ErrorCode.ofName? code.name = some code := by
  cases code <;> decide

namespace Cell

theorem writable_toJson (cell : Cell) : cell.toJson.Writable :=
  Json.writable_record (by simp [Json.writable_text])

theorem ofJson?_toJson (cell : Cell) : Cell.ofJson? cell.toJson = some cell := by
  simp [Cell.ofJson?, Cell.toJson, Json.record, Json.toFields?, Json.memberNamed,
    Json.membersNamed, Json.required, Json.toText?_text]

end Cell

namespace Row

/-- The row's numbers fit their words. -/
structure Fits (row : Row) : Prop where
  /-- The page fits. -/
  page : row.page < wordLimit
  /-- The position fits. -/
  rowIndex : row.rowIndex < wordLimit

theorem writable_toJson (row : Row) : row.toJson.Writable := by
  have cells : (Json.array (row.cells.map Cell.toJson)).Writable :=
    Json.writable_array (by simp [Cell.writable_toJson])
  exact Json.writable_record (by simp [Json.writable_text, Json.writable_natural, cells])

theorem ofJson?_toJson {row : Row} (fits : row.Fits) : Row.ofJson? row.toJson = some row := by
  have cells := Json.toList?_array row.cells fun cell _ => cell.ofJson?_toJson
  simp [Row.ofJson?, Row.toJson, Json.record, Json.toFields?, Json.memberNamed,
    Json.membersNamed, Json.required, Json.toText?_text, Json.toNat?_natural fits.page,
    Json.toNat?_natural fits.rowIndex, cells]

end Row

namespace Metrics

/-- The figures fit their words, and the text of the memory figure reads back as that figure. -/
structure Fits (metrics : Metrics) : Prop where
  /-- The time fits. -/
  durationMs : metrics.durationMs < wordLimit
  /-- The size fits. -/
  sizeBytes : metrics.sizeBytes < wordLimit
  /-- The number of pages fits. -/
  pageCount : metrics.pageCount < wordLimit
  /-- The memory figure reads back. -/
  memoryPeakMb : ∀ x ∈ metrics.memoryPeakMb, (Json.double x).toDouble? = some x

theorem writable_toJson (metrics : Metrics) : metrics.toJson.Writable := by
  have figure : (metrics.memoryPeakMb.elim .null Json.double).Writable := by
    cases metrics.memoryPeakMb with
    | none => simp [Json.Writable]
    | some x => exact Json.writable_double x
  exact Json.writable_record (by simp [Json.writable_natural, figure])

theorem toOption?_figure {figure : Option Float}
    (reads : ∀ x ∈ figure, (Json.double x).toDouble? = some x) :
    Json.toOption? Json.toDouble? (figure.elim .null Json.double) = some figure := by
  cases figure with
  | none => rfl
  | some x =>
      have read := reads x rfl
      simp only [Option.elim_some]
      cases json : Json.double x with
      | null => rw [json] at read; cases read
      | number n => rw [json] at read; simp [Json.toOption?, read]
      | bool value => rw [json] at read; cases read
      | string value => rw [json] at read; cases read
      | array items => rw [json] at read; cases read
      | object members => rw [json] at read; cases read

theorem ofJson?_toJson {metrics : Metrics} (fits : metrics.Fits) :
    Metrics.ofJson? metrics.toJson = some metrics := by
  have figure := toOption?_figure fits.memoryPeakMb
  simp [Metrics.ofJson?, Metrics.toJson, Json.record, Json.toFields?, Json.memberNamed,
    Json.membersNamed, Json.required, Json.optional, Json.toNat?_natural fits.durationMs,
    Json.toNat?_natural fits.sizeBytes, Json.toNat?_natural fits.pageCount, figure]

end Metrics

namespace ExtractionResult

/-- The result's numbers fit their words, and the text of its memory figure reads back as that
figure. -/
structure Fits (result : ExtractionResult) : Prop where
  /-- The rows fit. -/
  rows : ∀ row ∈ result.rows, row.Fits
  /-- The figures fit. -/
  metrics : result.metrics.Fits
  /-- The number of the attempt fits. -/
  attempt : result.attempt < attemptLimit

theorem writable_toJson (result : ExtractionResult) : result.toJson.Writable := by
  have rows : (Json.array (result.rows.map Row.toJson)).Writable :=
    Json.writable_array (by simp [Row.writable_toJson])
  have success : (Json.bool result.success).Writable := by simp [Json.Writable]
  exact Json.writable_record (by
    simp [Json.writable_text, Json.writable_optionalText, Json.writable_natural, rows, success,
      Metrics.writable_toJson])

theorem ofJson?_toJson {result : ExtractionResult} (fits : result.Fits) :
    ofJson? result.toJson = some result := by
  have rows := Json.toList?_array result.rows
    fun row mem => Row.ofJson?_toJson (fits.rows row mem)
  have stage : Json.toOption? (fun name => name.toName?.bind Stage.ofName?)
      (.optionalText (result.failingStage.map Stage.name)) = some result.failingStage := by
    cases result.failingStage with
    | none => rfl
    | some stage =>
        simp [Json.optionalText, Json.text, Json.toOption?, Json.toName?, Stage.ofName?_name]
  have code : (Json.text result.errorCode.name).toName?.bind ErrorCode.ofName? =
      some result.errorCode := by
    simp [Json.text, Json.toName?, ErrorCode.ofName?_name]
  simp [ofJson?, toJson, fieldNames, Json.record, Json.toFields?, Json.memberNamed,
    Json.membersNamed, Json.required, Json.optional, Json.toText?_text, Json.toBool?, stage, code,
    Json.toOption?_optionalText, rows, Metrics.ofJson?_toJson fits.metrics,
    Json.toNat?_natural fits.attempt]

/-- A result is read back from its line. -/
theorem ofLine?_line {result : ExtractionResult} (fits : result.Fits) :
    ofLine? result.line = some result := by
  rw [ofLine?, line, Json.read_render result.writable_toJson]
  exact ofJson?_toJson fits

/-- A line holds no control characters. -/
theorem printable_line {result : ExtractionResult} {c : Char} (mem : c ∈ result.line.toList) :
    32 ≤ c.toNat := by
  rw [line, Json.render, String.toList_ofList] at mem
  exact Json.printable_chars _ result.writable_toJson c mem

end ExtractionResult

end PartsList
