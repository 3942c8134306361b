import PartsList.Proofs.Extraction.Tables

/-!
# Pages of a document

Every page of a document speaks for itself.  The rows of a document are those of its readable pages,
one page behind the other, whatever the other pages do, and only when no page has any does it matter
why: no page has the anchor, or the region of a page cannot be found, or the tables are empty.  A
page that cannot be read, or that has no anchor, is counted and makes no other difference.
-/

namespace PartsList

namespace PageOutcome

/-- The rows of a page, of which there may be none. -/
def rowList : PageOutcome → List Row
  | .rows table => table
  | .noAnchor | .unresolved _ => []

/-- Why the region of a page with the anchor cannot be found. -/
def error? : PageOutcome → Option BoundaryError
  | .unresolved error => some error
  | .noAnchor | .rows _ => none

@[simp] theorem rowList_noAnchor : noAnchor.rowList = [] := rfl

@[simp] theorem error?_noAnchor : noAnchor.error? = none := rfl

end PageOutcome

namespace Pipeline

namespace PageOutcomes

theorem allRows_eq (outcomes : List PageOutcome) :
    allRows outcomes = outcomes.flatMap PageOutcome.rowList := by
  unfold allRows
  refine List.flatMap_congr fun outcome _ => ?_
  cases outcome <;> rfl

theorem firstError_eq (outcomes : List PageOutcome) :
    firstError outcomes = outcomes.findSome? PageOutcome.error? := by
  unfold firstError
  congr 1
  funext outcome
  cases outcome <;> rfl

theorem noneAnchored_iff (outcomes : List PageOutcome) :
    noneAnchored outcomes = true ↔ ∀ outcome ∈ outcomes, outcome = .noAnchor := by
  rw [noneAnchored, List.all_eq_true]
  refine forall₂_congr fun outcome _ => ?_
  cases outcome <;> simp

/-- A page without the anchor changes none of what is asked of the outcomes. -/
theorem insert_noAnchor (front back : List PageOutcome) :
    allRows (front ++ .noAnchor :: back) = allRows (front ++ back) ∧
      firstError (front ++ .noAnchor :: back) = firstError (front ++ back) ∧
      noneAnchored (front ++ .noAnchor :: back) = noneAnchored (front ++ back) := by
  simp [allRows_eq, firstError_eq, noneAnchored, List.findSome?_cons]

end PageOutcomes

variable {layout : Layout} {path : Path} {pages : List (Page Coordinate)} {page : Page Coordinate}

/-- The rows that a page yields on its own. -/
def pageRows (layout : Layout) (path : Path) (page : Page Coordinate) : List Row :=
  (extractPage layout path page).rowList

/-- Why the region of a page with the anchor cannot be found. -/
def pageError? (layout : Layout) (path : Path) (page : Page Coordinate) : Option BoundaryError :=
  (extractPage layout path page).error?

theorem extractPage_eq_noAnchor_iff :
    extractPage layout path page = .noAnchor ↔ Anchor.find? page layout.anchorText = none := by
  unfold extractPage
  cases Anchor.find? page layout.anchorText with
  | none => exact iff_of_true rfl rfl
  | some anchor =>
      dsimp only
      cases TableRegion.resolve page anchor layout <;> exact iff_of_false nofun nofun

/-- What a document comes to, told from what its readable pages yield one by one. -/
inductive Verdict (layout : Layout) (path : Path) (pages : List (Page Coordinate)) :
    Except (ErrorCode × String) (List Row) → Prop
  /-- Some page yields rows, and the document has those of all pages, in the order of the pages. -/
  | rows {page : Page Coordinate} (mem : page ∈ pages) (some : pageRows layout path page ≠ []) :
      Verdict layout path pages (.ok (pages.flatMap (pageRows layout path)))
  /-- No page has the anchor. -/
  | unanchored (absent : ∀ page ∈ pages, Anchor.find? page layout.anchorText = none) :
      Verdict layout path pages
        (.error (.anchorNotFound, "\"" ++ layout.anchorText ++ "\" not found on any page"))
  /-- No page yields rows, and this is the first one whose region cannot be found. -/
  | unresolved {front back : List (Page Coordinate)} {page : Page Coordinate}
      {error : BoundaryError} (empty : ∀ page ∈ pages, pageRows layout path page = [])
      (split : pages = front ++ page :: back)
      (before : ∀ page ∈ front, pageError? layout path page = none)
      (fails : pageError? layout path page = some error) :
      Verdict layout path pages (.error (error.code, error.message))
  /-- The pages with the anchor, of which there are some, have empty tables. -/
  | empty {page : Page Coordinate} (empty : ∀ page ∈ pages, pageRows layout path page = [])
      (resolved : ∀ page ∈ pages, pageError? layout path page = none) (mem : page ∈ pages)
      (anchored : Anchor.find? page layout.anchorText ≠ none) :
      Verdict layout path pages (.error (.noRowsExtracted, "table regions held no data rows"))

theorem verdict_extractDocument (layout : Layout) (path : Path) (document : Document) :
    Verdict layout path document.readablePages (extractDocument layout path document) := by
  have unanchored : PageOutcomes.noneAnchored
    (document.readablePages.map (extractPage layout path)) =
      true ↔ ∀ page ∈ document.readablePages, Anchor.find? page layout.anchorText = none := by
    rw [PageOutcomes.noneAnchored_iff, List.forall_mem_map]
    exact forall₂_congr fun page _ => extractPage_eq_noAnchor_iff
  have joined : PageOutcomes.allRows (document.readablePages.map (extractPage layout path)) =
      document.readablePages.flatMap (pageRows layout path) := by
    rw [PageOutcomes.allRows_eq, List.flatMap_map]
    rfl
  have first : PageOutcomes.firstError (document.readablePages.map (extractPage layout path)) =
      document.readablePages.findSome? (pageError? layout path) := by
    rw [PageOutcomes.firstError_eq, List.findSome?_map]
    rfl
  unfold extractDocument
  dsimp only
  rw [joined, first]
  split
  · next none => exact .unanchored (unanchored.1 none)
  · next anchored =>
      rw [unanchored] at anchored
      push Not at anchored
      obtain ⟨page, mem, anchored⟩ := anchored
      split
      · next none =>
          have empty : ∀ page ∈ document.readablePages, pageRows layout path page = [] := by
            simpa [List.isEmpty_iff] using none
          split
          · next error found =>
              obtain ⟨front, first, back, split, fails, before⟩ :=
                List.findSome?_eq_some_iff.1 found
              exact .unresolved empty split before fails
          · next resolved => exact .empty empty (List.findSome?_eq_none_iff.1 resolved) mem anchored
      · next some =>
          have some : ∃ page ∈ document.readablePages, pageRows layout path page ≠ [] := by
            simpa [List.isEmpty_iff] using some
          obtain ⟨page, mem, some⟩ := some
          exact .rows mem some

/-- A document has rows exactly if one of its readable pages yields some. -/
theorem Verdict.ok_iff {outcome : Except (ErrorCode × String) (List Row)}
    (verdict : Verdict layout path pages outcome) :
    (∃ rows, outcome = .ok rows) ↔ ∃ page ∈ pages, pageRows layout path page ≠ [] := by
  have silent (empty : ∀ page ∈ pages, pageRows layout path page = []) :
      ¬ ∃ page ∈ pages, pageRows layout path page ≠ [] := by
    rintro ⟨page, mem, some⟩
    exact some (empty page mem)
  cases verdict with
  | rows mem some => exact ⟨fun _ => ⟨_, mem, some⟩, fun _ => ⟨_, rfl⟩⟩
  | unanchored absent =>
      refine iff_of_false (by simp) (silent fun page mem => ?_)
      rw [pageRows, extractPage_eq_noAnchor_iff.2 (absent page mem)]
      rfl
  | unresolved empty => exact iff_of_false (by simp) (silent empty)
  | empty empty => exact iff_of_false (by simp) (silent empty)

/-- The result of a file whose document came to this. -/
def told (path : Path) (metrics : Metrics) :
    Except (ErrorCode × String) (List Row) → ExtractionResult
  | .ok rows => .succeeded path rows metrics
  | .error (code, message) => .failed path code message metrics

theorem told_success (metrics : Metrics) (outcome : Except (ErrorCode × String) (List Row)) :
    (told path metrics outcome).success = true ↔ ∃ rows, outcome = .ok rows := by
  cases outcome with
  | ok rows => simp [told, ExtractionResult.succeeded]
  | error failure => simp [told, ExtractionResult.failed]

theorem process_eq_told {pipeline : Pipeline} {status : Except OsError FileStatus} {sizeBytes : Nat}
    {document : Document} {first : Page Coordinate}
    (checked : pipeline.precheck path status = .ok sizeBytes)
    (readable : document.pages.head? = some (.ok first)) :
    pipeline.process path status (.ok document) =
      told path { sizeBytes := sizeBytes, pageCount := document.pageCount }
        (extractDocument pipeline.layout path document) := by
  have passed : checkDocument sizeBytes (.ok document) =
      (.passed sizeBytes document.pageCount, some document) := by
    obtain ⟨rest, pages⟩ := List.head?_eq_some_iff.1 readable
    simp only [checkDocument, pages]
  simp only [process, finish, checked, passed]
  rcases extractDocument pipeline.layout path document with failure | rows <;> rfl

/-! ## Pages that make no difference -/

/-- A page makes no difference behind the given pages: it cannot be read and is not the first, or it
has no anchor. -/
inductive Silent (layout : Layout) :
    List (Except EngineError (Page Coordinate)) → Except EngineError (Page Coordinate) → Prop
  /-- The page is not the first, and it cannot be read. -/
  | unreadable (first : Except EngineError (Page Coordinate))
      (front : List (Except EngineError (Page Coordinate))) (error : EngineError) :
      Silent layout (first :: front) (.error error)
  /-- The page has no anchor. -/
  | unanchored (front : List (Except EngineError (Page Coordinate))) {page : Page Coordinate}
      (absent : Anchor.find? page layout.anchorText = none) : Silent layout front (.ok page)

variable {front back : List (Except EngineError (Page Coordinate))}
  {inserted : Except EngineError (Page Coordinate)}

theorem extractDocument_insert (path : Path) (silent : Silent layout front inserted)
    (back : List (Except EngineError (Page Coordinate))) :
    extractDocument layout path ⟨front ++ inserted :: back⟩ =
      extractDocument layout path ⟨front ++ back⟩ := by
  cases silent with
  | unreadable first front error =>
      have same : Document.readablePages ⟨first :: front ++ .error error :: back⟩ =
          Document.readablePages ⟨first :: front ++ back⟩ := by
        simp only [Document.readablePages, List.filterMap_append]
        rfl
      simp only [extractDocument, same]
  | unanchored front absent =>
      have inserts := PageOutcomes.insert_noAnchor
        ((Document.readablePages ⟨front⟩).map (extractPage layout path))
        ((Document.readablePages ⟨back⟩).map (extractPage layout path))
      have none := (@extractPage_eq_noAnchor_iff layout path _).2 absent
      simp_all [extractDocument, Document.readablePages, Except.toOption]

/-- The first page can still be read. -/
theorem Silent.head?_insert {first : Page Coordinate} (silent : Silent layout front inserted)
    (readable : (front ++ back).head? = some (.ok first)) :
    ∃ first, (front ++ inserted :: back).head? = some (.ok first) := by
  cases silent with
  | unreadable => exact ⟨first, readable⟩
  | unanchored front absent =>
      cases front with
      | nil => exact ⟨_, rfl⟩
      | cons => exact ⟨first, readable⟩

/-- A document whose first page can be read comes to what its readable pages come to, each on its
own: a page that makes no difference is counted, and that is all.  If the file itself is refused,
then the document is not even asked for. -/
theorem pages_speak_for_themselves (pipeline : Pipeline) (path : Path)
    (status : Except OsError FileStatus) (document : Document) (first : Page Coordinate)
    (readable : document.pages.head? = some (.ok first)) :
    (∀ sizeBytes, pipeline.precheck path status = .ok sizeBytes →
      ((pipeline.process path status (.ok document)).success = true ↔
        ∃ page ∈ document.readablePages, pageRows pipeline.layout path page ≠ []) ∧
      (∃ outcome, Verdict pipeline.layout path document.readablePages outcome ∧
        pipeline.process path status (.ok document) =
          told path { sizeBytes := sizeBytes, pageCount := document.pageCount } outcome) ∧
      ∀ front back inserted, document.pages = front ++ back →
        Silent pipeline.layout front inserted →
        pipeline.process path status (.ok ⟨front ++ inserted :: back⟩) =
          { pipeline.process path status (.ok document) with
            metrics := {
              (pipeline.process path status (.ok document)).metrics with
              pageCount := document.pageCount + 1 } }) ∧
      ∀ refusal, pipeline.precheck path status = .error refusal →
        ∀ answer, pipeline.process path status answer = refusal := by
  refine ⟨fun sizeBytes checked => ?_, fun refusal refused answer => by rw [process, refused]⟩
  have verdict := verdict_extractDocument pipeline.layout path document
  have result := process_eq_told checked readable
  refine ⟨?_, ⟨_, verdict, result⟩, fun front back inserted split silent => ?_⟩
  · rw [result, told_success, verdict.ok_iff]
  · obtain ⟨pages⟩ := document
    subst split
    obtain ⟨first, readable⟩ := silent.head?_insert readable
    have same := extractDocument_insert path silent back
    have count : Document.pageCount ⟨front ++ inserted :: back⟩ =
        Document.pageCount ⟨front ++ back⟩ + 1 := by
      simp [Document.pageCount, Nat.add_assoc]
    rw [result, process_eq_told checked readable, same, count]
    rcases extractDocument pipeline.layout path ⟨front ++ back⟩ with failure | rows <;> rfl

theorem pages_speak_for_themselves_small :
    (Pipeline.process ⟨{}, 9, none⟩ ⟨"a"⟩ (.ok ⟨true, 1⟩) (.ok smallDocument)).success = true ∧
      Pipeline.process ⟨{}, 9, none⟩ ⟨"a"⟩ (.ok ⟨true, 1⟩)
          (.ok ⟨[.ok (smallPage 1), .error .encrypted, .ok (smallPage 2), .error .encrypted]⟩) =
        .succeeded ⟨"a"⟩ [smallTableRow 1, smallTableRow 2] { sizeBytes := 1, pageCount := 4 } := by
  have success : (Pipeline.process ⟨{}, 9, none⟩ ⟨"a"⟩ (.ok ⟨true, 1⟩)
      (.ok smallDocument)).success = true := by
    rw [process_smallDocument]
    rfl
  obtain ⟨-, -, insert⟩ :=
    (pages_speak_for_themselves ⟨{}, 9, none⟩ ⟨"a"⟩ (.ok ⟨true, 1⟩) smallDocument (smallPage 1)
      rfl).1 1 rfl
  refine ⟨success, (insert smallDocument.pages [] (.error .encrypted) rfl
    (.unreadable _ _ .encrypted)).trans ?_⟩
  rw [process_smallDocument]
  rfl

end Pipeline

end PartsList
