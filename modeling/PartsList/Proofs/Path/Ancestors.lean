import Mathlib.Data.List.TakeWhile
import PartsList.Proofs.Disk.Listing

/-!
# Directories above a path

The path of the directory that a path lies in is spelled by the pieces in front of the last one that
stands for a component.  So are those of the directories further above.
-/

namespace PartsList

namespace Path

variable {path upper : Path}

/-! ## Pieces -/

/-- No piece holds a slash. -/
theorem not_mem_of_splitSlashes (chars : List Char) :
    ∀ piece ∈ splitSlashes chars, '/' ∉ piece := by
  induction chars with
  | nil => simp [splitSlashes]
  | cons c rest induction =>
      obtain ⟨first, others, split⟩ := List.exists_cons_of_ne_nil (splitSlashes_ne_nil rest)
      rw [split] at induction
      obtain ⟨bare, others_bare⟩ := List.forall_mem_cons.1 induction
      rw [splitSlashes, split]
      dsimp only
      by_cases slash : c = '/'
      · rw [if_pos slash]
        exact List.forall_mem_cons.2 ⟨List.not_mem_nil, induction⟩
      · rw [if_neg slash]
        refine List.forall_mem_cons.2 ⟨fun mem => ?_, others_bare⟩
        rcases List.mem_cons.1 mem with same | mem
        · exact slash same.symm
        · exact bare mem

theorem splitSlashes_intercalate (pieces : List (List Char)) (ne : pieces ≠ [])
    (bare : ∀ piece ∈ pieces, '/' ∉ piece) :
    splitSlashes (['/'].intercalate pieces) = pieces := by
  induction pieces with
  | nil => exact absurd rfl ne
  | cons first rest induction =>
      obtain ⟨one, others⟩ := List.forall_mem_cons.1 bare
      cases rest with
      | nil => rw [List.intercalate_singleton, splitSlashes_of_not_mem one]
      | cons second rest =>
          rw [List.intercalate_cons_cons, List.append_assoc, List.singleton_append,
            splitSlashes_append, splitSlashes_of_not_mem one,
            induction (List.cons_ne_nil _ _) others, List.singleton_append]

/-- Pieces between slashes are the pieces of the path that they spell. -/
theorem pieces_intercalate {pieces : List String} (ne : pieces ≠ [])
    (bare : ∀ piece ∈ pieces, '/' ∉ piece.toList) :
    Path.pieces ⟨String.intercalate "/" pieces⟩ = pieces := by
  have slash : "/".toList = ['/'] := rfl
  rw [Path.pieces, String.toList_intercalate, slash, splitSlashes_intercalate]
  · simp [Function.comp_def, String.ofList_toList]
  · simpa using ne
  · simpa using bare

theorem not_mem_of_pieces (path : Path) : ∀ piece ∈ path.pieces, '/' ∉ piece.toList := by
  intro piece mem
  obtain ⟨chars, split, rfl⟩ := List.mem_map.1 mem
  rw [String.toList_ofList]
  exact not_mem_of_splitSlashes _ chars split

/-- Slashes at the end are empty pieces. -/
theorem pieces_withoutSlashes (path : Path) :
    ∃ silent, (∀ piece ∈ silent, piece = "") ∧
      path.pieces = path.withoutSlashes.pieces ++ silent := by
  have slashes (count : Nat) (front : List Char) :
      ∃ silent, (∀ piece ∈ silent, piece = []) ∧
        splitSlashes (front ++ List.replicate count '/') = splitSlashes front ++ silent := by
    induction count generalizing front with
    | zero => exact ⟨[], by simp, by simp⟩
    | succ count induction =>
        obtain ⟨silent, empty, split⟩ := induction []
        refine ⟨[] :: silent, List.forall_mem_cons.2 ⟨rfl, empty⟩, ?_⟩
        rw [List.replicate_succ, splitSlashes_append, ← List.nil_append (List.replicate count '/'),
          split]
        rfl
  unfold withoutSlashes
  cases trimmed : path.spelling.toList.reverse.dropWhile (· == '/') with
  | nil => exact ⟨[], by simp, by simp⟩
  | cons last rest =>
      -- What was dropped is nothing but slashes.
      have slashed : path.spelling.toList.reverse.takeWhile (· == '/') =
          List.replicate (path.spelling.toList.reverse.takeWhile (· == '/')).length '/' :=
        List.eq_replicate_of_mem fun c mem => by simpa using List.mem_takeWhile_imp mem
      have spelled : path.spelling.toList = (last :: rest).reverse ++
          List.replicate (path.spelling.toList.reverse.takeWhile (· == '/')).length '/' := by
        rw [← List.reverse_inj, List.reverse_append, List.reverse_reverse, List.reverse_replicate,
          ← slashed, ← trimmed, List.takeWhile_append_dropWhile]
      obtain ⟨silent, empty, split⟩ := slashes _ (last :: rest).reverse
      rw [← spelled] at split
      refine ⟨silent.map String.ofList, ?_, ?_⟩
      · intro piece mem
        obtain ⟨chars, inside, rfl⟩ := List.mem_map.1 mem
        rw [empty chars inside]
      · rw [pieces, split, List.map_append, pieces, String.toList_ofList]

/-! ## Ancestors -/

/-- The piece stands for a component. -/
def IsLoud (piece : String) : Prop :=
  piece ≠ "" ∧ piece ≠ "."

/-- The first path is spelled by pieces of the other one with a component to come, or names no
directory that could be missing. -/
def Above (above path : Path) : Prop :=
  (∃ rest, path.pieces = above.pieces ++ rest ∧ ∃ piece ∈ rest, IsLoud piece) ∨
    above.spelling = "" ∨ above.spelling = "." ∨ above.spelling = "/"

theorem dropSilent_append (pieces : List String) :
    ∃ silent, pieces = dropSilent pieces ++ silent := by
  refine ⟨(pieces.reverse.takeWhile fun piece => piece = "" ∨ piece = ".").reverse, ?_⟩
  rw [dropSilent, ← List.reverse_append, List.takeWhile_append_dropWhile, List.reverse_reverse]

/-- The last of the pieces up to the last component is that component. -/
theorem isLoud_getLast (pieces : List String) :
    ∀ piece, (dropSilent pieces).getLast? = some piece → IsLoud piece := by
  intro piece last
  rw [dropSilent, List.getLast?_reverse] at last
  have kept := List.head?_dropWhile_not (fun piece => decide (piece = "" ∨ piece = "."))
    pieces.reverse
  rw [last] at kept
  simpa [IsLoud, not_or] using kept

/-- The parent of a path is above it. -/
theorem above_of_parent? (found : path.parent? = some upper) : upper.Above path := by
  -- All that remains are pieces in front of the last component.
  have inside {front kept silent : List String} (ne : dropSilent path.pieces ≠ [])
      (front_eq : front = (dropSilent path.pieces).dropLast) (pieces : front = kept ++ silent)
      (some : kept ≠ []) : Above ⟨String.intercalate "/" kept⟩ path := by
    obtain ⟨tail, whole⟩ := dropSilent_append path.pieces
    have last := List.dropLast_concat_getLast ne
    have spelled : path.pieces =
        kept ++ (silent ++ [(dropSilent path.pieces).getLast ne] ++ tail) := by
      calc path.pieces
        _ = front ++ [(dropSilent path.pieces).getLast ne] ++ tail := by
          rw [front_eq, last, ← whole]
        _ = kept ++ (silent ++ [(dropSilent path.pieces).getLast ne] ++ tail) := by
          rw [pieces]
          simp
    refine Or.inl ⟨silent ++ [(dropSilent path.pieces).getLast ne] ++ tail, ?_,
      (dropSilent path.pieces).getLast ne, by simp, ?_⟩
    · rw [pieces_intercalate some fun piece mem => path.not_mem_of_pieces piece ?_]
      · exact spelled
      · rw [spelled]
        exact List.mem_append_left _ mem
    · exact isLoud_getLast path.pieces _ (List.getLast?_eq_some_getLast ne)
  unfold parent? at found
  split at found
  · cases found
  · cases found
  · cases found
    exact Or.inr (Or.inl rfl)
  · next some =>
      dsimp only at found
      obtain ⟨silent, pieces⟩ := dropSilent_append (dropSilent path.pieces).dropLast
      split at found
      · cases found
        exact Or.inr (Or.inr (Or.inr rfl))
      · cases found
        exact Or.inr (Or.inr (Or.inl rfl))
      · cases found
        by_cases none : dropSilent (dropSilent path.pieces).dropLast = []
        · rw [none]
          exact Or.inr (Or.inl rfl)
        · refine inside (fun nothing => none ?_) rfl pieces none
          rw [nothing]
          rfl

/-- What is above the parent is above the path. -/
theorem Above.parent {above : Path} (first : above.Above path)
    (found : above.parent? = some upper) :
    upper.Above path := by
  rcases above_of_parent? found with ⟨rest, spelled, loud⟩ | plain
  · rcases first with ⟨more, all, _⟩ | plain
    · refine Or.inl ⟨rest ++ more, ?_, ?_⟩
      · rw [all, spelled, List.append_assoc]
      · obtain ⟨piece, mem, loud⟩ := loud
        exact ⟨piece, List.mem_append_left _ mem, loud⟩
    · -- Such a path has no parent that is spelled by pieces.
      obtain ⟨spelling⟩ := above
      dsimp only at plain
      rcases plain with rfl | rfl | rfl
      · cases found
      · have empty : upper = ⟨""⟩ := (Option.some.inj found).symm
        rw [empty]
        exact Or.inr (Or.inl rfl)
      · cases found
  · exact Or.inr plain

end Path

end PartsList
