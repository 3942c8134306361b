import PartsList.Proofs.Disk.Replacing
import PartsList.Proofs.Path.Ancestors

/-!
# Directories that are missing

Where a directory is missing, a path through it leads to nothing.  It goes on leading to nothing
when the directory is made, because that is empty, unless the path leaves it again or goes on with a
name that is too long.
-/

namespace PartsList

/-- Every piece of the path can be the name of a file or directory, or stays where it stands. -/
def Path.IsPlain (path : Path) : Prop :=
  ∀ piece ∈ path.pieces, piece ≠ ".." ∧ piece.utf8ByteSize ≤ Disk.nameLimit

instance (path : Path) : Decidable path.IsPlain :=
  inferInstanceAs (Decidable (∀ piece ∈ path.pieces, _))

namespace Disk

variable {disk middle after : Disk} {path directory : Path} {location : Location} {place : Place}

/-! ## Trees -/

/-- What stands in the tree stands in a directory. -/
def Rooted (disk : Disk) : Prop :=
  ∀ (location : Location) (name : String) (entry : Entry),
    disk.entryAt? (location ++ [name]) = some entry → disk.entryAt? location = some .directory

theorem Rooted.congr (rooted : disk.Rooted)
    (same : ∀ location, after.entryAt? location = disk.entryAt? location) : after.Rooted := by
  intro location name entry there
  rw [same] at there ⊢
  exact rooted location name entry there

theorem rooted_of_entries
    (each : ∀ entry ∈ disk.entries, disk.entryAt? entry.1.dropLast = some .directory) :
    disk.Rooted := by
  intro location name entry there
  unfold entryAt? at there
  split at there
  · next root =>
      rcases root with root | root
      · simp at root
      · obtain rfl : location = [] := (List.append_inj' root rfl : location = [] ∧ _).1
        exact if_pos (Or.inl rfl)
  · obtain ⟨pair, found, -⟩ := Option.map_eq_some_iff.1 there
    obtain key : pair.1 = location ++ [name] := by simpa using List.find?_some found
    have parent := each pair (List.mem_of_find?_eq_some found)
    rwa [key, List.dropLast_concat] at parent

/-- What is no directory lies in one. -/
theorem Walks.lies {last : LastPiece} {links : Nat} {at_ : Location} {pieces : List String}
    (walks : disk.Walks last links at_ pieces place) (solid : place.entry ≠ some .directory) :
    ∃ above name, place.location = above ++ [name] ∧ disk.entryAt? above = some .directory := by
  induction walks with
  | here => exact absurd rfl solid
  | stay _ _ _ induction | up _ _ induction | enter _ _ _ _ induction
  | follow _ _ _ _ _ induction => exact induction solid
  | @stop _ at_ piece _ _ there => exact ⟨at_, piece, rfl, there⟩

/-- A tree stays one when something is put where there was no directory. -/
theorem Rooted.putEntry {last : LastPiece} (rooted : disk.Rooted)
    (found : disk.resolve last path = .ok place) (solid : place.entry ≠ some .directory)
    (entry : Entry) : (disk.putEntry place.location entry).Rooted := by
  obtain ⟨above, name, lies, directory⟩ := (walks_of_locate (locate_of_resolve found)).2.lies solid
  have there : disk.entryAt? place.location ≠ some .directory := entry_of_resolve found ▸ solid
  have put (other : Location) := entryAt?_put there entry other
  intro other child held stands
  rw [put] at stands ⊢
  split at stands
  · next same =>
      obtain ⟨rfl, -⟩ := List.append_inj' (same.trans lies) rfl
      rw [if_neg (by rw [lies]; simp), directory]
  · have parent := rooted other child held stands
    rw [if_neg, parent]
    rintro rfl
    exact there parent

/-! ## Paths that lead to nothing -/

/-- A path leads to nothing. -/
def Misses (answer : Except OsError Place) : Prop :=
  answer = .error .notFound ∨ ∃ place, answer = .ok place ∧ place.entry = none

theorem misses_of_none {last : LastPiece} {links : Nat} {piece : String} {rest : List String}
    (there : disk.entryAt? location = some .directory) (sought : Sought last piece rest)
    (none : disk.entryAt? (location ++ [piece]) = none) :
    Misses (disk.resolvePieces last links location (piece :: rest)) := by
  rw [resolvePieces_absent there sought none]
  split
  · exact Or.inr ⟨_, rfl, rfl⟩
  · exact Or.inl rfl

/-- In an empty directory, names lead to nothing. -/
theorem misses_below {last : LastPiece} {links : Nat} (fresh : last ≠ .made)
    (there : disk.entryAt? location = some .directory)
    (empty : ∀ name, disk.entryAt? (location ++ [name]) = none) {rest : List String}
    (plain : ∀ piece ∈ rest, piece ≠ ".." ∧ piece.utf8ByteSize ≤ nameLimit)
    (loud : ∃ piece ∈ rest, Path.IsLoud piece) :
    Misses (disk.resolvePieces last links location rest) := by
  induction rest with
  | nil =>
      obtain ⟨piece, mem, -⟩ := loud
      cases mem
  | cons piece rest induction =>
      obtain ⟨⟨down, short⟩, others⟩ := List.forall_mem_cons.1 plain
      by_cases silent : isSilent piece = true
      · rw [resolvePieces_silent there silent]
        refine induction others ?_
        obtain ⟨other, mem, named⟩ := loud
        rcases List.mem_cons.1 mem with rfl | mem
        · rw [isSilent, Bool.or_eq_true, beq_iff_eq, beq_iff_eq] at silent
          exact absurd silent (not_or.2 named)
        · exact ⟨other, mem, named⟩
      · have sought : Sought last piece rest :=
          ⟨silent, down, fun made => fresh made.1, Nat.not_lt.2 short⟩
        exact misses_of_none there sought (empty piece)

/-- Behind a place that is missing, pieces lead to nothing, in this tree and in one that has an
empty directory there. -/
def Dead (after : Disk) (location : Location) (rest : List String) : Prop :=
  after.entryAt? location = none ∨
    after.entryAt? location = some .directory ∧
      (∀ name, after.entryAt? (location ++ [name]) = none) ∧
      (∀ piece ∈ rest, piece ≠ ".." ∧ piece.utf8ByteSize ≤ nameLimit) ∧
      ∃ piece ∈ rest, Path.IsLoud piece

theorem Walks.past {last : LastPiece} (fresh : last ≠ .made) {links : Nat} {at_ : Location}
    {pieces rest : List String}
    (keeps : ∀ location entry, disk.entryAt? location = some entry →
      after.entryAt? location = some entry)
    (dead : Dead after location rest) (walks : disk.Walks .kept links at_ pieces place)
    (here : place.location = location) (missing : place.entry = none) :
    Misses (after.resolvePieces last links at_ (pieces ++ rest)) := by
  induction walks with
  | here => cases missing
  | stay there silent _ induction =>
      rw [List.cons_append, resolvePieces_silent (keeps _ _ there) silent]
      exact induction here missing
  | up there _ induction =>
      rw [List.cons_append, resolvePieces_up (keeps _ _ there)]
      exact induction here missing
  | enter there sought found _ induction =>
      rw [List.cons_append,
        resolvePieces_directory (keeps _ _ there) (sought.taken fresh _) (keeps _ _ found)]
      exact induction here missing
  | follow there sought found followed _ induction =>
      rw [List.cons_append, resolvePieces_link (keeps _ _ there) (sought.taken fresh _)
        (keeps _ _ found) fun both => followed ⟨(List.append_eq_nil_iff.1 both.1).1, rfl⟩,
        Disk.follow, ← List.append_assoc]
      exact induction here missing
  | @stop _ at_ piece slashes _ there sought _ ends =>
      -- In the new tree, the walk ends here too, or goes on into nothing.
      obtain rfl : at_ ++ [piece] = location := here
      rw [List.cons_append]
      rcases dead with none | ⟨directory, empty, plain, loud⟩
      · exact misses_of_none (keeps _ _ there) (sought.taken fresh _) none
      · rw [resolvePieces_directory (keeps _ _ there) (sought.taken fresh _) directory]
        refine misses_below fresh directory empty (fun piece mem => ?_) ?_
        · rcases List.mem_append.1 mem with mem | mem
          · rw [eq_of_beq (List.all_eq_true.1 ends.slashes piece mem)]
            decide
          · exact plain piece mem
        · obtain ⟨piece, mem, named⟩ := loud
          exact ⟨piece, List.mem_append_right _ mem, named⟩

theorem linkStart_append {front whole : Path} {rest : List String} (directory : Location)
    (spelled : whole.pieces = front.pieces ++ rest) :
    linkStart directory whole.spelling =
      ((linkStart directory front.spelling).1, (linkStart directory front.spelling).2 ++ rest) := by
  have pieces : Path.pieces ⟨whole.spelling⟩ = Path.pieces ⟨front.spelling⟩ ++ rest := spelled
  unfold linkStart
  rw [pieces]
  cases split : Path.pieces ⟨front.spelling⟩ with
  | nil => exact absurd (List.map_eq_nil_iff.1 split) (Path.splitSlashes_ne_nil _)
  | cons first others =>
      rw [List.cons_append]
      by_cases root : first = ""
      · subst root
        rfl
      · split <;> simp_all

/-- A path through a missing place leads to nothing, or nowhere whatever the tree. -/
theorem locate_past {last : LastPiece} (fresh : last ≠ .made) {slash : Bool} {rest : List String}
    (found : disk.resolve .kept directory = .ok ⟨location, none, slash⟩)
    (spelled : path.pieces = directory.pieces ++ rest) :
    (∃ error, ∀ after : Disk, after.locate last path = .error error) ∨
      ∀ after : Disk, (∀ location entry, disk.entryAt? location = some entry →
        after.entryAt? location = some entry) → Dead after location rest →
          Misses (after.locate last path) := by
  rcases spelled_or_error path with sound | ⟨error, fails⟩
  · refine Or.inr fun after keeps dead => ?_
    rw [locate_eq sound, linkStart_append [] spelled]
    exact (walks_of_locate (locate_of_resolve found)).2.past fresh keeps dead rfl rfl
  · exact Or.inl ⟨error, fun after => fails after last⟩

/-- What a path that leads nowhere is told to hold. -/
theorem bytesAt_of_error {error : OsError} (fails : disk.locate .followed path = .error error) :
    disk.bytesAt path = .error error := by
  rw [bytesAt, resolve, fails]
  rfl

theorem bytesAt_of_misses (misses : Misses (disk.locate .followed path)) :
    disk.bytesAt path = .error .notFound := by
  rcases misses with missing | ⟨⟨location, entry, slash⟩, found, rfl⟩
  · exact bytesAt_of_error missing
  · rw [bytesAt, resolve, found]
    rfl

theorem isDirectory_of_error {error : OsError} (fails : disk.locate .followed path = .error error) :
    disk.isDirectory path = false := by
  rw [isDirectory, status, resolve, fails]
  rfl

theorem isDirectory_of_misses (misses : Misses (disk.locate .followed path)) :
    disk.isDirectory path = false := by
  rcases misses with missing | ⟨⟨location, entry, slash⟩, found, rfl⟩
  · exact isDirectory_of_error missing
  · rw [isDirectory, status, resolve, found]
    rfl

/-- A path through a missing place holds the same when an empty directory is made there, unless it
leaves that again. -/
theorem bytesAt_past {slash : Bool} {rest : List String}
    (keeps : ∀ location entry, disk.entryAt? location = some entry →
      after.entryAt? location = some entry)
    (found : disk.resolve .kept directory = .ok ⟨location, none, slash⟩)
    (spelled : path.pieces = directory.pieces ++ rest) (dead : Dead after location rest) :
    after.bytesAt path = disk.bytesAt path := by
  rcases locate_past (show LastPiece.followed ≠ .made by decide) found spelled with
    ⟨error, fails⟩ | misses
  · rw [bytesAt_of_error (fails _), bytesAt_of_error (fails _)]
  · have missing : disk.entryAt? location = none := (entry_of_resolve found).symm
    rw [bytesAt_of_misses (misses after keeps dead),
      bytesAt_of_misses (misses disk (fun _ _ there => there) (Or.inl missing))]

/-- No link stands where a path through a missing place leads, nor does one when an empty directory
is made there, unless the path leaves that again. -/
theorem isUnlinked_past {slash : Bool} {rest : List String}
    (keeps : ∀ location entry, disk.entryAt? location = some entry →
      after.entryAt? location = some entry)
    (found : disk.resolve .kept directory = .ok ⟨location, none, slash⟩)
    (spelled : path.pieces = directory.pieces ++ rest) (dead : Dead after location rest) :
    after.IsUnlinked path := by
  intro place leads target
  have leads := locate_of_resolve leads
  rcases locate_past (show LastPiece.kept ≠ .made by decide) found spelled with
    ⟨error, fails⟩ | misses
  · cases (fails after).symm.trans leads
  · rcases misses after keeps dead with missing | ⟨other, there, none⟩
    · cases missing.symm.trans leads
    · cases there.symm.trans leads
      exact none ▸ nofun

/-! ## Directories that are made -/

/-- A path through nothing but the directory it starts from leads to that. -/
theorem resolve_silent {last : LastPiece} {start : Location} {pieces : List String}
    (spelled : Spelled path) (begins : linkStart [] path.spelling = (start, pieces))
    (root : start = [] ∨ start = absoluteRoot) (silent : ∀ piece ∈ pieces, isSilent piece = true) :
    disk.resolve last path = .ok ⟨start, some .directory, false⟩ := by
  have there : disk.entryAt? start = some .directory := if_pos root
  rw [resolve, locate_eq spelled, begins, (Walks.silent there silent).resolvePieces]
  rfl

/-- The root and the working directory are not missing. -/
theorem resolve_ne_missing {slash : Bool}
    (root : directory.spelling = "" ∨ directory.spelling = "." ∨ directory.spelling = "/") :
    disk.resolve .kept directory.withoutSlashes ≠ .ok ⟨location, none, slash⟩ := by
  obtain ⟨spelling⟩ := directory
  intro found
  dsimp only at root
  rcases root with rfl | rfl | rfl
  · cases found
  · have here : disk.resolve .kept (Path.withoutSlashes ⟨"."⟩) = _ :=
      resolve_silent ⟨by decide, by decide, by decide⟩
        (show linkStart [] "." = ([], ["."]) by decide) (Or.inl rfl) (by decide)
    rw [here] at found
    cases found
  · have here : disk.resolve .kept (Path.withoutSlashes ⟨"/"⟩) = _ :=
      resolve_silent ⟨by decide, by decide, by decide⟩
        (show linkStart [] "/" = (absoluteRoot, [""]) by decide) (Or.inr rfl) (by decide)
    rw [here] at found
    cases found

/-- A tree stays one when a directory is made. -/
theorem rooted_makeDirectory (directory : Path) :
    Keeping (fun disk after => disk.Rooted → after.Rooted) (makeDirectory directory) := by
  intro disk rooted
  rcases makeDirectory_cases directory disk with same | ⟨location, slash, found, made⟩
  · rw [same]
    exact rooted.congr fun _ => rfl
  · rw [made]
    exact (rooted.congr fun _ => rfl : disk.judged.Rooted).putEntry
      ((resolve_judged ..).trans found) nofun .directory

theorem rooted_makeDirectories (directory : Path) :
    Keeping (fun disk after => disk.Rooted → after.Rooted) (makeDirectories directory) :=
  Keeping.makeDirectories (fun _ rooted => rooted) (fun first second rooted =>
    second (first rooted))
    (fun _ _ => trivial) (fun path (_ : True) => rooted_makeDirectory path) trivial

/-- The tree stays one, and the path goes on leading to the same bytes, or to none as before, and to
no link where there was none. -/
def Undisturbed (path : Path) (disk after : Disk) : Prop :=
  disk.Rooted → after.Rooted ∧ after.bytesAt path = disk.bytesAt path ∧
    (disk.IsUnlinked path → after.IsUnlinked path)

theorem Undisturbed.trans (first : Undisturbed path disk middle)
    (second : Undisturbed path middle after) : Undisturbed path disk after := by
  intro rooted
  obtain ⟨stays, same, unlinked⟩ := first rooted
  obtain ⟨remains, again, free⟩ := second stays
  exact ⟨remains, again.trans same, free ∘ unlinked⟩

theorem isUnlinked_faults (faults : List (Option OsError)) :
    { disk with faults := faults }.IsUnlinked path ↔ disk.IsUnlinked path := by
  rw [IsUnlinked, IsUnlinked, resolve_faults]

/-- Making a directory that a plain path leads through changes nothing for the path. -/
theorem undisturbed_makeDirectory (plain : path.IsPlain) (above : directory.Above path) :
    Keeping (Undisturbed path) (makeDirectory directory) := by
  intro disk rooted
  refine ⟨rooted_makeDirectory directory disk rooted, ?_⟩
  rcases makeDirectory_cases directory disk with same | ⟨location, slash, found, made⟩
  · rw [same]
    exact ⟨bytesAt_faults disk path _, (isUnlinked_faults _).2⟩
  · rcases above with ⟨rest, spelled, piece, mem, loud⟩ | root
    · have missing : disk.entryAt? location = none := (entry_of_resolve found).symm
      have put (other : Location) :
          (disk.judged.putEntry location .directory).entryAt? other =
            if other = location then some .directory else disk.entryAt? other :=
        entryAt?_putEntry (show disk.judged.entryAt? location = none from missing) .directory other
      obtain ⟨silent, -, trimmed⟩ := directory.pieces_withoutSlashes
      have keeps (other : Location) (entry : Entry) (there : disk.entryAt? other = some entry) :
          (disk.judged.putEntry location .directory).entryAt? other = some entry := by
        rw [put, if_neg, there]
        rintro rfl
        cases missing.symm.trans there
      have whole : path.pieces = directory.withoutSlashes.pieces ++ (silent ++ rest) := by
        rw [spelled, trimmed, List.append_assoc]
      have dead : Dead (disk.judged.putEntry location .directory) location (silent ++ rest) := by
        refine Or.inr ⟨by rw [put, if_pos rfl], fun name => ?_, fun other mem => plain other ?_,
          piece, List.mem_append_right _ mem, loud⟩
        · -- Nothing stands in a directory that was missing.
          rw [put, if_neg (by simp)]
          cases there : disk.entryAt? (location ++ [name]) with
          | none => rfl
          | some entry => cases missing.symm.trans (rooted location name entry there)
        · rw [whole]
          exact List.mem_append_right _ mem
      rw [made]
      exact ⟨bytesAt_past keeps found whole dead, fun _ => isUnlinked_past keeps found whole dead⟩
    · exact absurd found (resolve_ne_missing root)

/-- Making the directories that a plain path leads through changes nothing for the path. -/
theorem undisturbed_makeDirectories (plain : path.IsPlain) (above : directory.Above path) :
    Keeping (Undisturbed path) (makeDirectories directory) :=
  Keeping.makeDirectories (fun _ rooted => ⟨rooted, rfl, id⟩)
    (fun first second => first.trans second)
    (fun above found => Path.Above.parent above found)
    (fun _ above => undisturbed_makeDirectory plain above) above

/-! ## Directories that are there -/

/-- A directory that is there is found to be there. -/
theorem ensureDirectory_of_isDirectory (there : disk.isDirectory directory = true) :
    ensureDirectory directory disk = (.ok (), disk.judged) := by
  have unmade : (makeDirectory directory disk).2 = disk.judged := by
    rcases makeDirectory_cases directory disk with same | ⟨location, slash, found, made⟩
    · exact same
    · -- A place that is missing is no directory either when it is followed.
      obtain ⟨silent, -, trimmed⟩ := directory.pieces_withoutSlashes
      have none : disk.isDirectory directory = false := by
        rcases locate_past (show LastPiece.followed ≠ .made by decide) found trimmed with
          ⟨error, fails⟩ | misses
        · exact isDirectory_of_error (fails disk)
        · exact isDirectory_of_misses
            (misses disk (fun _ _ there => there) (Or.inl (entry_of_resolve found).symm))
      rw [none] at there
      cases there
  have still : disk.judged.isDirectory directory = true := by
    rwa [isDirectory, status, resolve_judged]
  rw [ensureDirectory, tryCatch_eq]
  rcases answered : makeDirectory directory disk with ⟨error | _, after⟩
  · rw [answered] at unmade
    dsimp only at unmade ⊢
    subst unmade
    rw [bind_eq]
    exact congrFun (if_pos still) disk.judged
  · rw [answered] at unmade
    dsimp only at unmade ⊢
    rw [unmade]

/-- No directory is made where one is there. -/
theorem makeDirectories_of_isDirectory (there : disk.isDirectory directory = true) :
    ∃ faults, makeDirectories directory disk = (.ok (), { disk with faults := faults }) := by
  rw [makeDirectories, makeDirectoriesUp]
  split
  · exact ⟨disk.faults, rfl⟩
  · rw [tryCatch_eq, ensureDirectory_of_isDirectory there]
    exact ⟨_, rfl⟩

end Disk

end PartsList
