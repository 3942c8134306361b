import PartsList.Proofs.Disk.Listing
import PartsList.Proofs.Path.Order
import PartsList.Proofs.Spill.Replay

/-!
# Directories that are emptied

A replay takes the names of the files that it has delivered from the directory, one after the other.
What is left in the directory are the files behind them, in their order.
-/

namespace PartsList

open Disk

namespace Disk

variable {disk last : Disk} {path : Path} {paths : List Path} {id : FileId} {directory : Path}
  {name : String}

/-- The disk when the system has no verdicts left. -/
def calmed (disk : Disk) : Disk :=
  { disk with faults := [] }

/-- A path names a file or a link at a location. -/
def Names (disk : Disk) (path : Path) (location : Location) : Prop :=
  ∃ entry slash, disk.resolve .kept path = .ok ⟨location, some entry, slash⟩ ∧ entry ≠ .directory

/-- The disk without the name of the file or link that a path names. -/
def without (disk : Disk) (path : Path) : Disk :=
  match disk.resolve .kept path with
  | .ok ⟨_, some .directory, _⟩ => disk
  | .ok ⟨location, some _, _⟩ => disk.removeEntry location
  | _ => disk

/-- The text can be the name of something in a directory. -/
def IsName (name : String) : Prop :=
  ¬isSilent name ∧ name ≠ ".." ∧ '/' ∉ name.toList

/-- What stands in the tree has names. -/
def Named (disk : Disk) : Prop :=
  ∀ entry ∈ disk.entries, ∀ name, entry.1.getLast? = some name → IsName name

theorem resolve_calmed (disk : Disk) (kind : LastPiece) (path : Path) :
    disk.calmed.resolve kind path = disk.resolve kind path :=
  disk.resolve_faults kind path []

theorem without_of_names {location : Location} (names : disk.Names path location) :
    disk.without path = disk.removeEntry location := by
  obtain ⟨entry, slash, found, file⟩ := names
  rw [without, found]
  cases entry with
  | directory => exact absurd rfl file
  | file id => rfl
  | link target => rfl

theorem without_calmed (disk : Disk) (path : Path) :
    disk.calmed.without path = (disk.without path).calmed := by
  rw [without, without, resolve_calmed]
  split <;> rfl

theorem Named.without (named : disk.Named) (path : Path) : (disk.without path).Named := by
  unfold Disk.without
  split
  · exact named
  · exact fun entry mem => named entry (List.mem_filter.1 mem).1
  · exact named

theorem sheds_without (disk : Disk) (path : Path) : disk.Sheds (disk.without path) := by
  unfold without
  split
  · exact Sheds.refl disk
  · exact ⟨fun _ _ there => entryAt?_of_removeEntry there, rfl⟩
  · exact Sheds.refl disk

/-- Reading takes verdicts of the system and nothing else. -/
theorem calm_readFile (path : Path) :
    Keeping (fun disk after => after.calmed = disk.calmed) (readFile path) := by
  have trans {disk middle after : Disk} (first : middle.calmed = disk.calmed)
      (second : after.calmed = middle.calmed) : after.calmed = disk.calmed := second.trans first
  have judged : Keeping (fun disk after => after.calmed = disk.calmed) verdict := by
    intro disk
    rw [verdict_eq]
    split <;> rfl
  refine Keeping.bind trans judged fun _ => Keeping.bind trans ?_ fun id => ?_
  · refine Keeping.bind trans (fun disk => ?_) fun place => ?_
    · rw [find_eq]
    · split <;> exact fun _ => rfl
  · exact Keeping.bind trans (fun _ => rfl) fun _ _ => rfl

theorem removeFile_eq (path : Path) (disk : Disk) :
    removeFile path disk =
      match disk.faults.head? with
      | some (some error) => (.error error, disk.judged)
      | _ =>
        match disk.resolve .kept path with
        | .ok ⟨_, some .directory, _⟩ => (.error .isADirectory, disk.judged)
        | .ok ⟨location, some _, _⟩ => (.ok (), disk.judged.removeEntry location)
        | .ok ⟨_, none, _⟩ => (.error .notFound, disk.judged)
        | .error error => (.error error, disk.judged) := by
  refine verdict_bind_of_eq ?_
  rw [bind_eq, find_eq, resolve_judged]
  rcases disk.resolve .kept path with error | ⟨location, _ | _ | _ | _, slash⟩ <;> rfl

/-- What is removed was there, and its name goes. -/
theorem removeFile_eq_ok (removes : removeFile path disk = (.ok (), last)) :
    last.calmed = disk.calmed.without path ∧ ∃ location, disk.Names path location := by
  rw [removeFile_eq] at removes
  split at removes
  · cases removes
  · split at removes
    · cases removes
    · next location entry slash file found =>
        have names : disk.Names path location := ⟨entry, slash, found, file⟩
        rw [without_calmed, without_of_names names]
        cases removes
        exact ⟨rfl, location, names⟩
    · cases removes
    · cases removes

/-- A file is removed whose name is there, unless the system refuses. -/
theorem removeFile_of_names {location : Location} (names : disk.Names path location)
    (calm : ∀ error, disk.faults.head? ≠ some (some error)) :
    removeFile path disk = (.ok (), disk.judged.removeEntry location) := by
  obtain ⟨entry, slash, found, file⟩ := names
  rw [removeFile_eq, found]
  split
  · next error head => exact absurd head (calm error)
  · cases entry with
    | directory => exact absurd rfl file
    | file id => rfl
    | link target => rfl

/-- A removal that fails takes verdicts of the system and nothing else. -/
theorem removeFile_eq_error {error : OsError}
    (removes : removeFile path disk = (.error error, last)) :
    last.calmed = disk.calmed := by
  rw [removeFile_eq] at removes
  split at removes
  · cases removes
    rfl
  · split at removes <;> cases removes <;> rfl

theorem removeEntry_entryAt? (disk : Disk) (location : Location) (name : String)
    (named : name ≠ "/") :
    (disk.removeEntry (location ++ [name])).entryAt? (location ++ [name]) = none := by
  unfold entryAt?
  rw [if_neg]
  · rw [Option.map_eq_none_iff, List.find?_eq_none]
    intro entry mem
    simpa using (List.mem_filter.1 mem).2
  · rintro (none | root)
    · simp at none
    · have last := congrArg List.getLast? root
      simp only [List.getLast?_append, List.getLast?_singleton, absoluteRoot] at last
      exact named (by simpa using last)

theorem eq_of_child {location : Location} {entry : Location × Entry}
    (here : (match entry.1.getLast? with
      | some name => if entry.1.dropLast = location then some name else none
      | none => none) = some name) :
    entry.1.getLast? = some name ∧ entry.1 = location ++ [name] := by
  split at here
  · next last found =>
      split at here
      · next within =>
          cases here
          refine ⟨found, ?_⟩
          rw [← within]
          exact (List.dropLast_append_getLast? _ found).symm
      · cases here
  · cases here

theorem spelling_ne_of_resolve {kind : LastPiece} {place : Place}
    (found : disk.resolve kind path = .ok place) : path.spelling ≠ "" :=
  (walks_of_locate (locate_of_resolve found)).1.named

/-- The path of a name in a directory leads to what stands there under the name. -/
theorem location_of_locate {location at_ : Location} {entry : Entry} {slash slash' : Bool}
    (isName : IsName name)
    (reached : disk.resolve .followed directory = .ok ⟨at_, some .directory, slash⟩)
    (found : disk.locate .kept (directory.join name) = .ok ⟨location, some entry, slash'⟩) :
    location = at_ ++ [name] := by
  obtain ⟨loud, down, one⟩ := isName
  obtain ⟨at', -, reached', -, ends⟩ := directory_of_locate found
    (Option.some_ne_none _) (spelling_ne_of_resolve reached) one loud down
  rw [reached] at reached'
  cases reached'
  exact ends rfl

/-- A file whose name went is not there any more. -/
theorem not_leads_without {location : Location} (isName : IsName name)
    (spelled : directory.spelling ≠ "") (names : disk.Names (directory.join name) location) :
    ¬(disk.without (directory.join name)).Leads (directory.join name) id := by
  rintro ⟨place, found⟩
  have below : name ≠ "/" := by
    rintro rfl
    exact isName.2.2 (List.mem_singleton.2 rfl)
  obtain ⟨at_, entry, reached, there, -⟩ := directory_of_locate found
    (Option.some_ne_none _) spelled isName.2.2 isName.1 isName.2.1
  have before := resolve_directory_after (disk.sheds_without (directory.join name)).entries reached
  rw [without_of_names names] at there
  obtain ⟨_, _, named, -⟩ := names
  rw [location_of_locate isName before (locate_of_resolve named), removeEntry_entryAt? _ _ _ below]
    at there
  cases there

theorem entryAt?_removeEntry_of_ne {location gap : Location} (apart : location ≠ gap) :
    (disk.removeEntry gap).entryAt? location = disk.entryAt? location := by
  unfold entryAt?
  split
  · rfl
  · rw [removeEntry, List.find?_filter]
    congr 2
    funext entry
    by_cases here : entry.1 = location
    · simp [here, apart]
    · simp [here]

/-- What stands in a directory stays there while other names go from it. -/
theorem entryAt?_foldl_without {now : Disk} {at_ : Location} {slash : Bool}
    (reached : disk.resolve .followed directory = .ok ⟨at_, some .directory, slash⟩)
    (sheds : disk.Sheds now)
    (others : ∀ path ∈ paths, ∃ other, IsName other ∧ path = directory.join other ∧ other ≠ name) :
    (paths.foldl without now).entryAt? (at_ ++ [name]) = now.entryAt? (at_ ++ [name]) := by
  induction paths generalizing now with
  | nil => rfl
  | cons path paths induction =>
      rw [List.foldl_cons, induction (sheds.trans (now.sheds_without path)) fun other mem =>
        others other (List.mem_cons_of_mem _ mem)]
      unfold without
      split
      · rfl
      · next gap entry slash' _ found =>
          refine entryAt?_removeEntry_of_ne fun same => ?_
          obtain ⟨other, isName, rfl, apart⟩ := others path List.mem_cons_self
          have there := locate_after sheds.entries (Or.inl rfl) (locate_of_resolve found) nofun
          dsimp only at there
          rw [sheds.entries _ _ (entry_of_resolve found).symm] at there
          rw [location_of_locate isName reached there] at same
          exact apart (by simpa using same.symm)
      · rfl

/-- Directories stay. -/
theorem directory_without {location : Location} (there : disk.entryAt? location = some .directory) :
    (disk.without path).entryAt? location = some .directory := by
  unfold without
  split
  · exact there
  · next gap entry slash file found =>
      refine (entryAt?_removeEntry_of_ne ?_).trans there
      rintro rfl
      have entry := (entry_of_resolve found).trans there
      exact file (Option.some.inj entry)
  · exact there

/-- There is nothing, or no way there. -/
def IsMissing (answer : Except OsError Place) : Prop :=
  answer = .error .notFound ∨ ∃ location slash, answer = .ok ⟨location, none, slash⟩

/-- Where files and links go, a way that has led to a directory leads there still, or nowhere. -/
theorem Walks.sheds {after : Disk} (sheds : disk.Sheds after)
    (directories : ∀ location, disk.entryAt? location = some .directory →
      after.entryAt? location = some .directory)
    {links : Nat} {at_ : Location} {pieces : List String} {place : Place}
    (walks : disk.Walks .followed links at_ pieces place)
    (reached : place.entry = some .directory) :
    after.resolvePieces .followed links at_ pieces = .ok place ∨
      IsMissing (after.resolvePieces .followed links at_ pieces) := by
  induction walks with
  | here there => exact Or.inl (resolvePieces_nil (directories _ there))
  | stay there silent _ induction =>
      rw [resolvePieces_silent (directories _ there) silent]
      exact induction reached
  | up there _ induction =>
      rw [resolvePieces_up (directories _ there)]
      exact induction reached
  | enter there sought found _ induction =>
      rw [resolvePieces_directory (directories _ there) sought (directories _ found)]
      exact induction reached
  | @follow _ at_ piece target rest _ there sought found followed _ induction =>
      cases still : after.entryAt? (at_ ++ [piece]) with
      | none =>
          right
          rw [resolvePieces_absent (directories _ there) sought still]
          split
          · exact Or.inr ⟨_, _, rfl⟩
          · exact Or.inl rfl
      | some entry =>
          obtain rfl := Option.some.inj ((sheds.entries _ _ still).symm.trans found)
          rw [resolvePieces_link (directories _ there) sought still followed]
          exact induction reached
  | stop _ _ _ ends =>
      obtain rfl := reached
      exact ends.elim

/-- Where files and links go, a directory is still listed, or it is missing. -/
theorem resolve_sheds {after : Disk} {location : Location} {slash : Bool} (sheds : disk.Sheds after)
    (directories : ∀ location, disk.entryAt? location = some .directory →
      after.entryAt? location = some .directory)
    (reached : disk.resolve .followed directory = .ok ⟨location, some .directory, slash⟩) :
    after.resolve .followed directory = .ok ⟨location, some .directory, slash⟩ ∨
      IsMissing (after.resolve .followed directory) := by
  have located : after.locate .followed directory = .ok ⟨location, some .directory, slash⟩ ∨
      IsMissing (after.locate .followed directory) := by
    obtain ⟨spelled, walks⟩ := walks_of_locate (locate_of_resolve reached)
    rw [locate_eq spelled]
    exact walks.sheds sheds directories rfl
  unfold resolve
  rcases located with same | same | ⟨gap, slash', same⟩
  · rw [same]
    exact Or.inl rfl
  · rw [same]
    exact Or.inr (Or.inl rfl)
  · rw [same]
    exact Or.inr (Or.inr ⟨gap, slash', rfl⟩)

theorem isFile_calmed (disk : Disk) (path : Path) : disk.calmed.isFile path = disk.isFile path := by
  unfold isFile status
  rw [resolve_calmed]
  rfl

theorem exists_leads_of_isFile (file : disk.isFile path = true) : ∃ id, disk.Leads path id := by
  unfold isFile status at file
  rcases found : disk.resolve .followed path with error | ⟨location, _ | (id | _ | _), slash⟩
  · simp [found, bind, Except.bind] at file
  · simp [found, bind, Except.bind, throw, throwThe, MonadExceptOf.throw] at file
  · exact ⟨id, leads_of_resolve found rfl⟩
  · simp [found, bind, Except.bind, pure, Except.pure] at file
  · simp [found, bind, Except.bind, pure, Except.pure] at file

end Disk

namespace Spill

variable {directory path : Path} {paths : List Path} {disk : Disk}

/-- The spill files in a directory, in the order of their paths; none if there is no directory. -/
def filesIn (directory : Path) (disk : Disk) : List Path :=
  match disk.resolve .followed directory with
  | .ok ⟨location, some .directory, _⟩ =>
    Path.sort (((disk.children location).map directory.join).filter (isSpillFile disk))
  | _ => []

theorem isSpillFile_calmed (disk : Disk) (path : Path) :
    isSpillFile disk.calmed path = isSpillFile disk path := by
  rw [isSpillFile, isSpillFile, isFile_calmed]

theorem filesIn_calmed (directory : Path) (disk : Disk) :
    filesIn directory disk.calmed = filesIn directory disk := by
  have same : isSpillFile disk.calmed = isSpillFile disk := funext (isSpillFile_calmed disk)
  rw [filesIn, filesIn, resolve_calmed, same]
  rfl

/-- A path leads to a directory, or to nothing. -/
def Listable (directory : Path) (disk : Disk) : Prop :=
  (∃ location slash, disk.resolve .followed directory = .ok ⟨location, some .directory, slash⟩) ∨
    IsMissing (disk.resolve .followed directory)

/-- The files that are listed, unless the system takes the directory for missing. -/
theorem files_eq_ok {opened : Disk} (calm : disk.faults.head? ≠ some (some .notFound))
    (listed : files directory disk = (.ok paths, opened)) :
    paths = filesIn directory disk ∧ opened.calmed = disk.calmed ∧ Listable directory disk := by
  have same : isSpillFile disk.judged = isSpillFile disk :=
    (funext fun path => (isSpillFile_calmed _ path).symm).trans (funext (isSpillFile_calmed disk))
  unfold files at listed
  rw [listDirectory_eq] at listed
  rw [filesIn]
  split at listed
  · next names judged listing =>
      split at listing
      · cases listing
      · split at listing
        · next location _ found =>
            cases listing
            cases listed
            rw [found]
            exact ⟨by rw [same], rfl, Or.inl ⟨_, _, found⟩⟩
        · cases listing
        · cases listing
        · cases listing
  · next judged listing =>
      cases listed
      split at listing
      · next error head =>
          cases listing
          exact absurd head calm
      · split at listing
        · cases listing
        · cases listing
        · next found =>
            cases listing
            rw [found]
            exact ⟨rfl, rfl, Or.inr (Or.inr ⟨_, _, found⟩)⟩
        · next error found =>
            cases listing
            rw [found]
            exact ⟨rfl, rfl, Or.inr (Or.inl found)⟩
  · cases listed

/-- What is listed has names in the directory. -/
theorem exists_name_of_mem_filesIn (named : disk.Named) (mem : path ∈ filesIn directory disk) :
    directory.spelling ≠ "" ∧ isSpillFile disk path = true ∧
      ∃ name, IsName name ∧ path = directory.join name := by
  unfold filesIn at mem
  split at mem
  · next location _ reached =>
      obtain ⟨inside, spills⟩ := List.mem_filter.1 (List.mem_mergeSort.1 mem)
      obtain ⟨name, listed, rfl⟩ := List.mem_map.1 inside
      obtain ⟨entry, there, here⟩ := List.mem_filterMap.1 listed
      have isName := named entry there name (eq_of_child here).1
      exact ⟨spelling_ne_of_resolve reached, spills, name, isName, rfl⟩
  · cases mem

theorem isSpillFile_of_leads {id : FileId} {larger : Disk} (spills : isSpillFile disk path = true)
    (leads : larger.Leads path id) : isSpillFile larger path = true := by
  rw [isSpillFile, Bool.and_eq_true] at spills ⊢
  exact ⟨leads.isFile, spills.2⟩

/-- Two ways of selecting from what is made of the elements of a list. -/
theorem filter_map_filterMap {α β γ : Type} {values : List α} {part? : α → Option β} {make : β → γ}
    {keep : α → Bool} {select first second : γ → Bool}
    (same : ∀ a ∈ values, ∀ b, part? a = some b →
      (keep a && select (make b)) = (first (make b) && second (make b))) :
    (((values.filter keep).filterMap part?).map make).filter select =
      (((values.filterMap part?).map make).filter first).filter second := by
  rw [List.filter_filter]
  induction values with
  | nil => rfl
  | cons a values induction =>
      have rest := induction fun other mem => same other (List.mem_cons_of_mem _ mem)
      cases found : part? a with
      | none =>
          rw [List.filterMap_cons_none found, ← rest, List.filter_cons]
          split
          · rw [List.filterMap_cons_none found]
          · rfl
      | some b =>
          have own := same a List.mem_cons_self b found
          rw [List.filterMap_cons_some found, List.map_cons, List.filter_cons, List.filter_cons,
            Bool.and_comm, ← own, ← rest]
          cases keep a with
          | true =>
              rw [if_pos rfl, List.filterMap_cons_some found, List.map_cons, List.filter_cons]; rfl
          | false => rfl

/-- When the first of the listed files has lost its name and the others are still there, they are
listed. -/
theorem filesIn_without {gap : Location} (named : disk.Named)
    (listed : filesIn directory disk = path :: paths) (names : disk.Names path gap)
    (leads : ∀ other ∈ paths, ∃ id, (disk.without path).Leads other id) :
    filesIn directory (disk.without path) = paths := by
  have each {other : Path} (mem : other ∈ path :: paths) := 
    exists_name_of_mem_filesIn named (listed ▸ mem)
  have sheds := disk.sheds_without path
  have gone (id : FileId) : ¬(disk.without path).Leads path id := by
    obtain ⟨spelled, -, name, isName, rfl⟩ := each List.mem_cons_self
    exact not_leads_without isName spelled names
  have apart : path ∉ paths := fun mem => (leads path mem).elim gone
  have removed : (disk.without path).entries = disk.entries.filter (·.1 != gap) := by
    rw [without_of_names names]
    rfl
  obtain ⟨location, slash, reached, sorted⟩ : ∃ location slash,
      disk.resolve .followed directory = .ok ⟨location, some .directory, slash⟩ ∧
        Path.sort (((disk.children location).map directory.join).filter (isSpillFile disk)) =
          path :: paths := by
    unfold filesIn at listed
    split at listed
    · next location slash reached => exact ⟨location, slash, reached, listed⟩
    · cases listed
  have stays {name : String} {id : FileId} (isName : IsName name)
      (leads : (disk.without path).Leads (directory.join name) id) :
      (disk.without path).resolve .followed directory = .ok ⟨location, some .directory, false⟩ ∧
        name ∈ (disk.without path).children location := by
    obtain ⟨location', reached', mem⟩ := directory_of_leads leads (spelling_ne_of_resolve reached)
      isName.2.2 isName.1 isName.2.1
    have before := resolve_directory_after sheds.entries reached'
    rw [reached] at before
    cases before
    exact ⟨reached', mem⟩
  rw [filesIn]
  split
  · next location' slash' reached' =>
      have before := resolve_directory_after sheds.entries reached'
      rw [reached] at before
      cases before
      have fewer : (((disk.without path).children location).map directory.join).filter
            (isSpillFile (disk.without path)) =
          (((disk.children location).map directory.join).filter (isSpillFile disk)).filter
            (· != path) := by
        unfold children
        rw [removed]
        refine filter_map_filterMap fun entry mem name here => ?_
        obtain ⟨last, at_⟩ := eq_of_child here
        have isName := named entry mem name last
        rw [Bool.eq_iff_iff, Bool.and_eq_true, Bool.and_eq_true, bne_iff_ne, bne_iff_ne]
        constructor
        · rintro ⟨-, spills⟩
          obtain ⟨id, leads'⟩ := exists_leads_of_isFile (Bool.and_eq_true_iff.1 spills).1
          refine ⟨isSpillFile_of_leads spills (leads'.after sheds.entries), ?_⟩
          rintro rfl
          exact gone id leads'
        · rintro ⟨spills, other⟩
          have inside : directory.join name ∈ path :: paths := by
            rw [← sorted]
            have child : name ∈ disk.children location := List.mem_filterMap.2 ⟨entry, mem, here⟩
            exact List.mem_mergeSort.2 (List.mem_filter.2 ⟨List.mem_map_of_mem child, spills⟩)
          obtain ⟨id, leads'⟩ := leads _ ((List.mem_cons.1 inside).resolve_left other)
          obtain ⟨entry', mem', here'⟩ := List.mem_filterMap.1 (stays isName leads').2
          rw [removed] at mem'
          have apart' := bne_iff_ne.1 (List.mem_filter.1 mem').2
          rw [(eq_of_child here').2] at apart'
          exact ⟨at_ ▸ apart', isSpillFile_of_leads spills leads'⟩
      rw [fewer, Path.sort, ← filter_mergeSort Path.ranked_trans Path.ranked_total, ← Path.sort,
        sorted, List.filter_cons, if_neg (by simp)]
      exact List.filter_eq_self.2 fun other mem => bne_iff_ne.2 fun same => apart (same ▸ mem)
  · next missing =>
      cases paths with
      | nil => rfl
      | cons other paths =>
          obtain ⟨id, leads'⟩ := leads other List.mem_cons_self
          obtain ⟨-, -, name, isName, rfl⟩ := each (List.mem_cons_of_mem _ List.mem_cons_self)
          exact absurd (stays isName leads').1 (missing _ _)

theorem directory_foldl_without {location : Location} (paths : List Path)
    (there : disk.entryAt? location = some .directory) :
    (paths.foldl without disk).entryAt? location = some .directory := by
  induction paths generalizing disk with
  | nil => exact there
  | cons path paths induction => exact induction (directory_without there)

theorem sheds_foldl_without (disk : Disk) (paths : List Path) :
    disk.Sheds (paths.foldl without disk) := by
  induction paths generalizing disk with
  | nil => exact Sheds.refl disk
  | cons path paths induction => exact (disk.sheds_without path).trans (induction _)

/-- A directory from which spill files went can be listed. -/
theorem Listable.foldl_without {done rest : List Path} (listable : Listable directory disk)
    (listed : filesIn directory disk = done ++ rest) :
    Listable directory (done.foldl without disk) := by
  rcases listable with ⟨location, slash, reached⟩ | missing
  · have still := resolve_sheds (sheds_foldl_without disk done)
      (fun _ there => directory_foldl_without done there) reached
    exact still.imp_left fun same => ⟨location, slash, same⟩
  · have none : filesIn directory disk = [] := by
      rcases missing with same | ⟨gap, slash, same⟩ <;> rw [filesIn, same]
    rw [none] at listed
    rw [(List.append_eq_nil_iff.1 listed.symm).1]
    exact Or.inr missing

theorem Listable.of_calmed {other : Disk} (listable : Listable directory disk)
    (same : other.calmed = disk.calmed) : Listable directory other := by
  rwa [Listable, ← resolve_calmed, same, resolve_calmed]

/-- Unless the system refuses, spill files can be listed of a directory and of none. -/
theorem exists_files_eq_ok (calm : ∀ error, disk.faults.head? ≠ some (some error))
    (listable : Listable directory disk) :
    ∃ paths opened, files directory disk = (.ok paths, opened) := by
  have listing : ∀ error, error ≠ .notFound → (listDirectory directory disk).1 ≠ .error error := by
    intro error other
    rw [listDirectory_eq]
    split
    · next head => exact absurd head (calm _)
    · rcases listable with ⟨location, slash, same⟩ | same | ⟨gap, slash, same⟩
      · rw [same]
        exact nofun
      · rw [same]
        exact fun missing => other (by cases missing; rfl)
      · rw [same]
        exact fun missing => other (by cases missing; rfl)
  unfold files
  split
  · exact ⟨_, _, rfl⟩
  · exact ⟨_, _, rfl⟩
  · next error opened other lists =>
      rw [lists] at listing
      exact absurd rfl (listing error other)

end Spill

end PartsList
