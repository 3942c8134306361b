import PartsList.Proofs.Disk.Opening

/-!
# Files that are replaced

A new file that is put at a path is where the path leads from then on, if the path leads to a file
at all: a path may go through the very link that the file replaces.
-/

namespace PartsList.Disk

variable {disk after : Disk} {path : Path} {location : Location} {id : FileId}
  {place place' : Place}

/-- A file stands at a location, and the rest of the tree is as it was. -/
structure Replaces (disk after : Disk) (location : Location) (id : FileId) : Prop where
  /-- The file. -/
  file : after.entryAt? location = some (.file id)
  /-- The rest. -/
  others : ∀ other, other ≠ location → after.entryAt? other = disk.entryAt? other

/-- A walk to a name that a file has ends at the file. -/
theorem Walks.location_of_file {last : LastPiece} {links : Nat} {at_ : Location} {piece : String}
    {rest : List String} (sought : Sought last piece rest)
    (file : disk.entryAt? (at_ ++ [piece]) = some (.file id))
    (walks : disk.Walks last links at_ (piece :: rest) place) :
    place.location = at_ ++ [piece] := by
  cases walks with
  | stay _ silent _ => exact absurd silent sought.loud
  | up _ _ => exact absurd rfl sought.down
  | enter _ _ found _ => cases file.symm.trans found
  | follow _ _ found _ _ => cases file.symm.trans found
  | stop _ _ _ _ => rfl

/-- A way that led to the place of the file and that can still be followed leads there. -/
theorem Walks.replaced (replaces : disk.Replaces after location id) {links : Nat} {at_ : Location}
    {pieces : List String} (walks : disk.Walks .kept links at_ pieces place)
    (here : place.location = location) (solid : place.entry ≠ some .directory)
    (found' : after.resolvePieces .followed links at_ pieces = .ok place') :
    place'.location = location := by
  have stands {links : Nat} {at_ : Location} {pieces : List String}
      (found' : after.resolvePieces .followed links at_ pieces = .ok place') :
      after.entryAt? at_ = some .directory := (walks_of_resolvePieces found').there
  -- The walk in the new tree ends where it meets the file.
  have meets {links : Nat} {at_ : Location} {piece : String} {rest : List String}
      (sought : Sought .kept piece rest) (same : at_ ++ [piece] = location)
      (found' : after.resolvePieces .followed links at_ (piece :: rest) = .ok place') :
      place'.location = location :=
    ((walks_of_resolvePieces found').location_of_file (sought.followed rest)
      (same ▸ replaces.file)).trans same
  induction walks with
  | here => exact absurd rfl solid
  | stay _ silent _ induction =>
      rw [resolvePieces_silent (stands found') silent] at found'
      exact induction here solid found'
  | up _ _ induction =>
      rw [resolvePieces_up (stands found')] at found'
      exact induction here solid found'
  | @enter _ at_ piece rest _ _ sought found _ induction =>
      by_cases same : at_ ++ [piece] = location
      · exact meets sought same found'
      · have still := (replaces.others _ same).trans found
        rw [resolvePieces_directory (stands found') (sought.followed rest) still] at found'
        exact induction here solid found'
  | @follow _ at_ piece target rest _ _ sought found _ _ induction =>
      by_cases same : at_ ++ [piece] = location
      · exact meets sought same found'
      · have still := (replaces.others _ same).trans found
        rw [resolvePieces_link (stands found') (sought.followed rest) still (nomatch ·.2)] at found'
        exact induction here solid found'
  | stop _ sought _ _ => exact meets sought here found'

/-- A way to a name at which no link stands leads to the file that is put there. -/
theorem Walks.placed (replaces : disk.Replaces after location id)
    (solid : disk.entryAt? location ≠ some .directory)
    (unlinked : ∀ target, disk.entryAt? location ≠ some (.link target)) {last : LastPiece}
    (fresh : last ≠ .made) {links : Nat} {at_ : Location} {pieces : List String}
    (walks : disk.Walks .kept links at_ pieces place) (here : place.location = location) :
    after.Walks last links at_ pieces ⟨location, some (.file id), place.slash⟩ := by
  -- On its way the walk meets directories and links only.
  have directory {other : Location} (found : disk.entryAt? other = some .directory) :
      after.entryAt? other = some .directory := by
    rw [replaces.others other, found]
    rintro rfl
    exact solid found
  have link {other : Location} {target : String}
      (found : disk.entryAt? other = some (.link target)) :
      after.entryAt? other = some (.link target) := by
    rw [replaces.others other, found]
    rintro rfl
    exact unlinked target found
  induction walks with
  | here there => exact absurd (here ▸ there) solid
  | stay there silent _ induction => exact .stay (directory there) silent (induction here)
  | up there _ induction => exact .up (directory there) (induction here)
  | enter there sought found _ induction =>
      exact .enter (directory there) (sought.taken fresh _) (directory found) (induction here)
  | follow there sought found followed _ induction =>
      exact .follow (directory there) (sought.taken fresh _) (link found)
        (fun both => followed ⟨both.1, rfl⟩) (induction here)
  | stop there sought _ ends =>
      subst here
      exact .stop (directory there) (sought.taken fresh _) replaces.file ends.slashes

theorem locate_replaced (replaces : disk.Replaces after location id)
    (located : disk.locate .kept path = .ok place) (here : place.location = location)
    (solid : place.entry ≠ some .directory) (located' : after.locate .followed path = .ok place') :
    place'.location = location := by
  obtain ⟨spelled, walks⟩ := walks_of_locate located
  rw [locate_eq spelled] at located'
  exact walks.replaced replaces here solid located'

/-! ## Files to which no path leads -/

/-- How writing a file to which no path leads yet can end: its answer, and the disk it leaves. -/
inductive Drafts (disk : Disk) (bytes : List UInt8) : Except OsError FileId → Disk → Prop
  /-- No file was made. -/
  | refused (error : OsError) {after : Disk} (entries : after.entries = disk.entries)
      (nextFile : after.nextFile = disk.nextFile) (contents : after.contents = disk.contents) :
      Drafts disk bytes (.error error) after
  /-- A file was made and given up on. -/
  | abandoned (error : OsError) {after : Disk} (tail : List UInt8) (part : tail = [] ∨ tail = bytes)
      (entries : after.entries = disk.entries) (nextFile : after.nextFile = disk.nextFile + 1)
      (contents : ∀ id, after.content? id =
        if id = disk.nextFile then some (.ofBytes tail) else disk.content? id) :
      Drafts disk bytes (.error error) after
  /-- A file was made and completed. -/
  | completed {after : Disk} (entries : after.entries = disk.entries)
      (nextFile : after.nextFile = disk.nextFile + 1)
      (contents : ∀ id, after.content? id =
        if id = disk.nextFile then some (.ofBytes bytes) else disk.content? id) :
      Drafts disk bytes (.ok disk.nextFile) after

/-- The disk with an empty file to which no path leads. -/
def begun (disk : Disk) : Disk :=
  { disk.putContent disk.nextFile (.ofBytes []) with nextFile := disk.nextFile + 1 }

theorem content?_begun (disk : Disk) (id : FileId) :
    disk.begun.content? id = if id = disk.nextFile then some (.ofBytes []) else disk.content? id :=
  content?_putContent disk disk.nextFile id (.ofBytes [])

theorem createNameless_cases (directory : Path) (disk : Disk) :
    (∃ error, createNameless directory disk = (.error error, disk.judged)) ∨
      createNameless directory disk = (.ok disk.nextFile, disk.judged.begun) := by
  rw [createNameless, verdict_bind]
  split
  · next error _ => exact Or.inl ⟨error, rfl⟩
  · rw [bind_eq, find_eq]
    cases disk.judged.resolve .followed directory with
    | error error => exact Or.inl ⟨error, rfl⟩
    | ok place =>
        obtain ⟨location, _ | _ | _ | _, slash⟩ := place
        · exact Or.inl ⟨_, rfl⟩
        · exact Or.inl ⟨_, rfl⟩
        · exact Or.inr rfl
        · exact Or.inl ⟨_, rfl⟩

theorem append_cases {content : Content} (holds : disk.content? id = some content)
    (bytes : List UInt8) :
    (∃ error, append id bytes disk = (.error error, disk.judged)) ∨
      append id bytes disk = (.ok (), disk.judged.putContent id (content.append bytes)) := by
  rw [append_eq, holds]
  rcases disk.faults.head? with _ | _ | error
  · exact Or.inr rfl
  · exact Or.inr rfl
  · exact Or.inl ⟨error, rfl⟩

theorem drafts_writeNameless (directory : Path) (bytes : List UInt8) (disk : Disk) :
    Drafts disk bytes (writeNameless directory bytes disk).1
      (writeNameless directory bytes disk).2 := by
  rw [writeNameless, bind_eq]
  rcases createNameless_cases directory disk with ⟨error, refused⟩ | created
  · rw [refused]
    exact .refused error rfl rfl rfl
  · have new : disk.judged.begun.content? disk.nextFile = some (.ofBytes []) :=
      (content?_begun disk.judged disk.nextFile).trans (if_pos rfl)
    rw [created]
    dsimp only
    rw [bind_eq]
    rcases append_cases new bytes with ⟨error, refused⟩ | appended
    · rw [refused]
      exact .abandoned error [] (Or.inl rfl) rfl rfl (content?_begun disk.judged)
    · have filled (id : FileId) : (disk.judged.begun.judged.putContent disk.nextFile
          ((Content.ofBytes []).append bytes)).content? id =
          if id = disk.nextFile then some (.ofBytes bytes) else disk.content? id := by
        rw [content?_putContent]
        split
        · rfl
        · next other => exact (content?_begun disk.judged id).trans (if_neg other)
      rw [appended]
      dsimp only
      rw [flush, verdict_bind]
      split
      · next error _ => exact .abandoned error bytes (Or.inr rfl) rfl rfl filled
      · exact .completed rfl rfl filled

/-! ## Files in their places -/

theorem entryAt?_put (solid : disk.entryAt? location ≠ some .directory) (entry : Entry)
    (other : Location) :
    (disk.putEntry location entry).entryAt? other =
      if other = location then some entry else disk.entryAt? other := by
  have below : ¬(location = [] ∨ location = absoluteRoot) := fun root =>
    solid (by rw [entryAt?, if_pos root])
  unfold entryAt?
  rw [putEntry, find?_put]
  by_cases same : other = location
  · subst same
    rw [if_neg below, if_pos rfl, if_pos rfl]
  · rw [if_neg same, if_neg same]

theorem replaces_putEntry (solid : disk.entryAt? location ≠ some .directory) (id : FileId) :
    disk.Replaces (disk.putEntry location (.file id)) location id where
  file := (entryAt?_put solid (.file id) location).trans (if_pos rfl)
  others other apart := (entryAt?_put solid (.file id) other).trans (if_neg apart)

/-- Putting a file at a path does nothing, or puts it where the path leads without following a link
at its end. -/
theorem placeFile_cases (path : Path) (id : FileId) (disk : Disk) :
    (∃ error, placeFile path id disk = (.error error, disk.judged)) ∨
      ∃ place, disk.resolve .kept path = .ok place ∧ place.entry ≠ some .directory ∧
        place.slash = false ∧
          placeFile path id disk =
            (.ok (), disk.judged.putEntry place.location (.file id)) := by
  rw [placeFile, verdict_bind]
  split
  · next error _ => exact Or.inl ⟨error, rfl⟩
  · rw [bind_eq, find_eq, resolve_judged]
    cases found : disk.resolve .kept path with
    | error error => exact Or.inl ⟨error, rfl⟩
    | ok place =>
        have bare := slash_of_resolve found
        obtain ⟨location, _ | _ | _ | _, slash⟩ := place
        · cases slash with
          | false => exact Or.inr ⟨_, rfl, nofun, rfl, rfl⟩
          | true => exact Or.inl ⟨_, rfl⟩
        · exact Or.inr ⟨_, rfl, nofun, bare nofun nofun, rfl⟩
        · exact Or.inl ⟨_, rfl⟩
        · exact Or.inr ⟨_, rfl, nofun, bare nofun nofun, rfl⟩

/-- No link stands where the path leads. -/
def IsUnlinked (disk : Disk) (path : Path) : Prop :=
  ∀ place, disk.resolve .kept path = .ok place → ∀ target, place.entry ≠ some (.link target)

instance (disk : Disk) (path : Path) : Decidable (disk.IsUnlinked path) :=
  match found : disk.resolve .kept path with
  | .error _ => isTrue fun _ leads => nomatch found.symm.trans leads
  | .ok ⟨_, some (.link target), _⟩ => isFalse fun unlinked => unlinked _ found target rfl
  | .ok ⟨_, none, _⟩ | .ok ⟨_, some (.file _), _⟩ | .ok ⟨_, some .directory, _⟩ =>
    isTrue fun _ leads _ link => by
      cases found.symm.trans leads
      cases link

/-- No link has a name that is in the path. -/
def IsFree (disk : Disk) (path : Path) : Prop :=
  ∀ location name target, disk.entryAt? (location ++ [name]) = some (.link target) →
    name ∉ path.pieces

theorem Walks.unlinked {last : LastPiece} {links : Nat} {at_ : Location} {pieces : List String}
    (walks : disk.Walks last links at_ pieces place)
    (free : ∀ location name target, disk.entryAt? (location ++ [name]) = some (.link target) →
      name ∉ pieces) (target : String) : place.entry ≠ some (.link target) := by
  induction walks with
  | here => nofun
  | stay _ _ _ induction | up _ _ induction | enter _ _ _ _ induction =>
      exact induction fun location name target there =>
        fun mem => free location name target there (List.mem_cons_of_mem _ mem)
  | follow _ _ found => exact absurd List.mem_cons_self (free _ _ _ found)
  | stop _ _ found => exact fun same => free _ _ _ (found.trans same) List.mem_cons_self

/-- A path with none of whose names there is a link leads to no link. -/
theorem IsFree.isUnlinked (free : disk.IsFree path) : disk.IsUnlinked path := by
  intro place leads target
  have walks := (walks_of_locate (locate_of_resolve leads)).2
  have pieces : (linkStart [] path.spelling).2 ⊆ path.pieces := by
    unfold linkStart
    split
    · next same => exact same ▸ List.subset_cons_self _ _
    · exact List.Subset.refl _
  exact walks.unlinked (fun location name target there mem =>
    free location name target there (pieces mem)) target

/-- A link is made where nothing was. -/
theorem makeLink_eq_ok {target : String} (made : makeLink path target disk = (.ok (), after)) :
    ∃ place, disk.resolve .kept path = .ok place ∧ place.entry = none ∧ place.slash = false ∧
      after = disk.putEntry place.location (.link target) := by
  unfold makeLink at made
  split at made
  · cases made
  · dsimp only at made
    rw [bind_eq, find_eq] at made
    cases found : disk.resolve .kept path with
    | error error =>
        rw [found] at made
        cases made
    | ok place =>
        rw [found] at made
        obtain ⟨location, _ | entry, slash⟩ := place
        · cases slash with
          | false => exact ⟨_, rfl, rfl, rfl, (Prod.mk.inj made).2.symm⟩
          | true => cases made
        · cases made

/-- Where a link was made a link stands. -/
theorem not_isUnlinked_of_makeLink {target : String}
    (made : makeLink path target disk = (.ok (), after)) : ¬after.IsUnlinked path := by
  obtain ⟨⟨location, _, _⟩, found, rfl, rfl, rfl⟩ := makeLink_eq_ok made
  have free : disk.entryAt? location = none := (entry_of_resolve found).symm
  have put (other : Location) :
      (disk.putEntry location (.link target)).entryAt? other =
        if other = location then some (.link target) else disk.entryAt? other :=
    entryAt?_putEntry free (.link target) other
  have stands : (disk.putEntry location (.link target)).entryAt? location = some (.link target) :=
    (put location).trans (if_pos rfl)
  have leads := locate_after (fun other entry there => by
      rw [put, if_neg, there]
      rintro rfl
      cases free.symm.trans there)
    (Or.inl rfl) (locate_of_resolve found) fun _ entry same => by
      cases same.symm.trans stands
      exact ⟨rfl, rfl⟩
  rw [stands] at leads
  intro unlinked
  refine unlinked ⟨location, some (.link target), false⟩ ?_ target rfl
  rw [resolve, leads]
  rfl

/-- A file that was put at a path at which no link stood is there. -/
theorem resolve_putEntry (resolved : disk.resolve .kept path = .ok place)
    (solid : place.entry ≠ some .directory) (bare : place.slash = false)
    (unlinked : disk.IsUnlinked path) {last : LastPiece} (fresh : last ≠ .made) :
    (disk.putEntry place.location (.file id)).resolve last path =
      .ok ⟨place.location, some (.file id), false⟩ := by
  have there := entry_of_resolve resolved
  obtain ⟨spelled, walks⟩ := walks_of_locate (locate_of_resolve resolved)
  have leads := (walks.placed (replaces_putEntry (there ▸ solid) id) (there ▸ solid)
    (there ▸ unlinked place resolved) fresh rfl).resolvePieces
  rw [← locate_eq spelled, bare] at leads
  rw [resolve, leads]
  rfl

/-- A file that was put at a path is the one that the path leads to, if it leads to a file. -/
theorem leads_putEntry (resolved : disk.resolve .kept path = .ok place)
    (solid : place.entry ≠ some .directory)
    (file : (disk.putEntry place.location (.file id)).isFile path = true) :
    (disk.putEntry place.location (.file id)).Leads path id := by
  have there := entry_of_resolve resolved
  have replaces := replaces_putEntry (there ▸ solid) id
  unfold isFile status at file
  cases found : (disk.putEntry place.location (.file id)).resolve .followed path with
  | error error => simp [found, bind, Except.bind] at file
  | ok place' =>
      have entry := entry_of_resolve found
      have location := locate_replaced replaces (locate_of_resolve resolved) rfl solid
        (locate_of_resolve found)
      rw [location, replaces.file] at entry
      exact leads_of_resolve found entry

end PartsList.Disk
