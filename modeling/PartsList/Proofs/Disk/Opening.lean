import PartsList.Disk.Operations
import PartsList.Proofs.Basic

/-!
# Files that are opened

A file that was opened at a path is where the path leads, and it is the one that was there before,
if there was one.  Opening only adds to the tree.
-/

namespace PartsList.Disk

/-! ## Entries and contents -/

theorem find?_put {κ α : Type} [BEq κ] [LawfulBEq κ] [DecidableEq κ] (pairs : List (κ × α))
    (key other : κ) (a : α) :
    ((pairs.filter (·.1 != key) ++ [(key, a)]).find? (·.1 == other)).map (·.2) =
      if other = key then some a else (pairs.find? (·.1 == other)).map (·.2) := by
  rw [List.find?_append]
  by_cases same : other = key
  · subst same
    have none : (pairs.filter (·.1 != other)).find? (·.1 == other) = none := by
      rw [List.find?_eq_none]
      intro pair mem
      simpa using (List.mem_filter.1 mem).2
    simp [none]
  · have kept : (pairs.filter (·.1 != key)).find? (·.1 == other) =
        pairs.find? (·.1 == other) := by
      rw [List.find?_filter]
      congr 1
      funext pair
      by_cases mine : pair.1 = other
      · simp [mine, same]
      · simp [mine]
    rw [kept, if_neg same]
    simp [Ne.symm same]

theorem content?_putContent (disk : Disk) (id other : FileId) (content : Content) :
    (disk.putContent id content).content? other =
      if other = id then some content else disk.content? other :=
  find?_put disk.contents id other content

theorem entryAt?_putEntry {disk : Disk} {location : Location} (free : disk.entryAt? location = none)
    (entry : Entry) (other : Location) :
    (disk.putEntry location entry).entryAt? other =
      if other = location then some entry else disk.entryAt? other := by
  unfold entryAt? at free ⊢
  split at free
  · cases free
  · next below =>
      rw [putEntry, find?_put]
      by_cases same : other = location
      · subst same
        rw [if_neg below, if_pos rfl, if_pos rfl]
      · rw [if_neg same, if_neg same]

/-- What stands in the tree of one disk stands in that of the other, and files hold the same. -/
structure Grows (disk after : Disk) : Prop where
  /-- The tree only grows. -/
  entries : ∀ location entry, disk.entryAt? location = some entry →
    after.entryAt? location = some entry
  /-- Files hold what they held. -/
  contents : after.contents = disk.contents
  /-- No file is made. -/
  nextFile : after.nextFile = disk.nextFile
  /-- What is new in the tree is a directory. -/
  known : ∀ location entry, after.entryAt? location = some entry →
    entry = .directory ∨ disk.entryAt? location = some entry

theorem Grows.refl (disk : Disk) : disk.Grows disk where
  entries _ _ there := there
  contents := rfl
  nextFile := rfl
  known _ _ there := Or.inr there

theorem Grows.trans {disk middle after : Disk} (first : disk.Grows middle)
    (second : middle.Grows after) : disk.Grows after where
  entries location entry there := second.entries location entry (first.entries location entry there)
  contents := second.contents.trans first.contents
  nextFile := second.nextFile.trans first.nextFile
  known location entry there :=
    (second.known location entry there).elim Or.inl (first.known location entry)

/-- No file gets another name. -/
theorem Grows.files {disk after : Disk} (grows : disk.Grows after) (location : Location)
    (id : FileId) (there : after.entryAt? location = some (.file id)) :
    disk.entryAt? location = some (.file id) :=
  (grows.known location _ there).resolve_left (by simp)

/-- No link is made. -/
theorem Grows.links {disk after : Disk} (grows : disk.Grows after) (location : Location)
    (target : String) (there : after.entryAt? location = some (.link target)) :
    disk.entryAt? location = some (.link target) :=
  (grows.known location _ there).resolve_left (by simp)

/-! ## Walks -/

section Walk

variable {disk after : Disk} {last last' : LastPiece} {links : Nat} {at_ location : Location}
  {piece : String} {rest pieces : List String} {place : Place} {path : Path}

/-- The piece is looked up in the directory in which it stands. -/
structure Sought (last : LastPiece) (piece : String) (rest : List String) : Prop where
  /-- It does not stay there, -/
  loud : ¬isSilent piece
  /-- nor goes up. -/
  down : piece ≠ ".."
  /-- No file is to be made in front of a slash. -/
  fine : ¬(last = .made ∧ rest ≠ [] ∧ rest.all (· == ""))
  /-- It can be a name. -/
  short : ¬nameLimit < piece.utf8ByteSize

/-- A piece that is looked up is looked up whatever is behind it, if no file is to be made. -/
theorem Sought.taken (sought : Sought last piece rest) (found : last' ≠ .made)
    (more : List String) : Sought last' piece more where
  loud := sought.loud
  down := sought.down
  fine made := found made.1
  short := sought.short

theorem Sought.followed (sought : Sought last piece rest) (more : List String) :
    Sought .followed piece more :=
  sought.taken (by decide) more

/-- A walk ends at what stands under its last name: at nothing or at a file, which may have slashes
behind them, or at a link that is taken as it is. -/
def Ends (last : LastPiece) (rest : List String) : Option Entry → Prop
  | none | some (.file _) => rest.all (· == "") = true
  | some (.link _) => rest = [] ∧ last = .kept
  | some .directory => False

theorem Ends.slashes {entry : Option Entry} (ends : Ends last rest entry) :
    rest.all (· == "") = true := by
  rcases entry with _ | _ | _ | _
  · exact ends
  · exact ends
  · exact ends.elim
  · rw [ends.1]
    rfl

/-- What may come to stand where a walk has found nothing, so that the walk still ends there. -/
def Fits (last : LastPiece) (slash : Bool) : Entry → Prop
  | .file _ => True
  | .link _ => slash = false ∧ last = .kept
  | .directory => False

/-- The pieces lead from a directory to a place, on a way that follows at most `links` links. -/
inductive Walks (disk : Disk) (last : LastPiece) :
    (links : Nat) → Location → List String → Place → Prop
  /-- There are no pieces. -/
  | here {links : Nat} {at_ : Location} (there : disk.entryAt? at_ = some .directory) :
      Walks disk last links at_ [] ⟨at_, some .directory, false⟩
  /-- The first piece stays in the directory. -/
  | stay {links : Nat} {at_ : Location} {piece : String} {rest : List String} {place : Place}
      (there : disk.entryAt? at_ = some .directory) (silent : isSilent piece = true)
      (walks : Walks disk last links at_ rest place) :
      Walks disk last links at_ (piece :: rest) place
  /-- It goes up. -/
  | up {links : Nat} {at_ : Location} {rest : List String} {place : Place}
      (there : disk.entryAt? at_ = some .directory)
      (walks : Walks disk last links (above at_) rest place) :
      Walks disk last links at_ (".." :: rest) place
  /-- It names a directory. -/
  | enter {links : Nat} {at_ : Location} {piece : String} {rest : List String} {place : Place}
      (there : disk.entryAt? at_ = some .directory) (sought : Sought last piece rest)
      (found : disk.entryAt? (at_ ++ [piece]) = some .directory)
      (walks : Walks disk last links (at_ ++ [piece]) rest place) :
      Walks disk last links at_ (piece :: rest) place
  /-- It names a link that is followed. -/
  | follow {links : Nat} {at_ : Location} {piece target : String} {rest : List String}
      {place : Place} (there : disk.entryAt? at_ = some .directory)
      (sought : Sought last piece rest)
      (found : disk.entryAt? (at_ ++ [piece]) = some (.link target))
      (followed : ¬(rest = [] ∧ last = .kept))
      (walks : Walks disk last links (linkStart at_ target).1 ((linkStart at_ target).2 ++ rest)
        place) :
      Walks disk last (links + 1) at_ (piece :: rest) place
  /-- It is the last name. -/
  | stop {links : Nat} {at_ : Location} {piece : String} {rest : List String}
      {entry : Option Entry} (there : disk.entryAt? at_ = some .directory)
      (sought : Sought last piece rest) (found : disk.entryAt? (at_ ++ [piece]) = entry)
      (ends : Ends last rest entry) :
      Walks disk last links at_ (piece :: rest) ⟨at_ ++ [piece], entry, !rest.isEmpty⟩

/-- Where a link in a directory and the pieces behind it lead. -/
def follow (disk : Disk) (last : LastPiece) :
    (links : Nat) → Location → String → List String → Except OsError Place
  | 0, _, _, _ => .error .linkLoop
  | links + 1, directory, target, rest =>
    disk.resolvePieces last links (linkStart directory target).1
      ((linkStart directory target).2 ++ rest)

theorem resolvePieces_eq (disk : Disk) (last : LastPiece) (links : Nat) :
    disk.resolvePieces last links = disk.walk last (disk.follow last links) := by
  cases links <;> rfl

attribute [local simp] walk

theorem resolvePieces_nil (there : disk.entryAt? at_ = some .directory) :
    disk.resolvePieces last links at_ [] = .ok ⟨at_, some .directory, false⟩ := by
  simp [resolvePieces_eq, there]

theorem resolvePieces_silent (there : disk.entryAt? at_ = some .directory)
    (silent : isSilent piece = true) :
    disk.resolvePieces last links at_ (piece :: rest) = disk.resolvePieces last links at_ rest := by
  simp [resolvePieces_eq, there, silent]

theorem resolvePieces_up (there : disk.entryAt? at_ = some .directory) :
    disk.resolvePieces last links at_ (".." :: rest) =
      disk.resolvePieces last links (above at_) rest := by
  simp [resolvePieces_eq, there, isSilent]

theorem resolvePieces_sought (there : disk.entryAt? at_ = some .directory)
    (sought : Sought last piece rest) :
    disk.resolvePieces last links at_ (piece :: rest) =
      match disk.entryAt? (at_ ++ [piece]) with
      | none =>
        if rest.isEmpty then .ok ⟨at_ ++ [piece], none, false⟩
        else if rest.all (· == "") then .ok ⟨at_ ++ [piece], none, true⟩
        else .error .notFound
      | some (.link target) =>
        if rest.isEmpty && last == .kept then .ok ⟨at_ ++ [piece], some (.link target), false⟩
        else disk.follow last links at_ target rest
      | some (.file id) =>
        if rest.isEmpty then .ok ⟨at_ ++ [piece], some (.file id), false⟩
        else if rest.all (· == "") then .ok ⟨at_ ++ [piece], some (.file id), true⟩
        else .error .notADirectory
      | some .directory => disk.resolvePieces last links (at_ ++ [piece]) rest := by
  rw [resolvePieces_eq, walk, if_neg (Decidable.not_not.2 there), if_neg sought.loud,
    if_neg sought.down, if_neg sought.fine]
  exact if_neg sought.short

theorem resolvePieces_directory (there : disk.entryAt? at_ = some .directory)
    (sought : Sought last piece rest) (found : disk.entryAt? (at_ ++ [piece]) = some .directory) :
    disk.resolvePieces last links at_ (piece :: rest) =
      disk.resolvePieces last links (at_ ++ [piece]) rest := by
  rw [resolvePieces_sought there sought, found]

theorem resolvePieces_link {target : String} (there : disk.entryAt? at_ = some .directory)
    (sought : Sought last piece rest)
    (found : disk.entryAt? (at_ ++ [piece]) = some (.link target))
    (followed : ¬(rest = [] ∧ last = .kept)) :
    disk.resolvePieces last links at_ (piece :: rest) = disk.follow last links at_ target rest := by
  rw [resolvePieces_sought there sought, found]
  exact if_neg (by simpa using followed)

theorem resolvePieces_absent (there : disk.entryAt? at_ = some .directory)
    (sought : Sought last piece rest) (absent : disk.entryAt? (at_ ++ [piece]) = none) :
    disk.resolvePieces last links at_ (piece :: rest) =
      if rest.all (· == "") then .ok ⟨at_ ++ [piece], none, !rest.isEmpty⟩
      else .error .notFound := by
  rw [resolvePieces_sought there sought, absent]
  cases rest <;> rfl

theorem resolvePieces_end {entry : Option Entry} (there : disk.entryAt? at_ = some .directory)
    (sought : Sought last piece rest) (found : disk.entryAt? (at_ ++ [piece]) = entry)
    (ends : Ends last rest entry) :
    disk.resolvePieces last links at_ (piece :: rest) =
      .ok ⟨at_ ++ [piece], entry, !rest.isEmpty⟩ := by
  have slashes := ends.slashes
  rw [resolvePieces_sought there sought, found]
  cases entry with
  | none =>
      simp only [slashes, if_true]
      cases rest <;> rfl
  | some entry =>
      cases entry with
      | file id =>
          simp only [slashes, if_true]
          cases rest <;> rfl
      | directory => exact ends.elim
      | link target =>
          obtain ⟨rfl, rfl⟩ := ends
          rfl

theorem walks_of_walk
    (follows : ∀ {directory target rest place},
      disk.follow last links directory target rest = .ok place →
        ∃ fewer, links = fewer + 1 ∧ disk.Walks last fewer (linkStart directory target).1
          ((linkStart directory target).2 ++ rest) place)
    (walked : disk.walk last (disk.follow last links) at_ pieces = .ok place) :
    disk.Walks last links at_ pieces place := by
  fun_induction walk disk last (disk.follow last links) at_ pieces with
  | case1 | case3 | case6 | case7 | case10 | case15 => cases walked
  | case2 at_ there =>
      cases walked
      exact .here (Decidable.not_not.1 there)
  | case4 at_ piece rest there silent induction =>
      exact .stay (Decidable.not_not.1 there) silent (induction walked)
  | case5 at_ rest there loud induction => exact .up (Decidable.not_not.1 there) (induction walked)
  | case8 at_ piece rest there loud down fine short location found alone
  | case13 at_ piece rest there loud down fine short location id found alone =>
      cases walked
      obtain rfl := List.isEmpty_iff.1 alone
      exact .stop (Decidable.not_not.1 there) ⟨loud, down, fine, short⟩ found rfl
  | case9 at_ piece rest there loud down fine short location found more slashes
  | case14 at_ piece rest there loud down fine short location id found more slashes =>
      cases walked
      have slash : (!rest.isEmpty) = true := by simpa using more
      exact slash ▸ .stop (Decidable.not_not.1 there) ⟨loud, down, fine, short⟩ found slashes
  | case11 at_ piece rest there loud down fine short location target found kept =>
      cases walked
      obtain ⟨alone, kept⟩ := Bool.and_eq_true_iff.1 kept
      obtain rfl := List.isEmpty_iff.1 alone
      exact .stop (Decidable.not_not.1 there) ⟨loud, down, fine, short⟩ found ⟨rfl, eq_of_beq kept⟩
  | case12 at_ piece rest there loud down fine short location target found followed =>
      obtain ⟨fewer, rfl, walks⟩ := follows walked
      exact .follow (Decidable.not_not.1 there) ⟨loud, down, fine, short⟩ found
        (by simpa using followed) walks
  | case16 at_ piece rest there loud down fine short location found induction =>
      exact .enter (Decidable.not_not.1 there) ⟨loud, down, fine, short⟩ found (induction walked)

theorem walks_of_resolvePieces (found : disk.resolvePieces last links at_ pieces = .ok place) :
    disk.Walks last links at_ pieces place := by
  induction links generalizing at_ pieces place with
  | zero => exact walks_of_walk (fun found => by cases found) found
  | succ links induction =>
      exact walks_of_walk (fun found => ⟨links, rfl, induction found⟩) found

theorem Walks.resolvePieces (walks : disk.Walks last links at_ pieces place) :
    disk.resolvePieces last links at_ pieces = .ok place := by
  induction walks with
  | here there => exact resolvePieces_nil there
  | stay there silent _ induction => rw [resolvePieces_silent there silent, induction]
  | up there _ induction => rw [resolvePieces_up there, induction]
  | enter there sought found _ induction =>
      rw [resolvePieces_directory there sought found, induction]
  | follow there sought found followed _ induction =>
      rw [resolvePieces_link there sought found followed]
      exact induction
  | stop there sought found ends => exact resolvePieces_end there sought found ends

/-- A walk starts in a directory. -/
theorem Walks.there (walks : disk.Walks last links at_ pieces place) :
    disk.entryAt? at_ = some .directory := by
  cases walks <;> assumption

/-- A place tells what stands at its location. -/
theorem Walks.entry_eq (walks : disk.Walks last links at_ pieces place) :
    place.entry = disk.entryAt? place.location := by
  induction walks with
  | here there => exact there.symm
  | stay _ _ _ induction | up _ _ induction | enter _ _ _ _ induction
  | follow _ _ _ _ _ induction => exact induction
  | stop _ _ found _ => exact found.symm

/-- No file is made in front of a slash. -/
theorem Walks.slash_eq (walks : disk.Walks .made links at_ pieces place) : place.slash = false := by
  generalize made : LastPiece.made = last at walks
  induction walks with
  | here => rfl
  | stay _ _ _ induction | up _ _ induction | enter _ _ _ _ induction
  | follow _ _ _ _ _ induction => exact induction
  | stop there sought found ends =>
      have alone := Decidable.not_not.1 fun more => sought.fine ⟨made.symm, more, ends.slashes⟩
      rw [alone]
      rfl

/-- A link that is not followed has no slash behind it. -/
theorem Walks.slash_of_link {target : String} (walks : disk.Walks last links at_ pieces place)
    (link : place.entry = some (.link target)) : place.slash = false := by
  induction walks with
  | here => cases link
  | stay _ _ _ induction | up _ _ induction | enter _ _ _ _ induction
  | follow _ _ _ _ _ induction => exact induction link
  | stop _ _ _ ends =>
      obtain rfl : _ = some (Entry.link target) := link
      rw [ends.1]
      rfl

/-- Where pieces lead in a tree, they lead in one that has grown since, and there they find what
stands in that one.  Pieces on which a file can be made lead there when the last one is followed. -/
theorem Walks.grown
    (keeps : ∀ location entry, disk.entryAt? location = some entry →
      after.entryAt? location = some entry)
    (same : last' = last ∨ last = .made ∧ last' = .followed)
    (walks : disk.Walks last links at_ pieces place)
    (free : place.entry = none → ∀ entry, after.entryAt? place.location = some entry →
      Fits last' place.slash entry) :
    after.Walks last' links at_ pieces { place with entry := after.entryAt? place.location } := by
  have kept' : last' = .kept ↔ last = .kept := by
    rcases same with rfl | ⟨rfl, rfl⟩
    · exact Iff.rfl
    · decide
  have sought' {piece : String} {rest : List String} (sought : Sought last piece rest) :
      Sought last' piece rest := by
    rcases same with rfl | ⟨-, rfl⟩
    · exact sought
    · exact sought.followed rest
  induction walks with
  | here there =>
      have there' := keeps _ _ there
      dsimp only
      rw [there']
      exact .here there'
  | stay there silent _ induction => exact .stay (keeps _ _ there) silent (induction free)
  | up there _ induction => exact .up (keeps _ _ there) (induction free)
  | enter there sought found _ induction =>
      exact .enter (keeps _ _ there) (sought' sought) (keeps _ _ found) (induction free)
  | follow there sought found followed _ induction =>
      exact .follow (keeps _ _ there) (sought' sought) (keeps _ _ found)
        (fun ends => followed (ends.imp_right kept'.1)) (induction free)
  | @stop _ at_ piece rest entry there sought found ends =>
      refine .stop (keeps _ _ there) (sought' sought) rfl ?_
      cases entry with
      | none =>
          cases found' : after.entryAt? (at_ ++ [piece]) with
          | none => exact ends
          | some entry =>
              have fits := free rfl entry found'
              cases entry with
              | file id => exact ends
              | directory => exact fits.elim
              | link target => exact fits.imp_left fun bare => by simpa using bare
      | some entry =>
          rw [keeps _ _ found]
          cases entry with
          | file id => exact ends
          | directory => exact ends.elim
          | link target => exact ends.imp_right kept'.2

/-! ## Paths -/

/-- The path is one that can be looked for. -/
structure Spelled (path : Path) : Prop where
  /-- It is not empty, -/
  named : path.spelling ≠ ""
  /-- has no null character, -/
  clean : ¬path.spelling.toList.contains (Char.ofNat 0) = true
  /-- and is not too long. -/
  short : ¬pathLimit ≤ path.spelling.utf8ByteSize

theorem locate_eq (spelled : Spelled path) (disk : Disk) (last : LastPiece) :
    disk.locate last path =
      disk.resolvePieces last linkLimit (linkStart [] path.spelling).1
        (linkStart [] path.spelling).2 := by
  rw [locate, if_neg spelled.named, if_neg spelled.clean, if_neg spelled.short]

/-- A path that cannot be looked for leads nowhere, whatever the disk. -/
theorem spelled_or_error (path : Path) :
    Spelled path ∨
      ∃ error, ∀ (disk : Disk) (last : LastPiece), disk.locate last path = .error error := by
  by_cases named : path.spelling = ""
  · exact Or.inr ⟨.notFound, fun _ _ => if_pos named⟩
  · by_cases clean : path.spelling.toList.contains (Char.ofNat 0) = true
    · exact Or.inr ⟨.nulCharacter, fun _ _ => by rw [locate, if_neg named, if_pos clean]⟩
    · by_cases short : pathLimit ≤ path.spelling.utf8ByteSize
      · exact Or.inr ⟨.nameTooLong, fun _ _ => by
          rw [locate, if_neg named, if_neg clean, if_pos short]⟩
      · exact Or.inl ⟨named, clean, short⟩

theorem walks_of_locate (found : disk.locate last path = .ok place) :
    Spelled path ∧ disk.Walks last linkLimit (linkStart [] path.spelling).1
      (linkStart [] path.spelling).2 place := by
  rcases spelled_or_error path with spelled | ⟨error, fails⟩
  · exact ⟨spelled, walks_of_resolvePieces ((locate_eq spelled disk last).symm.trans found)⟩
  · cases (fails disk last).symm.trans found

theorem locate_after
    (keeps : ∀ location entry, disk.entryAt? location = some entry →
      after.entryAt? location = some entry)
    (same : last' = last ∨ last = .made ∧ last' = .followed)
    (found : disk.locate last path = .ok place)
    (free : place.entry = none → ∀ entry, after.entryAt? place.location = some entry →
      Fits last' place.slash entry) :
    after.locate last' path = .ok { place with entry := after.entryAt? place.location } := by
  obtain ⟨spelled, walks⟩ := walks_of_locate found
  rw [locate_eq spelled]
  exact (walks.grown keeps same free).resolvePieces

/-- Where a path leads depends on nothing but the tree. -/
theorem resolve_congr (same : ∀ location, after.entryAt? location = disk.entryAt? location)
    (path : Path) : after.resolve last path = disk.resolve last path := by
  have walk (follow : Location → String → List String → Except OsError Place)
      (directory : Location) (pieces : List String) :
      after.walk last follow directory pieces = disk.walk last follow directory pieces := by
    induction pieces generalizing directory with
    | nil => simp only [Disk.walk, same]
    | cons piece rest induction => simp only [Disk.walk, same, induction]
  have resolvePieces (links : Nat) (directory : Location) (pieces : List String) :
      after.resolvePieces last links directory pieces =
        disk.resolvePieces last links directory pieces := by
    induction links generalizing directory pieces with
    | zero => exact walk _ _ _
    | succ links induction => simp only [Disk.resolvePieces, walk, induction]
  simp only [resolve, locate, resolvePieces]

theorem entry_of_locate (found : disk.locate last path = .ok place) :
    place.entry = disk.entryAt? place.location :=
  (walks_of_locate found).2.entry_eq

theorem slash_of_locate (found : disk.locate .made path = .ok place) : place.slash = false :=
  (walks_of_locate found).2.slash_eq

/-- Whether a slash behind a file matters does not change where a path leads. -/
theorem locate_of_resolve (found : disk.resolve last path = .ok place) :
    disk.locate last path = .ok place := by
  obtain ⟨located, first, rest⟩ := exists_of_bind_eq_ok found
  obtain rfl : located = place := by
    split at rest
    · split at rest <;> cases rest
      rfl
    · cases rest
      rfl
  exact first

/-- What has a name and is no directory has no slashes behind it. -/
theorem slash_of_resolve (found : disk.resolve .kept path = .ok place)
    (named : place.entry ≠ none) (solid : place.entry ≠ some .directory) : place.slash = false := by
  obtain ⟨located, first, rest⟩ := exists_of_bind_eq_ok found
  split at rest
  · next id file =>
      split at rest
      · cases rest
      · next bare =>
          cases rest
          exact Bool.not_eq_true _ ▸ bare
  · next other =>
      cases rest
      cases entry : place.entry with
      | none => exact absurd entry named
      | some entry' =>
          cases entry' with
          | file id => exact absurd entry (other id)
          | directory => exact absurd entry solid
          | link target => exact (walks_of_locate first).2.slash_of_link entry

theorem entry_of_resolve (found : disk.resolve last path = .ok place) :
    place.entry = disk.entryAt? place.location :=
  entry_of_locate (locate_of_resolve found)

end Walk

/-! ## Work that only makes directories -/

theorem bind_eq {α β : Type} (work : DiskM α) (next : α → DiskM β) (disk : Disk) :
    (work >>= next) disk =
      match work disk with
      | (.ok a, after) => next a after
      | (.error error, after) => (.error error, after) := by
  change ExceptT.bindCont next (work disk).1 (work disk).2 = _
  rcases work disk with ⟨_ | _, after⟩ <;> rfl

theorem get_eq (disk : Disk) : (get : DiskM Disk) disk = (.ok disk, disk) := rfl

theorem lift_eq {α : Type} (answer : Except OsError α) (disk : Disk) :
    (liftM answer : DiskM α) disk = (answer, disk) := by
  cases answer <;> rfl

theorem find_eq (last : LastPiece) (path : Path) (disk : Disk) :
    find last path disk = (disk.resolve last path, disk) :=
  lift_eq (disk.resolve last path) disk

theorem tryCatch_eq {α : Type} (work : DiskM α) (handle : OsError → DiskM α) (disk : Disk) :
    tryCatch work handle disk =
      match work disk with
      | (.ok a, after) => (.ok a, after)
      | (.error error, after) => handle error after := by
  change ExceptT.tryCatch work handle disk = _
  simp only [ExceptT.tryCatch, ExceptT.mk, bind, StateT.bind]
  cases work disk with
  | mk answer after => cases answer <;> rfl

/-- Whatever disk the work finds, it leaves one to which that is related. -/
def Keeping (kept : Disk → Disk → Prop) {α : Type} (work : DiskM α) : Prop :=
  ∀ disk, kept disk (work disk).2

theorem Keeping.bind {kept : Disk → Disk → Prop} {α β : Type} {work : DiskM α}
    {next : α → DiskM β}
    (trans : ∀ {disk middle after}, kept disk middle → kept middle after → kept disk after)
    (first : Keeping kept work) (second : ∀ a, Keeping kept (next a)) :
    Keeping kept (work >>= next) := by
  intro disk
  have before := first disk
  rw [bind_eq]
  cases ran : work disk with
  | mk answer after =>
      rw [ran] at before
      cases answer with
      | error error => exact before
      | ok a => exact trans before (second a after)

theorem Keeping.tryCatch {kept : Disk → Disk → Prop} {α : Type} {work : DiskM α}
    {handle : OsError → DiskM α}
    (trans : ∀ {disk middle after}, kept disk middle → kept middle after → kept disk after)
    (first : Keeping kept work) (second : ∀ error, Keeping kept (handle error)) :
    Keeping kept (tryCatch work handle) := by
  intro disk
  have before := first disk
  rw [tryCatch_eq]
  cases ran : work disk with
  | mk answer after =>
      rw [ran] at before
      cases answer with
      | error error => exact trans before (second error after)
      | ok a => exact before

/-- The disk after the system has given a verdict. -/
def judged (disk : Disk) : Disk :=
  { disk with faults := disk.faults.tail }

theorem grows_judged (disk : Disk) : disk.Grows disk.judged where
  entries _ _ there := there
  contents := rfl
  nextFile := rfl
  known _ _ there := Or.inr there

/-- Where a path leads has nothing to do with the system's verdicts. -/
theorem resolve_faults (disk : Disk) (last : LastPiece) (path : Path)
    (faults : List (Option OsError)) :
    { disk with faults := faults }.resolve last path = disk.resolve last path :=
  resolve_congr (show ∀ location, { disk with faults := faults }.entryAt? location =
    disk.entryAt? location from fun _ => rfl) path

theorem resolve_judged (disk : Disk) (last : LastPiece) (path : Path) :
    disk.judged.resolve last path = disk.resolve last path :=
  disk.resolve_faults last path disk.faults.tail

theorem verdict_eq (disk : Disk) :
    verdict disk =
      match disk.faults.head? with
      | some (some error) => (.error error, disk.judged)
      | _ => (.ok (), disk.judged) := by
  change (match disk.faults.head? with
    | some (some error) => (throw error : DiskM Unit)
    | _ => return ()) disk.judged = _
  rcases disk.faults.head? with _ | _ | error <;> rfl

theorem growing_verdict : Keeping Grows verdict := by
  intro disk
  rw [verdict_eq]
  split <;> exact grows_judged disk

theorem growing_readFile (path : Path) : Keeping Grows (readFile path) := by
  have finds (last : LastPiece) (path : Path) : Keeping Grows (find last path) := by
    intro disk
    rw [find_eq]
    exact .refl disk
  refine Keeping.bind Grows.trans growing_verdict fun _ => ?_
  refine Keeping.bind Grows.trans ?_ fun id => ?_
  · refine Keeping.bind Grows.trans (finds _ _) fun place => ?_
    split <;> exact Grows.refl
  · exact Keeping.bind Grows.trans Grows.refl fun _ => Grows.refl

/-- What comes behind a verdict is done unless the system refuses. -/
theorem verdict_bind {α : Type} (next : Unit → DiskM α) (disk : Disk) :
    (verdict >>= next) disk =
      match disk.faults.head? with
      | some (some error) => (.error error, disk.judged)
      | _ => next () disk.judged := by
  rw [bind_eq, verdict_eq]
  rcases disk.faults.head? with _ | _ | error <;> rfl

theorem verdict_bind_of_eq {α : Type} {next : Unit → DiskM α} {disk : Disk}
    {answer : Except OsError α × Disk} (same : next () disk.judged = answer) :
    (verdict >>= next) disk =
      match disk.faults.head? with
      | some (some error) => (.error error, disk.judged)
      | _ => answer := by
  rw [verdict_bind, same]

/-- Making a directory does nothing, or makes it where the path leads to nothing. -/
theorem makeDirectory_cases (path : Path) (disk : Disk) :
    (makeDirectory path disk).2 = disk.judged ∨
      ∃ location slash, disk.resolve .kept path.withoutSlashes = .ok ⟨location, none, slash⟩ ∧
        makeDirectory path disk = (.ok (), disk.judged.putEntry location .directory) := by
  rw [makeDirectory, verdict_bind]
  split
  · exact Or.inl rfl
  · rw [bind_eq, find_eq, resolve_judged]
    cases disk.resolve .kept path.withoutSlashes with
    | error error => exact Or.inl rfl
    | ok place =>
        obtain ⟨location, entry, slash⟩ := place
        cases entry with
        | some entry => exact Or.inl rfl
        | none => exact Or.inr ⟨location, slash, rfl, rfl⟩

theorem growing_makeDirectory (path : Path) : Keeping Grows (makeDirectory path) := by
  intro disk
  rcases makeDirectory_cases path disk with same | ⟨location, slash, found, made⟩
  · rw [same]
    exact grows_judged disk
  · rw [made]
    have free : disk.judged.entryAt? location = none := (entry_of_resolve found).symm
    refine (grows_judged disk).trans
      ⟨fun other entry present => ?_, rfl, rfl, fun other entry present => ?_⟩
    · dsimp only
      rw [entryAt?_putEntry free, if_neg]
      · exact present
      · rintro rfl
        cases free.symm.trans present
    · dsimp only at present
      rw [entryAt?_putEntry free] at present
      split at present
      · exact Or.inl (Option.some.inj present).symm
      · exact Or.inr present

section Keeping

variable {kept : Disk → Disk → Prop} (refl : ∀ disk, kept disk disk)
  (trans : ∀ {disk middle after}, kept disk middle → kept middle after → kept disk after)
include refl trans

theorem Keeping.ensureDirectory {path : Path} (first : Keeping kept (makeDirectory path)) :
    Keeping kept (ensureDirectory path) := by
  refine Keeping.tryCatch trans first fun error => ?_
  refine Keeping.bind trans refl fun disk => ?_
  split <;> exact refl

/-- What making each of the directories above keeps, making all of them keeps. -/
theorem Keeping.makeDirectories {above : Path → Prop}
    (up : ∀ {path parent}, above path → path.parent? = some parent → above parent)
    (each : ∀ path, above path → Keeping kept (makeDirectory path)) {path : Path}
    (here : above path) : Keeping kept (makeDirectories path) := by
  have all (fuel : Nat) {path : Path} (here : above path) :
      Keeping kept (makeDirectoriesUp fuel path) := by
    induction fuel generalizing path with
    | zero => exact Keeping.ensureDirectory refl trans (each path here)
    | succ fuel induction =>
        have first := Keeping.ensureDirectory refl trans (each path here)
        unfold makeDirectoriesUp
        split
        · exact refl
        · refine Keeping.tryCatch trans first fun error => ?_
          split
          · next parent found =>
              exact Keeping.bind trans (induction (up here found)) fun _ => first
          · exact refl
  exact all _ here

end Keeping

theorem growing_makeDirectories (path : Path) : Keeping Grows (makeDirectories path) :=
  Keeping.makeDirectories Grows.refl Grows.trans (fun _ _ => trivial)
    (fun path (_ : True) => growing_makeDirectory path) trivial

/-! ## Opening -/

section Opening

variable {disk opened : Disk} {path : Path} {id : FileId}

/-- The path leads to a file. -/
def Leads (disk : Disk) (path : Path) (id : FileId) : Prop :=
  ∃ location, disk.locate .followed path = .ok ⟨location, some (.file id), false⟩

theorem Leads.unique {other : FileId} (leads : disk.Leads path id)
    (leads' : disk.Leads path other) :
    id = other := by
  obtain ⟨location, found⟩ := leads
  obtain ⟨location', found'⟩ := leads'
  rw [found] at found'
  cases found'
  rfl

/-- A path leads to the same file after the tree has grown. -/
theorem Leads.after (leads : disk.Leads path id)
    (keeps : ∀ location entry, disk.entryAt? location = some entry →
      opened.entryAt? location = some entry) : opened.Leads path id := by
  obtain ⟨location, found⟩ := leads
  have there := keeps _ _ (entry_of_locate found).symm
  exact ⟨location, there ▸ locate_after keeps (Or.inl rfl) found nofun⟩

theorem openOrCreate_eq (path : Path) (disk : Disk) :
    openOrCreate path disk =
      match disk.locate .made path with
      | .error error => (.error error, disk)
      | .ok place =>
        match place.entry with
        | some (.file id) => (.ok id, disk)
        | some _ => (.error .isADirectory, disk)
        | none => (.ok disk.nextFile, (disk.addFile place.location (.ofBytes [])).2) := by
  rw [openOrCreate, bind_eq, get_eq]
  dsimp only
  rw [bind_eq, lift_eq]
  cases disk.locate .made path with
  | error error => rfl
  | ok place =>
      obtain ⟨location, entry, slash⟩ := place
      rcases entry with _ | _ | _ | _ <;> rfl

theorem content?_addFile (disk : Disk) (location : Location) (content : Content) (other : FileId) :
    (disk.addFile location content).2.content? other =
      if other = disk.nextFile then some content else disk.content? other :=
  content?_putContent (disk.putEntry location (.file disk.nextFile)) disk.nextFile other content

theorem entryAt?_addFile {location : Location} (free : disk.entryAt? location = none)
    (content : Content) (other : Location) :
    (disk.addFile location content).2.entryAt? other =
      if other = location then some (.file disk.nextFile) else disk.entryAt? other :=
  entryAt?_putEntry free (.file disk.nextFile) other

theorem keeps_addFile {location : Location} (free : disk.entryAt? location = none)
    (content : Content) (other : Location) (entry : Entry)
    (there : disk.entryAt? other = some entry) :
    (disk.addFile location content).2.entryAt? other = some entry := by
  rw [entryAt?_addFile free, if_neg]
  · exact there
  · rintro rfl
    rw [there] at free
    cases free

/-- What opening a file did: nothing but to find the file, or to make an empty one. -/
inductive Opened (disk opened : Disk) (path : Path) (id : FileId) : Prop
  /-- The file was there. -/
  | found (same : opened = disk)
  /-- The file was made where the path leads. -/
  | made (location : Location) (missing : disk.locate .followed path = .ok ⟨location, none, false⟩)
    (new : id = disk.nextFile) (same : opened = (disk.addFile location (.ofBytes [])).2)

/-- A path leads to the file that was opened there. -/
theorem openOrCreate_spec (opens : openOrCreate path disk = (.ok id, opened)) :
    Opened disk opened path id ∧ opened.Leads path id := by
  rw [openOrCreate_eq] at opens
  cases found : disk.locate .made path with
  | error error =>
      rw [found] at opens
      cases opens
  | ok place =>
      rw [found] at opens
      have there := entry_of_locate found
      have open_ := slash_of_locate found
      obtain ⟨location, entry, slash⟩ := place
      obtain rfl : slash = false := open_
      dsimp only at opens there
      split at opens
      · cases opens
        refine ⟨.found rfl, location, ?_⟩
        have followed := locate_after (fun _ _ there => there)
          (Or.inr ⟨rfl, rfl⟩ : LastPiece.followed = .made ∨ _) found nofun
        rw [followed, ← there]
      · cases opens
      · cases opens
        have free := there.symm
        have missing := locate_after (fun _ _ there => there)
          (Or.inr ⟨rfl, rfl⟩ : LastPiece.followed = .made ∨ _) found
          (fun _ entry same => nomatch free.symm.trans same)
        dsimp only at missing
        rw [free] at missing
        refine ⟨.made location missing rfl rfl, location, ?_⟩
        have stands : (disk.addFile location (.ofBytes [])).2.entryAt? location =
            some (.file disk.nextFile) := by
          rw [entryAt?_addFile free, if_pos rfl]
        have followed := locate_after (keeps_addFile free (.ofBytes []))
          (Or.inr ⟨rfl, rfl⟩ : LastPiece.followed = .made ∨ _) found
          (fun _ entry same => by cases same.symm.trans stands; trivial)
        rw [followed]
        dsimp only
        rw [stands]

theorem Leads.resolve (leads : disk.Leads path id) :
    ∃ location, disk.resolve .followed path = .ok ⟨location, some (.file id), false⟩ := by
  obtain ⟨location, found⟩ := leads
  refine ⟨location, ?_⟩
  unfold Disk.resolve
  rw [found]
  rfl

theorem leads_of_resolve {place : Place} (found : disk.resolve .followed path = .ok place)
    (file : place.entry = some (.file id)) : disk.Leads path id := by
  obtain ⟨located, first, found⟩ := exists_of_bind_eq_ok found
  obtain ⟨location, entry, slash⟩ := located
  split at found
  · split at found
    · cases found
    · next bare =>
        cases found
        obtain rfl : slash = false := by simpa using bare
        obtain rfl : entry = some (.file id) := file
        exact ⟨location, first⟩
  · next other =>
      cases found
      exact absurd file (other id)

/-- What the file at a path holds. -/
def bytesAt (disk : Disk) (path : Path) : Except OsError (List UInt8) :=
  match disk.resolve .followed path with
  | .ok ⟨_, some (.file id), _⟩ => .ok (((disk.content? id).map Content.toBytes).getD [])
  | .ok ⟨_, some _, _⟩ => .error .isADirectory
  | .ok ⟨_, none, _⟩ => .error .notFound
  | .error error => .error error

/-- What files hold has nothing to do with the system's verdicts. -/
theorem bytesAt_faults (disk : Disk) (path : Path) (faults : List (Option OsError)) :
    { disk with faults := faults }.bytesAt path = disk.bytesAt path := by
  rw [bytesAt, bytesAt, resolve_faults]
  rfl

/-- Unless the system refuses, reading a file tells what it holds. -/
theorem readFile_eq (calm : ∀ error, disk.faults.head? ≠ some (some error)) :
    readFile path disk = (disk.bytesAt path, disk.judged) := by
  rw [readFile, verdict_bind]
  split
  · next error first => exact absurd first (calm error)
  · rw [bind_eq, openFile, bind_eq, find_eq, resolve_judged, bytesAt]
    rcases disk.resolve .followed path with error | ⟨location, _ | _ | _ | _, slash⟩ <;> rfl

/-- A file is read that a path leads to, unless the system refuses. -/
theorem readFile_of_leads (leads : disk.Leads path id)
    (calm : ∀ error, disk.faults.head? ≠ some (some error)) :
    readFile path disk = (.ok (((disk.content? id).map Content.toBytes).getD []), disk.judged) := by
  obtain ⟨location, resolved⟩ := leads.resolve
  rw [readFile_eq calm, bytesAt, resolved]

theorem append_eq (id : FileId) (bytes : List UInt8) (disk : Disk) :
    append id bytes disk =
      match disk.faults.head? with
      | some (some error) => (.error error, disk.judged)
      | _ =>
        (.ok (),
          match disk.content? id with
          | some content => disk.judged.putContent id (content.append bytes)
          | none => disk.judged) := by
  have content : disk.judged.content? id = disk.content? id := rfl
  refine verdict_bind_of_eq ?_
  rw [bind_eq, get_eq]
  dsimp only
  rw [content]
  cases disk.content? id <;> rfl

/-- What writing a file comes down to. -/
theorem writeFile_eq_ok {content : Content} {after : Disk}
    (written : writeFile path content disk = (.ok (), after)) :
    ∃ judged id opened, verdict disk = (.ok (), judged) ∧
      openOrCreate path judged = (.ok id, opened) ∧
        after = (opened.putContent id (.ofBytes [])).putContent id content := by
  rw [writeFile, bind_eq, openEmpty, bind_eq] at written
  rcases judge : verdict disk with ⟨_ | _, judged⟩
  · rw [judge] at written
    cases written
  · rw [judge] at written
    dsimp only at written
    rw [bind_eq] at written
    rcases opens : openOrCreate path judged with ⟨_ | id, opened⟩
    · rw [opens] at written
      cases written
    · rw [opens] at written
      cases written
      exact ⟨judged, id, opened, rfl, opens, rfl⟩

/-- A path leads to what was written there. -/
theorem bytesAt_of_writeFile {content : Content}
    (written : writeFile path content disk = (.ok (), opened)) :
    opened.bytesAt path = .ok content.toBytes := by
  obtain ⟨judged, id, found, -, opens, rfl⟩ := writeFile_eq_ok written
  obtain ⟨location, resolved⟩ := (openOrCreate_spec opens).2.resolve
  have tree (location : Location) :
      ((found.putContent id (.ofBytes [])).putContent id content).entryAt? location =
        found.entryAt? location := rfl
  have kept : ((found.putContent id (.ofBytes [])).putContent id content).resolve .followed path =
      found.resolve .followed path := resolve_congr tree path
  rw [bytesAt, kept, resolved]
  dsimp only
  rw [content?_putContent, if_pos rfl, Option.map_some, Option.getD_some]

end Opening

end PartsList.Disk
