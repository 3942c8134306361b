import PartsList.Proofs.Disk.Opening

/-!
# Files in directories

A path that is made of a directory's path and a name leads through that directory, so that the name
is among those that the directory lists.
-/

namespace PartsList

namespace Path

theorem splitSlashes_ne_nil (chars : List Char) : splitSlashes chars ≠ [] := by
  cases chars with
  | nil => exact List.cons_ne_nil _ _
  | cons c rest =>
      unfold splitSlashes
      split
      · split <;> exact List.cons_ne_nil _ _
      · exact List.cons_ne_nil _ _

theorem splitSlashes_append (front back : List Char) :
    splitSlashes (front ++ '/' :: back) = splitSlashes front ++ splitSlashes back := by
  induction front with
  | nil =>
      obtain ⟨piece, pieces, split⟩ := List.exists_cons_of_ne_nil (splitSlashes_ne_nil back)
      simp [splitSlashes, split]
  | cons c front induction =>
      obtain ⟨piece, pieces, split⟩ := List.exists_cons_of_ne_nil (splitSlashes_ne_nil front)
      rw [List.cons_append, splitSlashes, induction, split, splitSlashes, split]
      by_cases slash : c = '/' <;> simp [slash]

theorem splitSlashes_of_not_mem {chars : List Char} (one : '/' ∉ chars) :
    splitSlashes chars = [chars] := by
  induction chars with
  | nil => rfl
  | cons c chars induction =>
      obtain ⟨other, one⟩ := not_or.1 (mt List.mem_cons.2 one)
      simp [splitSlashes, induction one, Ne.symm other]

/-- A name in a directory is one more piece, in place of the empty one behind a slash. -/
theorem pieces_join {directory : Path} {name : String} (named : directory.spelling ≠ "")
    (one : '/' ∉ name.toList) :
    ∃ first front silent, (∀ piece ∈ silent, piece = "") ∧
      directory.pieces = first :: (front ++ silent) ∧
      (directory.join name).pieces = first :: (front ++ [name]) := by
  have joined (spelling : List Char) :
      (splitSlashes (spelling ++ '/' :: name.toList)).map String.ofList =
        (splitSlashes spelling).map String.ofList ++ [name] := by
    rw [splitSlashes_append, splitSlashes_of_not_mem one, List.map_append, List.map_singleton,
      String.ofList_toList]
  unfold join
  split
  · next ends =>
      have slash := ends.resolve_left named
      obtain ⟨spelling, same⟩ := List.getLast?_eq_some_iff.1 slash
      obtain ⟨first, front, split⟩ := List.exists_cons_of_ne_nil (splitSlashes_ne_nil spelling)
      refine ⟨String.ofList first, front.map String.ofList, [""], by simp, ?_, ?_⟩
      · rw [pieces, same, splitSlashes_append, split]
        simp [splitSlashes]
      · have together := joined spelling
        rw [split] at together
        rw [pieces, String.toList_append, same, List.append_assoc]
        exact together
  · obtain ⟨first, front, split⟩ :=
      List.exists_cons_of_ne_nil (splitSlashes_ne_nil directory.spelling.toList)
    refine ⟨String.ofList first, front.map String.ofList, [], by simp, ?_, ?_⟩
    · rw [pieces, split, List.append_nil]
      rfl
    · have together := joined directory.spelling.toList
      rw [split] at together
      rw [pieces, String.toList_append, String.toList_append, List.append_assoc]
      exact together

theorem extensionOf_append {stem ending : String} (named : stem ≠ "")
    (one : '.' ∉ ending.toList) : extensionOf (stem ++ "." ++ ending) = some ending := by
  have reversed : (stem ++ "." ++ ending).toList.reverse =
      ending.toList.reverse ++ '.' :: stem.toList.reverse := by
    simp [String.toList_append]
  have tail : ((stem ++ "." ++ ending).toList.reverse.takeWhile (· != '.')) =
      ending.toList.reverse := by
    rw [reversed, List.takeWhile_append_of_pos]
    · simp
    · intro c mem
      have other : c ≠ '.' := fun same => one (same ▸ List.mem_reverse.1 mem)
      simpa using other
  have chars : stem.toList.reverse ≠ [] := by simpa using named
  obtain ⟨c, rest, same⟩ := List.exists_cons_of_ne_nil chars
  simp only [extensionOf, tail]
  rw [reversed, List.drop_left, same]
  simp

theorem lastName?_join {directory : Path} {name : String} (named : directory.spelling ≠ "")
    (one : '/' ∉ name.toList) (loud : name ≠ "" ∧ name ≠ ".") (down : name ≠ "..") :
    (directory.join name).lastName? = some name := by
  obtain ⟨first, front, silent, -, -, joined⟩ := pieces_join named one
  have inner : innerComponent? name = some (.normal name) := by
    rw [innerComponent?, if_neg (not_or.2 loud), if_neg down]
  rw [lastName?, components, joined]
  simp [List.filterMap_append, inner]

end Path

namespace Disk

variable {disk after : Disk} {id : FileId} {directory : Path} {name : String}

theorem Walks.silent {last : LastPiece} {links : Nat} {at_ : Location}
    (there : disk.entryAt? at_ = some .directory) {silent : List String}
    (silents : ∀ piece ∈ silent, isSilent piece = true) :
    disk.Walks last links at_ silent ⟨at_, some .directory, false⟩ := by
  induction silent with
  | nil => exact .here there
  | cons piece silent induction =>
      obtain ⟨first, silents⟩ := List.forall_mem_cons.1 silents
      exact .stay there first (induction silents)

/-- A walk to a name goes through the directory that the name is in, and ends at the name if that is
taken as it is. -/
theorem Walks.concat {last : LastPiece} {links : Nat} {at_ : Location} {front silent : List String}
    {place : Place} (loud : ¬isSilent name) (down : name ≠ "..")
    (silents : ∀ piece ∈ silent, piece = "")
    (walks : disk.Walks last links at_ (front ++ [name]) place) (present : place.entry ≠ none) :
    ∃ location entry,
      disk.Walks .followed links at_ (front ++ silent) ⟨location, some .directory, false⟩ ∧
        disk.entryAt? (location ++ [name]) = some entry ∧
        (last = .kept → place.location = location ++ [name]) := by
  have ends {links : Nat} {at_ : Location} (there : disk.entryAt? at_ = some .directory) :
      disk.Walks .followed links at_ silent ⟨at_, some .directory, false⟩ :=
    .silent there fun piece mem => by rw [silents piece mem]; decide
  generalize whole : front ++ [name] = pieces at walks
  induction walks generalizing front with
  | here => simp at whole
  | stay there quiet _ induction =>
      cases front with
      | nil =>
          cases whole
          exact absurd quiet loud
      | cons piece front =>
          cases whole
          obtain ⟨location, entry, walks, rest⟩ := induction present rfl
          exact ⟨location, entry, .stay there quiet walks, rest⟩
  | up there _ induction =>
      cases front with
      | nil =>
          cases whole
          exact absurd rfl down
      | cons piece front =>
          cases whole
          obtain ⟨location, entry, walks, rest⟩ := induction present rfl
          exact ⟨location, entry, .up there walks, rest⟩
  | @enter _ at_ _ _ _ there sought found walks induction =>
      cases front with
      | nil =>
          cases whole
          cases walks
          exact ⟨at_, _, ends there, found, fun _ => rfl⟩
      | cons piece front =>
          cases whole
          obtain ⟨location, entry, walks, rest⟩ := induction present rfl
          exact ⟨location, entry, .enter there (sought.followed _) found walks, rest⟩
  | @follow _ at_ _ target _ _ there sought found followed _ induction =>
      cases front with
      | nil =>
          cases whole
          exact ⟨at_, _, ends there, found, fun kept => absurd ⟨rfl, kept⟩ followed⟩
      | cons piece front =>
          cases whole
          obtain ⟨location, entry, walks, rest⟩ := induction present (List.append_assoc ..)
          rw [List.append_assoc] at walks
          exact ⟨location, entry, .follow there (sought.followed _) found (nomatch ·.2) walks, rest⟩
  | @stop _ at_ _ _ entry there sought found stops =>
      cases front with
      | nil =>
          cases whole
          obtain ⟨entry, rfl⟩ := Option.ne_none_iff_exists'.1 present
          exact ⟨at_, entry, ends there, found, fun _ => rfl⟩
      | cons piece front =>
          -- Nothing but slashes stands behind the name where a walk ends.
          cases whole
          have slashes := List.all_eq_true.1 stops.slashes name (by simp)
          rw [eq_of_beq slashes] at loud
          exact absurd (by decide) loud

theorem mem_children {location : Location} {entry : Entry} (named : name ≠ "/")
    (there : disk.entryAt? (location ++ [name]) = some entry) : name ∈ disk.children location := by
  unfold entryAt? at there
  rw [if_neg] at there
  · obtain ⟨pair, found, -⟩ := Option.map_eq_some_iff.1 there
    have key : pair.1 = location ++ [name] := by simpa using List.find?_some found
    refine List.mem_filterMap.2 ⟨pair, List.mem_of_find?_eq_some found, ?_⟩
    simp [key]
  · rintro (none | root)
    · simp at none
    · have last := congrArg List.getLast? root
      simp only [List.getLast?_append, List.getLast?_singleton, absoluteRoot] at last
      exact named (by simpa using last)

/-- A directory's path can be looked for if that with a name behind it can. -/
theorem spelled_of_join (spelled : Spelled (directory.join name))
    (named : directory.spelling ≠ "") :
    Spelled directory := by
  have longer : (directory.join name).spelling = directory.spelling ++ name ∨
      (directory.join name).spelling = directory.spelling ++ "/" ++ name := by
    unfold Path.join
    split
    · exact Or.inl rfl
    · exact Or.inr rfl
  refine ⟨named, fun inside => spelled.clean ?_, fun long => spelled.short ?_⟩
  · rcases longer with same | same <;> simp_all [String.toList_append]
  · rcases longer with same | same
    · rw [same, String.utf8ByteSize_append]
      omega
    · rw [same, String.utf8ByteSize_append, String.utf8ByteSize_append]
      omega

/-- What a directory's path and a name lead to stands in the directory under the name. -/
theorem directory_of_locate {last : LastPiece} {place : Place}
    (found : disk.locate last (directory.join name) = .ok place) (present : place.entry ≠ none)
    (named : directory.spelling ≠ "") (one : '/' ∉ name.toList) (loud : ¬isSilent name)
    (down : name ≠ "..") :
    ∃ location entry,
      disk.resolve .followed directory = .ok ⟨location, some .directory, false⟩ ∧
        disk.entryAt? (location ++ [name]) = some entry ∧
        (last = .kept → place.location = location ++ [name]) := by
  obtain ⟨first, front, silent, silents, pieces, joined⟩ := Path.pieces_join named one
  have starts : ∃ start lead, linkStart [] directory.spelling = (start, lead ++ silent) ∧
      linkStart [] (directory.join name).spelling = (start, lead ++ [name]) := by
    unfold linkStart
    rw [pieces, joined]
    by_cases rooted : first = ""
    · subst rooted
      exact ⟨absoluteRoot, front, rfl, rfl⟩
    · refine ⟨[], first :: front, ?_, ?_⟩ <;> split <;> simp_all
  obtain ⟨start, lead, through, whole⟩ := starts
  obtain ⟨spelled, walks⟩ := walks_of_locate found
  rw [whole] at walks
  obtain ⟨location, entry, reached, there, ends⟩ := walks.concat loud down silents present
  refine ⟨location, entry, ?_, there, ends⟩
  rw [resolve, locate_eq (spelled_of_join spelled named), through, reached.resolvePieces]
  rfl

/-- A file that a directory's path and a name lead to is listed in the directory. -/
theorem directory_of_leads (leads : disk.Leads (directory.join name) id)
    (named : directory.spelling ≠ "") (one : '/' ∉ name.toList) (loud : ¬isSilent name)
    (down : name ≠ "..") :
    ∃ location, disk.resolve .followed directory = .ok ⟨location, some .directory, false⟩ ∧
      name ∈ disk.children location := by
  obtain ⟨place, found⟩ := leads
  obtain ⟨location, entry, reached, there, -⟩ := directory_of_locate found
    (Option.some_ne_none _) named one loud down
  exact ⟨location, reached, mem_children (fun same => one (same ▸ List.mem_singleton.2 rfl)) there⟩

theorem resolve_directory_after {location : Location} {slash : Bool}
    (keeps : ∀ location entry, disk.entryAt? location = some entry →
      after.entryAt? location = some entry)
    (found : disk.resolve .followed directory = .ok ⟨location, some .directory, slash⟩) :
    after.resolve .followed directory = .ok ⟨location, some .directory, slash⟩ := by
  have located := locate_after keeps (Or.inl rfl) (locate_of_resolve found) nofun
  dsimp only at located
  rw [keeps _ _ (entry_of_resolve found).symm] at located
  rw [resolve, located]
  rfl

theorem listDirectory_eq (path : Path) (disk : Disk) :
    listDirectory path disk =
      match disk.faults.head? with
      | some (some error) => (.error error, disk.judged)
      | _ =>
        match disk.resolve .followed path with
        | .ok ⟨location, some .directory, _⟩ => (.ok (disk.children location), disk.judged)
        | .ok ⟨_, some _, _⟩ => (.error .notADirectory, disk.judged)
        | .ok ⟨_, none, _⟩ => (.error .notFound, disk.judged)
        | .error error => (.error error, disk.judged) := by
  refine verdict_bind_of_eq ?_
  rw [bind_eq, find_eq, resolve_judged]
  rcases disk.resolve .followed path with error | ⟨location, _ | _ | _ | _, slash⟩ <;> rfl

theorem listDirectory_of_resolve {location : Location} {slash : Bool}
    (found : disk.resolve .followed directory = .ok ⟨location, some .directory, slash⟩) :
    listDirectory directory disk =
      match disk.faults.head? with
      | some (some error) => (.error error, disk.judged)
      | _ => (.ok (disk.children location), disk.judged) := by
  rw [listDirectory_eq, found]

theorem Leads.isFile (leads : disk.Leads directory id) : disk.isFile directory = true := by
  obtain ⟨location, found⟩ := leads.resolve
  unfold Disk.isFile status
  rw [found]
  rfl

end Disk

end PartsList
