import PartsList.Export
import PartsList.Proofs.Spill.Emptying
import PartsList.Proofs.Store.Reopening

/-!
# Changes that are confined

Opening a database changes nothing but the file of the database, and takes away nothing but the
journal and the log that were left beside it, which happens only when the database is made anew.  An
export changes nothing but the file that its path leads to.
-/

namespace PartsList

namespace Disk

variable {gone gone' : Location → Prop} {touched touched' : FileId → Prop}
  {disk middle after : Disk} {location : Location} {id : FileId}

/-- A disk loses nothing but what stands at some locations, and changes in nothing but some files.
-/
structure Confined (gone : Location → Prop) (touched : FileId → Prop) (disk after : Disk) :
    Prop where
  /-- No number of a file is given twice. -/
  nextFile : disk.nextFile ≤ after.nextFile
  /-- What stands elsewhere stays. -/
  entries : ∀ location entry, disk.entryAt? location = some entry →
    after.entryAt? location = some entry ∨ gone location
  /-- Other files hold what they held. -/
  contents : ∀ id < disk.nextFile, after.content? id = disk.content? id ∨ touched id
  /-- Other files get no further names. -/
  files : ∀ location id, after.entryAt? location = some (.file id) →
    disk.entryAt? location = some (.file id) ∨ touched id

theorem Confined.trans (first : Confined gone touched disk middle)
    (second : Confined gone touched middle after) : Confined gone touched disk after where
  nextFile := Nat.le_trans first.nextFile second.nextFile
  entries location entry there :=
    (first.entries location entry there).elim (second.entries location entry) Or.inr
  contents id old :=
    (second.contents id (Nat.lt_of_lt_of_le old first.nextFile)).elim
      (fun same => (first.contents id old).imp_left same.trans) Or.inr
  files location id there :=
    (second.files location id there).elim (first.files location id) Or.inr

theorem Confined.mono (confined : Confined gone touched disk after)
    (lost : ∀ location, gone location → gone' location) (more : ∀ id, touched id → touched' id) :
    Confined gone' touched' disk after where
  nextFile := confined.nextFile
  entries location entry there := (confined.entries location entry there).imp_right (lost location)
  contents id old := (confined.contents id old).imp_right (more id)
  files location id there := (confined.files location id there).imp_right (more id)

theorem Grows.confined (grows : disk.Grows after) : Confined gone touched disk after where
  nextFile := Nat.le_of_eq grows.nextFile.symm
  entries location entry there := Or.inl (grows.entries location entry there)
  contents id _ := Or.inl (by rw [content?, content?, grows.contents])
  files location id there := Or.inl (grows.files location id there)

theorem confined_putContent (disk : Disk) (content : Content) (mine : touched id) :
    Confined gone touched disk (disk.putContent id content) where
  nextFile := Nat.le_refl _
  entries _ _ there := Or.inl there
  contents other _ := by
    rw [content?_putContent]
    split
    · next same => exact Or.inr (same ▸ mine)
    · exact Or.inl rfl
  files _ _ there := Or.inl there

theorem confined_addFile (free : disk.entryAt? location = none) (content : Content)
    (mine : touched disk.nextFile) :
    Confined gone touched disk (disk.addFile location content).2 where
  nextFile := Nat.le_succ _
  entries other entry there := Or.inl (keeps_addFile free content other entry there)
  contents other old := by
    rw [content?_addFile, if_neg (Nat.ne_of_lt old)]
    exact Or.inl rfl
  files other id there := by
    rw [entryAt?_addFile free] at there
    split at there
    · cases there
      exact Or.inr mine
    · exact Or.inl there

theorem confined_removeEntry (disk : Disk) (mine : gone location) :
    Confined gone touched disk (disk.removeEntry location) where
  nextFile := Nat.le_refl _
  entries other entry there := by
    by_cases same : other = location
    · exact Or.inr (same ▸ mine)
    · exact Or.inl ((entryAt?_removeEntry_of_ne same).trans there)
  contents _ _ := Or.inl rfl
  files _ _ there := Or.inl (entryAt?_of_removeEntry there)

/-- A path leads where it led, to a file that holds what it held, if that is none of those that
change and nothing is lost. -/
theorem Confined.leads {path : Path} (confined : Confined gone touched disk after)
    (numbered : disk.Numbered) (stays : ∀ location, gone location → disk.entryAt? location = none)
    (leads : disk.Leads path id) (other : ¬touched id) :
    after.Leads path id ∧ after.content? id = disk.content? id := by
  refine ⟨leads.after fun location entry there => ?_, ?_⟩
  · refine (confined.entries location entry there).resolve_right fun lost => ?_
    rw [stays location lost] at there
    cases there
  · obtain ⟨location, found⟩ := leads
    exact (confined.contents id (numbered location id (entry_of_locate found).symm)).resolve_right
      other

/-- A file that is written is the one that its path leads to. -/
theorem confined_writeFile {path : Path} {content : Content}
    (written : writeFile path content disk = (.ok (), after)) (gone : Location → Prop) :
    ∃ id, after.Leads path id ∧ Confined gone (· = id) disk after := by
  obtain ⟨judged, id, opened, judge, opens, rfl⟩ := writeFile_eq_ok written
  obtain ⟨made, leads⟩ := openOrCreate_spec opens
  have grows : disk.Grows judged := by
    have grows := growing_verdict disk
    rwa [judge] at grows
  have emptied : Confined gone (· = id) opened (opened.putContent id (.ofBytes [])) :=
    confined_putContent opened _ rfl
  have filled : Confined gone (· = id) opened
      ((opened.putContent id (.ofBytes [])).putContent id content) :=
    emptied.trans (confined_putContent _ content rfl)
  refine ⟨id, leads.after fun _ _ there => there, grows.confined.trans ?_⟩
  cases made with
  | found same => exact same ▸ filled
  | made location missing new same =>
      have added : Confined gone (· = id) judged opened := by
        rw [same]
        exact confined_addFile (entry_of_locate missing).symm _ new.symm
      exact added.trans filled

end Disk

/-! ## Databases -/

namespace Database

open Disk

variable {disk middle after : Disk} {address : DatabaseAddress} {location place : Location}
  {id file : FileId} {connection : Connection}

/-- The location is that of a database's journal or log. -/
def Beside (place location : Location) : Prop :=
  location = siblingLocation place journalEnding ∨ location = siblingLocation place logEnding

/-- A database is made anew in a file if that is new or held next to nothing. -/
def IsNew (disk : Disk) (file : FileId) : Prop :=
  file < disk.nextFile → ((disk.content? file).map Content.size).getD 0 ≤ emptyLimit

/-- The location is that of the journal or the log of a database that is made anew. -/
def Vacates (disk after : Disk) (file : FileId) (location : Location) : Prop :=
  IsNew disk file ∧ ∃ place, after.entryAt? place = some (.file file) ∧ Beside place location

/-- Tables of a database that are there hold the same in another one. -/
structure Retains (kept database : Database) : Prop where
  /-- All rows stay, -/
  rows : ∀ rows, database.rows = some rows → kept.rows = some rows
  /-- and all summaries. -/
  summaries : ∀ summaries, database.summaries = some summaries → kept.summaries = some summaries

theorem Retains.refl (database : Database) : database.Retains database :=
  ⟨fun _ same => same, fun _ same => same⟩

theorem retains_migrate (database : Database) : database.migrate.Retains database := by
  unfold migrate
  split
  · exact .refl database
  · exact ⟨fun rows holds => by rw [holds]; rfl, fun summaries holds => by rw [holds]; rfl⟩

/-- What opening a database in a file changes. -/
structure Opens (disk after : Disk) (file : FileId) : Prop where
  /-- Nothing but its file, and what is left beside it if it is made anew. -/
  confined : Confined (Vacates disk after file) (· = file) disk after
  /-- Nor does a database change that is there, but for tables that it lacks. -/
  tables : file < disk.nextFile → ∀ database, disk.content? file = some (.database database) →
    ∃ kept, after.content? file = some (.database kept) ∧ kept.Retains database

theorem siblingLocation_ne (location : Location) {ending : String} (named : ending ≠ "") :
    siblingLocation location ending ≠ location := by
  intro same
  have last : (siblingLocation location ending).getLast?.getD "" =
      location.getLast?.getD "" ++ ending := by
    rw [siblingLocation, List.getLast?_concat]
    rfl
  rw [same] at last
  have length := congrArg String.length last
  rw [String.length_append] at length
  exact named (String.length_eq_zero_iff.1 (by omega))

theorem confined_clearSibling (disk : Disk) (place : Location) {ending : String}
    (beside : Beside place (siblingLocation place ending)) {touched : FileId → Prop} :
    Confined (Beside place) touched disk (disk.clearSibling place ending) := by
  unfold clearSibling
  split
  · exact confined_removeEntry disk beside
  · exact confined_removeEntry disk beside
  all_goals exact (Grows.refl disk).confined

theorem not_beside_self (place : Location) : ¬Beside place place := by
  rintro (same | same)
  · exact siblingLocation_ne place (by decide) same.symm
  · exact siblingLocation_ne place (by decide) same.symm

theorem opens_write (there : disk.entryAt? location = some (.file id)) (empty : IsNew disk id)
    (none : ∀ database, disk.content? id ≠ some (.database database))
    (written : write address location id disk = (.ok connection, after)) :
    connection.file = id ∧ Opens disk after id := by
  have cleared : Confined (Beside location) (· = id) disk
      ((disk.clearSibling location journalEnding).clearSibling location logEnding) :=
    (confined_clearSibling disk location (Or.inl rfl)).trans
      (confined_clearSibling _ location (Or.inr rfl))
  unfold write at written
  dsimp only at written
  split at written
  · cases written
  · split at written
    · cases written
    · cases written
      have put := cleared.trans (confined_putContent _ (.database fresh) rfl)
      have stays := (put.entries location _ there).resolve_right (not_beside_self location)
      exact ⟨rfl, put.mono (fun _ beside => ⟨empty, location, stays, beside⟩) fun _ same => same,
        fun _ database holds => absurd holds (none database)⟩

theorem opens_establish (there : disk.entryAt? location = some (.file id)) (empty : IsNew disk id)
    (none : ∀ database, disk.content? id ≠ some (.database database))
    (established : establish address location id disk = (.ok connection, after)) :
    connection.file = id ∧ Opens disk after id := by
  unfold establish at established
  split at established
  · cases established
  · split at established
    · cases established
    · split at established
      · cases established
      · exact opens_write there empty none established

theorem opens_reopen {database : Database}
    (mine : ∀ other, disk.content? id = some (.database other) → other = database)
    (reopened : reopen address location id database disk = (.ok connection, after)) :
    connection.file = id ∧ Opens disk after id := by
  unfold reopen at reopened
  split at reopened
  · cases reopened
  · split at reopened
    · split at reopened
      · cases reopened
        exact ⟨rfl, (Grows.refl disk).confined, fun _ other holds => ⟨other, holds, .refl other⟩⟩
      · cases reopened
    · cases reopened
      refine ⟨rfl, confined_putContent disk _ rfl, fun _ other holds => ?_⟩
      refine ⟨database.migrate, ?_, mine other holds ▸ retains_migrate other⟩
      exact (Connection.content?_put { file := id } database.migrate disk id).trans (if_pos rfl)

theorem opens_openContent (there : disk.entryAt? location = some (.file id))
    (opened : openContent address location id disk = (.ok connection, after)) :
    connection.file = id ∧ Opens disk after id := by
  unfold openContent at opened
  split at opened
  · next database holds =>
      refine opens_reopen (fun other also => ?_) opened
      cases holds.symm.trans also
      rfl
  · next content apart holds =>
      have none (database : Database) : disk.content? id ≠ some (.database database) := fun also =>
        apart database (Option.some.inj (holds.symm.trans also))
      split at opened
      · next small => exact opens_establish there (fun _ => by rw [holds]; exact small) none opened
      · split at opened
        · exact opens_reopen (fun other also => absurd also (none other)) opened
        · cases opened
  · cases opened

theorem Opens.after_grows (grows : disk.Grows middle) (opens : Opens middle after file) :
    Opens disk after file := by
  have held (id : FileId) : middle.content? id = disk.content? id := by
    rw [content?, content?, grows.contents]
  refine ⟨grows.confined.trans
    (opens.confined.mono (fun location vacates => ?_) fun _ mine => mine),
    fun old database holds => ?_⟩
  · obtain ⟨empty, beside⟩ := vacates
    refine ⟨fun old => ?_, beside⟩
    rw [← held]
    exact empty (grows.nextFile ▸ old)
  · exact opens.tables (grows.nextFile ▸ old) database ((held file).trans holds)

theorem Opens.grows (opens : Opens disk middle file) (grows : middle.Grows after) :
    Opens disk after file := by
  refine ⟨(opens.confined.mono (fun location vacates => ?_) fun _ mine => mine).trans
    grows.confined, fun old database holds => ?_⟩
  · obtain ⟨empty, place, there, beside⟩ := vacates
    exact ⟨empty, place, grows.entries place _ there, beside⟩
  · obtain ⟨kept, holds, same⟩ := opens.tables old database holds
    exact ⟨kept, by rwa [content?, grows.contents], same⟩

theorem opens_openLocation (opened : openLocation address location disk = (.ok connection, after)) :
    Opens disk after connection.file := by
  unfold openLocation at opened
  split at opened
  · next there =>
      obtain ⟨rfl, opens⟩ := opens_openContent there opened
      exact opens
  · next free =>
      split at opened
      · dsimp only at opened
        have there : (disk.addFile location (.ofBytes [])).2.entryAt? location =
            some (.file disk.nextFile) := by rw [entryAt?_addFile free, if_pos rfl]
        obtain ⟨same, opens⟩ := opens_openContent there opened
        rw [same]
        have added : Confined (Vacates disk after disk.nextFile) (· = disk.nextFile) disk
            (disk.addFile location (.ofBytes [])).2 := confined_addFile free _ rfl
        refine ⟨added.trans (opens.confined.mono (fun location vacates => ?_) fun _ mine => mine),
          fun old => absurd old (Nat.lt_irrefl _)⟩
        exact ⟨fun old => absurd old (Nat.lt_irrefl _), vacates.2⟩
      · cases opened
  · cases opened

theorem opens_openUnnamed (opened : openUnnamed address disk = (.ok connection, after)) :
    Opens disk after connection.file := by
  unfold openUnnamed at opened
  split at opened
  · cases opened
  · cases opened
    refine ⟨⟨Nat.le_succ _, fun _ _ there => Or.inl there, fun id old => Or.inl ?_,
      fun _ _ there => Or.inl there⟩, fun old => absurd old (Nat.lt_irrefl _)⟩
    exact (Connection.content?_put { file := disk.nextFile } fresh disk id).trans
      (if_neg (Nat.ne_of_lt old))

/-- Opening a database changes nothing but its file and what is left beside it. -/
theorem opens_openAt {path : Path} (opened : openAt path disk = (.ok connection, after)) :
    Opens disk after connection.file := by
  have made := growing_makeParent path disk
  unfold openAt at opened
  split at opened
  · cases opened
  · next succeeded =>
      rw [succeeded] at made
      split at opened
      · unfold openAddress at opened
        split at opened
        · exact .after_grows made (opens_openUnnamed opened)
        · split at opened
          · exact .after_grows made (opens_openLocation opened)
          · cases opened
      · cases opened

end Database

/-! ## Exports -/

namespace Export

open Disk

variable {disk after : Disk} {path : Path} {records : List (List String)}

/-- An export changes nothing but the file that its path leads to. -/
theorem confined_writeRecords (written : writeRecords path records disk = (.ok (), after))
    (gone : Location → Prop) :
    ∃ id, after.Leads path id ∧ Confined gone (· = id) disk after := by
  have made := Database.growing_makeParent path disk
  unfold writeRecords at written
  split at written
  · cases written
  · next succeeded =>
      rw [succeeded] at made
      split at written
      · cases written
      · next wrote =>
          cases written
          obtain ⟨id, leads, confined⟩ := confined_writeFile wrote gone
          exact ⟨id, leads, made.confined.trans confined⟩

end Export

end PartsList
