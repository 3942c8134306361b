import PartsList.Proofs.Store.Connecting

/-!
# Stores outlast openings

A database that is opened once more keeps its store, and so do all others.
-/

namespace PartsList

namespace Disk

variable {disk middle after : Disk} {file : FileId} {store other : Store}

/-- A file holds a database with a store. -/
def Stores (disk : Disk) (file : FileId) (store : Store) : Prop :=
  ∃ database, disk.content? file = some (.database database) ∧ database.store? = some store

theorem Stores.unique (stores : disk.Stores file store) (also : disk.Stores file other) :
    store = other := by
  obtain ⟨database, content, tables⟩ := stores
  obtain ⟨database', content', tables'⟩ := also
  cases content.symm.trans content'
  exact Option.some.inj (tables.symm.trans tables')

/-- Files that hold stores hold the same ones afterwards. -/
structure KeepsStores (disk after : Disk) : Prop where
  /-- No number of a file is given twice. -/
  nextFile : disk.nextFile ≤ after.nextFile
  /-- Stores stay. -/
  stores : ∀ file < disk.nextFile, ∀ store, disk.Stores file store → after.Stores file store

theorem KeepsStores.refl (disk : Disk) : disk.KeepsStores disk :=
  ⟨Nat.le_refl _, fun _ _ _ stores => stores⟩

theorem KeepsStores.trans (first : disk.KeepsStores middle) (second : middle.KeepsStores after) :
    disk.KeepsStores after where
  nextFile := Nat.le_trans first.nextFile second.nextFile
  stores file old store stores :=
    second.stores file (Nat.lt_of_lt_of_le old first.nextFile) store
      (first.stores file old store stores)

theorem Develops.keepsStores (develops : disk.Develops after) : disk.KeepsStores after where
  nextFile := develops.nextFile
  stores file old _ stores := by
    obtain ⟨database, content, tables⟩ := stores
    exact ⟨database, develops.databases file old database content, tables⟩

theorem Stores.put (connection : Connection) {database : Database}
    (tables : database.store? = some store) :
    (connection.put database disk).Stores connection.file store :=
  ⟨database, (Connection.content?_put connection database disk _).trans (if_pos rfl), tables⟩

/-- A database may be replaced by one with the same store. -/
theorem keepsStores_put (connection : Connection) {database : Database}
    (kept : ∀ store, disk.Stores connection.file store → database.store? = some store) :
    disk.KeepsStores (connection.put database disk) where
  nextFile := Nat.le_refl _
  stores file _ store stores := by
    by_cases same : file = connection.file
    · subst same
      exact .put connection (kept store stores)
    · obtain ⟨old, content, tables⟩ := stores
      exact ⟨old, (Connection.content?_put connection database disk _).trans
        ((if_neg same).trans content), tables⟩

end Disk

namespace Database

open Disk

variable {database : Database} {disk : Disk} {store : Store} {address : DatabaseAddress}
  {location : Location} {id : FileId}

/-- Tables that are there stay as they are. -/
theorem store?_migrate (tables : database.store? = some store) :
    database.migrate.store? = some store := by
  unfold migrate
  split
  · exact tables
  · unfold store? at tables ⊢
    split at tables
    · next rows summaries =>
        rw [rows, summaries]
        exact tables
    · cases tables

theorem develops_clearSibling (disk : Disk) (location : Location) (ending : String) :
    disk.Develops (disk.clearSibling location ending) := by
  unfold clearSibling
  split
  · exact develops_removeEntry disk _
  · exact develops_removeEntry disk _
  · exact Develops.refl disk
  · exact Develops.refl disk
  · exact Develops.refl disk

theorem content?_clearSibling (disk : Disk) (location : Location) (ending : String) :
    (disk.clearSibling location ending).content? id = disk.content? id := by
  unfold clearSibling
  split <;> rfl

theorem keepsStores_write (empty : ∀ store, ¬disk.Stores id store) :
    disk.KeepsStores (write address location id disk).2 := by
  have cleared := (develops_clearSibling disk location journalEnding).trans
    (develops_clearSibling _ location logEnding)
  have none (database : Database) :
      ((disk.clearSibling location journalEnding).clearSibling location logEnding).KeepsStores
        (Connection.put { file := id } database
          ((disk.clearSibling location journalEnding).clearSibling location logEnding)) := by
    refine keepsStores_put _ fun store stores => absurd ?_ (empty store)
    obtain ⟨old, content, tables⟩ := stores
    rw [content?_clearSibling, content?_clearSibling] at content
    exact ⟨old, content, tables⟩
  unfold write
  dsimp only
  split
  · exact cleared.keepsStores.trans (none _)
  · split
    · exact cleared.keepsStores.trans (none _)
    · exact cleared.keepsStores.trans (none _)

theorem keepsStores_establish (empty : ∀ store, ¬disk.Stores id store) :
    disk.KeepsStores (establish address location id disk).2 := by
  unfold establish
  split
  · exact .refl disk
  · split
    · exact .refl disk
    · split
      · exact .refl disk
      · exact keepsStores_write empty

theorem keepsStores_reopen
    (kept : ∀ store, disk.Stores id store → database.store? = some store) :
    disk.KeepsStores (reopen address location id database disk).2 := by
  unfold reopen
  split
  · exact .refl disk
  · split
    · split <;> exact .refl disk
    · exact keepsStores_put _ fun store stores => store?_migrate (kept store stores)

theorem keepsStores_openContent : disk.KeepsStores (openContent address location id disk).2 := by
  unfold openContent
  split
  · next old content =>
      refine keepsStores_reopen fun store stores => ?_
      obtain ⟨database, content', tables⟩ := stores
      cases content.symm.trans content'
      exact tables
  · next content apart found =>
      have empty (store : Store) : ¬disk.Stores id store := by
        rintro ⟨database, found', -⟩
        exact apart database (Option.some.inj (found.symm.trans found'))
      split
      · exact keepsStores_establish empty
      · split
        · exact keepsStores_reopen fun store stores => absurd stores (empty store)
        · exact .refl disk
  · exact .refl disk

theorem keepsStores_openLocation : disk.KeepsStores (openLocation address location disk).2 := by
  unfold openLocation
  split
  · exact keepsStores_openContent
  · split
    · exact (develops_addFile disk _ ⟨rfl, Or.inl (Or.inl rfl)⟩).keepsStores.trans
        keepsStores_openContent
    · exact .refl disk
  · exact .refl disk

theorem keepsStores_openUnnamed : disk.KeepsStores (openUnnamed address disk).2 := by
  unfold openUnnamed
  split
  · exact .refl disk
  · refine ⟨Nat.le_succ _, fun file old store stores => ?_⟩
    obtain ⟨database, content, tables⟩ := stores
    refine ⟨database, ?_, tables⟩
    exact (Connection.content?_put { file := disk.nextFile } fresh disk file).trans
      ((if_neg (Nat.ne_of_lt old)).trans content)

/-- Opening a database leaves all stores as they are. -/
theorem keepsStores_openAt (path : Path) (disk : Disk) : disk.KeepsStores (openAt path disk).2 := by
  have made := (growing_makeParent path disk).develops.keepsStores
  unfold openAt
  split
  · next failed =>
      rw [failed] at made
      exact made
  · next succeeded =>
      rw [succeeded] at made
      split
      · unfold openAddress
        split
        · exact made.trans keepsStores_openUnnamed
        · split
          · exact made.trans keepsStores_openLocation
          · exact made
      · exact made

end Database

end PartsList
