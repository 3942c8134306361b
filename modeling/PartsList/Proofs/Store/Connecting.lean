import PartsList.Proofs.Disk.Development
import PartsList.Store.File

/-!
# Connections

A connection is to a file that is there, and what is done through it leaves other files alone.
-/

namespace PartsList

open Disk

namespace Connection

theorem content?_put (connection : Connection) (database : Database) (disk : Disk) (id : FileId) :
    (connection.put database disk).content? id =
      if id = connection.file then some (.database database) else disk.content? id :=
  content?_putContent disk connection.file id (.database database)

theorem database?_eq_some {connection : Connection} {disk : Disk} {database : Database} :
    connection.database? disk = some database ↔
      disk.content? connection.file = some (.database database) := by
  unfold database?
  cases disk.content? connection.file with
  | none => simp
  | some content => cases content <;> simp

theorem evolves_put (connection : Connection) (database : Database) (disk : Disk) :
    disk.Evolves (connection.put database disk) where
  nextFile := Nat.le_refl _
  numbered numbered := numbered
  links _ _ there := there
  bytes id _ zeros tail holds := by
    rw [content?_put] at holds
    split at holds
    · cases holds
    · exact ⟨tail, [], holds, (List.append_nil tail).symm, Or.inl rfl⟩
  made _ new old := absurd new (Nat.not_le_of_lt old)

theorem evolves_upsert (connection : Connection) (results : List ExtractionResult) (disk : Disk) :
    disk.Evolves (connection.upsert results disk).2 := by
  unfold upsert
  split
  · exact Evolves.refl disk
  · split
    · exact Evolves.refl disk
    · exact evolves_put connection _ disk

end Connection

namespace Database

/-- What an attempt at opening a database leads to. -/
structure Connects (disk : Disk) (answer : Except DatabaseError Connection × Disk) : Prop where
  /-- Files evolve. -/
  evolves : disk.Evolves answer.2
  /-- A connection is to a file that is there. -/
  file : ∀ connection, answer.1 = .ok connection → connection.file < answer.2.nextFile

variable {disk middle : Disk} {address : DatabaseAddress} {location : Location} {id : FileId}

theorem Connects.error (evolves : disk.Evolves middle) (error : DatabaseError) :
    Connects disk (.error error, middle) :=
  ⟨evolves, nofun⟩

theorem Connects.ok {connection : Connection} (evolves : disk.Evolves middle)
    (file : connection.file < middle.nextFile) : Connects disk (.ok connection, middle) :=
  ⟨evolves, fun _ same => Except.ok.inj same ▸ file⟩

theorem Connects.after {answer : Except DatabaseError Connection × Disk}
    (evolves : disk.Evolves middle) (connects : Connects middle answer) : Connects disk answer :=
  ⟨evolves.trans connects.evolves, connects.file⟩

theorem evolves_clearSibling (disk : Disk) (location : Location) (ending : String) :
    disk.Evolves (disk.clearSibling location ending) := by
  unfold clearSibling
  split
  · exact (develops_removeEntry disk _).toEvolves
  · exact (develops_removeEntry disk _).toEvolves
  · exact Evolves.refl disk
  · exact Evolves.refl disk
  · exact Evolves.refl disk

theorem connects_write (old : id < disk.nextFile) :
    Connects disk (write address location id disk) := by
  have cleared := (evolves_clearSibling disk location journalEnding).trans
    (evolves_clearSibling _ location logEnding)
  unfold write
  dsimp only
  split
  · exact .error (cleared.trans (Connection.evolves_put _ _ _)) _
  · split
    · exact .error (cleared.trans (Connection.evolves_put _ _ _)) _
    · exact .ok (cleared.trans (Connection.evolves_put _ _ _))
        (Nat.lt_of_lt_of_le old cleared.nextFile)

theorem connects_establish (old : id < disk.nextFile) :
    Connects disk (establish address location id disk) := by
  unfold establish
  split
  · exact .error (Evolves.refl disk) _
  · split
    · exact .error (Evolves.refl disk) _
    · split
      · exact .error (Evolves.refl disk) _
      · exact connects_write old

theorem connects_reopen (old : id < disk.nextFile) (database : Database) :
    Connects disk (reopen address location id database disk) := by
  unfold reopen
  split
  · exact .error (Evolves.refl disk) _
  · split
    · split
      · exact .ok (Evolves.refl disk) old
      · exact .error (Evolves.refl disk) _
    · exact .ok (Connection.evolves_put _ _ _) old

theorem connects_openContent (old : id < disk.nextFile) :
    Connects disk (openContent address location id disk) := by
  unfold openContent
  split
  · exact connects_reopen old _
  · split
    · exact connects_establish old
    · split
      · exact connects_reopen old _
      · exact .error (Evolves.refl disk) _
  · exact .error (Evolves.refl disk) _

theorem connects_openLocation (numbered : disk.Numbered) :
    Connects disk (openLocation address location disk) := by
  unfold openLocation
  split
  · next there => exact connects_openContent (numbered _ _ there)
  · split
    · exact .after (develops_addFile disk _ ⟨rfl, Or.inl (Or.inl rfl)⟩).toEvolves
        (connects_openContent (Nat.lt_succ_self disk.nextFile))
    · exact .error (Evolves.refl disk) _
  · exact .error (Evolves.refl disk) _

theorem connects_openUnnamed : Connects disk (openUnnamed address disk) := by
  unfold openUnnamed
  split
  · exact .error (Evolves.refl disk) _
  · have put := Connection.evolves_put { file := disk.nextFile } fresh disk
    refine .ok ⟨Nat.le_succ _, fun numbered location id there => ?_, put.links, put.bytes, ?_⟩
      (Nat.lt_succ_self disk.nextFile)
    · exact Nat.lt_succ_of_lt (numbered location id there)
    · intro id new old zeros tail holds
      have content := Connection.content?_put { file := disk.nextFile } fresh disk id
      rw [if_pos (Nat.le_antisymm (Nat.le_of_lt_succ old) new)] at content
      cases content.symm.trans holds

theorem growing_makeParent (path : Path) : Keeping Grows (makeParent path) := by
  unfold makeParent
  split
  · split
    · exact Grows.refl
    · exact growing_makeDirectories _
  · exact Grows.refl

/-- A connection is to a file that is there, and opening it lets files evolve. -/
theorem connects_openAt (numbered : disk.Numbered) (path : Path) :
    Connects disk (openAt path disk) := by
  have made := (growing_makeParent path disk).develops.toEvolves
  unfold openAt
  split
  · next failed =>
      rw [failed] at made
      exact .error made _
  · next succeeded =>
      rw [succeeded] at made
      split
      · unfold openAddress
        split
        · exact .after made connects_openUnnamed
        · split
          · exact .after made (connects_openLocation (made.numbered numbered))
          · exact .error made _
      · exact .error made _

end Database

end PartsList
