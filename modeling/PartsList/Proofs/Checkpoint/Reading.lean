import PartsList.Proofs.Checkpoint.Saves
import PartsList.Proofs.Checkpoint.Sets
import PartsList.Proofs.Json.Pretty
import PartsList.Proofs.Result.RoundTrip

/-!
# Reading checkpoints back

The text of a checkpoint is read back as a checkpoint of the same files.
-/

namespace PartsList

namespace PathSet

theorem writable_toJson (set : PathSet) : set.toJson.Writable :=
  Json.writable_array fun item mem => by
    obtain ⟨path, -, rfl⟩ := List.mem_map.1 mem
    exact Json.writable_text path.spelling

theorem ofJson?_toJson (set : PathSet) : ofJson? set.toJson = some (ofList set.paths) := by
  have texts : Json.toList? Json.toText? (.array ((set.paths.map Path.spelling).map Json.text)) =
      some (set.paths.map Path.spelling) :=
    Json.toList?_array _ fun value _ => Json.toText?_text value
  rw [List.map_map] at texts
  have spellings : (set.paths.map Path.spelling).map Path.mk = set.paths := by
    rw [List.map_map]
    exact List.map_id set.paths
  rw [ofJson?, toJson]
  refine (congrArg (Option.bind · _) texts).trans ?_
  exact congrArg (fun paths => some (ofList paths)) spellings

end PathSet

namespace Checkpoint

variable {checkpoint : Checkpoint}

theorem writable_toJson (checkpoint : Checkpoint) : checkpoint.toJson.Writable :=
  Json.writable_record (by simp [PathSet.writable_toJson, Json.writable_optionalText])

/-- The text of a checkpoint begins with a brace on a line of its own. -/
theorem brace_fileText (checkpoint : Checkpoint) :
    [123, 10] <+: Disk.bytesOf checkpoint.fileText := by
  have brace : String.utf8EncodeChar '\x7b' = [123] := by decide
  have feed : String.utf8EncodeChar '\n' = [10] := by decide
  simp only [Disk.bytesOf_eq, fileText, Json.renderPretty, String.toList_ofList, toJson,
    Json.record, List.map_cons, Json.prettyChars, Json.prettyMembers, Json.newLine,
    List.flatMap_cons, List.cons_append, brace, feed]
  exact List.prefix_append [123, 10] _

/-- A checkpoint is read back from its file as its sets are from their paths, if the time of its
last save is read back. -/
theorem ofBytes?_fileText_eq {updatedAt : Option Timestamp}
    (stamp : Json.toOption? (fun text => text.toText?.bind Timestamp.read?)
      (.optionalText (checkpoint.updatedAt.map Timestamp.write)) = some updatedAt) :
    ofBytes? (Disk.bytesOf checkpoint.fileText) =
      some
        { completed := .ofList checkpoint.completed.paths
          failed := .ofList checkpoint.failed.paths
          updatedAt := updatedAt } := by
  rw [ofBytes?, fileText, Json.readBytes_renderPretty checkpoint.writable_toJson, Option.bind_some]
  simp [ofJson?, toJson, Json.record, Json.toFields?, Json.memberNamed, Json.membersNamed,
    Json.defaulted, Json.optional, PathSet.ofJson?_toJson, stamp]

end Checkpoint

/-! ## Files -/

/-- What a checkpoint's file holds, when the system does not refuse to tell. -/
def Disk.checkpointAt (disk : Disk) (path : Path) : Except CheckpointError Checkpoint :=
  (Checkpoint.load path { disk with faults := [] }).1

namespace Checkpoint

variable {checkpoint : Checkpoint} {path : Path} {now : Timestamp} {disk : Disk}

/-- What a checkpoint's file holds depends on nothing but what the path leads to. -/
theorem checkpointAt_eq (disk : Disk) (path : Path) :
    disk.checkpointAt path =
      match disk.bytesAt path with
      | .ok bytes =>
        match ofBytes? bytes with
        | some checkpoint => .ok checkpoint
        | none => .error (.corrupt path)
      | .error .notFound => .ok {}
      | .error error => .error (.io path error) := by
  have file : Disk.readFile path { disk with faults := [] } = _ := Disk.readFile_eq nofun
  rw [Disk.bytesAt_faults] at file
  rw [Disk.checkpointAt, load, file]
  rcases disk.bytesAt path with error | bytes
  · cases error <;> rfl
  · dsimp only
    cases ofBytes? bytes <;> rfl

theorem checkpointAt_congr {after : Disk} (same : after.bytesAt path = disk.bytesAt path) :
    after.checkpointAt path = disk.checkpointAt path := by
  rw [checkpointAt_eq, checkpointAt_eq, same]

/-- A checkpoint is loaded as its file has it, unless the system refuses. -/
theorem load_eq (calm : ∀ error, disk.faults.head? ≠ some (some error)) :
    load path disk = (disk.checkpointAt path, disk.judged) := by
  have file : Disk.readFile path disk = _ := Disk.readFile_eq calm
  rw [checkpointAt_eq, load, file]
  rcases disk.bytesAt path with error | bytes
  · cases error <;> rfl
  · dsimp only
    cases ofBytes? bytes <;> rfl

/-- What is loaded is what the checkpoint's file holds, unless the system denies that there is
one. -/
theorem load_eq_ok {after : Disk} (calm : disk.faults.head? ≠ some (some .notFound))
    (loads : load path disk = (.ok checkpoint, after)) :
    disk.checkpointAt path = .ok checkpoint ∧ after = disk.judged := by
  by_cases refuses : ∃ error, disk.faults.head? = some (some error)
  · obtain ⟨error, refused⟩ := refuses
    have read : Disk.readFile path disk = (.error error, disk.judged) := by
      rw [Disk.readFile, Disk.bind_eq, Disk.verdict_eq, refused]
    rw [load, read] at loads
    cases error with
    | notFound => exact absurd refused calm
    | _ => cases loads
  · rw [load_eq fun error refused => refuses ⟨error, refused⟩] at loads
    obtain ⟨tells, rfl⟩ := Prod.mk.inj loads
    exact ⟨tells, rfl⟩

/-- A checkpoint's save succeeds, and there is a file then at the path. -/
structure Saves (checkpoint : Checkpoint) (path : Path) (now : Timestamp) (disk : Disk) : Prop where
  /-- The save succeeds. -/
  answer : (checkpoint.save path now disk).1 = .ok ()
  /-- There is a file. -/
  file : (checkpoint.save path now disk).2.2.isFile path = true

/-- A save that succeeds leaves its bytes in the file that the path leads to, if it leads to one. -/
theorem SaveEnds.leads {bytes : List UInt8} {after : Disk}
    (ends : SaveEnds path bytes disk (.ok ()) after) (file : after.isFile path = true) :
    ∃ id, after.Leads path id ∧ after.content? id = some (.ofBytes bytes) := by
  cases ends with
  | placed made drafts found solid =>
      cases drafts with
      | completed entries nextFile contents =>
          refine ⟨_, Disk.leads_putEntry ((Disk.resolve_judged ..).trans found) solid file, ?_⟩
          exact (contents _).trans (if_pos rfl)

/-- What a checkpoint's file holds are its bytes. -/
theorem checkpointAt_of_leads {id : FileId} {bytes : List UInt8} (leads : disk.Leads path id)
    (content : disk.content? id = some (.ofBytes bytes)) :
    disk.checkpointAt path =
      match ofBytes? bytes with
      | some checkpoint => .ok checkpoint
      | none => .error (.corrupt path) := by
  obtain ⟨location, found⟩ := leads.resolve
  have bytesAt : disk.bytesAt path = .ok bytes := by
    rw [Disk.bytesAt, found]
    dsimp only [bind, Except.bind]
    rw [content]
    rfl
  rw [checkpointAt_eq, bytesAt]

end Checkpoint

end PartsList
