import PartsList.Proofs.Job.Posting
import PartsList.Proofs.Spill.Appending

/-!
# One place for each result

A result that is routed is in one place afterwards: at the end of its writer's inbox, or as a line
at the end of the sender's spill file, unless it could not be spilled.  Nothing else changes,
whatever state the inboxes, the spill file and the disk are in.
-/

namespace PartsList

open Disk

/-- Somebody receives and there is room. -/
def Channel.Takes {α : Type} (channel : Channel α) : Prop :=
  channel.receiverGone = false ∧ channel.waiting.length < channel.capacity

namespace SpillFile

variable {spill after : SpillFile} {disk last : Disk} {result : ExtractionResult}

/-- A result's line is added to the file, and to no other. -/
structure Persists (spill : SpillFile) (disk : Disk) (result : ExtractionResult)
    (after : SpillFile) (last : Disk) : Prop where
  /-- The path stays. -/
  path : after.path = spill.path
  /-- The result is counted. -/
  written : after.written = spill.written + 1
  /-- The file gains the line; it is the open one if there is one. -/
  line : ∃ id, after.file = some id ∧ (∀ own, spill.file = some own → own = id) ∧
    Gains (fun _ => True) disk last (some id) (lineBytes result)

/-- A result is not counted, and at most a part of its line is added to the file: all of it if only
the wait for the disk was refused. -/
structure Abandons (spill : SpillFile) (disk : Disk) (result : ExtractionResult)
    (after : SpillFile) (last : Disk) : Prop where
  /-- The path stays. -/
  path : after.path = spill.path
  /-- Nothing is counted. -/
  written : after.written = spill.written
  /-- An open file stays open. -/
  file : ∀ own, spill.file = some own → after.file = some own
  /-- No file but the open one gains anything. -/
  part : ∃ part, part <+: lineBytes result ∧ Gains (fun _ => True) disk last after.file part

end SpillFile

section Routing

variable {inboxes : List Inbox} {spill : SpillFile} {disk : Disk} {result : ExtractionResult}

/-- Where a routed result is. -/
inductive Placed (inboxes : List Inbox) (spill : SpillFile) (disk : Disk)
    (result : ExtractionResult) : Routed → Prop
  /-- Its writer's inbox takes it: it is at the end of that inbox and nowhere else. -/
  | posted (inbox : Inbox) (found : inboxes[shardOf result.filePath inboxes.length]? = some inbox)
      (takes : inbox.Takes) :
    Placed inboxes spill disk result
      ⟨.writer,
        inboxes.set (shardOf result.filePath inboxes.length)
          { inbox with waiting := inbox.waiting ++ [.result result] },
        spill, disk⟩
  /-- Its writer's inbox does not take it, and it is in the spill file and nowhere else. -/
  | spilled (after : SpillFile) (last : Disk)
      (full : ∀ inbox, inboxes[shardOf result.filePath inboxes.length]? = some inbox →
        ¬ inbox.Takes)
      (persists : spill.Persists disk result after last) :
    Placed inboxes spill disk result ⟨.fallback, inboxes, after, last⟩
  /-- Its writer's inbox does not take it, and the attempt at spilling it fails. -/
  | lost (error : SpillError) (after : SpillFile) (last : Disk)
      (full : ∀ inbox, inboxes[shardOf result.filePath inboxes.length]? = some inbox →
        ¬ inbox.Takes)
      (fails : spill.persist result disk = (.error error, after, last))
      (abandons : spill.Abandons disk result after last) :
    Placed inboxes spill disk result ⟨.lost, inboxes, after, last⟩

variable {routed : Routed}

/-- Exactly the results that are spilled are counted by the spill file. -/
theorem Placed.written (placed : Placed inboxes spill disk result routed) :
    routed.spill.written = spill.written + if routed.delivery = .fallback then 1 else 0 := by
  cases placed with
  | posted => rfl
  | spilled _ _ _ persists => exact persists.written
  | lost _ _ _ _ _ abandons => exact abandons.written

theorem Placed.length (placed : Placed inboxes spill disk result routed) :
    routed.inboxes.length = inboxes.length := by
  cases placed with
  | posted => exact List.length_set
  | spilled | lost => rfl

/-- Messages that wait stay where they are. -/
theorem Placed.waiting (placed : Placed inboxes spill disk result routed) {shard : Nat}
    {inbox : Inbox} (found : inboxes[shard]? = some inbox) :
    ∃ after, routed.inboxes[shard]? = some after ∧ inbox.waiting <+: after.waiting := by
  cases placed with
  | spilled | lost => exact ⟨inbox, found, List.prefix_rfl⟩
  | posted own there =>
    dsimp only
    by_cases same : shardOf result.filePath inboxes.length = shard
    · subst same
      cases there.symm.trans found
      exact ⟨_, List.getElem?_set_self (List.getElem?_eq_some_iff.1 found).1,
        List.prefix_append _ _⟩
    · exact ⟨inbox, (List.getElem?_set_ne same).trans found, List.prefix_rfl⟩

end Routing

end PartsList
