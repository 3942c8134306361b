import PartsList.Job.Channel

/-!
# Common facts

Facts about answers that may be errors and about channels, which the proofs about all parts of the
program use.
-/

namespace PartsList

/-- Work that succeeds step by step succeeds in its first step. -/
theorem exists_of_bind_eq_ok {ε α β : Type} {first : Except ε α} {rest : α → Except ε β} {b : β}
    (succeeds : first >>= rest = .ok b) : ∃ a, first = .ok a ∧ rest a = .ok b := by
  cases first with
  | error error => cases succeeds
  | ok a => exact ⟨a, rfl, succeeds⟩

namespace Channel

variable {α : Type} {channel after : Channel α} {message : α}

/-- A message that is sent waits behind the others, for somebody who receives. -/
theorem eq_of_send? (sent : channel.send? message = some after) :
    channel.receiverGone = false ∧
      after = { channel with waiting := channel.waiting ++ [message] } := by
  unfold send? at sent
  split at sent
  · cases sent
  · next takes =>
      simp only [Bool.or_eq_true, not_or, Bool.not_eq_true] at takes
      exact ⟨takes.1, (Option.some.inj sent).symm⟩

theorem waiting_of_send? (sent : channel.send? message = some after) :
    after.waiting = channel.waiting ++ [message] := by
  rw [(eq_of_send? sent).2]

/-- A message that is received is the one that has waited longest. -/
theorem eq_of_receive? (received : channel.receive? = some (message, after)) :
    ∃ rest, channel.waiting = message :: rest ∧ after = { channel with waiting := rest } := by
  unfold receive? at received
  split at received
  · cases received
  · next message rest waits =>
      cases received
      exact ⟨rest, waits, rfl⟩

theorem waiting_of_receive? (received : channel.receive? = some (message, after)) :
    channel.waiting = message :: after.waiting := by
  obtain ⟨rest, waits, rfl⟩ := eq_of_receive? received
  exact waits

theorem receive?_eq_none : channel.receive? = none ↔ channel.waiting = [] := by
  unfold receive?
  split
  · next empty => exact iff_of_true rfl empty
  · next waits => simp [waits]

end Channel

end PartsList
