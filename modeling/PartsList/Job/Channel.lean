import PartsList.Number.Word

/-!
# Channels

Queues of bounded length between threads.  What is sent is received in the same order.  A channel
whose receiver has gone takes nothing.  A channel cannot be longer than its messages can be counted
and addressed.
-/

namespace PartsList

/-- A queue of bounded length. -/
structure Channel (α : Type) where
  /-- How many messages can wait. -/
  capacity : Nat
  /-- The waiting messages, the oldest first. -/
  waiting : List α := []
  /-- Nobody will receive any more. -/
  receiverGone : Bool := false
  /-- Nobody will send any more. -/
  senderGone : Bool := false

namespace Channel

variable {α : Type}

/-- Channels are shorter than this. -/
def lengthLimit : Nat := Nat.pow 2 62

/-- What is kept in memory takes fewer bytes than this. -/
def memoryLimit : Nat := Nat.pow 2 63

/-- A channel whose waiting messages take `messageBytes` each. -/
def make (messageBytes capacity : Nat) : Except Overflow (Channel α) :=
  if lengthLimit ≤ capacity then .error .queue
  else if memoryLimit ≤ capacity * messageBytes then .error .room
  else .ok { capacity := capacity }

/-- There is room for one more message. -/
def hasRoom (channel : Channel α) : Bool :=
  decide (channel.waiting.length < channel.capacity)

/-- The channel with one more message, if somebody receives and there is room. -/
def send? (channel : Channel α) (message : α) : Option (Channel α) :=
  if channel.receiverGone || !channel.hasRoom then none
  else some { channel with waiting := channel.waiting ++ [message] }

/-- A sender has to wait for room. -/
def isFull (channel : Channel α) : Bool :=
  !channel.receiverGone && !channel.hasRoom

/-- The oldest message and the channel without it. -/
def receive? (channel : Channel α) : Option (α × Channel α) :=
  match channel.waiting with
  | [] => none
  | message :: rest => some (message, { channel with waiting := rest })

end Channel

end PartsList
