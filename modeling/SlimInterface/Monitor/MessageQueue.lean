import SlimInterface.Monitor.Channel

/-!
# Message queues

A bounded channel that is nothing but the messages on their way, first in, first out.
-/

namespace SlimInterface

/-- The messages between the two ends of a channel. -/
structure MessageQueue (α : Type) where
  capacity : Nat
  /-- The messages on their way, oldest first. -/
  waiting : List α
  /-- The sending end is there. -/
  sender : Bool
  /-- The receiving end is there. -/
  receiver : Bool
  deriving DecidableEq, Repr

namespace MessageQueue

variable {α : Type}

/-- Offer a message. It has to find room, and somebody to receive it. -/
def trySend (x : α) (q : MessageQueue α) : Offer × MessageQueue α :=
  if ¬ q.receiver then (.disconnected, q)
  else if q.capacity ≤ q.waiting.length then (.full, q)
  else (.taken, { q with waiting := q.waiting ++ [x] })

/-- Take the oldest message. -/
def receive (q : MessageQueue α) : Option (Receipt α × MessageQueue α) :=
  match q.waiting with
  | x :: rest => some (.message x, { q with waiting := rest })
  | [] => if q.sender then none else some (.disconnected, q)

instance : BoundedChannel (MessageQueue α) α where
  bounded capacity := ⟨capacity.toNat, [], true, true⟩
  trySend := trySend
  receive := receive
  dropSender q := { q with sender := false }
  dropReceiver q := { q with receiver := false, waiting := [] }

end MessageQueue

end SlimInterface
