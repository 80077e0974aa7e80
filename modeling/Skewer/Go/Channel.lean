import Skewer.Go.Bytes

/-!
# Channels seen from their senders

A Go channel as its senders see it: the values sent on it, in order, and
whether it has been closed. Sending on a closed channel and closing it a
second time are runtime panics.
-/

namespace Skewer.Go

structure Channel (α : Type) where
  sent : List α
  closed : Bool
  deriving DecidableEq, Repr

namespace Channel

variable {α : Type}

/-- `ch <- v`. -/
def send (ch : Channel α) (v : α) : Except Panic (Channel α) :=
  if ch.closed then .error .sendOnClosedChannel else .ok { ch with sent := ch.sent ++ [v] }

/-- `close(ch)`. -/
def close (ch : Channel α) : Except Panic (Channel α) :=
  if ch.closed then .error .closeOfClosedChannel else .ok { ch with closed := true }

theorem send_of_open {ch : Channel α} (open_ : ch.closed = false) (v : α) :
    ch.send v = .ok { ch with sent := ch.sent ++ [v] } := by
  simp [send, open_]

theorem close_of_open {ch : Channel α} (open_ : ch.closed = false) :
    ch.close = .ok { ch with closed := true } := by
  simp [close, open_]

end Channel

end Skewer.Go
