import Mathlib.Data.List.Chain
import Skewer.Go.Channel

/-!
# The status of the RELP service

`RelpServiceImpl` keeps its `status` and announces each change on
`StatusChan`, which the goroutine of `RelpService.Start` reads: `Stopped`
makes it start the service, `Waiting` arms a timer for `EndWait`, and
`FinalStopped` ends it. `Start`, `Stop`, `FinalStop`, `StopAndWait` and
`EndWait` all take the status lock, so each is one step on the status and the
channel. `FinalStopped` is announced once and the channel closed after it; a
further send or close would be a runtime panic.
-/

namespace Skewer.Relp

open Skewer.Go

inductive RelpServerStatus where
  | stopped
  | started
  | finalStopped
  | waiting
  deriving DecidableEq, Repr

/-- The status of a `RelpServiceImpl` and its `StatusChan`. -/
structure StatusState where
  status : RelpServerStatus
  statusChan : Channel RelpServerStatus
  deriving DecidableEq, Repr

/--
`RelpService.Start`: a new implementation, whose status is the zero value
`Stopped`, and the `Stopped` sent on its channel to trigger the first start.
-/
def StatusState.initial : StatusState := ⟨.stopped, ⟨[.stopped], false⟩⟩

namespace StatusState

/-- `s.status = v` and `s.StatusChan <- v`. -/
def announce (s : StatusState) (v : RelpServerStatus) : Except Panic StatusState := do
  let ch ← s.statusChan.send v
  pure ⟨v, ch⟩

/-- `s.status = FinalStopped`, `s.StatusChan <- FinalStopped` and `close(s.StatusChan)`. -/
def finalize (s : StatusState) : Except Panic StatusState := do
  let s ← s.announce .finalStopped
  let ch ← s.statusChan.close
  pure ⟨s.status, ch⟩

/--
`doStop(final, wait)`. On a started service it first stops the listeners,
the workers and the queues; only what it does to the status is kept here.
-/
def doStop (s : StatusState) (final wait : Bool) : Except Panic StatusState :=
  if final ∧ (s.status = .waiting ∨ s.status = .stopped ∨ s.status = .finalStopped) then
    if s.status ≠ .finalStopped then s.finalize else pure s
  else if s.status = .stopped ∨ s.status = .finalStopped ∨ s.status = .waiting then
    if s.status = .stopped ∧ wait then s.announce .waiting else pure s
  else if final then s.finalize
  else if wait then s.announce .waiting
  else s.announce .stopped

/--
`Start(test)`, where `ready` says that it found listeners and, in Kafka mode,
got its producer; otherwise it returns without a change of status.
-/
def start (s : StatusState) (ready : Bool) : Except Panic StatusState :=
  if s.status = .finalStopped then pure s
  else if s.status ≠ .stopped ∧ s.status ≠ .waiting then pure s
  else if ready then s.announce .started
  else pure s

def endWait (s : StatusState) : Except Panic StatusState :=
  if s.status ≠ .waiting then pure s else s.announce .stopped

end StatusState

/-- A method that takes the status lock. -/
inductive StatusCall where
  | start (ready : Bool)
  | stop
  | finalStop
  | stopAndWait
  | endWait
  deriving DecidableEq, Repr

namespace StatusState

def call (s : StatusState) : StatusCall → Except Panic StatusState
  | .start ready => s.start ready
  | .stop => s.doStop false false
  | .finalStop => s.doStop true false
  | .stopAndWait => s.doStop false true
  | .endWait => s.endWait

/-- The calls in the order the status lock lets them through. -/
def run (s : StatusState) : List StatusCall → Except Panic StatusState
  | [] => pure s
  | c :: rest => do
      let s ← s.call c
      s.run rest

variable {s : StatusState}

theorem announce_of_open (open_ : s.statusChan.closed = false) (v : RelpServerStatus) :
    s.announce v = .ok ⟨v, { s.statusChan with sent := s.statusChan.sent ++ [v] }⟩ := by
  simp [announce, Channel.send_of_open open_, bind, Except.bind, pure, Except.pure]

theorem finalize_of_open (open_ : s.statusChan.closed = false) :
    s.finalize = .ok ⟨.finalStopped, ⟨s.statusChan.sent ++ [.finalStopped], true⟩⟩ := by
  simp [finalize, announce_of_open open_, Channel.close, open_, bind, Except.bind, pure,
    Except.pure]

theorem run_cons (c : StatusCall) (rest : List StatusCall) {s' : StatusState}
    (first : s.call c = .ok s') : s.run (c :: rest) = s'.run rest := by
  simp [run, first, bind, Except.bind]

/-- Once `FinalStopped`, every call returns without a change. -/
theorem call_of_final (final : s.status = .finalStopped) (c : StatusCall) : s.call c = .ok s := by
  rcases c with (_ | _) | _ | _ | _ | _ <;> simp [call, start, doStop, endWait, final] <;> rfl

theorem run_of_final (final : s.status = .finalStopped) (calls : List StatusCall) :
    s.run calls = .ok s := by
  induction calls with
  | nil => rfl
  | cons c rest ih => rw [run_cons c rest (call_of_final final c), ih]

end StatusState

/-! ## Each change announced once, and nothing after `FinalStopped` -/

/--
The channel's last value is the status, every value sent is a change, the
channel is closed exactly when the status is `FinalStopped`, and
`FinalStopped` can only be the last value sent.
-/
structure StatusInv (s : StatusState) : Prop where
  last : s.statusChan.sent.getLast? = some s.status
  changes : s.statusChan.sent.Chain' (· ≠ ·)
  closed : s.statusChan.closed = true ↔ s.status = .finalStopped
  finalLast : .finalStopped ∉ s.statusChan.sent.dropLast

theorem statusInv_initial : StatusInv StatusState.initial :=
  ⟨rfl, List.chain'_singleton _, by decide, by decide⟩

namespace StatusInv

variable {s : StatusState} (inv : StatusInv s)
include inv

theorem open_of_live (live : s.status ≠ .finalStopped) : s.statusChan.closed = false := by
  simpa using mt inv.closed.1 live

theorem final_not_sent (live : s.status ≠ .finalStopped) : .finalStopped ∉ s.statusChan.sent := by
  obtain ⟨earlier, split⟩ := List.getLast?_eq_some_iff.1 inv.last
  have early := inv.finalLast
  rw [split, List.dropLast_concat] at early
  rw [split]
  simpa [early] using Ne.symm live

/-- Sending a status other than the current one keeps every value sent a change. -/
theorem changes_send {v : RelpServerStatus} (change : s.status ≠ v) :
    (s.statusChan.sent ++ [v]).Chain' (· ≠ ·) :=
  inv.changes.append (List.chain'_singleton v) fun x hx y hy => by
    rw [inv.last, Option.mem_some_iff] at hx
    rw [List.head?_singleton, Option.mem_some_iff] at hy
    exact hx ▸ hy ▸ change

/-- A change to a status other than `FinalStopped`, sent on the open channel. -/
theorem announce {v : RelpServerStatus} (live : s.status ≠ .finalStopped) (change : s.status ≠ v)
    (notFinal : v ≠ .finalStopped) :
    StatusInv ⟨v, { s.statusChan with sent := s.statusChan.sent ++ [v] }⟩ where
  last := List.getLast?_concat _
  changes := inv.changes_send change
  closed := by simp [inv.open_of_live live, notFinal]
  finalLast := by simpa using inv.final_not_sent live

/-- `FinalStopped` sent on the open channel, which is then closed. -/
theorem finalize (live : s.status ≠ .finalStopped) :
    StatusInv ⟨.finalStopped, ⟨s.statusChan.sent ++ [.finalStopped], true⟩⟩ where
  last := List.getLast?_concat _
  changes := inv.changes_send live
  closed := by simp
  finalLast := by simpa using inv.final_not_sent live

/-- Every call succeeds and keeps the invariant. -/
theorem call (c : StatusCall) : ∃ s', s.call c = .ok s' ∧ StatusInv s' := by
  have stays : ∃ s', (pure s : Except Panic StatusState) = .ok s' ∧ StatusInv s' :=
    ⟨s, rfl, inv⟩
  have moves (v : RelpServerStatus) (live : s.status ≠ .finalStopped) (change : s.status ≠ v)
      (notFinal : v ≠ .finalStopped) : ∃ s', s.announce v = .ok s' ∧ StatusInv s' :=
    ⟨_, StatusState.announce_of_open (inv.open_of_live live) v, inv.announce live change notFinal⟩
  have ends (live : s.status ≠ .finalStopped) : ∃ s', s.finalize = .ok s' ∧ StatusInv s' :=
    ⟨_, StatusState.finalize_of_open (inv.open_of_live live), inv.finalize live⟩
  rcases c with (_ | _) | _ | _ | _ | _ <;> rcases hs : s.status <;>
    simp only [StatusState.call, StatusState.start, StatusState.doStop, StatusState.endWait, hs,
      reduceCtorEq, ne_eq, not_true_eq_false, not_false_eq_true, true_and, false_and, and_true,
      and_false, true_or, false_or, or_true, or_false, if_true, if_false, Bool.false_eq_true] <;>
    first
    | exact stays
    | (refine ends ?_; simp [hs])
    | (refine moves _ ?_ ?_ ?_ <;> simp [hs])

/-- A whole run of calls, from a state with the invariant. -/
theorem run (calls : List StatusCall) : ∃ s', s.run calls = .ok s' ∧ StatusInv s' := by
  induction calls generalizing s with
  | nil => exact ⟨s, rfl, inv⟩
  | cons c rest ih =>
      obtain ⟨s₁, first, inv₁⟩ := inv.call c
      obtain ⟨s₂, later, inv₂⟩ := ih inv₁
      exact ⟨s₂, (StatusState.run_cons c rest first).trans later, inv₂⟩

end StatusInv

/--
Whatever calls the service gets, in whatever order its status lock lets them
through, none panics on `StatusChan`: every value sent announces a change of
status and the last one is the status, `FinalStopped` is sent at most once
and last, the channel is closed exactly when the status is `FinalStopped`,
and from then on no call changes anything.
-/
theorem status_chan_never_panics (calls : List StatusCall) :
    ∃ s, StatusState.initial.run calls = .ok s ∧ StatusInv s ∧
      (s.status = .finalStopped → ∀ more, s.run more = .ok s) := by
  obtain ⟨s, ran, inv⟩ := statusInv_initial.run calls
  exact ⟨s, ran, inv, fun final more => StatusState.run_of_final final more⟩

end Skewer.Relp
