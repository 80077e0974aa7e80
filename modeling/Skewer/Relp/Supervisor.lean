import Skewer.Relp.Status
import Skewer.Runs

/-!
# The goroutine of `RelpService.Start`

`RelpService.Start` makes a new `RelpServiceImpl`, starts a goroutine that
receives the statuses its `StatusChan` announces, and sends `Stopped` to
trigger the first start. On `Stopped` the goroutine calls `Start` and reports
what it returned, calling `StopAndWait` after an error; on `Waiting` it arms a
timer that calls `EndWait` thirty seconds later; on `FinalStopped` it reports
no listener and returns, which `RelpService.Stop` waits for after `FinalStop`.
Each call takes the status lock, so it is one step of `StatusState.call`.

`StatusChan` has ten slots, and the goroutine sends on it itself, from `Start`
and from `StopAndWait`: with every slot taken it would wait for ever on its
own channel. Every status it receives gives rise to at most one more (a
start's `Started`, a failed start's `Waiting`, a timer's `Stopped`), and
`FinalStop` adds one, so the channel never holds more than two values the
goroutine has not received.
-/

namespace Skewer.Relp

open Skewer.Go

/-! ## What a call sends -/

/-- The status a call announces when it changes the status. -/
def StatusCall.announces : StatusCall → RelpServerStatus
  | .start _ => .started
  | .stop => .stopped
  | .finalStop => .finalStopped
  | .stopAndWait => .waiting
  | .endWait => .stopped

namespace StatusState

/--
Whether `Start(test)` returns an error: `ServerDefinitelyStopped`,
`ServerNotStopped`, or the producer's, when it found listeners but, in Kafka
mode, no producer (`producer` is `true` outside Kafka mode). Without a
listener it returns no error.
-/
def startFails (s : StatusState) (listeners producer : Bool) : Bool :=
  if s.status = .finalStopped then true
  else if s.status ≠ .stopped ∧ s.status ≠ .waiting then true
  else listeners && !producer

variable {s s' : StatusState}

theorem announce_ok {v : RelpServerStatus} (h : s.announce v = .ok s') :
    s'.status = v ∧ s'.statusChan.sent = s.statusChan.sent ++ [v] := by
  cases closed : s.statusChan.closed
  · rw [announce_of_open closed] at h
    cases h
    exact ⟨rfl, rfl⟩
  · simp [announce, Channel.send, closed, bind, Except.bind] at h

theorem finalize_ok (h : s.finalize = .ok s') :
    s'.status = .finalStopped ∧ s'.statusChan.sent = s.statusChan.sent ++ [.finalStopped] := by
  cases closed : s.statusChan.closed
  · rw [finalize_of_open closed] at h
    cases h
    exact ⟨rfl, rfl⟩
  · simp [finalize, announce, Channel.send, closed, bind, Except.bind] at h

/-- A call changes nothing, or announces its status. -/
theorem call_cases (c : StatusCall) (h : s.call c = .ok s') :
    s' = s ∨ s'.status = c.announces ∧ s'.statusChan.sent = s.statusChan.sent ++ [c.announces] := by
  rcases c with ready | _ | _ | _ | _ <;>
    simp only [call, start, doStop, endWait, StatusCall.announces, Bool.false_eq_true, and_false,
      false_and, and_true, true_and] at h ⊢ <;>
    split_ifs at h <;>
    first
    | exact .inl (Except.ok.inj h).symm
    | exact .inr (announce_ok h)
    | exact .inr (finalize_ok h)
    | simp_all

/-- A call sends at most one value. -/
theorem call_length (c : StatusCall) (h : s.call c = .ok s') :
    s.statusChan.sent.length ≤ s'.statusChan.sent.length ∧
      s'.statusChan.sent.length ≤ s.statusChan.sent.length + 1 := by
  rcases call_cases c h with rfl | ⟨-, sent⟩
  · omega
  · simp [sent]

/-- Only `FinalStop` makes the status `FinalStopped`. -/
theorem call_final (c : StatusCall) (h : s.call c = .ok s') (final : s'.status = .finalStopped)
    (other : c ≠ .finalStop) : s' = s := by
  rcases call_cases c h with same | ⟨announced, -⟩
  · exact same
  · rcases c with ready | _ | _ | _ | _ <;> simp_all [StatusCall.announces]

/-- A call that leaves a status other than its own changed nothing. -/
theorem call_same (c : StatusCall) (h : s.call c = .ok s') (other : s'.status ≠ c.announces) :
    s' = s :=
  (call_cases c h).resolve_right fun ⟨announced, _⟩ => other announced

/-- `EndWait` on a `Waiting` service announces `Stopped`. -/
theorem endWait_of_waiting (h : s.call .endWait = .ok s') (waiting : s.status = .waiting) :
    s'.status = .stopped ∧ s'.statusChan.sent = s.statusChan.sent ++ [.stopped] := by
  simp only [call, endWait, waiting, ne_eq, not_true_eq_false, if_false] at h
  exact announce_ok h

/-- A `Start` that returns an error changes nothing. -/
theorem start_of_fails {listeners producer : Bool} (fails : s.startFails listeners producer = true) :
    s.call (.start (listeners && producer)) = .ok s := by
  simp only [startFails] at fails
  simp only [call, start]
  split_ifs at fails ⊢ <;> first | rfl | (cases listeners <;> cases producer <;> simp_all)

end StatusState

theorem StatusInv.of_call {s s' : StatusState} (inv : StatusInv s) {c : StatusCall}
    (h : s.call c = .ok s') : StatusInv s' := by
  obtain ⟨s'', h'', inv''⟩ := inv.call c
  rw [h] at h''
  cases h''
  exact inv''

/-! ## The goroutine -/

/-- Where the goroutine of `RelpService.Start` stands. -/
inductive SupervisorPc where
  /-- At `state := <-s.impl.StatusChan`. -/
  | receiving
  /-- It received `Stopped`: `s.impl.Start(test)` is next. -/
  | starting
  /-- `Start` returned an error: `s.impl.StopAndWait()` is next. -/
  | failed
  | returned
  deriving DecidableEq, Repr

/-- The calls ahead of the goroutine before it receives again. -/
def SupervisorPc.left : SupervisorPc → Nat
  | .starting => 2
  | .failed => 1
  | _ => 0

/-- One while the goroutine is in a call that may still announce a status. -/
def SupervisorPc.holds : SupervisorPc → Nat
  | .starting => 1
  | .failed => 1
  | _ => 0

/-- A `RelpService` after `Start`: the status of its implementation, and the goroutine. -/
structure Supervised where
  status : StatusState
  /-- How many values of `StatusChan` the goroutine has received. -/
  received : Nat
  pc : SupervisorPc
  /-- The goroutines of `Waiting` whose timer has not yet called `EndWait`. -/
  timers : Nat
  /-- What the goroutine has reported, in order: whether it reported listeners. -/
  reports : List Bool
  /-- `RelpService.Stop` has called `FinalStop`. -/
  stopping : Bool
  deriving DecidableEq, Repr

namespace Supervised

/-- `RelpService.Start`, with its `Stopped` sent on the new `StatusChan`. -/
def initial : Supervised := ⟨StatusState.initial, 0, .receiving, 0, [], false⟩

/-- The goroutine's `switch` on the status it received. -/
def receive (s : Supervised) (v : RelpServerStatus) : Supervised :=
  let s := { s with received := s.received + 1 }
  match v with
  | .finalStopped => { s with pc := .returned, reports := s.reports ++ [false] }
  | .stopped => { s with pc := .starting }
  | .waiting => { s with timers := s.timers + 1 }
  | .started => s

/--
What the goroutine does with the result of `Start`: it reports the listeners
found, or none after an error, and then calls `StopAndWait`.
-/
def afterStart (s : Supervised) (listeners producer : Bool) (status : StatusState) : Supervised :=
  let fails := s.status.startFails listeners producer
  { s with status := status, pc := if fails then .failed else .receiving,
           reports := s.reports ++ [!fails && listeners] }

@[simp] theorem receive_status (s : Supervised) (v : RelpServerStatus) :
    (s.receive v).status = s.status := by
  cases v <;> rfl

@[simp] theorem receive_stopping (s : Supervised) (v : RelpServerStatus) :
    (s.receive v).stopping = s.stopping := by
  cases v <;> rfl

@[simp] theorem afterStart_status (s : Supervised) (listeners producer : Bool) (status : StatusState) :
    (s.afterStart listeners producer status).status = status := rfl

end Supervised

/-- The goroutine's steps, its timers' and the one call of `RelpService.Stop`. -/
inductive SupervisorStep : Supervised → Supervised → Prop
  | receive (s : Supervised) (v : RelpServerStatus) (receiving : s.pc = .receiving)
      (next : s.status.statusChan.sent[s.received]? = some v) :
      SupervisorStep s (s.receive v)
  /-- On the closed channel with every value received, `<-` gives the zero value, `Stopped`. -/
  | receiveClosed (s : Supervised) (receiving : s.pc = .receiving)
      (closed : s.status.statusChan.closed = true)
      (drained : s.status.statusChan.sent.length ≤ s.received) :
      SupervisorStep s (s.receive .stopped)
  /-- `s.impl.Start(test)`, where `listeners` says whether it found any. -/
  | start (s : Supervised) (starting : s.pc = .starting) (listeners producer : Bool)
      (status : StatusState) (call : s.status.call (.start (listeners && producer)) = .ok status) :
      SupervisorStep s (s.afterStart listeners producer status)
  | stopAndWait (s : Supervised) (failed : s.pc = .failed) (status : StatusState)
      (call : s.status.call .stopAndWait = .ok status) :
      SupervisorStep s { s with status := status, pc := .receiving }
  /-- A timer of `Waiting` ends: `s.impl.EndWait()`. -/
  | endWait (s : Supervised) (armed : 0 < s.timers) (status : StatusState)
      (call : s.status.call .endWait = .ok status) :
      SupervisorStep s { s with status := status, timers := s.timers - 1 }
  /-- `RelpService.Stop`: `s.impl.FinalStop()`. -/
  | finalStop (s : Supervised) (first : s.stopping = false) (status : StatusState)
      (call : s.status.call .finalStop = .ok status) :
      SupervisorStep s { s with status := status, stopping := true }

def SupervisorReachable (s : Supervised) : Prop :=
  Relation.ReflTransGen SupervisorStep Supervised.initial s

/-! ## At most two values waiting -/

/--
The status invariant; the values not yet received, the armed timers and a
call in progress of the goroutine are at most one, or two once `FinalStop`
has been called; `FinalStopped` comes only from `FinalStop`; and while the
goroutine has not returned, the `FinalStopped` sent is still to be received.
-/
structure SupervisorInv (s : Supervised) : Prop where
  status : StatusInv s.status
  received : s.received ≤ s.status.statusChan.sent.length
  tokens : s.status.statusChan.sent.length - s.received + s.timers + s.pc.holds ≤
    if s.stopping then 2 else 1
  stopping : s.status.status = .finalStopped → s.stopping = true
  reading : s.pc ≠ .returned → s.status.status = .finalStopped →
    s.received < s.status.statusChan.sent.length

theorem supervisorInv_initial : SupervisorInv Supervised.initial :=
  ⟨statusInv_initial, by decide, by decide, nofun, fun _ => nofun⟩

namespace SupervisorInv

variable {s : Supervised} (inv : SupervisorInv s)
include inv

/-- The last value sent is the status: when one value is left to receive, it is the status. -/
theorem last_unread {v : RelpServerStatus} (next : s.status.statusChan.sent[s.received]? = some v)
    (only : s.status.statusChan.sent.length ≤ s.received + 1) : v = s.status.status := by
  obtain ⟨lt, -⟩ := List.getElem?_eq_some_iff.1 next
  have last := inv.status.last
  rw [List.getLast?_eq_getElem?, show s.status.statusChan.sent.length - 1 = s.received by omega,
    next] at last
  exact Option.some.inj last

theorem receive (receiving : s.pc = .receiving) {v : RelpServerStatus}
    (next : s.status.statusChan.sent[s.received]? = some v) : SupervisorInv (s.receive v) := by
  obtain ⟨lt, -⟩ := List.getElem?_eq_some_iff.1 next
  have later : v ≠ .finalStopped → s.status.status = .finalStopped →
      s.received + 1 < s.status.statusChan.sent.length := fun other final => by
    by_contra ge
    exact other ((inv.last_unread next (by omega)).trans final)
  have tokens := inv.tokens
  simp only [receiving, SupervisorPc.holds] at tokens
  cases v
  case finalStopped =>
    exact ⟨inv.status, lt, by simp only [Supervised.receive, SupervisorPc.holds]; omega, inv.stopping,
      fun returned => absurd rfl returned⟩
  all_goals exact ⟨inv.status, lt, by simp only [Supervised.receive, SupervisorPc.holds, receiving]; omega,
    inv.stopping, fun _ => later nofun⟩

/-- A call other than `FinalStop` leaves `FinalStopped` where it was. -/
theorem otherCall {c : StatusCall} {status : StatusState} (call : s.status.call c = .ok status)
    (other : c ≠ .finalStop) :
    (status.status = .finalStopped → s.stopping = true) ∧
      (s.pc ≠ .returned → status.status = .finalStopped →
        s.received < status.statusChan.sent.length) := by
  refine ⟨fun final => ?_, fun running final => ?_⟩ <;>
    obtain rfl := StatusState.call_final c call final other
  exacts [inv.stopping final, inv.reading running final]

theorem afterStart (starting : s.pc = .starting) (listeners producer : Bool) {status : StatusState}
    (call : s.status.call (.start (listeners && producer)) = .ok status) :
    SupervisorInv (s.afterStart listeners producer status) := by
  have received := inv.received
  have length := StatusState.call_length _ call
  have tokens := inv.tokens
  simp only [starting, SupervisorPc.holds] at tokens
  obtain ⟨stopping, reading⟩ := inv.otherCall call nofun
  refine ⟨inv.status.of_call call, by simp only [Supervised.afterStart]; omega, ?_, stopping,
    fun _ => reading (by simp [starting])⟩
  cases fails : s.status.startFails listeners producer
  · simp only [Supervised.afterStart, fails, Bool.false_eq_true, if_false, SupervisorPc.holds]
    omega
  · rw [StatusState.start_of_fails fails] at call
    cases call
    simpa [Supervised.afterStart, fails, SupervisorPc.holds] using tokens

theorem stopAndWait (failed : s.pc = .failed) {status : StatusState}
    (call : s.status.call .stopAndWait = .ok status) :
    SupervisorInv { s with status := status, pc := .receiving } := by
  have received := inv.received
  have length := StatusState.call_length _ call
  have tokens := inv.tokens
  simp only [failed, SupervisorPc.holds] at tokens
  obtain ⟨stopping, reading⟩ := inv.otherCall call nofun
  exact ⟨inv.status.of_call call, by simp only; omega, by simp only [SupervisorPc.holds]; omega,
    stopping, fun _ => reading (by simp [failed])⟩

theorem endWait (armed : 0 < s.timers) {status : StatusState}
    (call : s.status.call .endWait = .ok status) :
    SupervisorInv { s with status := status, timers := s.timers - 1 } := by
  have received := inv.received
  have length := StatusState.call_length _ call
  have tokens := inv.tokens
  obtain ⟨stopping, reading⟩ := inv.otherCall call nofun
  exact ⟨inv.status.of_call call, by simp only; omega, by simp only; omega, stopping, reading⟩

theorem finalStop (first : s.stopping = false) {status : StatusState}
    (call : s.status.call .finalStop = .ok status) :
    SupervisorInv { s with status := status, stopping := true } := by
  have received := inv.received
  have length := StatusState.call_length _ call
  have tokens := inv.tokens
  simp only [first, Bool.false_eq_true, if_false] at tokens
  refine ⟨inv.status.of_call call, by simp only; omega, by simp only [eq_self_iff_true, if_true]; omega,
    fun _ => rfl, fun running final => ?_⟩
  rcases StatusState.call_cases _ call with same | ⟨-, sent⟩
  · subst same
    exact inv.reading running final
  · simp only [sent, List.length_append, List.length_singleton]
    omega

/-- The goroutine never receives from the closed channel once drained. -/
theorem undrained (receiving : s.pc = .receiving) (closed : s.status.statusChan.closed = true) :
    s.received < s.status.statusChan.sent.length :=
  inv.reading (by simp [receiving]) (inv.status.closed.1 closed)

theorem step {t : Supervised} (step : SupervisorStep s t) : SupervisorInv t := by
  cases step with
  | receive v receiving next => exact inv.receive receiving next
  | receiveClosed receiving closed drained => exact absurd (inv.undrained receiving closed) (by omega)
  | start starting listeners producer status call => exact inv.afterStart starting listeners producer call
  | stopAndWait failed status call => exact inv.stopAndWait failed call
  | endWait armed status call => exact inv.endWait armed call
  | finalStop first status call => exact inv.finalStop first call

end SupervisorInv

theorem SupervisorReachable.inv {s : Supervised} (reach : SupervisorReachable s) :
    SupervisorInv s := by
  induction reach with
  | refl => exact supervisorInv_initial
  | tail _ step inv => exact inv.step step

/--
`StatusChan` never holds more than two values the goroutine of
`RelpService.Start` has not received. Its ten slots are never all taken, so
no send on it waits, the goroutine's own from `Start` and `StopAndWait`
included, whatever `Start` finds and however the timers and `FinalStop`
interleave.
-/
theorem status_chan_holds_at_most_two {s : Supervised} (reach : SupervisorReachable s) :
    s.status.statusChan.sent.length ≤ s.received + 2 := by
  have tokens := reach.inv.tokens
  split at tokens <;> omega

/-- A start without a producer, its `Waiting`, and the timer's `Stopped`. -/
theorem status_chan_holds_at_most_two_retry :
    ∃ s, SupervisorReachable s ∧ s.status.statusChan.sent = [.stopped, .waiting, .stopped] ∧
      s.reports = [false] ∧ s.status.statusChan.sent.length ≤ s.received + 2 :=
  let run : SupervisorReachable ⟨⟨.stopped, ⟨[.stopped, .waiting, .stopped], false⟩⟩, 2,
      .receiving, 0, [false], false⟩ :=
    .tail (.tail (.tail (.tail (.tail .refl (.receive _ .stopped rfl rfl))
      (.start _ rfl true false _ rfl)) (.stopAndWait _ rfl _ rfl))
      (.receive _ .waiting rfl rfl)) (.endWait _ (by decide) _ rfl)
  ⟨_, run, rfl, rfl, status_chan_holds_at_most_two run⟩

/-! ## The goroutine returns after `FinalStop` -/

namespace SupervisorInv

variable {s : Supervised} (inv : SupervisorInv s) (final : s.status.status = .finalStopped)
include inv final

/-- Once `FinalStopped`, each step lowers the values to receive, the timers or the calls ahead. -/
theorem final_step {t : Supervised} (step : SupervisorStep s t) :
    (SupervisorInv t ∧ t.status.status = .finalStopped) ∧
      3 * (t.status.statusChan.sent.length - t.received) + t.timers + t.pc.left <
        3 * (s.status.statusChan.sent.length - s.received) + s.timers + s.pc.left := by
  have after := inv.step step
  cases step with
  | receive v receiving next =>
      obtain ⟨lt, -⟩ := List.getElem?_eq_some_iff.1 next
      refine ⟨⟨after, ?_⟩, ?_⟩ <;> cases v <;>
        simp only [Supervised.receive, SupervisorPc.left, receiving, final] <;> omega
  | start starting listeners producer status call =>
      rw [StatusState.call_of_final final] at call
      cases call
      have fails : s.status.startFails listeners producer = true := by
        simp [StatusState.startFails, final]
      refine ⟨⟨after, final⟩, ?_⟩
      simp only [Supervised.afterStart, fails, if_true, SupervisorPc.left, starting]
      omega
  | stopAndWait failed status call =>
      rw [StatusState.call_of_final final] at call
      cases call
      refine ⟨⟨after, final⟩, ?_⟩
      simp only [SupervisorPc.left, failed]
      omega
  | endWait armed status call =>
      rw [StatusState.call_of_final final] at call
      cases call
      exact ⟨⟨after, final⟩, by simp only; omega⟩
  | receiveClosed receiving closed drained => exact absurd (inv.undrained receiving closed) (by omega)
  | finalStop first => simp [inv.stopping final] at first

/-- Once `FinalStopped`, the goroutine can step until it has returned. -/
theorem final_progress : (∃ t, SupervisorStep s t) ∨ s.pc = .returned := by
  cases pc : s.pc with
  | receiving =>
      have lt := inv.reading (by simp [pc]) final
      exact .inl ⟨_, .receive s _ pc (List.getElem?_eq_getElem lt)⟩
  | starting => exact .inl ⟨_, .start s pc true true s.status (StatusState.call_of_final final _)⟩
  | failed => exact .inl ⟨_, .stopAndWait s pc s.status (StatusState.call_of_final final _)⟩
  | returned => exact .inr rfl

end SupervisorInv

/--
Once `FinalStop` has announced `FinalStopped`, the goroutine of
`RelpService.Start` returns, which `RelpService.Stop` waits for: every run
from then on ends, and a run that can go no further has the goroutine
returned, whatever statuses were still to be received and timers still armed.
-/
theorem supervisor_returns_after_final_stop {s : Supervised} (reach : SupervisorReachable s)
    (final : s.status.status = .finalStopped) :
    Acc (fun t s => SupervisorStep s t) s ∧
      ∀ t, Relation.ReflTransGen SupervisorStep s t → (∃ u, SupervisorStep t u) ∨ t.pc = .returned :=
  run_of_invariant (fun s => 3 * (s.status.statusChan.sent.length - s.received) + s.timers + s.pc.left)
    (fun _ _ (holds : SupervisorInv _ ∧ _) step => holds.1.final_step holds.2 step)
    (fun _ (holds : SupervisorInv _ ∧ _) => holds.1.final_progress holds.2) ⟨reach.inv, final⟩

/-- `RelpService.Stop` while the first `Start` is still to come. -/
theorem supervisor_returns_after_final_stop_early :
    ∃ s, SupervisorReachable s ∧ s.status.status = .finalStopped ∧ s.pc = .receiving ∧
      Acc (fun t s => SupervisorStep s t) s :=
  let run : SupervisorReachable ⟨⟨.finalStopped, ⟨[.stopped, .finalStopped], true⟩⟩, 0,
      .receiving, 0, [], true⟩ := .single (.finalStop _ rfl _ rfl)
  ⟨_, run, rfl, rfl, (supervisor_returns_after_final_stop run rfl).1⟩

/-! ## The retry after `Waiting` -/

/--
While the service is `Waiting` and `RelpService.Stop` has not been called, the
goroutine waits to receive, and the `Waiting` is still to be received or its
timer is armed.
-/
def WaitingInv (s : Supervised) : Prop :=
  s.stopping = false → s.status.status = .waiting →
    s.pc = .receiving ∧ 1 ≤ s.status.statusChan.sent.length - s.received + s.timers

theorem waitingInv_initial : WaitingInv Supervised.initial := fun _ => nofun

theorem WaitingInv.step {s t : Supervised} (inv : SupervisorInv s) (waiting : WaitingInv s)
    (step : SupervisorStep s t) : WaitingInv t := by
  have tokens := inv.tokens
  cases step with
  | receive v receiving next =>
      intro running still
      simp only [Supervised.receive_status, Supervised.receive_stopping] at running still
      obtain ⟨-, pending⟩ := waiting running still
      obtain ⟨lt, -⟩ := List.getElem?_eq_some_iff.1 next
      simp only [running, receiving, SupervisorPc.holds, Bool.false_eq_true, if_false] at tokens
      obtain rfl : v = .waiting := (inv.last_unread next (by omega)).trans still
      exact ⟨receiving, by simp only [Supervised.receive]; omega⟩
  | receiveClosed receiving closed drained => exact absurd (inv.undrained receiving closed) (by omega)
  | start starting listeners producer status call =>
      intro running still
      simp only [Supervised.afterStart_status] at still
      obtain rfl := StatusState.call_same _ call (by simp [still, StatusCall.announces])
      simp [(waiting running still).1] at starting
  | stopAndWait failed status call =>
      intro running still
      refine ⟨rfl, ?_⟩
      have received := inv.received
      rcases StatusState.call_cases _ call with rfl | ⟨-, sent⟩
      · simp [(waiting running still).1] at failed
      · simp only [sent, List.length_append, List.length_singleton]
        omega
  | endWait armed status call =>
      intro running still
      simp only at running still
      by_cases was : s.status.status = .waiting
      · simp [(StatusState.endWait_of_waiting call was).1] at still
      · obtain rfl := StatusState.call_same _ call (by simp [still, StatusCall.announces])
        exact absurd still was
  | finalStop => nofun

theorem SupervisorReachable.waitingInv {s : Supervised} (reach : SupervisorReachable s) :
    WaitingInv s := by
  induction reach with
  | refl => exact waitingInv_initial
  | tail earlier step waiting => exact waiting.step (SupervisorReachable.inv earlier) step

/-- A step of the goroutine or its timers before it calls `Start` again, and not `FinalStop`. -/
def RetryStep (s t : Supervised) : Prop :=
  SupervisorStep s t ∧ s.pc ≠ .starting ∧ t.stopping = false

/--
On the way back from `Waiting`: the service is `Waiting`, or it is `Stopped`
and the goroutine calls `Start` or has the `Stopped` still to receive.
-/
structure Retrying (s : Supervised) : Prop where
  inv : SupervisorInv s
  waiting : WaitingInv s
  running : s.stopping = false
  phase : s.status.status = .waiting ∨ s.status.status = .stopped ∧
    (s.pc = .starting ∨ s.pc = .receiving ∧ s.received < s.status.statusChan.sent.length)

/-- What is left of the way back: the `Waiting`, its timer, the `Stopped`. -/
def Supervised.retryLeft (s : Supervised) : Nat :=
  2 * (s.status.statusChan.sent.length - s.received) + s.timers +
    if s.status.status = .waiting then 2 else 0

namespace Retrying

variable {s : Supervised} (retry : Retrying s)
include retry

theorem step {t : Supervised} (step : RetryStep s t) : Retrying t ∧ t.retryLeft < s.retryLeft := by
  obtain ⟨step, notStarting, running⟩ := step
  have inv := retry.inv
  have tokens := inv.tokens
  have received := inv.received
  simp only [retry.running, Bool.false_eq_true, if_false] at tokens
  have retrying := Retrying.mk (inv.step step) (retry.waiting.step inv step) running
  cases step with
  | receive v receiving next =>
      obtain ⟨lt, -⟩ := List.getElem?_eq_some_iff.1 next
      simp only [receiving, SupervisorPc.holds] at tokens
      have last := inv.last_unread next (by omega)
      rcases retry.phase with still | ⟨stopped, -⟩
      · subst last
        rw [still] at retrying ⊢
        refine ⟨retrying (.inl still), ?_⟩
        simp only [Supervised.retryLeft, Supervised.receive, still, if_true]
        omega
      · subst last
        rw [stopped] at retrying ⊢
        refine ⟨retrying (.inr ⟨stopped, .inl rfl⟩), ?_⟩
        simp only [Supervised.retryLeft, Supervised.receive, stopped, reduceCtorEq, if_false]
        omega
  | receiveClosed receiving closed drained => exact absurd (inv.undrained receiving closed) (by omega)
  | start => exact absurd ‹_› notStarting
  | stopAndWait failed =>
      simp only [failed, SupervisorPc.holds] at tokens
      rcases retry.phase with still | ⟨-, starting | ⟨receiving, lt⟩⟩
      · simp [(retry.waiting retry.running still).1] at failed
      · simp [starting] at failed
      · simp [receiving] at failed
  | endWait armed status call =>
      rcases retry.phase with still | ⟨-, starting | ⟨receiving, lt⟩⟩
      · obtain ⟨receiving, -⟩ := retry.waiting retry.running still
        simp only [receiving, SupervisorPc.holds] at tokens
        obtain ⟨stopped, sent⟩ := StatusState.endWait_of_waiting call still
        have pending : s.received < status.statusChan.sent.length := by
          simp only [sent, List.length_append, List.length_singleton]
          omega
        refine ⟨retrying (.inr ⟨stopped, .inr ⟨receiving, pending⟩⟩), ?_⟩
        simp only [Supervised.retryLeft, sent, stopped, still, List.length_append,
          List.length_singleton, reduceCtorEq, if_true, if_false]
        omega
      · exact absurd starting notStarting
      · simp only [receiving, SupervisorPc.holds] at tokens
        omega
  | finalStop => exact absurd running nofun

theorem progress : (∃ t, RetryStep s t) ∨ s.pc = .starting ∧ s.status.status = .stopped := by
  have inv := retry.inv
  rcases retry.phase with still | ⟨stopped, starting | ⟨receiving, lt⟩⟩
  · obtain ⟨receiving, pending⟩ := retry.waiting retry.running still
    by_cases lt : s.received < s.status.statusChan.sent.length
    · exact .inl ⟨_, .receive s _ receiving (List.getElem?_eq_getElem lt), by simp [receiving],
        (s.receive_stopping _).trans retry.running⟩
    · obtain ⟨status, call, -⟩ := inv.status.call .endWait
      exact .inl ⟨_, .endWait s (by omega) status call, by simp [receiving], retry.running⟩
  · exact .inr ⟨starting, stopped⟩
  · exact .inl ⟨_, .receive s _ receiving (List.getElem?_eq_getElem lt), by simp [receiving],
      (s.receive_stopping _).trans retry.running⟩

end Retrying

/--
The retry after `Waiting` is never lost: from any state where the service is
`Waiting` and `RelpService.Stop` has not been called, the goroutine receives
the `Waiting`, its timer calls `EndWait`, and the goroutine receives the
`Stopped` that announces. Every run of these steps ends, and one that can go no
further has the service `Stopped` and the goroutine calling `Start` again.
-/
theorem supervisor_retries_start {s : Supervised} (reach : SupervisorReachable s)
    (waiting : s.status.status = .waiting) (running : s.stopping = false) :
    Acc (fun t s => RetryStep s t) s ∧
      ∀ t, Relation.ReflTransGen RetryStep s t →
        (∃ u, RetryStep t u) ∨ t.pc = .starting ∧ t.status.status = .stopped :=
  run_of_invariant Supervised.retryLeft (fun _ _ (retry : Retrying _) step => retry.step step)
    (fun _ (retry : Retrying _) => retry.progress)
    ⟨reach.inv, reach.waitingInv, running, .inl waiting⟩

/-- After a start that found listeners but no producer. -/
theorem supervisor_retries_start_failed :
    ∃ s, SupervisorReachable s ∧ s.status.status = .waiting ∧ s.stopping = false ∧
      Acc (fun t s => RetryStep s t) s :=
  let run : SupervisorReachable ⟨⟨.waiting, ⟨[.stopped, .waiting], false⟩⟩, 1, .receiving, 0,
      [false], false⟩ :=
    .tail (.tail (.tail .refl (.receive _ .stopped rfl rfl)) (.start _ rfl true false _ rfl))
      (.stopAndWait _ rfl _ rfl)
  ⟨_, run, rfl, rfl, (supervisor_retries_start run rfl rfl).1⟩

end Skewer.Relp
