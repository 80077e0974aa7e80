import Skewer.Runs

/-!
# Stopping the RELP service

The goroutines `RelpServiceImpl.Start` registers in the wait groups `wg` and
`parsewg`, and `doStop`'s two waits on them. `Start` registers `push2kafka`
and `handleKafkaResponses` in `wg` in Kafka mode (direct and not test), and
one `Parse` worker per CPU in `parsewg`. `doStop` disposes of the raw ring,
waits for the parsers, disposes of the parsed queue, then waits on `wg`.
A `Parse` worker ends once the raw ring is disposed of, or when a message's
format has no parser. In direct mode it puts each parsed message on the parsed
queue, whose `Put` blocks while the queue is full; only `push2kafka` takes
messages off it, and the queue's capacity is not among the sources, so any
`Put` may block. `push2kafka` ends once the parsed queue is disposed of, and
`handleKafkaResponses` once the producer has closed its report channels,
which `push2kafka`'s deferred `AsyncClose` does.
-/

namespace Skewer.Relp

/-- Where a caller of `Stop` stands in `doStop`. -/
inductive StopPc where
  | idle
  /-- At `s.parsewg.Wait()`. -/
  | waitingParsers
  /-- At `s.wg.Wait()`. -/
  | waitingAll
  | returned
  deriving DecidableEq, Repr

/-- The wait group counters, the goroutines registered in them, and the queues they read. -/
structure Service where
  wg : Nat
  parsewg : Nat
  /-- The `Parse` workers in their loop: not returned, and not blocked in `Put`. -/
  parsers : Nat
  pushing : Bool
  reporting : Bool
  rawDisposed : Bool
  parsedDisposed : Bool
  /-- The producer's `Successes()` and `Errors()` channels are closed. -/
  reportsClosed : Bool
  stopper : StopPc
  deriving DecidableEq, Repr

/-- The state `Start` leaves, with `cpus` for `runtime.NumCPU()`. -/
def Service.started (direct test : Bool) (cpus : Nat) : Service :=
  let kafka := !test && direct
  ⟨if kafka then 2 else 0, cpus, cpus, kafka, kafka, false, false, false, .idle⟩

/-- The steps of the service's goroutines and of a caller of `Stop`, in direct mode when `direct`. -/
inductive ServiceStep (direct : Bool) : Service → Service → Prop
  /-- `Stop` on a started service: listeners reset and the raw ring disposed of. -/
  | stop (s : Service) (idle : s.stopper = .idle) :
      ServiceStep direct s { s with rawDisposed := true, stopper := .waitingParsers }
  /-- `parsewg.Wait()` returns; the parsed queue is disposed of and `RemoveAll` called. -/
  | parsersStopped (s : Service) (waiting : s.stopper = .waitingParsers) (zero : s.parsewg = 0) :
      ServiceStep direct s { s with parsedDisposed := true, stopper := .waitingAll }
  | allStopped (s : Service) (waiting : s.stopper = .waitingAll) (zero : s.wg = 0) :
      ServiceStep direct s { s with stopper := .returned }
  /-- A `Parse` worker finds the ring disposed of: `defer s.parsewg.Done()`. -/
  | parseEnd (s : Service) (running : 0 < s.parsers) (disposed : s.rawDisposed = true) :
      ServiceStep direct s { s with parsers := s.parsers - 1, parsewg := s.parsewg - 1 }
  /-- `GetParser` finds no parser for a message's format: the worker returns. -/
  | parseAbort (s : Service) (running : 0 < s.parsers) :
      ServiceStep direct s { s with parsers := s.parsers - 1, parsewg := s.parsewg - 1 }
  /-- In direct mode, `s.parsedMessagesQueue.Put(parsedMsg)` on a full queue: the worker blocks. -/
  | putBlocks (s : Service) (putting : direct = true) (running : 0 < s.parsers) :
      ServiceStep direct s { s with parsers := s.parsers - 1 }
  /-- `push2kafka` takes a message off the parsed queue, and a blocked `Put` returns. -/
  | putReturns (s : Service) (blocked : s.parsers < s.parsewg) (pushing : s.pushing = true) :
      ServiceStep direct s { s with parsers := s.parsers + 1 }
  /-- `push2kafka` finds the parsed queue disposed of: `AsyncClose()`, then `s.wg.Done()`. -/
  | pushEnd (s : Service) (running : s.pushing = true) (disposed : s.parsedDisposed = true) :
      ServiceStep direct s { s with pushing := false, reportsClosed := true, wg := s.wg - 1 }
  /-- `handleKafkaResponses` sees both report channels closed and returns. -/
  | reportsEnd (s : Service) (running : s.reporting = true) (closed : s.reportsClosed = true) :
      ServiceStep direct s { s with reporting := false }

def ServiceReachable (direct test : Bool) (cpus : Nat) (s : Service) : Prop :=
  Relation.ReflTransGen (ServiceStep direct) (Service.started direct test cpus) s

/-- In Kafka mode `wg` counts `push2kafka` while it runs, and `handleKafkaResponses` for ever. -/
theorem Service.wg_kafka {cpus : Nat} {s : Service} (reach : ServiceReachable true false cpus s) :
    s.wg = (if s.pushing then 1 else 0) + 1 := by
  induction reach with
  | refl => rfl
  | tail _ step ih =>
      cases step with
      | pushEnd running => simp_all
      | _ => simpa using ih

/--
In Kafka mode no caller of `Stop` ever returns: `handleKafkaResponses` is
registered in `wg` and never calls `s.wg.Done()`, so `s.wg.Wait()` waits for
ever once the other goroutines have ended.
-/
theorem kafka_stop_never_returns {cpus : Nat} {s : Service}
    (reach : ServiceReachable true false cpus s) : s.stopper ≠ .returned := by
  induction reach with
  | refl => simp [Service.started]
  | tail earlier step ih =>
      cases step with
      | allStopped waiting zero =>
          have := Service.wg_kafka earlier
          omega
      | stop => simp
      | parsersStopped => simp
      | _ => exact ih

/-- The run where every worker ends: `wg` is left at one with no goroutine to release it. -/
theorem kafka_stop_never_returns_one_cpu :
    ServiceReachable true false 1 ⟨1, 0, 0, false, false, true, true, true, .waitingAll⟩ ∧
      (⟨1, 0, 0, false, false, true, true, true, .waitingAll⟩ : Service).stopper ≠ .returned :=
  have reach :
      ServiceReachable true false 1 ⟨1, 0, 0, false, false, true, true, true, .waitingAll⟩ :=
    .tail (.tail (.tail (.tail (.tail .refl (.stop _ rfl)) (.parseEnd _ (by decide) rfl))
      (.parsersStopped _ rfl rfl)) (.pushEnd _ rfl rfl)) (.reportsEnd _ rfl rfl)
  ⟨reach, kafka_stop_never_returns reach⟩

/-! ## In store mode -/

/-- The waits of `doStop` still ahead of its caller. -/
def StopPc.left : StopPc → Nat
  | .idle => 3
  | .waitingParsers => 2
  | .waitingAll => 1
  | .returned => 0

/--
In store mode nothing is registered in `wg`, `parsewg` counts the `Parse`
workers, all in their loop, and once `Stop` has begun the raw ring is disposed of.
-/
structure StoreMode (s : Service) : Prop where
  wg : s.wg = 0
  pushing : s.pushing = false
  reporting : s.reporting = false
  parsewg : s.parsewg = s.parsers
  disposed : s.stopper ≠ .idle → s.rawDisposed = true

theorem storeMode_started (test : Bool) (cpus : Nat) : StoreMode (Service.started false test cpus) := by
  refine ⟨?_, ?_, ?_, rfl, fun running => absurd rfl running⟩ <;> cases test <;> rfl

/-- Every step keeps `StoreMode`, and ends a worker or moves the caller of `Stop` on. -/
theorem StoreMode.step {s t : Service} (mode : StoreMode s) (step : ServiceStep false s t) :
    StoreMode t ∧ t.parsers + t.stopper.left < s.parsers + s.stopper.left := by
  cases step with
  | stop idle => exact ⟨⟨mode.wg, mode.pushing, mode.reporting, mode.parsewg, fun _ => rfl⟩,
      by simp [StopPc.left, idle]⟩
  | parsersStopped waiting =>
      exact ⟨⟨mode.wg, mode.pushing, mode.reporting, mode.parsewg, fun _ => mode.disposed (by
        simp [waiting])⟩, by simp [StopPc.left, waiting]⟩
  | allStopped waiting =>
      exact ⟨⟨mode.wg, mode.pushing, mode.reporting, mode.parsewg, fun _ => mode.disposed (by
        simp [waiting])⟩, by simp [StopPc.left, waiting]⟩
  | parseEnd running | parseAbort running =>
      exact ⟨⟨mode.wg, mode.pushing, mode.reporting, by simp [mode.parsewg], mode.disposed⟩,
        by simp only; omega⟩
  | putBlocks putting => cases putting
  | putReturns _ pushing | pushEnd pushing => simp [mode.pushing] at pushing
  | reportsEnd running => simp [mode.reporting] at running

/-- In store mode a state can step, or its caller of `Stop` has returned. -/
theorem StoreMode.progress {s : Service} (mode : StoreMode s) :
    (∃ t, ServiceStep false s t) ∨ s.stopper = .returned := by
  cases waiting : s.stopper with
  | idle => exact .inl ⟨_, .stop s waiting⟩
  | waitingParsers =>
      by_cases running : 0 < s.parsers
      · exact .inl ⟨_, .parseEnd s running (mode.disposed (by simp [waiting]))⟩
      · exact .inl ⟨_, .parsersStopped s waiting (by rw [mode.parsewg]; omega)⟩
  | waitingAll => exact .inl ⟨_, .allStopped s waiting mode.wg⟩
  | returned => exact .inr rfl

/-! ## Without `push2kafka` -/

/--
Without `push2kafka`, in store mode and in direct test mode: nothing is
registered in `wg`, `parsewg` counts at least the workers in their loop, and
it is zero once the caller of `doStop` has passed `parsewg.Wait()`.
-/
structure Unpushed (s : Service) : Prop where
  wg : s.wg = 0
  pushing : s.pushing = false
  reporting : s.reporting = false
  parsewg : s.parsers ≤ s.parsewg
  drained : s.stopper = .waitingAll ∨ s.stopper = .returned → s.parsewg = 0

theorem unpushed_started {direct test : Bool} (unpushed : (!test && direct) = false) (cpus : Nat) :
    Unpushed (Service.started direct test cpus) := by
  refine ⟨?_, ?_, ?_, Nat.le_refl _, nofun⟩ <;> simp [Service.started, unpushed]

theorem Unpushed.step {direct : Bool} {s t : Service} (inv : Unpushed s)
    (step : ServiceStep direct s t) : Unpushed t := by
  obtain ⟨wg, pushing, reporting, parsewg, drained⟩ := inv
  cases step with
  | stop idle => exact ⟨wg, pushing, reporting, parsewg, fun done => by simp [idle] at done⟩
  | parsersStopped _ zero => exact ⟨wg, pushing, reporting, parsewg, fun _ => zero⟩
  | allStopped waiting => exact ⟨wg, pushing, reporting, parsewg, fun _ => drained (.inl waiting)⟩
  | parseEnd | parseAbort =>
      refine ⟨wg, pushing, reporting, by simp only; omega, fun done => ?_⟩
      have := drained done
      simp only; omega
  | putBlocks => exact ⟨wg, pushing, reporting, by simp only; omega, drained⟩
  | putReturns _ running | pushEnd running => simp [pushing] at running
  | reportsEnd running => simp [reporting] at running

/--
A worker out of its loop, with `parsewg` above the workers still in it, stays
so: no step brings `parsewg` down to them, and the caller of `doStop` waits at
`parsewg.Wait()` for ever.
-/
theorem Unpushed.stuck {direct : Bool} {s t : Service} (inv : Unpushed s)
    (stuck : s.parsers < s.parsewg) (step : ServiceStep direct s t) :
    t.parsers < t.parsewg ∧ (s.stopper = .waitingParsers → t.stopper = .waitingParsers) := by
  cases step with
  | parsersStopped _ zero => omega
  | allStopped waiting => exact ⟨stuck, by simp [waiting]⟩
  | parseEnd | parseAbort | putBlocks => exact ⟨by simp only; omega, id⟩
  | putReturns _ running => simp [inv.pushing] at running
  | _ => exact ⟨stuck, by simp⟩

/-- With a worker out of its loop, no caller of `Stop` has returned. -/
theorem Unpushed.waiting {s : Service} (inv : Unpushed s) (stuck : s.parsers < s.parsewg) :
    s.stopper ≠ .returned := fun returned => by
  have := inv.drained (.inr returned)
  omega

/--
`Stop` returns in store mode, and only there. In store mode, for any number of
CPUs and however the `Parse` workers interleave, every run of the service from
`Start` ends, and a run that can go no further has its caller of `Stop`
returned. In direct test mode nothing takes messages off the parsed queue:
once a worker has blocked in `Put`, no caller of `Stop` returns, whatever
happens after.
-/
theorem store_stop_returns_direct_put_blocks (test : Bool) (cpus : Nat) :
    (Acc (fun t s => ServiceStep false s t) (Service.started false test cpus) ∧
      ∀ s, ServiceReachable false test cpus s →
        (∃ t, ServiceStep false s t) ∨ s.stopper = .returned) ∧
    ∀ s t, ServiceReachable true true cpus s → s.parsers < s.parsewg →
      Relation.ReflTransGen (ServiceStep true) s t → t.stopper ≠ .returned := by
  refine ⟨run_of_invariant (fun s => s.parsers + s.stopper.left)
    (fun _ _ mode step => mode.step step) (fun _ mode => mode.progress) (storeMode_started test cpus),
    fun s t reach stuck run => ?_⟩
  have inv : Unpushed s := invariant_run (r := ServiceStep true)
    (fun a _ (inv : Unpushed a) step => inv.step step) (@unpushed_started true true rfl cpus) reach
  have after : Unpushed t ∧ t.parsers < t.parsewg := invariant_run
    (fun a _ (held : Unpushed a ∧ a.parsers < a.parsewg) step =>
      ⟨held.1.step step, (held.1.stuck held.2 step).1⟩) ⟨inv, stuck⟩ run
  exact after.1.waiting after.2

/-- In direct test mode on one CPU, the worker blocks in `Put` before any `Stop`. -/
theorem store_stop_returns_direct_put_blocks_one_cpu :
    Acc (fun t s => ServiceStep false s t) (Service.started false false 4) ∧
      ServiceReachable true true 1 ⟨0, 1, 0, false, false, false, false, false, .idle⟩ ∧
      (0 : Nat) < 1 ∧
      ∀ t, Relation.ReflTransGen (ServiceStep true) ⟨0, 1, 0, false, false, false, false, false, .idle⟩ t →
        t.stopper ≠ .returned :=
  have reach : ServiceReachable true true 1 ⟨0, 1, 0, false, false, false, false, false, .idle⟩ :=
    .single (.putBlocks _ rfl (by decide))
  ⟨(store_stop_returns_direct_put_blocks false 4).1.1, reach, by decide,
    fun t run => (store_stop_returns_direct_put_blocks true 1).2 _ t reach (by decide) run⟩

/-! ## A fatal error from the Store -/

/--
`Parse`, outside Kafka mode, on a fatal error from the Store: `ForwardFail`,
then `s.StopAndWait()`, then `return`. The worker has left its loop, but it is
counted in `parsewg` until `StopAndWait` returns and its deferred
`s.parsewg.Done()` runs.
-/
inductive StoreFatal : Service → Service → Prop
  /-- It takes the status lock on the started service and runs `doStop(false, true)` itself. -/
  | stops (s : Service) (running : 0 < s.parsers) (idle : s.stopper = .idle) :
      StoreFatal s { s with parsers := s.parsers - 1, rawDisposed := true, stopper := .waitingParsers }
  /-- A caller of `doStop` holds the status lock: the worker waits for it. -/
  | waits (s : Service) (running : 0 < s.parsers)
      (locked : s.stopper = .waitingParsers ∨ s.stopper = .waitingAll) :
      StoreFatal s { s with parsers := s.parsers - 1 }

/-- The steps of the service in store mode, and the `Parse` workers' fatal errors from the Store. -/
inductive WorkerStep (s t : Service) : Prop
  | service (step : ServiceStep false s t)
  | storeFatal (fatal : StoreFatal s t)

theorem Unpushed.fatal {s t : Service} (inv : Unpushed s) (fatal : StoreFatal s t) :
    Unpushed t ∧ t.parsers < t.parsewg ∧ t.stopper = .waitingParsers := by
  obtain ⟨wg, pushing, reporting, parsewg, drained⟩ := inv
  cases fatal with
  | stops running => exact ⟨⟨wg, pushing, reporting, by simp only; omega, nofun⟩, by simp only; omega, rfl⟩
  | waits running locked =>
      have waiting : s.stopper = .waitingParsers := by
        refine locked.resolve_right fun waiting => ?_
        have := drained (.inl waiting)
        omega
      exact ⟨⟨wg, pushing, reporting, by simp only; omega, drained⟩, by simp only; omega, waiting⟩

/--
Outside Kafka mode, a fatal error from the Store in a `Parse` worker stops the
service for ever. Whatever the other workers and callers do after it, the
caller of `doStop`, the worker itself or a `Stop` already running, waits at
`parsewg.Wait()` for the worker, which is counted there until `StopAndWait`
returns. It holds the status lock meanwhile, so the service never reaches
`Waiting` and no later `Stop`, `FinalStop` or `StopAndWait` returns.
-/
theorem store_fatal_error_blocks_stop {test : Bool} {cpus : Nat} {s s' t : Service}
    (reach : Relation.ReflTransGen WorkerStep (Service.started false test cpus) s)
    (fatal : StoreFatal s s') (run : Relation.ReflTransGen WorkerStep s' t) :
    t.stopper = .waitingParsers ∧ t.parsers < t.parsewg := by
  have step : ∀ s t, Unpushed s → WorkerStep s t → Unpushed t := fun _ _ inv step => by
    rcases step with step | fatal
    exacts [inv.step step, (inv.fatal fatal).1]
  have inv : Unpushed s := invariant_run step (unpushed_started (by cases test <;> rfl) cpus) reach
  obtain ⟨after, stuck, waiting⟩ := inv.fatal fatal
  have held : Unpushed t ∧ t.parsers < t.parsewg ∧ t.stopper = .waitingParsers :=
    invariant_run (fun a _ (held : Unpushed a ∧ a.parsers < a.parsewg ∧
        a.stopper = .waitingParsers) next => by
      obtain ⟨inv, stuck, waiting⟩ := held
      rcases next with next | fatal
      · exact ⟨inv.step next, (inv.stuck stuck next).1, (inv.stuck stuck next).2 waiting⟩
      · exact inv.fatal fatal) ⟨after, stuck, waiting⟩ run
  exact ⟨held.2.2, held.2.1⟩

/-- On two CPUs: one worker meets the error, the other drains the ring and ends. -/
theorem store_fatal_error_blocks_stop_two_cpus :
    StoreFatal (Service.started false false 2) ⟨0, 2, 1, false, false, true, false, false, .waitingParsers⟩ ∧
      Relation.ReflTransGen WorkerStep ⟨0, 2, 1, false, false, true, false, false, .waitingParsers⟩
        ⟨0, 1, 0, false, false, true, false, false, .waitingParsers⟩ ∧
      (Service.stopper ⟨0, 1, 0, false, false, true, false, false, .waitingParsers⟩ = .waitingParsers ∧
        Service.parsers ⟨0, 1, 0, false, false, true, false, false, .waitingParsers⟩ <
          Service.parsewg ⟨0, 1, 0, false, false, true, false, false, .waitingParsers⟩) :=
  have fatal : StoreFatal (Service.started false false 2)
      ⟨0, 2, 1, false, false, true, false, false, .waitingParsers⟩ := .stops _ (by decide) rfl
  have run : Relation.ReflTransGen WorkerStep ⟨0, 2, 1, false, false, true, false, false, .waitingParsers⟩
      ⟨0, 1, 0, false, false, true, false, false, .waitingParsers⟩ :=
    .single (.service (.parseEnd _ (by decide) rfl))
  ⟨fatal, run, store_fatal_error_blocks_stop .refl fatal run⟩

end Skewer.Relp
