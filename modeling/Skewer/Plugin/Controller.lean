import Mathlib.Logic.Relation

/-!
# The plugin controller

A `PluginController` drives one child process: the caller's `Create`,
`Start`, `Stop` and `Shutdown`, the reaper goroutine that closes
`ShutdownChan` when the child exits, the `listen` goroutine `Start` spawns,
whose deferred function closes `StopChan`, and the callers of `Gather`. The
channels `ShutdownChan` and `StopChan` are only ever made and closed, so each
is nil, open or closed; a receive blocks until its channel is closed, and for
ever on a nil channel. Writes to the child's stdin succeed while the child
lives.

`startErrorChan` and `metricsChan` are unbuffered. `listen` answers `Start`
once, through `once.Do`, with a send on `startErrorChan` that only `Start`'s
`select` receives, for at most three seconds; every way out of `listen` passes
that `once.Do`. It hands metrics to `Gather` with a send on `metricsChan`,
which only a `Gather` receives.
-/

namespace Skewer.Plugin

/-- A `chan struct{}` that is only ever made and closed. -/
inductive Chan where
  | nil
  | opened
  | closed
  deriving DecidableEq, Repr

/-- Where the caller of the controller's methods stands. -/
inductive CallerPc where
  | idle
  /-- In `Start`, at the `select` on `startErrorChan` and the three-second timer. -/
  | starting
  /-- `Start` has failed, and calls `Shutdown(3 * time.Second)`. -/
  | startFailed
  /-- In `Stop`, at `<-s.StopChan`. -/
  | stopWaiting
  /-- In `Shutdown`, at `<-s.ShutdownChan`. -/
  | shutdownWaiting
  /-- In `Shutdown`, at `<-s.StopChan`. -/
  | shutdownStopWaiting
  deriving DecidableEq, Repr

/-- Where the `listen` goroutine stands. -/
inductive ListenPc where
  | absent
  /-- In the loop on the child's stdout. -/
  | reading
  /-- In `once.Do`, at `startErrorChan <- ...`. -/
  | reporting
  /-- At `s.metricsChan <- families`. -/
  | sendingMetrics
  | finished
  deriving DecidableEq, Repr

structure Controller where
  created : Bool
  started : Bool
  shutdownChan : Chan
  stopChan : Chan
  childAlive : Bool
  listener : ListenPc
  /-- Whether the `once.Do` of the last `listen` has run, its send received by `Start`. -/
  reported : Bool
  caller : CallerPc
  deriving DecidableEq, Repr

/-- `NewPluginController`: `ShutdownChan` is made, `StopChan` is left nil. -/
def Controller.new : Controller := ⟨false, false, .opened, .nil, false, .absent, false, .idle⟩

inductive ControllerStep : Controller → Controller → Prop
  /-- `Create` starts the child, or fails and closes the `ShutdownChan` it made. -/
  | create (s : Controller) (idle : s.caller = .idle) (fresh : s.created = false) (ok : Bool) :
      ControllerStep s
        (if ok then { s with created := true, shutdownChan := .opened, childAlive := true }
          else { s with shutdownChan := .closed })
  /-- The child exits; the reaper's `cmd.Wait()` returns and it closes `ShutdownChan`. -/
  | childExit (s : Controller) (alive : s.childAlive = true) :
      ControllerStep s { s with childAlive := false, shutdownChan := .closed }
  /--
  `Start` makes `StopChan`; writing `conf` and `start` succeeds, and `listen` is
  spawned and awaited.
  -/
  | start (s : Controller) (idle : s.caller = .idle) (created : s.created = true)
      (stopped : s.started = false) (alive : s.childAlive = true) :
      ControllerStep s { s with stopChan := .opened, listener := .reading, reported := false
                                caller := .starting }
  /-- `Start` makes `StopChan`, and writing to the dead child fails. -/
  | startFails (s : Controller) (idle : s.caller = .idle) (created : s.created = true)
      (stopped : s.started = false) (dead : s.childAlive = false) :
      ControllerStep s { s with stopChan := .opened, caller := .startFailed }
  /-- Three seconds pass: `Start` gives up on `startErrorChan`. -/
  | startTimeout (s : Controller) (starting : s.caller = .starting) :
      ControllerStep s { s with caller := .startFailed }
  /-- `listen` reaches its `once.Do`, on a line that answers `Start` or on its way out. -/
  | reach (s : Controller) (reading : s.listener = .reading) (first : s.reported = false) :
      ControllerStep s { s with listener := .reporting }
  /-- `Start` receives the answer: the listener infos, or an error. -/
  | report (s : Controller) (reporting : s.listener = .reporting) (starting : s.caller = .starting)
      (ok : Bool) :
      ControllerStep s (if ok then { s with listener := .reading, reported := true, started := true
                                            caller := .idle }
        else { s with listener := .reading, reported := true, caller := .startFailed })
  /-- The child writes `metrics`: `listen` sends them on `metricsChan`. -/
  | metricsLine (s : Controller) (reading : s.listener = .reading) :
      ControllerStep s { s with listener := .sendingMetrics }
  /--
  A `Gather` takes them: `ShutdownChan` is not closed, `startedMu` is free of
  `Start`, the controller is started and writing `gathermetrics` succeeds.
  -/
  | gather (s : Controller) (sending : s.listener = .sendingMetrics)
      (open_ : s.shutdownChan ≠ .closed) (free : s.caller ≠ .starting) (started : s.started = true)
      (alive : s.childAlive = true) :
      ControllerStep s { s with listener := .reading }
  /--
  The `listen` goroutine, having answered `Start`, returns; its deferred
  function ends with `close(s.StopChan)`.
  -/
  | listenEnd (s : Controller) (reading : s.listener = .reading) (answered : s.reported = true)
      (normalStop : Bool) :
      ControllerStep s (if normalStop && s.childAlive then
          { s with started := false, listener := .finished, stopChan := .closed }
        else
          { s with started := false, created := false, childAlive := false, shutdownChan := .closed
                   listener := .finished, stopChan := .closed })
  /-- `Stop`: nothing when not created or a channel is closed, else `stop` and `<-s.StopChan`. -/
  | stop (s : Controller) (idle : s.caller = .idle) :
      ControllerStep s (if s.created && s.shutdownChan ≠ .closed && s.stopChan ≠ .closed &&
          s.childAlive then { s with caller := .stopWaiting } else s)
  /--
  `Shutdown`, called by the caller or by a failed `Start`: nothing when not
  created; otherwise a wait on `StopChan`, after `ShutdownChan`.
  -/
  | shutdown (s : Controller) (calling : s.caller = .idle ∨ s.caller = .startFailed) :
      ControllerStep s (if !s.created then { s with caller := .idle }
        else if s.shutdownChan = .closed then { s with caller := .shutdownStopWaiting }
        else { s with caller := .shutdownWaiting })
  /-- `ShutdownChan` is closed: `Shutdown` goes on to `<-s.StopChan`. -/
  | shutdownClosed (s : Controller) (waiting : s.caller = .shutdownWaiting)
      (closed : s.shutdownChan = .closed) :
      ControllerStep s { s with caller := .shutdownStopWaiting }
  /-- `StopChan` is closed: `Stop` or `Shutdown` returns, and with it a failed `Start`. -/
  | stopClosed (s : Controller)
      (waiting : s.caller = .stopWaiting ∨ s.caller = .shutdownStopWaiting)
      (closed : s.stopChan = .closed) :
      ControllerStep s { s with caller := .idle }

def ControllerReachable (s : Controller) : Prop :=
  Relation.ReflTransGen ControllerStep Controller.new s

/-- A caller in `Stop` or `Shutdown`, at one of its receives. -/
def CallerPc.waiting (pc : CallerPc) : Prop :=
  pc = .stopWaiting ∨ pc = .shutdownWaiting ∨ pc = .shutdownStopWaiting

/--
The `listen` goroutine can still close `StopChan`: it has answered `Start`, and
it reads, or it waits to hand metrics to a `Gather` that can still take them.
-/
def Controller.CanClose (s : Controller) : Prop :=
  s.reported = true ∧ (s.listener = .reading ∨
    (s.listener = .sendingMetrics ∧ s.started = true ∧ s.childAlive = true ∧
      s.shutdownChan ≠ .closed))

/-! ## A caller that waits for ever -/

/--
A caller waits in `Stop` or `Shutdown`, `StopChan` is not closed, and the
`listen` goroutine cannot close it.
-/
structure Blocked (s : Controller) : Prop where
  waiting : s.caller.waiting
  unclosed : s.stopChan ≠ .closed
  stuck : ¬ s.CanClose

/--
Only `listen` closes `StopChan`, only after answering `Start`, and only a
caller in `Start` receives that answer. The caller moves only from
`Shutdown`'s first receive to its second.
-/
theorem Blocked.step {s t : Controller} (blocked : Blocked s) (step : ControllerStep s t) :
    Blocked t ∧ (s.caller = .shutdownStopWaiting → t.caller = .shutdownStopWaiting) := by
  obtain ⟨waiting, unclosed, stuck⟩ := blocked
  unfold Controller.CanClose at stuck
  cases step with
  | childExit => exact ⟨⟨waiting, unclosed, fun ⟨reported, can⟩ => by simp_all⟩, id⟩
  | reach | metricsLine => exact ⟨⟨waiting, unclosed, fun ⟨reported, can⟩ => by simp_all⟩, id⟩
  | gather _ open_ _ started alive =>
      exact ⟨⟨waiting, unclosed, fun ⟨reported, _⟩ => stuck ⟨reported, by simp_all⟩⟩, id⟩
  | listenEnd reading answered => exact absurd ⟨answered, .inl reading⟩ stuck
  | shutdownClosed => exact ⟨⟨by simp [CallerPc.waiting], unclosed, stuck⟩, by simp⟩
  | stopClosed _ closed => exact absurd closed unclosed
  | report _ starting | startTimeout starting =>
      simp [CallerPc.waiting, starting] at waiting
  | create idle | start idle | startFails idle | stop idle =>
      simp [CallerPc.waiting, idle] at waiting
  | shutdown calling =>
      rcases calling with calling | calling <;> simp [CallerPc.waiting, calling] at waiting

theorem Blocked.run {s t : Controller} (blocked : Blocked s)
    (run : Relation.ReflTransGen ControllerStep s t) :
    Blocked t ∧ (s.caller = .shutdownStopWaiting → t.caller = .shutdownStopWaiting) := by
  induction run with
  | refl => exact ⟨blocked, id⟩
  | tail _ step ih =>
      exact ⟨(ih.1.step step).1, fun stopWaiting => (ih.1.step step).2 (ih.2 stopWaiting)⟩

/--
`Shutdown` after a `Create` that no `Start` followed, once the child has
exited: `ShutdownChan` is closed, so `Shutdown` receives from `StopChan`,
which is still nil, and never returns.
-/
theorem shutdown_without_start_blocks :
    ∃ s, ControllerReachable s ∧ s.childAlive = false ∧
      ∀ s', Relation.ReflTransGen ControllerStep s s' → s'.caller = .shutdownStopWaiting := by
  have run :
      ControllerReachable ⟨true, false, .closed, .nil, false, .absent, false, .shutdownStopWaiting⟩ :=
    .tail (.tail (.tail .refl (.create _ rfl rfl true)) (.childExit _ rfl)) (.shutdown _ (.inl rfl))
  have blocked : Blocked ⟨true, false, .closed, .nil, false, .absent, false, .shutdownStopWaiting⟩ :=
    ⟨by simp [CallerPc.waiting], by decide, by simp [Controller.CanClose]⟩
  exact ⟨_, run, rfl, fun s' later => (blocked.run later).2 rfl⟩

/-! ## When a waiting caller returns -/

/--
A created controller's child lives or `ShutdownChan` is closed, and so for a
caller at `Shutdown`'s wait on `ShutdownChan`: the reaper closes it when the
child exits.
-/
structure Reaped (s : Controller) : Prop where
  created : s.created = true → s.childAlive = true ∨ s.shutdownChan = .closed
  shutdown : s.caller = .shutdownWaiting → s.childAlive = true ∨ s.shutdownChan = .closed

theorem Reaped.step {s t : Controller} (reaped : Reaped s) (step : ControllerStep s t) :
    Reaped t := by
  cases step with
  | create _ fresh ok =>
      cases ok
      · exact ⟨fun created => by simp [fresh] at created, fun _ => .inr rfl⟩
      · exact ⟨fun _ => .inl rfl, fun _ => .inl rfl⟩
  | childExit => exact ⟨fun _ => .inr rfl, fun _ => .inr rfl⟩
  | reach | metricsLine | gather => exact ⟨reaped.created, reaped.shutdown⟩
  | start | startFails | startTimeout | shutdownClosed | stopClosed =>
      exact ⟨reaped.created, fun waiting => by simp at waiting⟩
  | report => split <;> exact ⟨reaped.created, fun waiting => by simp at waiting⟩
  | stop =>
      split
      · exact ⟨reaped.created, fun waiting => by simp at waiting⟩
      · exact reaped
  | listenEnd =>
      split
      · exact ⟨fun _ => .inl (by simp_all), fun _ => .inl (by simp_all)⟩
      · exact ⟨fun _ => .inr rfl, fun _ => .inr rfl⟩
  | shutdown =>
      split
      · exact ⟨reaped.created, fun waiting => by simp at waiting⟩
      · rename_i created
        split
        · exact ⟨reaped.created, fun waiting => by simp at waiting⟩
        · exact ⟨reaped.created, fun _ => reaped.created (by simpa using created)⟩

theorem ControllerReachable.reaped {s : Controller} (reach : ControllerReachable s) : Reaped s := by
  induction reach with
  | refl => exact ⟨nofun, nofun⟩
  | tail _ step ih => exact ih.step step

/--
With `StopChan` closed, and `ShutdownChan` closed or to be closed by the
reaper, the caller returns.
-/
theorem returns_of_closed {s : Controller} (waiting : s.caller.waiting)
    (closed : s.stopChan = .closed)
    (reaped : s.caller = .shutdownWaiting → s.childAlive = true ∨ s.shutdownChan = .closed) :
    ∃ t, Relation.ReflTransGen ControllerStep s t ∧ t.caller = .idle := by
  rcases waiting with caller | caller | caller
  · exact ⟨_, .single (.stopClosed s (.inl caller) closed), rfl⟩
  · rcases reaped caller with alive | shut
    · exact ⟨_, .tail (.tail (.single (.childExit s alive)) (.shutdownClosed _ caller rfl))
        (.stopClosed _ (.inr rfl) closed), rfl⟩
    · exact ⟨_, .tail (.single (.shutdownClosed s caller shut))
        (.stopClosed _ (.inr rfl) closed), rfl⟩
  · exact ⟨_, .single (.stopClosed s (.inr caller) closed), rfl⟩

/-- A `listen` goroutine that has answered `Start` and reads returns, closing `StopChan`. -/
theorem returns_of_reading {s : Controller} (waiting : s.caller.waiting)
    (reading : s.listener = .reading) (answered : s.reported = true) :
    ∃ t, Relation.ReflTransGen ControllerStep s t ∧ t.caller = .idle := by
  obtain ⟨t, run, idle⟩ := returns_of_closed
    (s := { s with started := false, created := false, childAlive := false
                   shutdownChan := .closed, listener := .finished, stopChan := .closed })
    waiting rfl fun _ => .inr rfl
  exact ⟨t, .head (.listenEnd s reading answered false) run, idle⟩

/--
A caller waiting in `Stop` or `Shutdown` can still return exactly when
`StopChan` is already closed, or the `listen` goroutine of the last `Start`
can still close it: it has answered `Start`, and it reads, or waits to hand
metrics to a `Gather` that can still take them. Otherwise it waits for ever,
whatever the child, the reaper and the callers of `Gather` do: as after
`Start`'s three seconds have passed, when `listen`'s `once.Do` waits for ever
on `startErrorChan`.
-/
theorem stop_returns_iff_listening {s : Controller} (reach : ControllerReachable s)
    (waiting : s.caller.waiting) :
    (∃ t, Relation.ReflTransGen ControllerStep s t ∧ t.caller = .idle) ↔
      s.stopChan = .closed ∨ s.CanClose := by
  constructor
  · rintro ⟨t, run, idle⟩
    by_contra neither
    obtain ⟨unclosed, stuck⟩ := not_or.1 neither
    rcases (Blocked.run ⟨waiting, unclosed, stuck⟩ run).1.waiting with caller | caller | caller <;>
      simp [caller] at idle
  · rintro (closed | ⟨answered, reading | ⟨sending, started, alive, open_⟩⟩)
    · exact returns_of_closed waiting closed reach.reaped.shutdown
    · exact returns_of_reading waiting reading answered
    · have free : s.caller ≠ .starting := by
        rcases waiting with caller | caller | caller <;> simp [caller]
      obtain ⟨t, run, idle⟩ := returns_of_reading (s := { s with listener := .reading })
        waiting rfl answered
      exact ⟨t, .head (.gather s sending open_ free started alive) run, idle⟩

/--
`Create`, then `Start`, whose three seconds pass before the child answers;
`Start` calls `Shutdown`, which waits on a `StopChan` that `listen`, stuck in
its `once.Do`, never closes.
-/
theorem stop_returns_iff_listening_timedOut :
    ∃ s, ControllerReachable s ∧ s.caller = .shutdownWaiting ∧ s.childAlive = true ∧
      ¬ ∃ t, Relation.ReflTransGen ControllerStep s t ∧ t.caller = .idle :=
  let run : ControllerReachable _ :=
    .tail (.tail (.tail (.tail (.tail .refl (.create _ rfl rfl true)) (.start _ rfl rfl rfl rfl))
      (.reach _ rfl rfl)) (.startTimeout _ rfl)) (.shutdown _ (.inr rfl))
  ⟨_, run, rfl, rfl, fun returns => by
    rcases (stop_returns_iff_listening run (.inr (.inl rfl))).1 returns with closed | ⟨answered, -⟩
    · cases closed
    · cases answered⟩

end Skewer.Plugin
