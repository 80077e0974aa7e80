import Mathlib.Data.List.Basic
import Mathlib.Logic.Relation

/-!
# The store plugin's message queue

`StorePlugin.Stash` puts each message on a `utils.MessageQueue`, and the
`push` goroutine drains the queue into the pipe to the store child with
`pushqueue`, which takes batches of up to 1000 messages with `GetMany` and
marshals and writes them one by one. `Shutdown` closes `stopChan`, waits for
`push` to return, drains the queue once more with its own `pushqueue`, and
closes the pipe.

Modelled from the spec: `utils.MessageQueue`, whose package is not among the
sources, is a FIFO; `GetMany(n)` removes the up to `n` oldest messages, and
`Wait(stop)` returns true once the queue is non-empty and false once `stop`
is closed, either one when both hold.
-/

namespace Skewer.Store

/-- Where a `pushqueue` call stands: at `GetMany(1000)`, or in the loop over its batch. -/
inductive Drain (Msg : Type) where
  | getMany
  | writing (batch : List Msg)
  deriving DecidableEq, Repr

/-- Where the `push` goroutine stands. -/
inductive PushPc (Msg : Type) where
  /-- At `s.MessageQueue.Wait(s.stopChan)`. -/
  | waiting
  | draining (d : Drain Msg)
  /-- After `s.pushwg.Done()`. -/
  | done
  deriving DecidableEq, Repr

/-- Where `Shutdown` stands. -/
inductive ShutdownPc (Msg : Type) where
  | notCalled
  /-- After `close(s.stopChan)`, at `s.pushwg.Wait()`. -/
  | waitingPush
  | draining (d : Drain Msg)
  /-- After `s.pipe.Close()`. -/
  | closed
  deriving DecidableEq, Repr

structure StoreState (Msg : Type) where
  queue : List Msg
  stopClosed : Bool
  push : PushPc Msg
  shutdown : ShutdownPc Msg
  /-- Every message `Stash` has put, in order. -/
  stashed : List Msg
  /--
  Every message a `pushqueue` took from its batch, with whether `MarshalMsg`
  and the pipe's `Write` both succeeded.
  -/
  outcomes : List (Msg × Bool)
  deriving DecidableEq, Repr

namespace StoreState

variable {Msg : Type}

/-- `NewStorePlugin`: an empty queue, and `push` started. -/
def initial : StoreState Msg := ⟨[], false, .waiting, .notCalled, [], []⟩

/-- The messages written to the pipe, in order. -/
def written (s : StoreState Msg) : List Msg := (s.outcomes.filter (·.2)).map (·.1)

end StoreState

/-- The steps of `Stash`, of the `push` goroutine and of `Shutdown`. -/
inductive StoreStep {Msg : Type} : StoreState Msg → StoreState Msg → Prop
  /-- `Stash(m)`, before `Shutdown` is called. -/
  | stash (s : StoreState Msg) (m : Msg) (before : s.shutdown = .notCalled) :
      StoreStep s { s with queue := s.queue ++ [m], stashed := s.stashed ++ [m] }
  | waitTrue (s : StoreState Msg) (waiting : s.push = .waiting) (nonempty : s.queue ≠ []) :
      StoreStep s { s with push := .draining .getMany }
  | waitFalse (s : StoreState Msg) (waiting : s.push = .waiting) (stopped : s.stopClosed = true) :
      StoreStep s { s with push := .done }
  /-- `push`'s `GetMany(1000)`: an empty batch returns from `pushqueue`. -/
  | pushGet (s : StoreState Msg) (getting : s.push = .draining .getMany) :
      StoreStep s (if (s.queue.take 1000).isEmpty then { s with push := .waiting }
        else { s with push := .draining (.writing (s.queue.take 1000)), queue := s.queue.drop 1000 })
  | pushWrite (s : StoreState Msg) (m : Msg) (rest : List Msg)
      (writing : s.push = .draining (.writing (m :: rest))) (ok : Bool) :
      StoreStep s { s with push := .draining (.writing rest), outcomes := s.outcomes ++ [(m, ok)] }
  | pushBatchEnd (s : StoreState Msg) (writing : s.push = .draining (.writing [])) :
      StoreStep s { s with push := .draining .getMany }
  /-- `close(s.stopChan)`. -/
  | shutdownStart (s : StoreState Msg) (before : s.shutdown = .notCalled) :
      StoreStep s { s with stopClosed := true, shutdown := .waitingPush }
  /-- `s.pushwg.Wait()` returns once `push` is done. -/
  | shutdownJoin (s : StoreState Msg) (waiting : s.shutdown = .waitingPush) (done : s.push = .done) :
      StoreStep s { s with shutdown := .draining .getMany }
  /-- `Shutdown`'s `GetMany(1000)`: an empty batch returns, and `s.pipe.Close()` follows. -/
  | shutdownGet (s : StoreState Msg) (getting : s.shutdown = .draining .getMany) :
      StoreStep s (if (s.queue.take 1000).isEmpty then { s with shutdown := .closed }
        else { s with shutdown := .draining (.writing (s.queue.take 1000))
                      queue := s.queue.drop 1000 })
  | shutdownWrite (s : StoreState Msg) (m : Msg) (rest : List Msg)
      (writing : s.shutdown = .draining (.writing (m :: rest))) (ok : Bool) :
      StoreStep s { s with shutdown := .draining (.writing rest), outcomes := s.outcomes ++ [(m, ok)] }
  | shutdownBatchEnd (s : StoreState Msg) (writing : s.shutdown = .draining (.writing [])) :
      StoreStep s { s with shutdown := .draining .getMany }

def StoreReachable {Msg : Type} (s : StoreState Msg) : Prop :=
  Relation.ReflTransGen StoreStep StoreState.initial s

/-! ## Every stashed message handled once, in order -/

variable {Msg : Type}

/-- The messages a `pushqueue` has taken from the queue and not yet handled. -/
def Drain.batch : Drain Msg → List Msg
  | .getMany => []
  | .writing batch => batch

def PushPc.batch : PushPc Msg → List Msg
  | .draining d => d.batch
  | _ => []

def ShutdownPc.batch : ShutdownPc Msg → List Msg
  | .draining d => d.batch
  | _ => []

/-- Whether `Shutdown` is past `s.pushwg.Wait()`. -/
def ShutdownPc.joined : ShutdownPc Msg → Bool
  | .draining _ | .closed => true
  | _ => false

theorem ShutdownPc.batch_of_joined_false {pc : ShutdownPc Msg} (early : pc.joined = false) :
    pc.batch = [] := by
  cases pc <;> simp_all [joined, batch]

/--
The messages handled, then those in a batch, then the queue, are the stashed
ones in order; `push` is done once `Shutdown` is past its wait, and the queue
is empty once the pipe is closed.
-/
structure StoreInv (s : StoreState Msg) : Prop where
  fifo : s.outcomes.map Prod.fst ++ s.push.batch ++ s.shutdown.batch ++ s.queue = s.stashed
  joined : s.shutdown.joined = true → s.push = .done
  closed : s.shutdown = .closed → s.queue = []

theorem storeInv_initial : StoreInv (StoreState.initial : StoreState Msg) :=
  ⟨rfl, by simp [StoreState.initial, ShutdownPc.joined], by simp [StoreState.initial]⟩

theorem StoreInv.step {s s' : StoreState Msg} (inv : StoreInv s) (step : StoreStep s s') :
    StoreInv s' := by
  obtain ⟨fifo, joined, closed⟩ := inv
  have early {pc : PushPc Msg} (live : s.push = pc) (notDone : pc ≠ .done) :
      s.shutdown.joined = false := Bool.eq_false_iff.2 fun h => notDone (live ▸ joined h)
  cases step with
  | stash m before =>
      refine ⟨?_, by simp [before, ShutdownPc.joined], by simp [before]⟩
      simp [← fifo]
  | waitTrue waiting _ =>
      have := early waiting (by simp)
      exact ⟨by simpa [PushPc.batch, Drain.batch, waiting] using fifo, by simp [this],
        closed⟩
  | waitFalse waiting _ =>
      exact ⟨by simpa [PushPc.batch, waiting] using fifo, by simp, closed⟩
  | pushGet getting =>
      have := early getting (by simp)
      have batch := ShutdownPc.batch_of_joined_false this
      have open_ : s.shutdown ≠ .closed := fun h => by simp [h, ShutdownPc.joined] at this
      split
      · exact ⟨by simpa [PushPc.batch, Drain.batch, getting] using fifo, by simp [this],
          fun h => absurd h open_⟩
      · refine ⟨?_, by simp [this], fun h => absurd h open_⟩
        simpa [PushPc.batch, Drain.batch, getting, batch] using fifo
  | pushWrite m rest writing ok =>
      have := early writing (by simp)
      exact ⟨by simpa [PushPc.batch, Drain.batch, writing] using fifo, by simp [this], closed⟩
  | pushBatchEnd writing =>
      have := early writing (by simp)
      exact ⟨by simpa [PushPc.batch, Drain.batch, writing] using fifo, by simp [this], closed⟩
  | shutdownStart before =>
      exact ⟨by simpa [ShutdownPc.batch, before] using fifo, by simp [ShutdownPc.joined],
        by simp⟩
  | shutdownJoin waiting done =>
      exact ⟨by simpa [ShutdownPc.batch, Drain.batch, waiting] using fifo, fun _ => done,
        by simp⟩
  | shutdownGet getting =>
      have done := joined (by simp [getting, ShutdownPc.joined])
      split
      · rename_i empty
        exact ⟨by simpa [ShutdownPc.batch, Drain.batch, getting] using fifo, fun _ => done,
          fun _ => by simpa using empty⟩
      · exact ⟨by simpa [ShutdownPc.batch, Drain.batch, PushPc.batch, getting, done] using fifo,
          fun _ => done, by simp⟩
  | shutdownWrite m rest writing ok =>
      have done := joined (by simp [writing, ShutdownPc.joined])
      exact ⟨by simpa [ShutdownPc.batch, Drain.batch, PushPc.batch, writing, done] using fifo,
        fun _ => done, by simp⟩
  | shutdownBatchEnd writing =>
      have done := joined (by simp [writing, ShutdownPc.joined])
      exact ⟨by simpa [ShutdownPc.batch, Drain.batch, writing] using fifo, fun _ => done,
        by simp⟩

theorem StoreReachable.inv {s : StoreState Msg} (reach : StoreReachable s) : StoreInv s := by
  induction reach with
  | refl => exact storeInv_initial
  | tail _ step ih => exact ih.step step

/--
Whatever the interleaving of `Stash` calls with the `push` goroutine, with
`Shutdown` called after the last `Stash`: when `Shutdown` has closed the pipe,
every stashed message has been taken from the queue exactly once, in `Stash`
order, and marshalled and written, so that the pipe got, in that order, those
for which both succeeded; and no step is left, so nothing is written after.
-/
theorem store_pushes_each_stash_once_in_order {s : StoreState Msg} (reach : StoreReachable s)
    (closed : s.shutdown = .closed) :
    s.outcomes.map Prod.fst = s.stashed ∧ ∀ s', ¬StoreStep s s' := by
  obtain ⟨fifo, joined, empty⟩ := reach.inv
  have done := joined (by simp [closed, ShutdownPc.joined])
  refine ⟨by simpa [closed, done, empty closed, PushPc.batch, ShutdownPc.batch] using fifo,
    fun s' step => ?_⟩
  cases step <;> simp_all

/-- Two messages stashed while `push` drains, the second one's write failing, then `Shutdown`. -/
theorem store_pushes_each_stash_once_in_order_run :
    StoreReachable (⟨[], true, .done, .closed, [1, 2], [(1, true), (2, false)]⟩ : StoreState Nat) ∧
      [(1, true), (2, false)].map Prod.fst = [1, 2] ∧
      ∀ s', ¬StoreStep (⟨[], true, .done, .closed, [1, 2], [(1, true), (2, false)]⟩ : StoreState Nat) s' :=
  have run : StoreReachable (⟨[], true, .done, .closed, [1, 2], [(1, true), (2, false)]⟩ : StoreState Nat) :=
    .tail (.tail (.tail (.tail (.tail (.tail (.tail (.tail (.tail (.tail (.tail (.tail (.tail
      (.tail .refl (.stash _ 1 rfl)) (.waitTrue _ rfl (by simp))) (.pushGet _ rfl))
      (.stash _ 2 rfl)) (.pushWrite _ 1 [] rfl true)) (.shutdownStart _ rfl))
      (.pushBatchEnd _ rfl)) (.pushGet _ rfl)) (.pushWrite _ 2 [] rfl false))
      (.pushBatchEnd _ rfl)) (.pushGet _ rfl)) (.waitFalse _ rfl rfl)) (.shutdownJoin _ rfl rfl))
      (.shutdownGet _ rfl)
  ⟨run, store_pushes_each_stash_once_in_order run rfl⟩

end Skewer.Store
