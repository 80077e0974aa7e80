import Mathlib.Data.List.Nodup
import Mathlib.Logic.Relation

/-!
# The raw buffers of the RELP service

`HandleConnection` takes a `RawTcpMessage` from `s.Pool` for each syslog frame
with data, fills it and puts it on the raw ring. Each `Parse` worker takes the
buffers off the ring one by one and puts each back into `s.Pool` on every path
of its loop; on a format with no parser it does so and returns. Buffers are
named by the order in which `New` made them. The `Parse` workers are
identical goroutines, so they are counted by where they stand. A `Put` on a
full ring waits; that only removes runs, so every property below holds of the
runs of a ring of any capacity.
-/

namespace Skewer.Relp

structure RawBuffers where
  /-- The buffers in `s.Pool`. -/
  pool : List Nat
  /-- How many buffers `New` has made. -/
  made : Nat
  /-- The raw ring, each buffer with whether its format has a parser. -/
  ring : List (Nat × Bool)
  disposed : Bool
  /-- The workers at `s.rawMessagesQueue.Get()`. -/
  idle : Nat
  /-- The buffers the other live workers hold, between their `Get` and their `Put`. -/
  parsing : List (Nat × Bool)
  /-- The workers that have returned. -/
  exited : Nat
  deriving DecidableEq, Repr

namespace RawBuffers

/-- The service after `Start`, with `cpus` workers started. -/
def initial (cpus : Nat) : RawBuffers := ⟨[], 0, [], false, cpus, [], 0⟩

/--
`s.Pool.Get()`: a buffer from the pool, or a new one, whichever `sync.Pool`
gives; the new one is numbered `s.made`.
-/
def get (s : RawBuffers) : Option Nat → RawBuffers × Nat
  | some b => ({ s with pool := s.pool.erase b }, b)
  | none => ({ s with made := s.made + 1 }, s.made)

/-- Every buffer the service holds, in the pool, on the ring or in a worker's hands. -/
def held (s : RawBuffers) : List Nat := s.pool ++ s.ring.map Prod.fst ++ s.parsing.map Prod.fst

end RawBuffers

/-- The steps of the readers, the workers and `Stop`. -/
inductive RawStep : RawBuffers → RawBuffers → Prop
  /--
  A reader takes a buffer for a frame whose format has a parser or not, and
  puts it on the ring; on a disposed ring the `Put` fails and the buffer is
  dropped.
  -/
  | frame (s : RawBuffers) (pooled : Option Nat) (valid : ∀ b ∈ pooled, b ∈ s.pool)
      (known : Bool) :
      RawStep s (if s.disposed then (s.get pooled).1
        else { (s.get pooled).1 with ring := s.ring ++ [((s.get pooled).2, known)] })
  /-- A worker's `Get` returns the oldest buffer of the ring. -/
  | take (s : RawBuffers) (b : Nat) (known : Bool) (rest : List (Nat × Bool))
      (waiting : 0 < s.idle) (oldest : s.ring = (b, known) :: rest) :
      RawStep s { s with idle := s.idle - 1, ring := rest, parsing := (b, known) :: s.parsing }
  /-- A worker's `Get` on the disposed, empty ring returns nil: the loop breaks. -/
  | drained (s : RawBuffers) (waiting : 0 < s.idle) (empty : s.ring = [])
      (disposed : s.disposed = true) :
      RawStep s { s with idle := s.idle - 1, exited := s.exited + 1 }
  /--
  A worker's `s.Pool.Put(raw)`: after a parse error, an empty message or a
  parsed one it goes back to `Get`; on a format with no parser it returns.
  -/
  | release (s : RawBuffers) (b : Nat) (known : Bool) (others others' : List (Nat × Bool))
      (holding : s.parsing = others ++ (b, known) :: others') :
      RawStep s { s with pool := s.pool ++ [b], parsing := others ++ others'
                         idle := if known then s.idle + 1 else s.idle
                         exited := if known then s.exited else s.exited + 1 }
  /-- `doStop` disposes of the ring. -/
  | dispose (s : RawBuffers) : RawStep s { s with disposed := true }

def RawReachable (cpus : Nat) (s : RawBuffers) : Prop :=
  Relation.ReflTransGen RawStep (RawBuffers.initial cpus) s

/-! ## No buffer in two places -/

/-- Every buffer is in one place at a time, and was made by `New`. -/
structure RawInv (s : RawBuffers) : Prop where
  nodup : s.held.Nodup
  made : ∀ b ∈ s.held, b < s.made

namespace RawInv

variable {s s' : RawBuffers}

theorem of_perm (inv : RawInv s) (perm : s'.held.Perm s.held) (made : s.made ≤ s'.made) :
    RawInv s' :=
  ⟨perm.nodup_iff.2 inv.nodup, fun b mem => by have := inv.made b (perm.subset mem); omega⟩

theorem of_sublist (inv : RawInv s) (sub : s'.held.Sublist s.held) (made : s.made ≤ s'.made) :
    RawInv s' :=
  ⟨sub.nodup inv.nodup, fun b mem => by have := inv.made b (sub.subset mem); omega⟩

/-- A new buffer joins the others. -/
theorem of_new (inv : RawInv s) (perm : s'.held.Perm (s.made :: s.held))
    (made : s'.made = s.made + 1) : RawInv s' where
  nodup := perm.nodup_iff.2 (List.nodup_cons.2 ⟨fun mem => by simpa using inv.made _ mem, inv.nodup⟩)
  made b mem := by
    rcases List.mem_cons.1 (perm.subset mem) with rfl | mem
    · omega
    · have := inv.made b mem; omega

theorem step (inv : RawInv s) (step : RawStep s s') : RawInv s' := by
  cases step with
  | frame pooled valid known =>
      cases pooled with
      | none =>
          cases s.disposed
          · refine inv.of_new ?_ rfl
            simpa [RawBuffers.get, RawBuffers.held] using
              (List.perm_middle.append_left s.pool).trans List.perm_middle
          · exact inv.of_perm (by simp [RawBuffers.get, RawBuffers.held]) (by simp [RawBuffers.get])
      | some b =>
          have moved := List.perm_cons_erase (valid b rfl)
          cases s.disposed
          · refine inv.of_perm ?_ le_rfl
            simpa [RawBuffers.get, RawBuffers.held] using
              ((List.perm_middle.append_left _).trans List.perm_middle).trans
                (moved.symm.append_right _)
          · refine inv.of_sublist ?_ le_rfl
            simpa [RawBuffers.get, RawBuffers.held] using List.erase_sublist b s.pool
  | take b known rest waiting oldest =>
      exact inv.of_perm (by simpa [RawBuffers.held, oldest] using
        List.perm_middle.append_left s.pool) le_rfl
  | drained => exact ⟨inv.1, inv.2⟩
  | release b known others others' holding =>
      refine inv.of_perm ?_ le_rfl
      simpa [RawBuffers.held, holding] using
        (List.perm_middle.symm.trans (List.perm_middle.symm.append_left _)).append_left s.pool
  | dispose => exact ⟨inv.1, inv.2⟩

/-- A buffer on the ring is not in the pool. -/
theorem not_pooled {b : Nat} {known : Bool} (inv : RawInv s) (queued : (b, known) ∈ s.ring) :
    b ∉ s.pool := fun pooled =>
  List.disjoint_of_nodup_append (List.nodup_append.1 inv.nodup).1 pooled
    (List.mem_map_of_mem Prod.fst queued)

end RawInv

theorem rawInv_initial (cpus : Nat) : RawInv (RawBuffers.initial cpus) :=
  ⟨List.nodup_nil, by simp [RawBuffers.held, RawBuffers.initial]⟩

theorem RawReachable.inv {cpus : Nat} {s : RawBuffers} (reach : RawReachable cpus s) : RawInv s := by
  induction reach with
  | refl => exact rawInv_initial cpus
  | tail _ step ih => exact ih.step step

/-- With no worker left to take from the ring, what is on it stays there. -/
theorem stranded_step {s s' : RawBuffers} {entry : Nat × Bool}
    (stuck : s.idle = 0 ∧ s.parsing = [] ∧ entry ∈ s.ring) (step : RawStep s s') :
    s'.idle = 0 ∧ s'.parsing = [] ∧ entry ∈ s'.ring := by
  obtain ⟨idle, parsing, queued⟩ := stuck
  cases step with
  | frame pooled valid known =>
      cases s.disposed <;> cases pooled <;> simp [RawBuffers.get, idle, parsing, queued]
  | take _ _ _ waiting => omega
  | drained waiting => omega
  | release _ _ others others' holding => simp [parsing] at holding
  | dispose => exact ⟨idle, parsing, queued⟩

/--
One worker, and a listener whose format has no parser: the worker puts the
first frame's buffer back and returns, and the second frame's buffer, on the
ring, is never taken off it, so it never goes back to the pool, through
`Stop` and whatever follows.
-/
theorem buffer_left_on_ring_after_unknown_format :
    ∃ s, RawReachable 1 s ∧ s.disposed = true ∧ s.idle = 0 ∧ s.parsing = [] ∧
      ∀ s', Relation.ReflTransGen RawStep s s' → (0, false) ∈ s'.ring ∧ 0 ∉ s'.pool := by
  have run : RawReachable 1 ⟨[], 1, [(0, false)], true, 0, [], 1⟩ :=
    .tail (.tail (.tail (.tail (.tail .refl (.frame _ none (by simp) false))
      (.take _ 0 false [] (by decide) rfl)) (.release _ 0 false [] [] rfl))
      (.frame _ (some 0) (by simp) false)) (.dispose _)
  refine ⟨_, run, rfl, rfl, rfl, fun s' later => ?_⟩
  have stuck : s'.idle = 0 ∧ s'.parsing = [] ∧ (0, false) ∈ s'.ring := by
    induction later with
    | refl => exact ⟨rfl, rfl, by simp⟩
    | tail _ step ih => exact stranded_step ih step
  exact ⟨stuck.2.2, (RawReachable.inv (run.trans later)).not_pooled stuck.2.2⟩

end Skewer.Relp
