import Skewer.Go.Bytes
import Skewer.Go.HashMap

/-!
# The acknowledgement forwarder

`ackForwarder` keeps, for each live RELP connection, a queue of the txnrs
that succeeded, a queue of those that failed, and the map `comm` of the txnrs
received and not yet answered. Its three outer maps hold pointers to these;
each method looks the connection up and acts on what the pointers reach.
-/

namespace Skewer.Relp

open Skewer.Go

/--
Modelled from the spec: `queue.IntQueue`, whose package is not among the
sources, is a FIFO of txnrs. `Dispose` only wakes a `WaitOne` blocked on it,
and every disposed queue is unlinked from the forwarder in the same call, so
a queue is the list of its items.
-/
abbrev IntQueue := List Int

/-- A connection's `comm`; `int(uintptr(txnr))` is `txnr`, so keys are txnrs. -/
abbrev CommMap := HashMap Int Bool

structure AckForwarder where
  succ : HashMap Nat (Option IntQueue)
  fail : HashMap Nat (Option IntQueue)
  comm : HashMap Nat (Option CommMap)
  next : Nat
  deriving DecidableEq, Repr

def newAckForwarder : AckForwarder := ⟨[], [], [], 0⟩

/-- One round of `NextToCommit`'s loop over the entries of a `comm` map. -/
def minStep (minimum : Int) (entry : Int × Bool) : Int :=
  if entry.2 then
    if minimum = -1 then entry.1 else if entry.1 < minimum then entry.1 else minimum
  else minimum

/-- `NextToCommit` once the connection's map `h` is found. -/
def nextToCommitIn (h : CommMap) : Int :=
  if h.length = 0 then -1 else h.foldl minStep (-1)

/-- Whatever order the entries come in, the loop returns its start value or a key set to true. -/
theorem foldl_minStep_mem (m : CommMap) (a : Int) :
    m.foldl minStep a = a ∨ (m.foldl minStep a, true) ∈ m := by
  induction m generalizing a with
  | nil => simp
  | cons entry rest ih =>
      rcases ih (minStep a entry) with same | mem
      · rw [List.foldl_cons, same]
        obtain ⟨key, value⟩ := entry
        unfold minStep
        split_ifs <;> simp_all
      · exact .inr (List.mem_cons_of_mem _ mem)

theorem nextToCommitIn_mem {m : CommMap} (found : nextToCommitIn m ≠ -1) :
    (nextToCommitIn m, true) ∈ m := by
  unfold nextToCommitIn at found ⊢
  split_ifs at found ⊢
  · exact absurd rfl found
  · exact (foldl_minStep_mem m (-1)).resolve_left found

/-- A non-negative true key below every other true key is what the loop returns. -/
theorem foldl_minStep_least {k : Int} (nonneg : 0 ≤ k) (m : CommMap)
    (least : ∀ e ∈ m, e.2 = true → k ≤ e.1) (a : Int)
    (start : a = k ∨ ((a = -1 ∨ k ≤ a) ∧ (k, true) ∈ m)) : m.foldl minStep a = k := by
  induction m generalizing a with
  | nil => simpa using start
  | cons entry rest ih =>
      have rest_least := fun e mem => least e (List.mem_cons_of_mem _ mem)
      have entry_least := least entry (List.mem_cons_self _ _)
      refine ih rest_least _ ?_
      rcases start with rfl | ⟨below, mem⟩
      · left
        by_cases isTrue : entry.2
        · have := entry_least isTrue
          simp only [minStep, isTrue, if_true]
          split_ifs <;> omega
        · simp [minStep, isTrue]
      · rcases List.mem_cons.1 mem with rfl | mem
        · left
          simp only [minStep, if_true]
          split_ifs <;> omega
        · right
          refine ⟨?_, mem⟩
          unfold minStep
          split_ifs <;> simp_all

theorem nextToCommitIn_least {m : CommMap} {k : Int} (mem : (k, true) ∈ m) (nonneg : 0 ≤ k)
    (least : ∀ e ∈ m, e.2 = true → k ≤ e.1) : nextToCommitIn m = k := by
  have : m.length ≠ 0 := List.length_pos_of_mem mem |>.ne'
  simpa [nextToCommitIn, this] using
    foldl_minStep_least nonneg m least (-1) (.inr ⟨.inl rfl, mem⟩)

namespace AckForwarder

def received (f : AckForwarder) (connID : Nat) (txnr : Int) : AckForwarder :=
  match f.comm.get? connID with
  | some (some h) => { f with comm := f.comm.set connID (some (h.set txnr true)) }
  | _ => f

def committed (f : AckForwarder) (connID : Nat) (txnr : Int) : AckForwarder :=
  match f.comm.get? connID with
  | some (some h) =>
      { f with comm := f.comm.set connID (some ((h.set txnr false).del txnr)) }
  | _ => f

def nextToCommit (f : AckForwarder) (connID : Nat) : Int :=
  match f.comm.get? connID with
  | some (some h) => nextToCommitIn h
  | _ => -1

def forwardSucc (f : AckForwarder) (connID : Nat) (txnr : Int) : AckForwarder :=
  match f.succ.get? connID with
  | some (some q) => { f with succ := f.succ.set connID (some (q ++ [txnr])) }
  | _ => f

def forwardFail (f : AckForwarder) (connID : Nat) (txnr : Int) : AckForwarder :=
  match f.fail.get? connID with
  | some (some q) => { f with fail := f.fail.set connID (some (q ++ [txnr])) }
  | _ => f

/-- `AddConn`: the counter is a `uintptr`, advanced by `atomic.AddUintptr`. -/
def addConn (f : AckForwarder) : Nat × AckForwarder :=
  let connID := (f.next + 1) % (maxUint64 + 1)
  (connID,
    { succ := f.succ.set connID (some []), fail := f.fail.set connID (some [])
      comm := f.comm.set connID (some []), next := connID })

/-- `RemoveConn`; its third branch sets `fail`, not `comm`, to nil. -/
def removeConn (f : AckForwarder) (connID : Nat) : AckForwarder :=
  let f := match f.succ.get? connID with
    | some (some _) => { f with succ := (f.succ.set connID none).del connID }
    | _ => f
  let f := match f.fail.get? connID with
    | some (some _) => { f with fail := (f.fail.set connID none).del connID }
    | _ => f
  match f.comm.get? connID with
  | some (some _) => { f with fail := f.fail.set connID none, comm := f.comm.del connID }
  | _ => f

/-- `RemoveAll`: `RemoveConn` on every key of `succ`, then on every key of `fail`. -/
def removeAll (f : AckForwarder) : AckForwarder :=
  let f := f.succ.keys.foldl removeConn f
  f.fail.keys.foldl removeConn f

/-- `GetSucc`: the oldest success, or `-1` when there is none. -/
def getSucc (f : AckForwarder) (connID : Nat) : Int × AckForwarder :=
  match f.succ.get? connID with
  | some (some (txnr :: rest)) => (txnr, { f with succ := f.succ.set connID (some rest) })
  | _ => (-1, f)

def getFail (f : AckForwarder) (connID : Nat) : Int × AckForwarder :=
  match f.fail.get? connID with
  | some (some (txnr :: rest)) => (txnr, { f with fail := f.fail.set connID (some rest) })
  | _ => (-1, f)

/-- `Wait`: `some false` for a removed connection, `none` while `WaitOne` blocks. -/
def wait (f : AckForwarder) (connID : Nat) : Option Bool :=
  match f.succ.get? connID, f.fail.get? connID with
  | some (some s), some (some l) => if s = [] ∧ l = [] then none else some true
  | _, _ => some false

end AckForwarder

/-! ## One connection -/

/-- A live connection's two queues and its `comm` map. -/
structure ConnState where
  succ : IntQueue
  fail : IntQueue
  comm : CommMap
  deriving DecidableEq, Repr

namespace ConnState

def received (c : ConnState) (txnr : Int) : ConnState := { c with comm := c.comm.set txnr true }

def committed (c : ConnState) (txnr : Int) : ConnState :=
  { c with comm := (c.comm.set txnr false).del txnr }

def nextToCommit (c : ConnState) : Int := nextToCommitIn c.comm

def forwardSucc (c : ConnState) (txnr : Int) : ConnState := { c with succ := c.succ ++ [txnr] }

def forwardFail (c : ConnState) (txnr : Int) : ConnState := { c with fail := c.fail ++ [txnr] }

def getSucc (c : ConnState) : Int × ConnState :=
  match c.succ with
  | txnr :: rest => (txnr, { c with succ := rest })
  | [] => (-1, c)

def getFail (c : ConnState) : Int × ConnState :=
  match c.fail with
  | txnr :: rest => (txnr, { c with fail := rest })
  | [] => (-1, c)

/-- Whether `Wait` returns rather than blocks. -/
def ready (c : ConnState) : Bool := !(c.succ.isEmpty && c.fail.isEmpty)

end ConnState

namespace AckForwarder

/-- The entries of a live connection, found through all three outer maps. -/
def entries (f : AckForwarder) (connID : Nat) : Option ConnState :=
  match f.succ.get? connID, f.fail.get? connID, f.comm.get? connID with
  | some (some succ), some (some fail), some (some comm) => some ⟨succ, fail, comm⟩
  | _, _, _ => none

variable {f : AckForwarder} {connID : Nat} {c : ConnState}

theorem entries_eq_some :
    f.entries connID = some c ↔
      f.succ.get? connID = some (some c.succ) ∧ f.fail.get? connID = some (some c.fail) ∧
        f.comm.get? connID = some (some c.comm) := by
  unfold entries
  split
  · rename_i hs hf hc
    rw [hs, hf, hc]; cases c; simp [eq_comm]
  · rename_i none_found
    constructor
    · intro h; cases h
    · rintro ⟨hs, hf, hc⟩; exact absurd hc (none_found _ _ _ hs hf)

section Live

variable (live : f.entries connID = some c)
include live

theorem entries_received (txnr : Int) :
    (f.received connID txnr).entries connID = some (c.received txnr) := by
  obtain ⟨hs, hf, hc⟩ := entries_eq_some.1 live
  simp [entries_eq_some, received, ConnState.received, hs, hf, hc]

theorem entries_committed (txnr : Int) :
    (f.committed connID txnr).entries connID = some (c.committed txnr) := by
  obtain ⟨hs, hf, hc⟩ := entries_eq_some.1 live
  simp [entries_eq_some, committed, ConnState.committed, hs, hf, hc]

theorem nextToCommit_eq : f.nextToCommit connID = c.nextToCommit := by
  obtain ⟨-, -, hc⟩ := entries_eq_some.1 live
  simp [nextToCommit, ConnState.nextToCommit, hc]

theorem entries_forwardSucc (txnr : Int) :
    (f.forwardSucc connID txnr).entries connID = some (c.forwardSucc txnr) := by
  obtain ⟨hs, hf, hc⟩ := entries_eq_some.1 live
  simp [entries_eq_some, forwardSucc, ConnState.forwardSucc, hs, hf, hc]

theorem entries_forwardFail (txnr : Int) :
    (f.forwardFail connID txnr).entries connID = some (c.forwardFail txnr) := by
  obtain ⟨hs, hf, hc⟩ := entries_eq_some.1 live
  simp [entries_eq_some, forwardFail, ConnState.forwardFail, hs, hf, hc]

theorem getSucc_eq :
    (f.getSucc connID).1 = c.getSucc.1 ∧
      (f.getSucc connID).2.entries connID = some c.getSucc.2 := by
  obtain ⟨hs, hf, hc⟩ := entries_eq_some.1 live
  cases hq : c.succ <;> simp [entries_eq_some, getSucc, ConnState.getSucc, hs, hf, hc, hq]

theorem getFail_eq :
    (f.getFail connID).1 = c.getFail.1 ∧
      (f.getFail connID).2.entries connID = some c.getFail.2 := by
  obtain ⟨hs, hf, hc⟩ := entries_eq_some.1 live
  cases hq : c.fail <;> simp [entries_eq_some, getFail, ConnState.getFail, hs, hf, hc, hq]

theorem wait_eq : f.wait connID = if c.ready then some true else none := by
  obtain ⟨hs, hf, -⟩ := entries_eq_some.1 live
  simp only [wait, hs, hf, ConnState.ready]
  by_cases hsucc : c.succ = [] <;> by_cases hfail : c.fail = [] <;> simp [hsucc, hfail]

/-- `RemoveConn`'s last branch puts back a nil `fail` entry for the connection it removes. -/
theorem removeConn_fail_nil : (f.removeConn connID).fail.get? connID = some none := by
  obtain ⟨hs, hf, hc⟩ := entries_eq_some.1 live
  simp [removeConn, hs, hf, hc]

end Live

/--
`AddConn` then `RemoveConn` from a new forwarder: the connection's `fail`
entry is back as nil, and `RemoveAll`, which skips nil entries, keeps it.
-/
theorem removed_connection_stays_in_fail :
    newAckForwarder.addConn.1 = 1 ∧
      (newAckForwarder.addConn.2.removeConn 1).fail = [(1, none)] ∧
      (newAckForwarder.addConn.2.removeConn 1).removeAll.fail = [(1, none)] := by
  decide

end AckForwarder

/-! ## One connection among many -/

/-- A call made on the forwarder for one connection: by its reader, its cooker or a worker. -/
inductive Call where
  | received (txnr : Int)
  | committed (txnr : Int)
  | forwardSucc (txnr : Int)
  | forwardFail (txnr : Int)
  | getSucc
  | getFail
  deriving DecidableEq, Repr

/-- A call on the shared forwarder: a connection's call, or `RemoveConn`. -/
inductive Event where
  | call (connID : Nat) (op : Call)
  | removeConn (connID : Nat)
  deriving DecidableEq, Repr

/-- The calls an event makes for connection `connID`. -/
def Event.callsOn (connID : Nat) : Event → List Call
  | .call id op => if id = connID then [op] else []
  | .removeConn _ => []

def ConnState.call (c : ConnState) : Call → ConnState
  | .received txnr => c.received txnr
  | .committed txnr => c.committed txnr
  | .forwardSucc txnr => c.forwardSucc txnr
  | .forwardFail txnr => c.forwardFail txnr
  | .getSucc => c.getSucc.2
  | .getFail => c.getFail.2

namespace AckForwarder

def call (f : AckForwarder) (connID : Nat) : Call → AckForwarder
  | .received txnr => f.received connID txnr
  | .committed txnr => f.committed connID txnr
  | .forwardSucc txnr => f.forwardSucc connID txnr
  | .forwardFail txnr => f.forwardFail connID txnr
  | .getSucc => (f.getSucc connID).2
  | .getFail => (f.getFail connID).2

def event (f : AckForwarder) : Event → AckForwarder
  | .call connID op => f.call connID op
  | .removeConn connID => f.removeConn connID

variable {f : AckForwarder} {connID other : Nat} {c : ConnState}

/-- On a live connection each call acts as the same call on its entries. -/
theorem entries_call (live : f.entries connID = some c) (op : Call) :
    (f.call connID op).entries connID = some (c.call op) := by
  cases op with
  | received txnr => exact entries_received live txnr
  | committed txnr => exact entries_committed live txnr
  | forwardSucc txnr => exact entries_forwardSucc live txnr
  | forwardFail txnr => exact entries_forwardFail live txnr
  | getSucc => exact (getSucc_eq live).2
  | getFail => exact (getFail_eq live).2

/-- A connection's entries are read from its keys only. -/
theorem entries_congr {g : AckForwarder} (hs : g.succ.get? other = f.succ.get? other)
    (hf : g.fail.get? other = f.fail.get? other) (hc : g.comm.get? other = f.comm.get? other) :
    g.entries other = f.entries other := by
  simp only [entries, hs, hf, hc]

/-- A call for one connection leaves the entries of every other connection as they were. -/
theorem entries_call_other (ne : other ≠ connID) (op : Call) :
    (f.call connID op).entries other = f.entries other := by
  apply entries_congr <;> cases op <;>
    simp only [AckForwarder.call, received, committed, forwardSucc, forwardFail, getSucc,
      getFail] <;>
    split <;> simp [ne]

theorem entries_removeConn_other (ne : other ≠ connID) :
    (f.removeConn connID).entries other = f.entries other := by
  apply entries_congr <;> unfold removeConn <;> dsimp only <;> split <;> split <;> split <;>
    simp [ne]

end AckForwarder

/--
Whatever the other connections do, removals of other connections included, a
live connection's entries in the shared forwarder evolve as its own calls
make them evolve on a `ConnState` alone.
-/
theorem connection_runs_in_isolation {f : AckForwarder} {connID : Nat} {c : ConnState}
    (live : f.entries connID = some c) (events : List Event)
    (kept : Event.removeConn connID ∉ events) :
    (events.foldl AckForwarder.event f).entries connID =
      some ((events.flatMap (Event.callsOn connID)).foldl ConnState.call c) := by
  induction events generalizing f c with
  | nil => exact live
  | cons e rest ih =>
      have kept' : Event.removeConn connID ∉ rest := fun mem => kept (List.mem_cons_of_mem _ mem)
      cases e with
      | call id op =>
          by_cases same : id = connID
          · subst same
            simpa [Event.callsOn] using ih (AckForwarder.entries_call live op) kept'
          · simpa [Event.callsOn, same] using
              ih ((AckForwarder.entries_call_other (Ne.symm same) op).trans live) kept'
      | removeConn id =>
          have ne : connID ≠ id := fun same => kept (same ▸ List.mem_cons_self _ _)
          simpa [Event.callsOn] using
            ih ((AckForwarder.entries_removeConn_other ne).trans live) kept'

/-- Two connections interleaved, the second one removed: the first sees only its own calls. -/
def twoConnections : AckForwarder := newAckForwarder.addConn.2.addConn.2

def twoConnectionsRun : List Event :=
  [.call 1 (.received 3), .call 2 (.received 5), .call 2 (.forwardSucc 5), .removeConn 2,
    .call 1 (.forwardFail 3), .call 1 .getFail]

theorem connection_runs_in_isolation_two :
    twoConnections.entries 1 = some ⟨[], [], []⟩ ∧ Event.removeConn 1 ∉ twoConnectionsRun ∧
      (twoConnectionsRun.foldl AckForwarder.event twoConnections).entries 1 =
        some ((twoConnectionsRun.flatMap (Event.callsOn 1)).foldl ConnState.call ⟨[], [], []⟩) :=
  have live : twoConnections.entries 1 = some ⟨[], [], []⟩ := by decide
  have kept : Event.removeConn 1 ∉ twoConnectionsRun := by decide
  ⟨live, kept, connection_runs_in_isolation live twoConnectionsRun kept⟩

end Skewer.Relp
