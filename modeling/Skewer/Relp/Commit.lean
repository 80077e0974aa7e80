import Skewer.Relp.AckForwarder

/-!
# The txnrs awaiting a commit

A connection's `comm` map is written by `Received`, which sets the txnr to
true, and by `Committed`, which sets it to false and then deletes it; the
cooker asks `NextToCommit` for the least key set to true. What the map stands
for is the set of txnrs received and not committed since, `awaitsCommit`
below, which follows the spec and not the code.
-/

namespace Skewer.Relp

open Skewer.Go

/-- Whether `t` awaits a commit after `call`, given whether it did before. -/
def Call.awaits (t : Int) (waits : Bool) : Call → Bool
  | .received u => waits || u == t
  | .committed u => waits && u != t
  | _ => waits

/-- Spec side: whether `t` was received and not committed since, after `calls`. -/
def awaitsCommit (calls : List Call) (t : Int) : Bool :=
  calls.foldl (fun waits call => call.awaits t waits) false

@[simp]
theorem awaitsCommit_nil (t : Int) : awaitsCommit [] t = false := rfl

@[simp]
theorem awaitsCommit_concat (calls : List Call) (call : Call) (t : Int) :
    awaitsCommit (calls ++ [call]) t = call.awaits t (awaitsCommit calls t) := by
  simp [awaitsCommit]

/-- A txnr awaits a commit only if it was received. -/
theorem received_of_awaitsCommit {calls : List Call} {t : Int} (waits : awaitsCommit calls t = true) :
    Call.received t ∈ calls := by
  induction calls using List.reverseRecOn with
  | nil => simp at waits
  | append_singleton calls call ih =>
      rw [awaitsCommit_concat] at waits
      cases call with
      | received u =>
          simp only [Call.awaits, Bool.or_eq_true, beq_iff_eq] at waits
          rcases waits with waits | rfl
          · exact List.mem_append_left _ (ih waits)
          · exact List.mem_append_right _ (List.mem_singleton_self _)
      | committed u =>
          simp only [Call.awaits, Bool.and_eq_true] at waits
          exact List.mem_append_left _ (ih waits.1)
      | _ => exact List.mem_append_left _ (ih waits)

/-- The map holds, set to true, exactly the txnrs that await a commit. -/
structure Tracks (calls : List Call) (comm : CommMap) : Prop where
  marked : ∀ e ∈ comm, e.2 = true ∧ awaitsCommit calls e.1 = true
  complete : ∀ t, awaitsCommit calls t = true → (t, true) ∈ comm

theorem ConnState.getSucc_comm (c : ConnState) : c.getSucc.2.comm = c.comm := by
  unfold ConnState.getSucc; split <;> rfl

theorem ConnState.getFail_comm (c : ConnState) : c.getFail.2.comm = c.comm := by
  unfold ConnState.getFail; split <;> rfl

/-- A non-empty map has an entry whose key is least. -/
theorem exists_least_entry : ∀ m : CommMap, m ≠ [] → ∃ e ∈ m, ∀ e' ∈ m, e.1 ≤ e'.1
  | [], ne => absurd rfl ne
  | [e], _ => ⟨e, by simp, by simp⟩
  | e :: e₂ :: rest, _ => by
      obtain ⟨least, mem, le⟩ := exists_least_entry (e₂ :: rest) (List.cons_ne_nil _ _)
      by_cases below : e.1 ≤ least.1
      · refine ⟨e, List.mem_cons_self _ _, fun e' mem' => ?_⟩
        rcases List.mem_cons.1 mem' with same | mem'
        · exact same ▸ Int.le_refl _
        · exact Int.le_trans below (le e' mem')
      · refine ⟨least, List.mem_cons_of_mem _ mem, fun e' mem' => ?_⟩
        rcases List.mem_cons.1 mem' with same | mem'
        · rw [same]; omega
        · exact le e' mem'

namespace Tracks

variable {calls : List Call} {comm : CommMap}

theorem nil : Tracks [] [] := ⟨by simp, by simp⟩

theorem received (tracks : Tracks calls comm) (u : Int) :
    Tracks (calls ++ [.received u]) (comm.set u true) where
  marked e mem := by
    rcases HashMap.mem_set mem with rfl | mem
    · simp [Call.awaits]
    · obtain ⟨set_, waits⟩ := tracks.marked e mem
      simp [Call.awaits, set_, waits]
  complete t waits := by
    simp only [awaitsCommit_concat, Call.awaits, Bool.or_eq_true, beq_iff_eq] at waits
    by_cases same : u = t
    · exact same ▸ HashMap.mem_set_self _ _ _
    · exact HashMap.mem_set_of_ne _ (tracks.complete t (waits.resolve_right same)) (Ne.symm same)

theorem committed (tracks : Tracks calls comm) (u : Int) :
    Tracks (calls ++ [.committed u]) ((comm.set u false).del u) where
  marked e mem := by
    rw [HashMap.del_set, HashMap.mem_del] at mem
    obtain ⟨set_, waits⟩ := tracks.marked e mem.1
    simp [Call.awaits, set_, waits, Ne.symm mem.2]
  complete t waits := by
    simp only [awaitsCommit_concat, Call.awaits, Bool.and_eq_true, bne_iff_ne, ne_eq] at waits
    rw [HashMap.del_set, HashMap.mem_del]
    exact ⟨tracks.complete t waits.1, Ne.symm waits.2⟩

/-- A call that does not touch `comm`. -/
theorem other (tracks : Tracks calls comm) (op : Call) (keeps : ∀ t waits, op.awaits t waits = waits) :
    Tracks (calls ++ [op]) comm :=
  ⟨fun e mem => by simpa [keeps] using tracks.marked e mem,
    fun t waits => tracks.complete t (by simpa [keeps] using waits)⟩

theorem call {c : ConnState} (tracks : Tracks calls c.comm) (op : Call) :
    Tracks (calls ++ [op]) (c.call op).comm := by
  cases op with
  | received u => exact tracks.received u
  | committed u => exact tracks.committed u
  | forwardSucc u => exact tracks.other _ fun _ _ => rfl
  | forwardFail u => exact tracks.other _ fun _ _ => rfl
  | getSucc =>
      simpa [ConnState.call, ConnState.getSucc_comm] using tracks.other .getSucc fun _ _ => rfl
  | getFail =>
      simpa [ConnState.call, ConnState.getFail_comm] using tracks.other .getFail fun _ _ => rfl

theorem run {c : ConnState} (tracks : Tracks calls c.comm) (more : List Call) :
    Tracks (calls ++ more) (more.foldl ConnState.call c).comm := by
  induction more generalizing calls c with
  | nil => simpa using tracks
  | cons op rest ih => simpa using ih (tracks.call op)

/-- With non-negative txnrs, `NextToCommit` is the least txnr awaiting a commit, or `-1`. -/
theorem nextToCommit_least (tracks : Tracks calls comm)
    (nonneg : ∀ t, awaitsCommit calls t = true → 0 ≤ t) :
    (nextToCommitIn comm = -1 ∧ ∀ t, awaitsCommit calls t = false) ∨
      (awaitsCommit calls (nextToCommitIn comm) = true ∧
        ∀ t, awaitsCommit calls t = true → nextToCommitIn comm ≤ t) := by
  by_cases empty : comm = []
  · subst empty
    exact .inl ⟨rfl, fun t => Bool.eq_false_iff.2 fun waits => by simpa using tracks.complete t waits⟩
  · obtain ⟨e, mem, le⟩ := exists_least_entry comm empty
    obtain ⟨set_, waits⟩ := tracks.marked e mem
    have found : nextToCommitIn comm = e.1 :=
      nextToCommitIn_least (set_ ▸ mem) (nonneg _ waits) fun e' mem' _ => le e' mem'
    exact .inr ⟨found ▸ waits, fun t waits' => found ▸ le _ (tracks.complete t waits')⟩

end Tracks

/-- The calls made for connection `connID`, one after another. -/
def AckForwarder.callAll (f : AckForwarder) (connID : Nat) (calls : List Call) : AckForwarder :=
  calls.foldl (fun f op => f.call connID op) f

theorem AckForwarder.entries_callAll {f : AckForwarder} {connID : Nat} {c : ConnState}
    (live : f.entries connID = some c) (calls : List Call) :
    (f.callAll connID calls).entries connID = some (calls.foldl ConnState.call c) := by
  induction calls generalizing f c with
  | nil => exact live
  | cons op rest ih => exact ih (AckForwarder.entries_call live op)

/-- `Committed` deletes its key from the map and leaves every other key as it was. -/
theorem ConnState.get?_committed (c : ConnState) (t k : Int) :
    (c.committed t).comm.get? k = if k = t then none else c.comm.get? k := by
  by_cases same : k = t
  · simp [ConnState.committed, same]
  · simp [ConnState.committed, same, HashMap.get?_del_other, HashMap.get?_set_other]

/--
On a connection from its `AddConn`, whatever calls it gets, with txnrs `≥ 0`
in `Received`: `NextToCommit` returns the least txnr received and not
committed since, or `-1` when there is none; the connection is still live,
and `Committed(c, t)` removes the key `t` and no other.
-/
theorem nextToCommit_least_awaiting {f : AckForwarder} {connID : Nat} {c : ConnState}
    (live : f.entries connID = some c) (fresh : c.comm = []) (calls : List Call)
    (nonneg : ∀ t, Call.received t ∈ calls → 0 ≤ t) :
    (((f.callAll connID calls).nextToCommit connID = -1 ∧ ∀ t, awaitsCommit calls t = false) ∨
      (awaitsCommit calls ((f.callAll connID calls).nextToCommit connID) = true ∧
        ∀ t, awaitsCommit calls t = true → (f.callAll connID calls).nextToCommit connID ≤ t)) ∧
      ∃ d, (f.callAll connID calls).entries connID = some d ∧
        ∀ t, ∃ d', ((f.callAll connID calls).committed connID t).entries connID = some d' ∧
          ∀ k, d'.comm.get? k = if k = t then none else d.comm.get? k := by
  have after := AckForwarder.entries_callAll live calls
  have tracks : Tracks calls (calls.foldl ConnState.call c).comm := by
    simpa using (fresh ▸ Tracks.nil : Tracks [] c.comm).run calls
  refine ⟨?_, _, after, fun t => ⟨_, AckForwarder.entries_committed after t,
    ConnState.get?_committed _ t⟩⟩
  rw [AckForwarder.nextToCommit_eq after]
  exact tracks.nextToCommit_least fun t waits => nonneg t (received_of_awaitsCommit waits)

/-- Txnrs 3 and 1 received on connection 1, then 1 committed. -/
def commitCalls : List Call := [.received 3, .received 1, .committed 1]

theorem nextToCommit_least_awaiting_commitCalls :
    twoConnections.entries 1 = some ⟨[], [], []⟩ ∧ (∀ t, Call.received t ∈ commitCalls → 0 ≤ t) ∧
      (((twoConnections.callAll 1 commitCalls).nextToCommit 1 = -1 ∧
          ∀ t, awaitsCommit commitCalls t = false) ∨
        (awaitsCommit commitCalls ((twoConnections.callAll 1 commitCalls).nextToCommit 1) = true ∧
          ∀ t, awaitsCommit commitCalls t = true →
            (twoConnections.callAll 1 commitCalls).nextToCommit 1 ≤ t)) ∧
      ∃ d, (twoConnections.callAll 1 commitCalls).entries 1 = some d ∧
        ∀ t, ∃ d', ((twoConnections.callAll 1 commitCalls).committed 1 t).entries 1 = some d' ∧
          ∀ k, d'.comm.get? k = if k = t then none else d.comm.get? k :=
  have live : twoConnections.entries 1 = some ⟨[], [], []⟩ := by decide
  have nonneg : ∀ t, Call.received t ∈ commitCalls → 0 ≤ t := by
    intro t mem
    simp only [commitCalls, List.mem_cons, Call.received.injEq, reduceCtorEq, List.mem_nil_iff,
      or_false] at mem
    omega
  ⟨live, nonneg, nextToCommit_least_awaiting live rfl commitCalls nonneg⟩

example : (twoConnections.callAll 1 commitCalls).nextToCommit 1 = 3 := by decide

end Skewer.Relp
