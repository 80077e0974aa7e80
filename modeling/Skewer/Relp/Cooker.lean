import Mathlib.Logic.Relation
import Skewer.Relp.AckForwarder
import Skewer.Relp.Wire

/-!
# The response cooker

`handleResponses` is the goroutine of a connection that writes the `200 OK`
and `500 KO` answers. Each iteration of its loop moves one outcome from the
forwarder's queues into its local `successes` or `failures` map, then answers
the smallest pending txnr for as long as its outcome is known, so the answers
leave in txnr order whatever order the outcomes arrive in.
-/

namespace Skewer.Relp

open Skewer.Go

/-- The local maps `successes` and `failures` of `handleResponses`. -/
structure Cooker where
  successes : Int → Bool
  failures : Int → Bool

def Cooker.initial : Cooker := ⟨fun _ => false, fun _ => false⟩

/-- The start of an iteration: `GetSucc`, and `GetFail` when it gave `-1`. -/
def takeOutcome (conn : ConnState) (cooker : Cooker) : ConnState × Cooker :=
  let (txnr, conn) := conn.getSucc
  if txnr ≠ -1 then (conn, { cooker with successes := Function.update cooker.successes txnr true })
  else
    let (txnr, conn) := conn.getFail
    if txnr ≠ -1 then
      (conn, { cooker with failures := Function.update cooker.failures txnr true })
    else (conn, cooker)

/--
One round of the `Cooking` loop: the line written and the state after
`Committed`, or `none` where the loop breaks.
-/
def cookRound (conn : ConnState) (cooker : Cooker) : Option (Response × ConnState × Cooker) :=
  let next := conn.nextToCommit
  if next = -1 then none
  else if cooker.successes next then
    some (.ok next, conn.committed next,
      { cooker with successes := Function.update cooker.successes next false })
  else if cooker.failures next then
    some (.ko next, conn.committed next,
      { cooker with failures := Function.update cooker.failures next false })
  else none

/-- The `Cooking` loop, run for at most `fuel` rounds. -/
def cookLoop : Nat → ConnState → Cooker → List Response → ConnState × Cooker × List Response
  | 0, conn, cooker, written => (conn, cooker, written)
  | fuel + 1, conn, cooker, written =>
      match cookRound conn cooker with
      | none => (conn, cooker, written)
      | some (line, conn', cooker') => cookLoop fuel conn' cooker' (written ++ [line])

theorem cookRound_some {conn : ConnState} {cooker : Cooker} {line : Response}
    {conn' : ConnState} {cooker' : Cooker}
    (round : cookRound conn cooker = some (line, conn', cooker')) :
    conn.nextToCommit ≠ -1 ∧ conn' = conn.committed conn.nextToCommit := by
  dsimp only [cookRound] at round
  split_ifs at round with found <;> simp only [Option.some.injEq, Prod.mk.injEq] at round <;>
    exact ⟨found, round.2.1.symm⟩

/--
What a round takes from the local maps, whichever of them held the outcome:
one mark of the txnr it answers, the one that agrees with the line.
-/
theorem cookRound_answers {conn : ConnState} {cooker : Cooker} {line : Response}
    {conn' : ConnState} {cooker' : Cooker}
    (round : cookRound conn cooker = some (line, conn', cooker')) :
    line.txnr = conn.nextToCommit ∧ line.fromCooker ∧
      (if line.isOk then cooker.successes else cooker.failures) conn.nextToCommit ∧
      (∀ t, cooker'.successes t → cooker.successes t) ∧
      (∀ t, cooker'.failures t → cooker.failures t) ∧
      ∀ t, (if cooker'.successes t then 1 else 0) + (if cooker'.failures t then 1 else 0) +
          (if t = conn.nextToCommit then 1 else 0) =
        (if cooker.successes t then 1 else 0) + (if cooker.failures t then 1 else 0) := by
  dsimp only [cookRound] at round
  split_ifs at round with found ok ko <;> simp only [Option.some.injEq, Prod.mk.injEq] at round <;>
    obtain ⟨rfl, -, rfl⟩ := round
  · refine ⟨rfl, rfl, ok, fun t h => ?_, fun _ => id, fun t => ?_⟩ <;>
      rcases eq_or_ne t conn.nextToCommit with rfl | same
    · simp at h
    · simpa [Function.update_noteq same] using h
    · simp only [Function.update_same, ok, if_true, Bool.false_eq_true, if_false]; omega
    · simp [Function.update_noteq same, same]
  · refine ⟨rfl, rfl, ko, fun _ => id, fun t h => ?_, fun t => ?_⟩ <;>
      rcases eq_or_ne t conn.nextToCommit with rfl | same
    · simp at h
    · simpa [Function.update_noteq same] using h
    · simp [ok, ko]
    · simp [Function.update_noteq same, same]

/-! ## Outcomes arriving in any order -/

/--
One connection's forwarder entries and cooker, the lines the cooker wrote,
and two ghosts: the txnrs passed to `Received`, in order, and the outcome
forwarded for each txnr (`true` for a success).
-/
structure AckState where
  conn : ConnState
  cooker : Cooker
  written : List Response
  received : List Int
  outcome : Int → Option Bool

def AckState.initial : AckState := ⟨⟨[], [], []⟩, Cooker.initial, [], [], fun _ => none⟩

/--
One iteration of `handleResponses`' loop once `Wait` has returned: the
`Cooking` loop gets one round per entry of `comm`, enough for it to break.
-/
def AckState.iterate (s : AckState) : AckState :=
  let (conn, cooker) := takeOutcome s.conn s.cooker
  let (conn, cooker, written) := cookLoop conn.comm.length conn cooker s.written
  { s with conn := conn, cooker := cooker, written := written }

/-- The reader's `Received(connID, txnr)`, with the ghost list extended. -/
def AckState.receive (s : AckState) (txnr : Int) : AckState :=
  { s with conn := s.conn.received txnr, received := s.received ++ [txnr] }

/--
`ForwardSucc(connID, txnr)` when `ok`, else `ForwardFail(connID, txnr)`, with
the ghost outcome recorded.
-/
def AckState.forward (s : AckState) (ok : Bool) (txnr : Int) : AckState :=
  { s with conn := if ok then s.conn.forwardSucc txnr else s.conn.forwardFail txnr
           outcome := Function.update s.outcome txnr (some ok) }

/--
The steps of one connection: the reader's `Received` of a txnr above every
earlier one and above `-1`, where the reader's `previous` starts; a first
outcome forwarded for a received txnr; and an iteration of the cooker when
`Wait` does not block.
-/
inductive AckStep : AckState → AckState → Prop
  | received (s : AckState) (txnr : Int) (fresh : ∀ r ∈ s.received, r < txnr)
      (above : -1 < txnr) : AckStep s (s.receive txnr)
  | forward (s : AckState) (ok : Bool) (txnr : Int) (mem : txnr ∈ s.received)
      (first : s.outcome txnr = none) : AckStep s (s.forward ok txnr)
  | iterate (s : AckState) (ready : s.conn.ready) : AckStep s s.iterate

def AckReachable (s : AckState) : Prop := Relation.ReflTransGen AckStep AckState.initial s

@[simp] theorem AckState.iterate_received (s : AckState) : s.iterate.received = s.received := rfl

@[simp] theorem AckState.iterate_outcome (s : AckState) : s.iterate.outcome = s.outcome := rfl

/-! ## The invariant -/

namespace AckState

/-- The txnrs received and not yet answered. -/
def pending (s : AckState) : List Int := s.received.drop s.written.length

/-- How many places hold the outcome of `txnr`: the two queues and the two local maps. -/
def holds (s : AckState) (txnr : Int) : Nat :=
  s.conn.succ.count txnr + s.conn.fail.count txnr +
    (if s.cooker.successes txnr then 1 else 0) + (if s.cooker.failures txnr then 1 else 0)

end AckState

/--
What every reachable state of one connection satisfies: the answers are a
prefix of the received txnrs, the rest of them are exactly the keys of
`comm`, and each forwarded outcome of a pending txnr waits in exactly one
place, a queue or a local map, that agrees with its kind.
-/
structure AckInv (s : AckState) : Prop where
  sorted : s.received.Pairwise (· < ·)
  nonneg : ∀ t ∈ s.received, 0 ≤ t
  answeredPrefix : s.written.map Response.txnr <+: s.received
  comm : ∀ e, e ∈ s.conn.comm ↔ e.2 = true ∧ e.1 ∈ s.pending
  answered : ∀ line ∈ s.written, line.fromCooker ∧ s.outcome line.txnr = some line.isOk
  forwarded : ∀ t, s.outcome t ≠ none → t ∈ s.received
  succKind : ∀ t ∈ s.conn.succ, s.outcome t = some true
  failKind : ∀ t ∈ s.conn.fail, s.outcome t = some false
  successesKind : ∀ t, s.cooker.successes t → s.outcome t = some true
  failuresKind : ∀ t, s.cooker.failures t → s.outcome t = some false
  located : ∀ t, s.holds t = if t ∈ s.pending ∧ s.outcome t ≠ none then 1 else 0

theorem ackInv_initial : AckInv AckState.initial := by
  refine ⟨.nil, by simp [AckState.initial], by simp [AckState.initial], ?_,
    by simp [AckState.initial], ?_, ?_, ?_, ?_, ?_, ?_⟩ <;>
    simp [AckState.initial, AckState.pending, AckState.holds, Cooker.initial]

namespace AckInv

variable {s : AckState} (inv : AckInv s)
include inv

theorem received_eq : s.received = s.written.map Response.txnr ++ s.pending := by
  obtain ⟨rest, h⟩ := inv.answeredPrefix
  have : s.pending = rest := by
    simp [AckState.pending, ← h]
  rw [this, h]

theorem pending_pairwise : s.pending.Pairwise (· < ·) := by
  have := inv.sorted
  rw [inv.received_eq] at this
  exact (List.pairwise_append.1 this).2.1

theorem mem_pending {t : Int} :
    t ∈ s.pending ↔ t ∈ s.received ∧ t ∉ s.written.map Response.txnr := by
  have sorted := inv.sorted
  rw [inv.received_eq] at sorted ⊢
  obtain ⟨-, -, apart⟩ := List.pairwise_append.1 sorted
  constructor
  · intro mem
    exact ⟨List.mem_append_right _ mem, fun old => Int.lt_irrefl t (apart t old t mem)⟩
  · rintro ⟨mem, fresh⟩
    exact (List.mem_append.1 mem).resolve_left fresh

theorem not_answered {t : Int} (none_yet : s.outcome t = none) :
    t ∉ s.written.map Response.txnr := by
  simp only [List.mem_map, not_exists, not_and]
  intro line mem same
  have := (inv.answered line mem).2
  rw [same, none_yet] at this
  cases this

theorem written_length_le : s.written.length ≤ s.received.length := by
  simpa using inv.answeredPrefix.length_le

theorem no_outcome_of_not_received {t : Int} (absent : t ∉ s.received) : s.outcome t = none := by
  by_contra h
  exact absent (inv.forwarded t h)

/-- The reader's `Received` of a txnr above every earlier one. -/
theorem received {txnr : Int} (fresh : ∀ r ∈ s.received, r < txnr) (above : -1 < txnr) :
    AckInv (s.receive txnr) := by
  unfold AckState.receive
  have not_received : txnr ∉ s.received := fun mem => Int.lt_irrefl _ (fresh _ mem)
  have pending_eq : s.received.drop s.written.length ++ [txnr] =
      (s.received ++ [txnr]).drop s.written.length := by
    rw [List.drop_append_of_le_length inv.written_length_le]
  have absent : txnr ∉ s.conn.comm.keys := by
    intro mem
    obtain ⟨e, e_mem, rfl⟩ := List.mem_map.1 mem
    exact not_received (inv.mem_pending.1 ((inv.comm e).1 e_mem).2).1
  have no_outcome := inv.no_outcome_of_not_received not_received
  refine ⟨?_, ?_, inv.answeredPrefix.trans (List.prefix_append _ _), ?_, inv.answered, ?_,
    inv.succKind, inv.failKind, inv.successesKind, inv.failuresKind, ?_⟩
  · exact List.pairwise_append.2 ⟨inv.sorted, List.pairwise_singleton _ _,
      fun a ha b hb => (List.mem_singleton.1 hb) ▸ fresh a ha⟩
  · exact List.forall_mem_append.2 ⟨inv.nonneg, List.forall_mem_singleton.2 (by omega)⟩
  · intro e
    simp only [ConnState.received, HashMap.set_of_not_mem_keys _ absent, AckState.pending,
      ← pending_eq, List.mem_append, List.mem_singleton, inv.comm e]
    constructor
    · rintro (⟨ok, mem⟩ | rfl)
      · exact ⟨ok, .inl mem⟩
      · exact ⟨rfl, .inr rfl⟩
    · rintro ⟨ok, mem | same⟩
      · exact .inl ⟨ok, mem⟩
      · exact .inr (Prod.ext same ok)
  · exact fun t h => List.mem_append_left _ (inv.forwarded t h)
  · intro t
    have located := inv.located t
    simp only [AckState.holds, AckState.pending, ConnState.received, ← pending_eq] at located ⊢
    rw [located]
    by_cases same : t = txnr
    · subst same
      simp [no_outcome, AckState.pending]
    · simp [same, AckState.pending]

/-- A first outcome forwarded for a received txnr: `ForwardSucc` when `ok`, else `ForwardFail`. -/
theorem forward (ok : Bool) {txnr : Int} (mem : txnr ∈ s.received)
    (first : s.outcome txnr = none) : AckInv (s.forward ok txnr) := by
  unfold AckState.forward
  have pending : txnr ∈ s.pending := inv.mem_pending.2 ⟨mem, inv.not_answered first⟩
  have apart {t : Int} {b : Bool} (h : s.outcome t = some b) : t ≠ txnr := by
    rintro rfl; rw [first] at h; cases h
  have kept {t : Int} {b : Bool} (h : s.outcome t = some b) :
      Function.update s.outcome txnr (some ok) t = some b := by
    rw [Function.update_noteq (apart h), h]
  refine ⟨inv.sorted, inv.nonneg, inv.answeredPrefix, ?_, ?_, ?_, ?_, ?_, ?_, ?_, ?_⟩
  · cases ok <;> exact inv.comm
  · intro line mem'
    exact ⟨(inv.answered line mem').1, kept (inv.answered line mem').2⟩
  · intro t h
    dsimp only at h ⊢
    by_cases same : t = txnr
    · rw [same]; exact mem
    · rw [Function.update_noteq same] at h; exact inv.forwarded t h
  · intro t mem'
    dsimp only at mem' ⊢
    cases ok
    · exact kept (inv.succKind t mem')
    · rcases List.mem_append.1 mem' with old | new
      · exact kept (inv.succKind t old)
      · rw [List.mem_singleton.1 new, Function.update_same]
  · intro t mem'
    dsimp only at mem' ⊢
    cases ok
    · rcases List.mem_append.1 mem' with old | new
      · exact kept (inv.failKind t old)
      · rw [List.mem_singleton.1 new, Function.update_same]
    · exact kept (inv.failKind t mem')
  · exact fun t h => kept (inv.successesKind t h)
  · exact fun t h => kept (inv.failuresKind t h)
  · intro t
    have located := inv.located t
    by_cases same : t = txnr
    · subst same
      simp only [AckState.holds, AckState.pending, first, ne_eq, not_true_eq_false,
        and_false, if_false] at located
      cases ok <;>
        simp_all [AckState.holds, AckState.pending, ConnState.forwardSucc,
          ConnState.forwardFail, List.count_append]
    · cases ok <;>
        simp_all [AckState.holds, AckState.pending, ConnState.forwardSucc,
          ConnState.forwardFail, List.count_append, Function.update_noteq same]

/-- The start of an iteration moves one outcome from a queue into a local map. -/
theorem take :
    AckInv { s with conn := (takeOutcome s.conn s.cooker).1
                    cooker := (takeOutcome s.conn s.cooker).2 } := by
  have nonneg_of {t : Int} {b : Bool} (h : s.outcome t = some b) : t ≠ -1 := by
    have := inv.nonneg t (inv.forwarded t (by rw [h]; simp)); omega
  rcases hsucc : s.conn.succ with _ | ⟨t, rest⟩
  · rcases hfail : s.conn.fail with _ | ⟨t, rest⟩
    · simpa [takeOutcome, ConnState.getSucc, ConnState.getFail, hsucc, hfail] using inv
    · have kind := inv.failKind t (by simp [hfail])
      simp only [takeOutcome, ConnState.getSucc, ConnState.getFail, hsucc, hfail, ne_eq,
        nonneg_of kind, not_false_eq_true, if_true, if_false, not_true_eq_false]
      refine ⟨inv.sorted, inv.nonneg, inv.answeredPrefix, inv.comm, inv.answered, inv.forwarded,
        by simp [hsucc], fun t' mem => inv.failKind t' (by simp [hfail, mem]), inv.successesKind,
        ?_, ?_⟩
      · intro t' h
        by_cases same : t' = t
        · rw [same]; exact kind
        · exact inv.failuresKind t' (by simpa [Function.update_noteq same] using h)
      · intro t'
        have located := inv.located t'
        by_cases same : t' = t
        · subst same
          simp only [AckState.holds, AckState.pending, hsucc, hfail, List.count_cons_self,
            Function.update_same] at located ⊢
          split_ifs at located ⊢ <;> omega
        · simp_all [AckState.holds, AckState.pending, Function.update_noteq same,
            List.count_cons_of_ne (Ne.symm same)]
  · have kind := inv.succKind t (by simp [hsucc])
    simp only [takeOutcome, ConnState.getSucc, hsucc, ne_eq, nonneg_of kind, not_false_eq_true,
      if_true]
    refine ⟨inv.sorted, inv.nonneg, inv.answeredPrefix, inv.comm, inv.answered, inv.forwarded,
      fun t' mem => inv.succKind t' (by simp [hsucc, mem]), inv.failKind, ?_,
      inv.failuresKind, ?_⟩
    · intro t' h
      by_cases same : t' = t
      · rw [same]; exact kind
      · exact inv.successesKind t' (by simpa [Function.update_noteq same] using h)
    · intro t'
      have located := inv.located t'
      by_cases same : t' = t
      · subst same
        simp only [AckState.holds, AckState.pending, hsucc, List.count_cons_self,
          Function.update_same] at located ⊢
        split_ifs at located ⊢ <;> omega
      · simp_all [AckState.holds, AckState.pending, Function.update_noteq same,
          List.count_cons_of_ne (Ne.symm same)]

theorem pending_nonneg {t : Int} (mem : t ∈ s.pending) : 0 ≤ t :=
  inv.nonneg t (inv.mem_pending.1 mem).1

/-- Under the invariant the `Cooking` loop looks at the first pending txnr. -/
theorem nextToCommit_eq_head : s.conn.nextToCommit = s.pending.headD (-1) := by
  cases hp : s.pending with
  | nil =>
      have empty : s.conn.comm = [] :=
        List.eq_nil_iff_forall_not_mem.2 fun e mem => by simpa [hp] using ((inv.comm e).1 mem).2
      simp [ConnState.nextToCommit, nextToCommitIn, empty]
  | cons p rest =>
      have sorted := inv.pending_pairwise
      rw [hp, List.pairwise_cons] at sorted
      simp only [List.headD_cons, ConnState.nextToCommit]
      refine nextToCommitIn_least ((inv.comm (p, true)).2 ⟨rfl, by simp [hp]⟩)
        (inv.pending_nonneg (by simp [hp])) fun e mem _ => ?_
      rcases List.mem_cons.1 (hp ▸ ((inv.comm e).1 mem).2) with same | later
      · omega
      · exact Int.le_of_lt (sorted.1 _ later)

/-- A round of the `Cooking` loop answers the first pending txnr with its outcome. -/
theorem cook {line : Response} {conn : ConnState} {cooker : Cooker}
    (round : cookRound s.conn s.cooker = some (line, conn, cooker)) :
    AckInv { s with conn := conn, cooker := cooker, written := s.written ++ [line] } := by
  obtain ⟨found, rfl⟩ := cookRound_some round
  obtain ⟨txnr, fromCooker, held, succ_le, fail_le, moved⟩ := cookRound_answers round
  have head := inv.nextToCommit_eq_head
  cases hp : s.pending with
  | nil => simp [head, hp] at found
  | cons p rest =>
      have next : s.conn.nextToCommit = p := by rw [head, hp]; rfl
      rw [next] at txnr held moved ⊢
      have kind : s.outcome p = some line.isOk := by
        cases ok : line.isOk <;> simp only [ok, if_true, if_false, Bool.false_eq_true] at held
        exacts [inv.failuresKind p held, inv.successesKind p held]
      have sorted := inv.pending_pairwise
      rw [hp, List.pairwise_cons] at sorted
      have p_fresh : p ∉ rest := fun mem => Int.lt_irrefl p (sorted.1 p mem)
      have received := inv.received_eq
      rw [hp] at received
      have pending' : s.received.drop (s.written.length + 1) = rest := by
        have split : s.received = (s.written.map Response.txnr ++ [p]) ++ rest := by
          rw [received]; simp
        rw [split, List.drop_left' (by simp)]
      have comm' : ∀ e, e ∈ (s.conn.committed p).comm ↔ e.2 = true ∧ e.1 ∈ rest := by
        intro e
        simp only [ConnState.committed, HashMap.del_set, HashMap.mem_del, inv.comm e, hp,
          List.mem_cons]
        constructor
        · rintro ⟨⟨ok, same | mem⟩, ne⟩
          · exact absurd same ne
          · exact ⟨ok, mem⟩
        · rintro ⟨ok, mem⟩
          exact ⟨⟨ok, .inr mem⟩, fun same => p_fresh (same ▸ mem)⟩
      refine ⟨inv.sorted, inv.nonneg, ?_, by simpa [AckState.pending, pending'] using comm', ?_,
        inv.forwarded, inv.succKind, inv.failKind, fun t h => inv.successesKind t (succ_le t h),
        fun t h => inv.failuresKind t (fail_le t h), ?_⟩
      · rw [List.map_append, List.map_singleton, txnr, received]
        exact ⟨rest, by simp⟩
      · exact List.forall_mem_append.2 ⟨inv.answered,
          List.forall_mem_singleton.2 ⟨fromCooker, txnr ▸ kind⟩⟩
      · intro t
        have located := inv.located t
        have moved := moved t
        rw [hp] at located
        simp only [AckState.holds, AckState.pending, ConnState.committed, List.length_append,
          List.length_singleton, pending'] at located ⊢
        by_cases same : t = p
        · subst same
          simp only [List.mem_cons_self, kind, ne_eq, reduceCtorEq, not_false_eq_true, and_self,
            if_true, if_pos] at located moved
          simp only [p_fresh, false_and, if_false]
          omega
        · simp [same] at located moved ⊢
          omega

/-- The whole `Cooking` loop, whatever its fuel. -/
theorem cookLoop (fuel : Nat) :
    AckInv { s with conn := (Relp.cookLoop fuel s.conn s.cooker s.written).1
                    cooker := (Relp.cookLoop fuel s.conn s.cooker s.written).2.1
                    written := (Relp.cookLoop fuel s.conn s.cooker s.written).2.2 } := by
  induction fuel generalizing s with
  | zero => simpa [Relp.cookLoop] using inv
  | succ fuel ih =>
      rcases round : cookRound s.conn s.cooker with _ | ⟨line, conn, cooker⟩
      · simpa [Relp.cookLoop, round] using inv
      · simpa [Relp.cookLoop, round] using ih (inv.cook round)

theorem iterate : AckInv s.iterate := by
  simpa [AckState.iterate] using (inv.take).cookLoop _

end AckInv

/-- With one round per entry of `comm` the `Cooking` loop always ends by breaking. -/
theorem cookLoop_breaks (fuel : Nat) (conn : ConnState) (cooker : Cooker)
    (written : List Response) (enough : conn.comm.length ≤ fuel) :
    cookRound (cookLoop fuel conn cooker written).1 (cookLoop fuel conn cooker written).2.1 =
      none := by
  induction fuel generalizing conn cooker written with
  | zero =>
      have empty : conn.comm = [] := List.eq_nil_of_length_eq_zero (by omega)
      simp [cookLoop, cookRound, ConnState.nextToCommit, nextToCommitIn, empty]
  | succ fuel ih =>
      rcases round : cookRound conn cooker with _ | ⟨line, conn', cooker'⟩
      · simp [cookLoop, round]
      · obtain ⟨found, rfl⟩ := cookRound_some round
        have shorter : (conn.committed conn.nextToCommit).comm.length < conn.comm.length := by
          simpa [ConnState.committed, HashMap.del_set] using
            HashMap.length_del_lt (nextToCommitIn_mem found)
        simp only [cookLoop, round]
        exact ih _ _ _ (by omega)

theorem ackInv_step {s s' : AckState} (inv : AckInv s) (step : AckStep s s') : AckInv s' := by
  cases step with
  | received txnr fresh above => exact inv.received fresh above
  | forward ok txnr mem first => exact inv.forward ok mem first
  | iterate ready => exact inv.iterate


theorem ackInv_reachable {s : AckState} (reach : AckReachable s) : AckInv s := by
  induction reach with
  | refl => exact ackInv_initial
  | tail _ step ih => exact ackInv_step ih step

/--
An iteration that leaves both queues empty, once every received txnr has its
outcome, has answered all of them and emptied `comm`.
-/
theorem AckInv.iterate_answers_all {s : AckState} (inv : AckInv s)
    (all : ∀ t ∈ s.received, s.outcome t ≠ none)
    (emptySucc : s.iterate.conn.succ = []) (emptyFail : s.iterate.conn.fail = []) :
    s.iterate.written.map Response.txnr = s.iterate.received ∧ s.iterate.conn.comm = [] := by
  have inv' := inv.iterate
  have breaks : cookRound s.iterate.conn s.iterate.cooker = none := by
    simpa [AckState.iterate] using cookLoop_breaks _ _ _ s.written (Nat.le_refl _)
  have pending_nil : s.iterate.pending = [] := by
    cases hp : s.iterate.pending with
    | nil => rfl
    | cons p rest =>
        have mem : p ∈ s.iterate.pending := by simp [hp]
        have out : s.outcome p ≠ none := all p (by simpa using (inv'.mem_pending.1 mem).1)
        have located := inv'.located p
        rw [if_pos ⟨mem, by simpa using out⟩] at located
        have head := inv'.nextToCommit_eq_head
        have p_ne : p ≠ -1 := by have := inv'.pending_nonneg mem; omega
        rw [hp, List.headD_cons] at head
        simp only [cookRound, head, p_ne, if_false] at breaks
        split_ifs at breaks with ok ko
        simp [AckState.holds, emptySucc, emptyFail, ok, ko] at located
  refine ⟨by simpa [pending_nil] using inv'.received_eq.symm, ?_⟩
  exact List.eq_nil_iff_forall_not_mem.2 fun e mem => by
    simpa [pending_nil] using ((inv'.comm e).1 mem).2

/--
Whatever order the steps come in, the cooker's lines answer a prefix of the
received txnrs, which increase, each line once and with the outcome forwarded
for its txnr; and an iteration that leaves both queues empty once every
received txnr has its outcome has answered all of them and emptied `comm`.
-/
theorem cooker_answers_received_prefix {s : AckState} (reach : AckReachable s) :
    s.received.Pairwise (· < ·) ∧
      s.written.map Response.txnr <+: s.received ∧
      (s.written.map Response.txnr).Nodup ∧
      (∀ line ∈ s.written, line.fromCooker ∧ s.outcome line.txnr = some line.isOk) ∧
      ((∀ t ∈ s.received, s.outcome t ≠ none) →
        s.iterate.conn.succ = [] → s.iterate.conn.fail = [] →
        s.iterate.written.map Response.txnr = s.iterate.received ∧ s.iterate.conn.comm = []) := by
  have inv := ackInv_reachable reach
  exact ⟨inv.sorted, inv.answeredPrefix,
    (inv.sorted.sublist inv.answeredPrefix.sublist).imp Int.ne_of_lt, inv.answered,
    fun all emptySucc emptyFail => inv.iterate_answers_all all emptySucc emptyFail⟩

/-- Outcomes out of order: txnrs 2 and 3 received, the outcome of 3 forwarded first. -/
def acksReversed : AckState :=
  ((((AckState.initial.receive 2).receive 3).forward true 3).iterate.forward true 2).iterate

theorem cooker_answers_acks_reversed :
    AckReachable acksReversed ∧ acksReversed.written = [.ok 2, .ok 3] ∧
      (acksReversed.received.Pairwise (· < ·) ∧
        acksReversed.written.map Response.txnr <+: acksReversed.received ∧
        (acksReversed.written.map Response.txnr).Nodup ∧
        (∀ line ∈ acksReversed.written,
          line.fromCooker ∧ acksReversed.outcome line.txnr = some line.isOk) ∧
        ((∀ t ∈ acksReversed.received, acksReversed.outcome t ≠ none) →
          acksReversed.iterate.conn.succ = [] → acksReversed.iterate.conn.fail = [] →
          acksReversed.iterate.written.map Response.txnr = acksReversed.iterate.received ∧
            acksReversed.iterate.conn.comm = [])) := by
  have reach : AckReachable acksReversed :=
    .tail (.tail (.tail (.tail (.tail (.tail .refl
      (.received _ 2 (by decide) (by decide)))
      (.received _ 3 (by decide) (by decide)))
      (.forward _ true 3 (by decide) rfl))
      (.iterate _ (by decide)))
      (.forward _ true 2 (by decide) (by decide)))
      (.iterate _ (by decide))
  exact ⟨reach, by decide, cooker_answers_received_prefix reach⟩

end Skewer.Relp
