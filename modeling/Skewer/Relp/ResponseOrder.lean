import Mathlib.Data.List.Nodup
import Skewer.Relp.Connection

/-!
# The order of the responses on a connection

The invariant of the connection system, in four parts: the reader's counters,
the txnrs on their way to the pipeline, the cooker's current round, and the
lines that reached the client. Each part is stated over the fields it reads,
so a step that leaves those fields alone keeps it as it is. The cooker's lines
come from the rounds of `handleResponses` and increase as the received txnrs
do; the reader's replies take the txnr of the frame just passed, above all
earlier ones. The close reply is the one line that can be overtaken: the cooker
may still answer earlier txnrs between the reply and `conn.Close()`.
-/

namespace Skewer.Relp

open Skewer.Go

/-! ## Rounds of the `Cooking` loop -/

theorem cookRound_commitLine {conn : ConnState} {cooker : Cooker} {line : Response}
    {conn' : ConnState} {cooker' : Cooker}
    (round : cookRound conn cooker = some (line, conn', cooker')) :
    (conn', cooker') = commitLine conn cooker line ∧ line.fromCooker ∧
      line.txnr = conn.nextToCommit := by
  dsimp only [cookRound] at round
  split_ifs at round <;> simp only [Option.some.injEq, Prod.mk.injEq] at round <;>
    obtain ⟨rfl, rfl, rfl⟩ := round <;> simp [commitLine, Response.fromCooker, Response.txnr]

/-- A round reads the forwarder's entries only through `NextToCommit`. -/
theorem cookRound_of_nextToCommit_eq {conn conn' : ConnState} {cooker : Cooker}
    {line : Response} (same : conn'.nextToCommit = conn.nextToCommit)
    (round : cookRound conn cooker = some (line, commitLine conn cooker line)) :
    cookRound conn' cooker = some (line, commitLine conn' cooker line) := by
  dsimp only [cookRound] at round ⊢
  rw [same]
  split_ifs at round ⊢ <;>
    simp only [Option.some.injEq, Prod.mk.injEq, reduceCtorEq] at round ⊢ <;>
    obtain ⟨rfl, -⟩ := round <;> simp [commitLine]

theorem AckState.forward_nextToCommit (s : AckState) (ok : Bool) (t : Int) :
    (s.forward ok t).conn.nextToCommit = s.conn.nextToCommit := by
  cases ok <;> rfl

/-- A received txnr is above every pending one, so `NextToCommit` keeps its choice. -/
theorem AckInv.receive_nextToCommit {s : AckState} (inv : AckInv s) {t : Int}
    (fresh : ∀ r ∈ s.received, r < t) (above : -1 < t) (busy : s.conn.nextToCommit ≠ -1) :
    (s.receive t).conn.nextToCommit = s.conn.nextToCommit := by
  have pending : (s.receive t).pending = s.pending ++ [t] := by
    simp [AckState.pending, AckState.receive, List.drop_append_of_le_length inv.written_length_le]
  rw [(inv.received fresh above).nextToCommit_eq_head, inv.nextToCommit_eq_head, pending]
  rw [inv.nextToCommit_eq_head] at busy
  cases h : s.pending with
  | nil => simp [h] at busy
  | cons p rest => rfl

theorem lt_of_prefix_append {lines : List Response} {line : Response} {received : List Int}
    (pre : (lines ++ [line]).map Response.txnr <+: received) (sorted : received.Pairwise (· < ·)) :
    ∀ l ∈ lines, l.txnr < line.txnr := by
  have := sorted.sublist pre.sublist
  rw [List.map_append, List.pairwise_append] at this
  exact fun l mem => this.2.2 _ (List.mem_map_of_mem _ mem) _ (List.mem_singleton_self _)

/-! ## The invariant -/

/-- The reader's `previous` starts at `-1` and bounds every received txnr. -/
structure ReaderInv (session : Session) (received : List Int) : Prop where
  previous_ge : -1 ≤ session.previous
  received_le : ∀ t ∈ received, t ≤ session.previous

/--
Every txnr the reader is handing on, or the pipeline carries, was received and
waits for its only outcome.
-/
structure PipeInv (reader : ReaderPc) (removed : Bool) (inFlight : List Int) (received : List Int)
    (outcome : Int → Option Bool) : Prop where
  removed_finished : removed = true → reader = .finished
  nodup : inFlight.Nodup
  inFlight_pending : ∀ t ∈ inFlight, t ∈ received ∧ outcome t = none
  handing : ∀ t, reader.handing = some t → t ∈ received ∧ outcome t = none ∧ t ∉ inFlight

/--
The line the cooker holds is the one the current round gives, and the lines it
wrote, with the one it is about to write, answer a prefix of the received txnrs.
-/
structure CookerInv (cooker : CookerPc) (removed : Bool) (ack : AckState) (wrote : List Response) :
    Prop where
  round : ∀ line ∈ cooker.toWrite ++ cooker.toCommit, removed = false →
    cookRound ack.conn ack.cooker = some (line, commitLine ack.conn ack.cooker line)
  wrote_eq : removed = false → wrote = ack.written ++ cooker.toCommit
  wrote_prefix : (wrote ++ cooker.toWrite).map Response.txnr <+: ack.received
  fromCooker : ∀ line ∈ wrote ++ cooker.toWrite, line.fromCooker

/--
The lines that reached the client: below the reader's `previous`; none before
the session opens; increasing apart from the close reply, which is above every
other line and followed only by the cooker's.
-/
structure WireInv (out : List Response) (session : Session) (reader : ReaderPc) (closed : Bool)
    (received : List Int) (wrote : List Response) : Prop where
  out_le : ∀ l ∈ out, l.txnr ≤ session.previous
  unopened : session.relpIsOpen = false → closed = false → reader ≠ .closing →
    received = [] ∧ out = []
  out_wrote : ∀ l ∈ out, l.fromCooker → l ∈ wrote
  open_below : ∀ o data, .openReply o data ∈ out → ∀ t ∈ received, o < t
  sorted : ((out.filter fun l => !l.isCloseReply).map Response.txnr).Pairwise (· < ·)
  close_last : ∀ c, .closeReply c ∈ out → (∀ l ∈ out, l ≠ .closeReply c → l.txnr < c) ∧
    (closed = true ∨ reader = .closing ∧ ∀ t ∈ received, t < c)
  after_close : ∀ pre c post, out = pre ++ .closeReply c :: post → ∀ l ∈ post, l.fromCooker

structure ConnInv (s : Connection) : Prop where
  ack : AckInv s.ack
  reader : ReaderInv s.session s.ack.received
  pipe : PipeInv s.reader s.removed s.inFlight s.ack.received s.ack.outcome
  cooker : CookerInv s.cooker s.removed s.ack s.wrote
  wire : WireInv s.out s.session s.reader s.closed s.ack.received s.wrote

theorem connInv_initial (frames : List Bytes) : ConnInv (Connection.initial frames) where
  ack := ackInv_initial
  reader := ⟨Int.le_refl (-1), by simp [Connection.initial, AckState.initial]⟩
  pipe := ⟨by simp [Connection.initial], .nil, by simp [Connection.initial], by
    simp [Connection.initial, ReaderPc.handing]⟩
  cooker := ⟨by simp [Connection.initial, CookerPc.toWrite, CookerPc.toCommit],
    by simp [Connection.initial, AckState.initial, CookerPc.toCommit],
    by simp [Connection.initial, AckState.initial, CookerPc.toWrite],
    by simp [Connection.initial, CookerPc.toWrite]⟩
  wire := ⟨by simp [Connection.initial], by simp [Connection.initial, AckState.initial],
    by simp [Connection.initial], by simp [Connection.initial], by simp [Connection.initial],
    by simp [Connection.initial], by simp [Connection.initial]⟩

theorem append_singleton_eq_append_cons {α : Type} {xs pre post : List α} {a b : α}
    (h : xs ++ [a] = pre ++ b :: post) :
    post = [] ∧ xs = pre ∧ a = b ∨
      ∃ post', post = post' ++ [a] ∧ xs = pre ++ b :: post' := by
  rcases List.eq_nil_or_concat post with rfl | ⟨post', last, rfl⟩
  · obtain ⟨same, last⟩ := List.append_inj' h rfl
    exact .inl ⟨rfl, same, by simpa using last⟩
  · have h' : xs ++ [a] = (pre ++ b :: post') ++ [last] := by simpa using h
    obtain ⟨same, last_eq⟩ := List.append_inj' h' rfl
    exact .inr ⟨post', by simp [List.singleton_inj.1 last_eq], same⟩

namespace WireInv

variable {out : List Response} {session : Session} {reader : ReaderPc} {closed : Bool}
  {received : List Int} {wrote : List Response}

theorem closed_of_close (w : WireInv out session reader closed received wrote)
    (away : reader ≠ .closing) {c : Int} (mem : .closeReply c ∈ out) : closed = true :=
  (w.close_last c mem).2.elim id fun h => absurd h.1 away

/-- Once the socket is closed the reader may stand anywhere. -/
theorem closeSocket (w : WireInv out session reader closed received wrote) (reader' : ReaderPc) :
    WireInv out session reader' true received wrote :=
  ⟨w.out_le, by simp, w.out_wrote, w.open_below, w.sorted,
    fun c mem => ⟨(w.close_last c mem).1, .inl rfl⟩, w.after_close⟩

/-- The reader moves between places other than `closing`. -/
theorem moveReader (w : WireInv out session reader closed received wrote) (away : reader ≠ .closing)
    (reader' : ReaderPc) :
    WireInv out session reader' closed received wrote :=
  ⟨w.out_le, fun unopened live _ => w.unopened unopened live away, w.out_wrote, w.open_below,
    w.sorted, fun c mem => ⟨(w.close_last c mem).1, .inl (w.closed_of_close away mem)⟩,
    w.after_close⟩

/-- A syslog frame passes: its txnr is received. -/
theorem receive (w : WireInv out session reader closed received wrote)
    (scanning : reader = .scanning) {t : Int} (fresh : session.previous < t)
    (isOpen : session.relpIsOpen = true) (reader' : ReaderPc) :
    WireInv out ⟨t, session.relpIsOpen⟩ reader' closed (received ++ [t]) wrote where
  out_le l mem := Int.le_of_lt (Int.lt_of_le_of_lt (w.out_le l mem) fresh)
  unopened h := by simp [isOpen] at h
  out_wrote := w.out_wrote
  open_below o data mem := List.forall_mem_append.2 ⟨w.open_below o data mem,
    List.forall_mem_singleton.2 (Int.lt_of_le_of_lt (w.out_le _ mem) fresh)⟩
  sorted := w.sorted
  close_last c mem :=
    ⟨(w.close_last c mem).1, .inl (w.closed_of_close (by simp [scanning]) mem)⟩
  after_close := w.after_close

/-- An `open` frame passes: the open reply is written. -/
theorem openReply (w : WireInv out session reader closed received wrote)
    (scanning : reader = .scanning) {t : Int} (data : Bytes) (fresh : session.previous < t)
    (unopened : session.relpIsOpen = false) :
    WireInv (if closed then out else out ++ [.openReply t data]) ⟨t, true⟩ reader closed received
      wrote := by
  cases closed with
  | true =>
      exact ⟨fun l mem => Int.le_of_lt (Int.lt_of_le_of_lt (w.out_le l mem) fresh), by simp,
        w.out_wrote, w.open_below, w.sorted, fun c mem => ⟨(w.close_last c mem).1, .inl rfl⟩,
        w.after_close⟩
  | false =>
      obtain ⟨rfl, rfl⟩ := w.unopened unopened rfl (by simp [scanning])
      refine ⟨?_, ?_, ?_, ?_, ?_, ?_, ?_⟩ <;>
        simp [Response.txnr, Response.fromCooker, Response.isCloseReply, List.cons_eq_append_iff]

/-- A `close` frame passes: the close reply is written. -/
theorem closeReply (w : WireInv out session reader closed received wrote)
    (scanning : reader = .scanning) {t : Int} (fresh : session.previous < t)
    (received_le : ∀ r ∈ received, r ≤ session.previous) :
    WireInv (if closed then out else out ++ [.closeReply t]) ⟨t, false⟩ .closing closed received
      wrote := by
  have below (l) (mem : l ∈ out) : l.txnr < t := Int.lt_of_le_of_lt (w.out_le l mem) fresh
  cases closed with
  | true =>
      exact ⟨fun l mem => Int.le_of_lt (below l mem), by simp, w.out_wrote, w.open_below, w.sorted,
        fun c mem => ⟨(w.close_last c mem).1, .inl rfl⟩, w.after_close⟩
  | false =>
      have no_close (c) (mem : .closeReply c ∈ out) : False := by
        simpa using w.closed_of_close (by simp [scanning]) mem
      refine ⟨?_, by simp, ?_, ?_, ?_, ?_, ?_⟩
      · exact List.forall_mem_append.2 ⟨fun l old => Int.le_of_lt (below l old),
          List.forall_mem_singleton.2 (Int.le_refl t)⟩
      · exact List.forall_mem_append.2 ⟨w.out_wrote,
          List.forall_mem_singleton.2 fun fc => by simp [Response.fromCooker] at fc⟩
      · simpa using w.open_below
      · simpa [List.filter_append, Response.isCloseReply] using w.sorted
      · intro c mem
        rcases List.mem_append.1 mem with old | new
        · exact (no_close c old).elim
        · obtain rfl : c = t := by simpa using new
          exact ⟨List.forall_mem_append.2 ⟨fun l old _ => below l old,
              List.forall_mem_singleton.2 fun ne => absurd rfl ne⟩,
            .inr ⟨rfl, fun r hr => Int.lt_of_le_of_lt (received_le r hr) fresh⟩⟩
      · intro pre c post h
        rcases append_singleton_eq_append_cons h with ⟨rfl, -⟩ | ⟨post', -, rfl⟩
        · simp
        · exact (no_close c (by simp)).elim

/-- The cooker writes `line`, the answer to a received txnr above all it wrote before. -/
theorem cookerLine (w : WireInv out session reader closed received wrote) {line : Response}
    (fromCooker : line.fromCooker) (mem : line.txnr ∈ received)
    (above : ∀ l ∈ wrote, l.txnr < line.txnr)
    (received_le : ∀ t ∈ received, t ≤ session.previous) :
    WireInv (if closed then out else out ++ [line]) session reader closed received
      (wrote ++ [line]) := by
  have not_close : line.isCloseReply = false := by
    cases line <;> simp_all [Response.fromCooker, Response.isCloseReply]
  cases closed with
  | true =>
      exact ⟨w.out_le, by simp, fun l mem' fc => List.mem_append_left _ (w.out_wrote l mem' fc),
        w.open_below, w.sorted, w.close_last, w.after_close⟩
  | false =>
      simp only [Bool.false_eq_true, if_false]
      refine ⟨?_, ?_, ?_, ?_, ?_, ?_, ?_⟩
      · exact List.forall_mem_append.2 ⟨w.out_le, List.forall_mem_singleton.2 (received_le _ mem)⟩
      · intro unopened live away
        simp [(w.unopened unopened live away).1] at mem
      · exact List.forall_mem_append.2
          ⟨fun l old fc => List.mem_append_left _ (w.out_wrote l old fc),
            fun l new _ => List.mem_append_right _ new⟩
      · intro o data mem' r hr
        rcases List.mem_append.1 mem' with old | new
        · exact w.open_below o data old r hr
        · rw [← List.mem_singleton.1 new] at fromCooker; simp [Response.fromCooker] at fromCooker
      · rw [List.filter_append, List.map_append, List.pairwise_append]
        refine ⟨w.sorted, by simp [not_close], fun a ha b hb => ?_⟩
        simp only [List.filter_cons, not_close, Bool.not_false, if_true, List.filter_nil,
          List.map_cons, List.map_nil, List.mem_singleton] at hb
        obtain ⟨l, hl, rfl⟩ := List.mem_map.1 ha
        obtain ⟨l_mem, l_open⟩ := List.mem_filter.1 hl
        rw [hb]
        cases l with
        | openReply o data => exact w.open_below o data l_mem _ mem
        | closeReply c => simp [Response.isCloseReply] at l_open
        | ok t => exact above _ (w.out_wrote _ l_mem rfl)
        | ko t => exact above _ (w.out_wrote _ l_mem rfl)
      · intro c mem'
        have old : .closeReply c ∈ out := by
          rcases List.mem_append.1 mem' with old | new
          · exact old
          · rw [← List.mem_singleton.1 new] at not_close; simp [Response.isCloseReply] at not_close
        obtain ⟨below, closing⟩ := w.close_last c old
        have line_below : line.txnr < c := by
          rcases closing with closed | ⟨-, lt⟩
          · cases closed
          · exact lt _ mem
        exact ⟨List.forall_mem_append.2 ⟨below, List.forall_mem_singleton.2 fun _ => line_below⟩,
          closing⟩
      · intro pre c post h
        rcases append_singleton_eq_append_cons h with ⟨-, -, rfl⟩ | ⟨post', rfl, rfl⟩
        · simp [Response.fromCooker] at fromCooker
        · exact List.forall_mem_append.2 ⟨w.after_close pre c post' rfl,
            List.forall_mem_singleton.2 fromCooker⟩

end WireInv

theorem ReaderInv.advance {session : Session} {received : List Int}
    (r : ReaderInv session received) {t : Int} (fresh : session.previous < t) (isOpen : Bool) :
    ReaderInv ⟨t, isOpen⟩ received :=
  ⟨by have := r.previous_ge; dsimp only; omega,
    fun u mem => Int.le_of_lt (Int.lt_of_le_of_lt (r.received_le u mem) fresh)⟩

theorem ReaderInv.receive {session : Session} {received : List Int}
    (r : ReaderInv session received) {t : Int} (fresh : session.previous < t) (isOpen : Bool) :
    ReaderInv ⟨t, isOpen⟩ (received ++ [t]) :=
  ⟨(r.advance fresh isOpen).previous_ge, List.forall_mem_append.2
    ⟨(r.advance fresh isOpen).received_le, List.forall_mem_singleton.2 (Int.le_refl t)⟩⟩

namespace PipeInv

variable {reader : ReaderPc} {removed : Bool} {inFlight received : List Int}
  {outcome : Int → Option Bool}

theorem moveReader (p : PipeInv reader removed inFlight received outcome)
    (away : reader ≠ .finished) (reader' : ReaderPc) (idle : reader'.handing = none) :
    PipeInv reader' removed inFlight received outcome :=
  ⟨fun gone => absurd (p.removed_finished gone) away, p.nodup, p.inFlight_pending,
    fun t h => by rw [idle] at h; cases h⟩

theorem receive (p : PipeInv reader removed inFlight received outcome)
    (scanning : reader = .scanning) {t : Int} (fresh : t ∉ received) (first : outcome t = none)
    {reader' : ReaderPc} (hand : reader'.handing = some t) :
    PipeInv reader' removed inFlight (received ++ [t]) outcome where
  removed_finished gone := by simpa [scanning] using p.removed_finished gone
  nodup := p.nodup
  inFlight_pending u mem := ⟨List.mem_append_left _ (p.inFlight_pending u mem).1,
    (p.inFlight_pending u mem).2⟩
  handing u h := by
    obtain rfl : u = t := by rw [hand] at h; exact (Option.some.inj h).symm
    exact ⟨List.mem_append_right _ (List.mem_singleton_self _), first,
      fun mem => fresh (p.inFlight_pending u mem).1⟩

/-- The reader forwards the success of an empty syslog frame. -/
theorem forwardEmpty (p : PipeInv reader removed inFlight received outcome) {t : Int}
    (forwarding : reader = .forwarding t) (ok : Bool) :
    PipeInv .scanning removed inFlight received (Function.update outcome t (some ok)) where
  removed_finished gone := by simpa [forwarding] using p.removed_finished gone
  nodup := p.nodup
  inFlight_pending u mem := by
    have ne : u ≠ t := fun same => (p.handing t (by rw [forwarding]; rfl)).2.2 (same ▸ mem)
    rw [Function.update_noteq ne]; exact p.inFlight_pending u mem
  handing u h := by cases h

theorem enqueue (p : PipeInv reader removed inFlight received outcome) {t : Int}
    (queueing : reader = .queueing t) :
    PipeInv .scanning removed (inFlight ++ [t]) received outcome where
  removed_finished gone := by simpa [queueing] using p.removed_finished gone
  nodup := by
    have hand := p.handing t (by rw [queueing]; rfl)
    exact List.nodup_append.2 ⟨p.nodup, List.nodup_singleton t, List.disjoint_singleton.2 hand.2.2⟩
  inFlight_pending := by
    have hand := p.handing t (by rw [queueing]; rfl)
    exact List.forall_mem_append.2
      ⟨p.inFlight_pending, List.forall_mem_singleton.2 ⟨hand.1, hand.2.1⟩⟩
  handing u h := by cases h

/-- The pipeline delivers the outcome of `t`; no other txnr's outcome changes. -/
theorem deliver (p : PipeInv reader removed inFlight received outcome) {t : Int}
    (mem : t ∈ inFlight) {outcome' : Int → Option Bool}
    (others : ∀ u ≠ t, outcome' u = outcome u) :
    PipeInv reader removed (inFlight.erase t) received outcome' where
  removed_finished := p.removed_finished
  nodup := p.nodup.erase t
  inFlight_pending u mem' := by
    obtain ⟨ne, old⟩ := (p.nodup.mem_erase_iff).1 mem'
    rw [others u ne]; exact p.inFlight_pending u old
  handing u h := by
    obtain ⟨recv, first, absent⟩ := p.handing u h
    have ne : u ≠ t := fun same => absent (same ▸ mem)
    exact ⟨recv, by rw [others u ne, first], fun mem' => absent (List.mem_of_mem_erase mem')⟩

theorem remove (p : PipeInv reader removed inFlight received outcome) :
    PipeInv .finished true inFlight received outcome :=
  ⟨fun _ => rfl, p.nodup, p.inFlight_pending, fun t h => by cases h⟩

end PipeInv

namespace CookerInv

variable {cooker : CookerPc} {removed : Bool} {ack : AckState} {wrote : List Response}

/-- The cooker moves between places where it holds no line. -/
theorem leave (c : CookerInv cooker removed ack wrote) (noWrite : cooker.toWrite = [])
    (settled : removed = true ∨ cooker.toCommit = []) (cooker' : CookerPc)
    (idle : cooker'.toWrite = [] ∧ cooker'.toCommit = []) : CookerInv cooker' removed ack wrote where
  round line mem := by simp [idle.1, idle.2] at mem
  wrote_eq live := by
    have := c.wrote_eq live
    rcases settled with gone | none
    · simp [gone] at live
    · rw [idle.2]; rw [none] at this; exact this
  wrote_prefix := by simpa [noWrite, idle.1] using c.wrote_prefix
  fromCooker := by simpa [noWrite, idle.1] using c.fromCooker

theorem remove (c : CookerInv cooker removed ack wrote) : CookerInv cooker true ack wrote :=
  ⟨fun _ _ gone => (nomatch gone), fun gone => (nomatch gone), c.wrote_prefix, c.fromCooker⟩

/-- The reader's `Received` keeps the round the cooker is in. -/
theorem receive (c : CookerInv cooker removed ack wrote) (inv : AckInv ack) {t : Int}
    (fresh : ∀ r ∈ ack.received, r < t) (above : -1 < t) :
    CookerInv cooker removed (ack.receive t) wrote where
  round line mem live := by
    have round := c.round line mem live
    exact cookRound_of_nextToCommit_eq
      (inv.receive_nextToCommit fresh above (cookRound_some round).1) round
  wrote_eq := c.wrote_eq
  wrote_prefix := c.wrote_prefix.trans (List.prefix_append _ _)
  fromCooker := c.fromCooker

theorem forward (c : CookerInv cooker removed ack wrote) (ok : Bool) (t : Int) :
    CookerInv cooker removed (ack.forward ok t) wrote where
  round line mem live :=
    cookRound_of_nextToCommit_eq (ack.forward_nextToCommit ok t) (c.round line mem live)
  wrote_eq := c.wrote_eq
  wrote_prefix := c.wrote_prefix
  fromCooker := c.fromCooker

theorem take (c : CookerInv cooker removed ack wrote) (taking : cooker = .taking) :
    CookerInv .cooking removed ack.take wrote := by
  subst taking
  exact ⟨fun line mem => by simp [CookerPc.toWrite, CookerPc.toCommit] at mem, c.wrote_eq,
    c.wrote_prefix, c.fromCooker⟩

/-- `NextToCommit` found a txnr whose outcome a local map holds. -/
theorem choose (c : CookerInv cooker removed ack wrote) (live : removed = false) (inv : AckInv ack)
    (cooking : cooker = .cooking) {line : Response} {conn : ConnState} {cooker' : Cooker}
    (round : cookRound ack.conn ack.cooker = some (line, conn, cooker')) :
    CookerInv (.answering line) removed ack wrote := by
  subst cooking live
  obtain ⟨commit_eq, fromCooker, -⟩ := cookRound_commitLine round
  have wrote_eq : wrote = ack.written := by simpa [CookerPc.toCommit] using c.wrote_eq rfl
  have next := inv.cook round
  refine ⟨fun l mem _ => ?_, fun _ => by simpa [CookerPc.toCommit] using wrote_eq, ?_, ?_⟩
  · obtain rfl : l = line := by simpa [CookerPc.toWrite, CookerPc.toCommit] using mem
    rw [round, commit_eq]
  · simpa [wrote_eq, CookerPc.toWrite] using next.answeredPrefix
  · intro l mem
    rcases List.mem_append.1 mem with old | new
    · exact c.fromCooker l (by simpa [CookerPc.toWrite] using old)
    · obtain rfl : l = line := by simpa [CookerPc.toWrite] using new
      exact fromCooker

theorem write (c : CookerInv cooker removed ack wrote) {line : Response}
    (answering : cooker = .answering line) :
    CookerInv (.committing line) removed ack (wrote ++ [line]) := by
  subst answering
  refine ⟨fun l mem live =>
      c.round l (by simpa [CookerPc.toWrite, CookerPc.toCommit] using mem) live,
    fun live => ?_, by simpa [CookerPc.toWrite] using c.wrote_prefix,
    by simpa [CookerPc.toWrite] using c.fromCooker⟩
  simpa [CookerPc.toCommit] using c.wrote_eq live

theorem commit (c : CookerInv cooker removed ack wrote) (live : removed = false) {line : Response}
    (committing : cooker = .committing line) :
    CookerInv .cooking removed (ack.commit line) wrote := by
  subst committing live
  refine ⟨fun l mem => by simp [CookerPc.toWrite, CookerPc.toCommit] at mem, fun _ => ?_,
    by simpa [CookerPc.toWrite] using c.wrote_prefix, by simpa [CookerPc.toWrite] using c.fromCooker⟩
  simpa [CookerPc.toCommit, AckState.commit] using c.wrote_eq rfl

end CookerInv

namespace ConnInv

variable {s : Connection} (inv : ConnInv s)
include inv

/-- A pass of the scan loop over a frame it decoded. -/
theorem pass (scanning : s.reader = .scanning) {line : Bytes} (rest : List Bytes)
    {verdict : Verdict} (decoded : handleFrame s.session line = .ok verdict) :
    ConnInv (s.pass rest verdict) := by
  have notFinished : s.reader ≠ .finished := by simp [scanning]
  have notClosing : s.reader ≠ .closing := by simp [scanning]
  cases verdict with
  | reject reason =>
      exact ⟨inv.ack, inv.reader, inv.pipe.moveReader notFinished .removing rfl, inv.cooker,
        inv.wire.moveReader notClosing .removing⟩
  | openSession t data =>
      obtain ⟨fresh, fits⟩ := handleFrame_acts decoded rfl
      exact ⟨inv.ack, inv.reader.advance fresh true, inv.pipe, inv.cooker,
        inv.wire.openReply scanning data fresh (by simpa [Verdict.fits] using fits)⟩
  | closeSession t =>
      obtain ⟨fresh, -⟩ := handleFrame_acts decoded rfl
      exact ⟨inv.ack, inv.reader.advance fresh false, inv.pipe.moveReader notFinished .closing rfl,
        inv.cooker, inv.wire.closeReply scanning fresh inv.reader.received_le⟩
  | syslog t data =>
      obtain ⟨fresh, fits⟩ := handleFrame_acts decoded rfl
      have above (r) (mem : r ∈ s.ack.received) : r < t :=
        Int.lt_of_le_of_lt (inv.reader.received_le r mem) fresh
      have minus : -1 < t := Int.lt_of_le_of_lt inv.reader.previous_ge fresh
      have absent : t ∉ s.ack.received := fun mem => Int.lt_irrefl t (above t mem)
      have hand : (if data = [] then ReaderPc.forwarding t else .queueing t).handing = some t := by
        split <;> rfl
      exact ⟨inv.ack.received above minus, inv.reader.receive fresh _,
        inv.pipe.receive scanning absent (inv.ack.no_outcome_of_not_received absent) hand,
        inv.cooker.receive inv.ack above minus,
        inv.wire.receive scanning fresh (by simpa [Verdict.fits] using fits) _⟩

/-- The cooker writes the line it chose. -/
theorem write {line : Response} (answering : s.cooker = .answering line) :
    ConnInv { s with cooker := .committing line, wrote := s.wrote ++ [line], out := s.emit line } := by
  have pre : (s.wrote ++ [line]).map Response.txnr <+: s.ack.received := by
    simpa [answering, CookerPc.toWrite] using inv.cooker.wrote_prefix
  exact ⟨inv.ack, inv.reader, inv.pipe, inv.cooker.write answering,
    inv.wire.cookerLine (inv.cooker.fromCooker line (by simp [answering, CookerPc.toWrite]))
      (pre.subset (by simp)) (lt_of_prefix_append pre inv.ack.sorted) inv.reader.received_le⟩

/-- `NextToCommit` and the local maps. -/
theorem next (cooking : s.cooker = .cooking) : ConnInv { s with cooker := s.nextLine } := by
  have idle := inv.cooker.leave (by simp [cooking, CookerPc.toWrite])
  unfold Connection.nextLine
  by_cases gone : s.removed = true
  · rw [if_pos gone]
    exact ⟨inv.ack, inv.reader, inv.pipe, idle (.inl gone) .waiting ⟨rfl, rfl⟩, inv.wire⟩
  · rw [if_neg gone]
    rcases round : cookRound s.ack.conn s.ack.cooker with _ | ⟨line, conn, cooker⟩
    · exact ⟨inv.ack, inv.reader, inv.pipe,
        idle (.inr (by simp [cooking, CookerPc.toCommit])) .waiting ⟨rfl, rfl⟩, inv.wire⟩
    · exact ⟨inv.ack, inv.reader, inv.pipe,
        inv.cooker.choose (by simpa using gone) inv.ack cooking round, inv.wire⟩

/-- The end of a round: the local map entry is deleted and `Committed` called. -/
theorem commit {line : Response} (committing : s.cooker = .committing line) :
    ConnInv { s with cooker := .cooking
                     ack := if s.removed then s.ack else s.ack.commit line } := by
  by_cases gone : s.removed = true
  · rw [if_pos gone]
    exact ⟨inv.ack, inv.reader, inv.pipe, inv.cooker.leave (by simp [committing, CookerPc.toWrite])
      (.inl gone) .cooking ⟨rfl, rfl⟩, inv.wire⟩
  · rw [if_neg gone]
    have live : s.removed = false := by simpa using gone
    have round := inv.cooker.round line
      (by simp [committing, CookerPc.toWrite, CookerPc.toCommit]) live
    exact ⟨inv.ack.cook round, inv.reader, inv.pipe, inv.cooker.commit live committing, inv.wire⟩

end ConnInv

/-- Every step keeps the invariant. -/
theorem connInv_step {s s' : Connection} (inv : ConnInv s) (step : ConnStep s s') : ConnInv s' := by
  cases step with
  | pass line rest verdict scanning _ decoded => exact inv.pass scanning rest decoded
  | panic line rest p scanning =>
      exact ⟨inv.ack, inv.reader, inv.pipe.moveReader (by simp [scanning]) .crashed rfl, inv.cooker,
        inv.wire.closeSocket .crashed⟩
  | scanEnd scanning =>
      exact ⟨inv.ack, inv.reader, inv.pipe.moveReader (by simp [scanning]) .removing rfl, inv.cooker,
        inv.wire.moveReader (by simp [scanning]) .removing⟩
  | closeConn closing =>
      exact ⟨inv.ack, inv.reader, inv.pipe.moveReader (by simp [closing]) .scanning rfl, inv.cooker,
        inv.wire.closeSocket .scanning⟩
  | forwardEmpty t forwarding =>
      have hand := inv.pipe.handing t (by rw [forwarding]; rfl)
      exact ⟨inv.ack.forward true hand.1 hand.2.1, inv.reader, inv.pipe.forwardEmpty forwarding true,
        inv.cooker.forward true t, inv.wire.moveReader (by simp [forwarding]) .scanning⟩
  | enqueue t queueing =>
      exact ⟨inv.ack, inv.reader, inv.pipe.enqueue queueing, inv.cooker,
        inv.wire.moveReader (by simp [queueing]) .scanning⟩
  | removeConn removing =>
      exact ⟨inv.ack, inv.reader, inv.pipe.remove, inv.cooker.remove,
        inv.wire.moveReader (by simp [removing]) .finished⟩
  | release => exact ⟨inv.ack, inv.reader, inv.pipe, inv.cooker, inv.wire.closeSocket s.reader⟩
  | outcome ok t mem =>
      by_cases gone : s.removed = true
      · rw [if_pos gone]
        exact ⟨inv.ack, inv.reader, inv.pipe.deliver mem fun _ _ => rfl, inv.cooker, inv.wire⟩
      · rw [if_neg gone]
        have pending := inv.pipe.inFlight_pending t mem
        exact ⟨inv.ack.forward ok pending.1 pending.2, inv.reader,
          inv.pipe.deliver mem fun u ne => Function.update_noteq ne _ _, inv.cooker.forward ok t,
          inv.wire⟩
  | wait waiting =>
      exact ⟨inv.ack, inv.reader, inv.pipe, inv.cooker.leave (by simp [waiting, CookerPc.toWrite])
        (.inr (by simp [waiting, CookerPc.toCommit])) .taking ⟨rfl, rfl⟩, inv.wire⟩
  | waitEnd waiting =>
      exact ⟨inv.ack, inv.reader, inv.pipe, inv.cooker.leave (by simp [waiting, CookerPc.toWrite])
        (.inr (by simp [waiting, CookerPc.toCommit])) .exited ⟨rfl, rfl⟩, inv.wire⟩
  | take taking =>
      by_cases gone : s.removed = true
      · rw [if_pos gone]
        exact ⟨inv.ack, inv.reader, inv.pipe, inv.cooker.leave (by simp [taking, CookerPc.toWrite])
          (.inl gone) .cooking ⟨rfl, rfl⟩, inv.wire⟩
      · rw [if_neg gone]
        exact ⟨inv.ack.take, inv.reader, inv.pipe, inv.cooker.take taking, inv.wire⟩
  | next cooking => exact inv.next cooking
  | write line answering => exact inv.write answering
  | commit line committing => exact inv.commit committing

theorem connInv_reachable {stream : Bytes} {s : Connection} (reach : ConnReachable stream s) :
    ConnInv s := by
  induction reach with
  | refl => exact connInv_initial _
  | tail _ step ih => exact connInv_step ih step

/--
For every stream and every interleaving, the lines written to the client other
than the close reply carry increasing txnrs; the close reply's txnr is above
every other line's and only the cooker's lines follow it; and every cooker line
answers a txnr the reader passed to `Received`.
-/
theorem handleConnection_responses_ordered {stream : Bytes} {s : Connection}
    (reach : ConnReachable stream s) :
    ((s.out.filter fun l => !l.isCloseReply).map Response.txnr).Pairwise (· < ·) ∧
      (∀ c, .closeReply c ∈ s.out → ∀ l ∈ s.out, l ≠ .closeReply c → l.txnr < c) ∧
      (∀ pre c post, s.out = pre ++ .closeReply c :: post → ∀ l ∈ post, l.fromCooker) ∧
      (∀ l ∈ s.out, l.fromCooker → l.txnr ∈ s.ack.received) := by
  have inv := connInv_reachable reach
  refine ⟨inv.wire.sorted, fun c mem => (inv.wire.close_last c mem).1, inv.wire.after_close,
    fun l mem fromCooker => inv.cooker.wrote_prefix.subset ?_⟩
  exact List.mem_map_of_mem _ (List.mem_append_left _ (inv.wire.out_wrote l mem fromCooker))

theorem handleConnection_responses_ordered_closeRace :
    ∃ s, ConnReachable closeRaceStream s ∧ s.out = [.openReply 1 [], .closeReply 3, .ok 2] ∧
      ((s.out.filter fun l => !l.isCloseReply).map Response.txnr).Pairwise (· < ·) ∧
      (∀ c, .closeReply c ∈ s.out → ∀ l ∈ s.out, l ≠ .closeReply c → l.txnr < c) ∧
      (∀ pre c post, s.out = pre ++ .closeReply c :: post → ∀ l ∈ post, l.fromCooker) ∧
      (∀ l ∈ s.out, l.fromCooker → l.txnr ∈ s.ack.received) := by
  obtain ⟨s, reach, -, out⟩ := closeRace_reachable
  exact ⟨s, reach, out, handleConnection_responses_ordered reach⟩

end Skewer.Relp
