import Mathlib.Data.List.Nodup
import Mathlib.Logic.Relation

/-!
# The acknowledgement pipeline

The way of a syslog frame's message from the reader to `ForwardSucc` or
`ForwardFail`: the raw ring, a `Parse` worker, and then either the store's
`Stash` or the parsed queue, `push2kafka`, the broker and
`handleKafkaResponses`. The parsers, the store, the filter environments and
the broker are outside the repository's files: what they answer for a message
is an argument of the step that asks them, so every answer is allowed.
-/

namespace Skewer.Relp

/-- A message in the pipeline, with the `(ConnID, Txnr)` its acknowledgement goes to. -/
structure Item where
  connID : Nat
  txnr : Int
  deriving DecidableEq, Repr

/-- What `parser.Parse` gave: an error, an empty message, or a message. -/
inductive ParseResult where
  | error
  | empty
  | message
  deriving DecidableEq, Repr

/-- What `s.reporter.Stash` gave: no error, a fatal error, or a non-fatal one. -/
inductive StashResult where
  | stored
  | fatal
  | nonFatal
  deriving DecidableEq, Repr

/-- The verdict of `FilterMessage`: `DROPPED`, `REJECTED`, `PASS`, or any other value. -/
inductive FilterResult where
  | dropped
  | rejected
  | pass
  | other
  deriving DecidableEq, Repr

/-- What one pass of a worker's loop does with its message. -/
inductive PassEffect where
  /-- `ForwardSucc` when `ok`, else `ForwardFail`; the loop goes on. -/
  | forward (ok : Bool)
  /-- `ForwardFail`, then `StopAndWait`; the worker returns. -/
  | forwardAndStop
  /-- The message goes on to the next stage: the parsed queue, or the broker. -/
  | handOn
  /-- Nothing is forwarded; the loop goes on. -/
  | drop
  /-- Nothing is forwarded; the worker returns. -/
  | stop
  deriving DecidableEq, Repr

/-- A pass of `Parse`'s loop over a raw message, in store mode unless `direct`. -/
def parsePass (direct parserFound : Bool) (parsed : ParseResult) (stash : StashResult) :
    PassEffect :=
  if !parserFound then .stop
  else
    match parsed with
    | .error | .empty => .drop
    | .message =>
        if direct then .handOn
        else
          match stash with
          | .stored => .forward true
          | .fatal => .forwardAndStop
          | .nonFatal => .forward false

/--
A pass of `push2kafka`'s loop over a parsed message: the configuration of its
`ConfId`, the topic, the filter, the serialisation, then the broker, or a
direct `ForwardSucc` in test mode.
-/
def pushPass (test configFound topicFound : Bool) (filter : FilterResult) (serialized : Bool) :
    PassEffect :=
  if !configFound then .drop
  else if !topicFound then .forward false
  else
    match filter with
    | .pass => if !serialized then .forward false else if test then .forward true else .handOn
    | _ => .forward false

/-- The reader's `Received` calls, the three stages, and the forwarder calls made so far. -/
structure Pipeline where
  received : List Item
  ring : List Item
  parsedQueue : List Item
  /-- The messages handed to the broker and not yet reported. -/
  broker : List Item
  /-- `ForwardSucc` (`true`) and `ForwardFail` calls, in order. -/
  forwarded : List (Item × Bool)
  /-- `handleKafkaResponses` has returned after a fatal error. -/
  reportsStopped : Bool

def Pipeline.initial : Pipeline := ⟨[], [], [], [], [], false⟩

/-- The forwarder calls after a pass over `item` with effect `effect`. -/
def Pipeline.forwardAfter (s : Pipeline) (item : Item) : PassEffect → List (Item × Bool)
  | .forward ok => s.forwarded ++ [(item, ok)]
  | .forwardAndStop => s.forwarded ++ [(item, false)]
  | _ => s.forwarded

/-- The queue `queue` after a pass that hands `item` on when its effect says so. -/
def handOnTo (queue : List Item) (item : Item) (effect : PassEffect) : List Item :=
  if effect = .handOn then queue ++ [item] else queue

/--
The steps of the pipeline in store mode (`direct = false`) or Kafka mode, with
or without `test`. A worker's pass takes the head of its queue.
-/
inductive PipeStep (direct test : Bool) : Pipeline → Pipeline → Prop
  /-- A syslog frame with data: `Received`, then its raw message on the ring. -/
  | receive (s : Pipeline) (item : Item) (fresh : item ∉ s.received) :
      PipeStep direct test s
        { s with received := s.received ++ [item], ring := s.ring ++ [item] }
  /-- A syslog frame without data: `Received`, then the reader's own `ForwardSucc`. -/
  | receiveEmpty (s : Pipeline) (item : Item) (fresh : item ∉ s.received) :
      PipeStep direct test s
        { s with received := s.received ++ [item], forwarded := s.forwarded ++ [(item, true)] }
  | parse (s : Pipeline) (item : Item) (rest : List Item) (next : s.ring = item :: rest)
      (parserFound : Bool) (parsed : ParseResult) (stash : StashResult) :
      PipeStep direct test s
        { s with ring := rest
                 parsedQueue := handOnTo s.parsedQueue item
                   (parsePass direct parserFound parsed stash)
                 forwarded := s.forwardAfter item (parsePass direct parserFound parsed stash) }
  | push (s : Pipeline) (item : Item) (rest : List Item) (next : s.parsedQueue = item :: rest)
      (configFound topicFound : Bool) (filter : FilterResult) (serialized : Bool) :
      PipeStep direct test s
        { s with parsedQueue := rest
                 broker := handOnTo s.broker item
                   (pushPass test configFound topicFound filter serialized)
                 forwarded := s.forwardAfter item
                   (pushPass test configFound topicFound filter serialized) }
  /-- The broker reports a message, success (`ok`) or error; a fatal error ends the loop. -/
  | report (s : Pipeline) (item : Item) (mem : item ∈ s.broker) (ok fatal : Bool)
      (live : s.reportsStopped = false) :
      PipeStep direct test s
        { s with broker := s.broker.erase item, forwarded := s.forwarded ++ [(item, ok)]
                 reportsStopped := !ok && fatal }

def PipeReachable (direct test : Bool) (s : Pipeline) : Prop :=
  Relation.ReflTransGen (PipeStep direct test) Pipeline.initial s

/-! ## Messages no stage carries -/

/-- `item` was received, no stage carries it and nothing was forwarded for it. -/
structure Orphaned (s : Pipeline) (item : Item) : Prop where
  received : item ∈ s.received
  not_ring : item ∉ s.ring
  not_parsed : item ∉ s.parsedQueue
  not_broker : item ∉ s.broker
  not_forwarded : item ∉ s.forwarded.map Prod.fst

theorem not_mem_handOnTo {queue : List Item} {item other : Item} (absent : item ∉ queue)
    (ne : item ≠ other) (effect : PassEffect) : item ∉ handOnTo queue other effect := by
  unfold handOnTo
  split <;> simp [absent, ne]

theorem Pipeline.not_mem_forwardAfter {s : Pipeline} {item other : Item}
    (absent : item ∉ s.forwarded.map Prod.fst) (ne : item ≠ other) (effect : PassEffect) :
    item ∉ (s.forwardAfter other effect).map Prod.fst := by
  cases effect <;> simp_all [Pipeline.forwardAfter]

/-- A message no stage carries stays unanswered whatever the pipeline does next. -/
theorem Orphaned.step {direct test : Bool} {s s' : Pipeline} {item : Item} (h : Orphaned s item)
    (step : PipeStep direct test s s') : Orphaned s' item := by
  cases step with
  | receive other fresh =>
      have ne : item ≠ other := fun same => fresh (same ▸ h.received)
      exact ⟨List.mem_append_left _ h.received, by simp [h.not_ring, ne], h.not_parsed,
        h.not_broker, h.not_forwarded⟩
  | receiveEmpty other fresh =>
      have ne : item ≠ other := fun same => fresh (same ▸ h.received)
      exact ⟨List.mem_append_left _ h.received, h.not_ring, h.not_parsed, h.not_broker,
        by simp [h.not_forwarded, ne]⟩
  | parse other rest next =>
      have ne : item ≠ other := fun same => h.not_ring (by simp [next, same])
      exact ⟨h.received, fun mem => h.not_ring (by simp [next, mem]),
        not_mem_handOnTo h.not_parsed ne _, h.not_broker,
        Pipeline.not_mem_forwardAfter h.not_forwarded ne _⟩
  | push other rest next =>
      have ne : item ≠ other := fun same => h.not_parsed (by simp [next, same])
      exact ⟨h.received, h.not_ring, fun mem => h.not_parsed (by simp [next, mem]),
        not_mem_handOnTo h.not_broker ne _, Pipeline.not_mem_forwardAfter h.not_forwarded ne _⟩
  | report other mem ok =>
      have ne : item ≠ other := fun same => h.not_broker (same ▸ mem)
      exact ⟨h.received, h.not_ring, h.not_parsed,
        fun mem' => h.not_broker (List.mem_of_mem_erase mem'), by simp [h.not_forwarded, ne]⟩

theorem Orphaned.run {direct test : Bool} {s s' : Pipeline} {item : Item} (h : Orphaned s item)
    (run : Relation.ReflTransGen (PipeStep direct test) s s') : Orphaned s' item := by
  induction run with
  | refl => exact h
  | tail _ step ih => exact ih.step step

/--
In store mode, a message the parser rejects leaves `Parse` with nothing
forwarded and no stage carrying it: its txnr is never acknowledged, whatever
happens afterwards.
-/
theorem parse_error_orphans_txnr :
    ∃ s, PipeReachable false false s ∧
      ∀ s', Relation.ReflTransGen (PipeStep false false) s s' →
        ⟨1, 2⟩ ∈ s'.received ∧ ⟨1, 2⟩ ∉ s'.forwarded.map Prod.fst := by
  have run : PipeReachable false false ⟨[⟨1, 2⟩], [], [], [], [], false⟩ :=
    .tail (.tail .refl (.receive _ ⟨1, 2⟩ (by simp [Pipeline.initial])))
      (.parse _ ⟨1, 2⟩ [] rfl true .error .stored)
  refine ⟨_, run, fun s' later => ?_⟩
  have orphan : Orphaned ⟨[⟨1, 2⟩], [], [], [], [], false⟩ ⟨1, 2⟩ :=
    ⟨by simp, by simp, by simp, by simp, by simp⟩
  exact ⟨(orphan.run later).received, (orphan.run later).not_forwarded⟩

/-! ## Each message held once -/

/-- Where the pipeline holds messages: on a stage, or among the forwarder calls made. -/
def Pipeline.carried (s : Pipeline) : List Item :=
  s.ring ++ s.parsedQueue ++ s.broker ++ s.forwarded.map Prod.fst

/-- A pass puts its message in at most one place: the next stage or a forwarder call. -/
theorem count_pass (s : Pipeline) (queue : List Item) (item x : Item) (effect : PassEffect) :
    (handOnTo queue item effect).count x + ((s.forwardAfter item effect).map Prod.fst).count x ≤
      queue.count x + (s.forwarded.map Prod.fst).count x + [item].count x := by
  cases effect <;> simp [handOnTo, Pipeline.forwardAfter] <;> omega

/--
What a step does to the messages held: it receives one new message and holds
it once, or it receives nothing and only moves, answers or drops messages.
-/
theorem PipeStep.count_carried {direct test : Bool} {s s' : Pipeline}
    (step : PipeStep direct test s s') :
    (s'.received = s.received ∧ ∀ x, s'.carried.count x ≤ s.carried.count x) ∨
      ∃ item ∉ s.received, s'.received = s.received ++ [item] ∧
        ∀ x, s'.carried.count x = s.carried.count x + [item].count x := by
  cases step with
  | receive item fresh =>
      exact .inr ⟨item, fresh, rfl, fun x => by
        simp only [Pipeline.carried, List.count_append]
        omega⟩
  | receiveEmpty item fresh =>
      exact .inr ⟨item, fresh, rfl, fun x => by
        simp only [Pipeline.carried, List.count_append, List.map_append, List.map_cons,
          List.map_nil]
        omega⟩
  | parse item rest next parserFound parsed stash =>
      refine .inl ⟨rfl, fun x => ?_⟩
      have pass := count_pass s s.parsedQueue item x (parsePass direct parserFound parsed stash)
      simp only [Pipeline.carried, next, List.cons_append, List.count_cons, List.count_nil,
        List.count_append, List.map_append] at pass ⊢
      omega
  | push item rest next configFound topicFound filter serialized =>
      refine .inl ⟨rfl, fun x => ?_⟩
      have pass :=
        count_pass s s.broker item x (pushPass test configFound topicFound filter serialized)
      simp only [Pipeline.carried, next, List.cons_append, List.count_cons, List.count_nil,
        List.count_append] at pass ⊢
      omega
  | report item mem ok =>
      refine .inl ⟨rfl, fun x => ?_⟩
      have erased : (s.broker.erase item).count x + [item].count x = s.broker.count x := by
        by_cases same : item = x
        · subst same
          have := List.count_pos_iff.2 mem
          simp only [List.count_erase_self, List.count_singleton_self]
          omega
        · rw [List.count_erase_of_ne (Ne.symm same), List.count_singleton', if_neg same,
            Nat.add_zero]
      simp only [Pipeline.carried, List.map_append, List.count_append, List.map_cons,
        List.map_nil] at erased ⊢
      omega

/-- Every message the pipeline holds was received, and it holds each one once. -/
def HeldOnce (s : Pipeline) : Prop :=
  ∀ x, s.carried.count x ≤ if x ∈ s.received then 1 else 0

theorem heldOnce_initial : HeldOnce Pipeline.initial := by
  simp [HeldOnce, Pipeline.carried, Pipeline.initial]

theorem HeldOnce.step {direct test : Bool} {s s' : Pipeline} (held : HeldOnce s)
    (step : PipeStep direct test s s') : HeldOnce s' := by
  intro x
  rcases step.count_carried with ⟨same, le⟩ | ⟨item, fresh, grown, eq⟩
  · rw [same]; exact (le x).trans (held x)
  · have before := held x
    rw [eq x, grown]
    by_cases new : item = x
    · subst new
      simp only [fresh, if_false, Nat.le_zero] at before
      simp [before]
    · simpa [List.count_singleton', new, Ne.symm new] using before

theorem HeldOnce.reachable {direct test : Bool} {s : Pipeline}
    (reach : PipeReachable direct test s) : HeldOnce s := by
  induction reach with
  | refl => exact heldOnce_initial
  | tail _ step ih => exact ih.step step

/--
In every run, in store mode or in Kafka mode, the pipeline holds each message
in at most one place, a stage or a forwarder call, and holds only messages it
received: no txnr is acknowledged twice, none that was never received, and
none while its message is still on a stage.
-/
theorem pipeline_acks_at_most_once {direct test : Bool} {s : Pipeline}
    (reach : PipeReachable direct test s) :
    s.carried.Nodup ∧ ∀ item ∈ s.carried, item ∈ s.received := by
  have held := HeldOnce.reachable reach
  refine ⟨List.nodup_iff_count_le_one.2 fun x => (held x).trans (by split <;> omega),
    fun item mem => ?_⟩
  have := (List.count_pos_iff.2 mem).trans_le (held item)
  split at this
  · assumption
  · omega

/-- A Kafka-mode run: one message parsed, handed to the broker and reported a success. -/
def kafkaAcked : Pipeline := ⟨[⟨1, 2⟩], [], [], [], [(⟨1, 2⟩, true)], false⟩

theorem pipeline_acks_at_most_once_kafka :
    PipeReachable true false kafkaAcked ∧
      kafkaAcked.carried.Nodup ∧ ∀ item ∈ kafkaAcked.carried, item ∈ kafkaAcked.received :=
  have reach : PipeReachable true false kafkaAcked :=
    .tail (.tail (.tail (.tail .refl (.receive _ ⟨1, 2⟩ (by simp [Pipeline.initial])))
      (.parse _ ⟨1, 2⟩ [] rfl true .message .stored))
      (.push _ ⟨1, 2⟩ [] rfl true true .pass true))
      (.report _ ⟨1, 2⟩ (by decide) true false rfl)
  ⟨reach, pipeline_acks_at_most_once reach⟩

end Skewer.Relp
