import Skewer.Go.Strconv
import Skewer.Services.Parsing
import Skewer.Runs

/-!
# A UDP connection

`UdpHandler.HandleConnection` reads each datagram from its packet connection
into a fresh buffer of 65536 bytes, so a longer datagram is cut to its first
65536 bytes. It sends each one, as a raw message, on the unbuffered
`raw_messages_chan` to the parsing goroutine. The loop ends only when
`ReadFrom` fails, as it does once the connection is closed. The deferred call
then closes the channel, and the parsing goroutine drains it and returns.
-/

namespace Skewer.Udp

open Skewer.Go Skewer.Services

/--
The local port and the unix socket path `HandleConnection` reads off
`conn.LocalAddr()`: the port is `strconv.Atoi` of what follows the last
colon, and the address is taken for a path when that fails.
-/
def localOf : Option Bytes → Int × Bytes
  | none => (0, [])
  | some l =>
      match atoi ((split 58 l).getLastD []) with
      | (port, none) => (port, trimSpace [])
      | (port, some _) => (port, trimSpace l)

/-- The client `HandleConnection` records for a datagram from `remote`: `strings.Split` never returns an empty slice. -/
def clientOf : Option Bytes → Bytes
  | none => ascii "localhost"
  | some remote => (split 58 remote).headD []

/-- The raw message made of a datagram from `remote` read into `packet := make([]byte, 65536)`. -/
def rawOf (localAddr : Option Bytes) (datagram : Option Bytes × Bytes) : RawMessage :=
  ⟨clientOf datagram.1, (localOf localAddr).1, (localOf localAddr).2, datagram.2.take 65536⟩

/-- The reader and the parsing goroutine of one packet connection. -/
structure UdpConnection (α : Type) where
  /-- The datagrams sent to the socket and not read yet, each with its sender's address. -/
  input : List (Option Bytes × Bytes)
  /-- The raw message the reader has made of a datagram and not yet sent. -/
  pending : Option RawMessage
  /-- Whether `HandleConnection` has returned, closing `raw_messages_chan`. -/
  closed : Bool
  parsing : Parsing α

def UdpConnection.init {α : Type} (datagrams : List (Option Bytes × Bytes)) : UdpConnection α :=
  ⟨datagrams, none, false, .initial⟩

/-- What is left of a connection's run. -/
def UdpConnection.work {α : Type} (c : UdpConnection α) : Nat :=
  3 * c.input.length + 2 * c.pending.toList.length + c.parsing.pc.rank +
    (if c.closed then 0 else 1)

section Steps

variable {ε α : Type} (getParser : Bytes → Option (Parser ε α)) (config : SyslogConfig)
  (localAddr : Option Bytes)

/-- The steps of the reader and of the parsing goroutine. -/
inductive UdpStep : UdpConnection α → UdpConnection α → Prop
  /-- `conn.ReadFrom(packet)` returns the next datagram. -/
  | readFrom (c : UdpConnection α) (datagram : Option Bytes × Bytes)
      (rest : List (Option Bytes × Bytes)) (reading : c.closed = false) (empty : c.pending = none)
      (next : c.input = datagram :: rest) :
      UdpStep c { c with input := rest, pending := some (rawOf localAddr datagram) }
  /-- `raw_messages_chan <- &raw`, received by the parsing goroutine. -/
  | send (c : UdpConnection α) (m : RawMessage) (reading : c.closed = false)
      (made : c.pending = some m) (waiting : c.parsing.pc = .receiving) :
      UdpStep c { c with pending := none, parsing := c.parsing.receive m }
  /-- `ReadFrom` fails, as once the connection is closed: the handler returns. -/
  | readError (c : UdpConnection α) (reading : c.closed = false) (empty : c.pending = none) :
      UdpStep c { c with closed := true }
  /-- The parsing goroutine handles its message; `uid` is what `<-s.generator` gives. -/
  | handle (c : UdpConnection α) (m : RawMessage) (uid : Bytes)
      (holding : c.parsing.pc = .holding m) :
      UdpStep c { c with parsing := c.parsing.handle getParser config m uid }
  /-- The channel is closed and empty: the range loop ends. -/
  | drain (c : UdpConnection α) (waiting : c.parsing.pc = .receiving) (closed : c.closed = true) :
      UdpStep c { c with parsing := c.parsing.finish }

/--
The reader has read the first datagrams, and the messages handled, the one
being handled and the one not yet sent are theirs, in order; the stashed
messages are the parses of those handled.
-/
structure Handoff (datagrams : List (Option Bytes × Bytes)) (c : UdpConnection α) : Prop where
  inOrder : ∃ k, c.input = datagrams.drop k ∧
    c.parsing.handled ++ c.parsing.pc.held ++ c.pending.toList =
      (datagrams.take k).map (rawOf localAddr)
  stashes : c.parsing.Stashes getParser config
  ended : c.closed = true → c.pending = none
  returned : c.parsing.pc = .returned → c.closed = true

theorem handoff_init (datagrams : List (Option Bytes × Bytes)) :
    Handoff getParser config localAddr datagrams (UdpConnection.init datagrams : UdpConnection α) :=
  ⟨⟨0, rfl, rfl⟩, Parsing.stashes_initial getParser config, nofun, nofun⟩

/-- Each step keeps the reader and the parsing goroutine in step and lowers `work`. -/
theorem Handoff.step {datagrams : List (Option Bytes × Bytes)} {c c' : UdpConnection α}
    (handoff : Handoff getParser config localAddr datagrams c)
    (step : UdpStep getParser config localAddr c c') :
    Handoff getParser config localAddr datagrams c' ∧ c'.work < c.work := by
  obtain ⟨⟨k, input, inOrder⟩, stashes, ended, returned⟩ := handoff
  cases step with
  | readFrom datagram rest reading empty next =>
      have within : k < datagrams.length := by
        by_contra beyond
        rw [List.drop_eq_nil_of_le (by omega)] at input
        rw [input] at next
        cases next
      have first : datagrams[k]? = some datagram := by
        rw [← List.head?_drop, ← input, next]
        rfl
      refine ⟨⟨⟨k + 1, ?_, ?_⟩, stashes, fun closed => by simp [reading] at closed, returned⟩, ?_⟩
      · rw [← List.drop_drop, ← input, next]
        rfl
      · rw [List.take_succ, first, List.map_append, ← inOrder, empty]
        simp
      · simp [UdpConnection.work, next, empty]
        omega
  | send m reading made waiting =>
      refine ⟨⟨⟨k, input, ?_⟩, stashes, fun closed => by simp [reading] at closed, nofun⟩, ?_⟩
      · rw [← inOrder, made]
        simp [Parsing.receive, ParserPc.held, waiting]
      · simp [UdpConnection.work, made, Parsing.receive, ParserPc.rank, waiting]
  | readError _ empty =>
      exact ⟨⟨⟨k, input, inOrder⟩, stashes, fun _ => empty, fun _ => rfl⟩,
        by simp [UdpConnection.work, *]⟩
  | handle m uid holding =>
      refine ⟨⟨⟨k, input, ?_⟩, stashes.handle getParser config m uid, ended, nofun⟩, ?_⟩
      · simpa [Parsing.handle, ParserPc.held, holding] using inOrder
      · simp [UdpConnection.work, Parsing.handle, ParserPc.rank, holding]
  | drain waiting closed =>
      refine ⟨⟨⟨k, input, ?_⟩, stashes, ended, fun _ => closed⟩, ?_⟩
      · simpa [Parsing.finish, ParserPc.held, waiting] using inOrder
      · simp [UdpConnection.work, Parsing.finish, ParserPc.rank, waiting]

/-- A connection can step until both goroutines have returned. -/
theorem Handoff.progress {datagrams : List (Option Bytes × Bytes)} {c : UdpConnection α}
    (handoff : Handoff getParser config localAddr datagrams c) :
    (∃ c', UdpStep getParser config localAddr c c') ∨
      (c.closed = true ∧ c.parsing.pc = .returned) := by
  cases pc : c.parsing.pc with
  | holding m => exact .inl ⟨_, .handle c m [] pc⟩
  | returned => exact .inr ⟨handoff.returned pc, rfl⟩
  | receiving =>
      cases closed : c.closed
      · cases made : c.pending with
        | none => exact .inl ⟨_, .readError c closed made⟩
        | some m => exact .inl ⟨_, .send c m closed made pc⟩
      · exact .inl ⟨_, .drain c pc closed⟩

/-- Once both goroutines have returned, the parse of every datagram read is stashed. -/
theorem Handoff.stashed_eq {datagrams : List (Option Bytes × Bytes)} {c : UdpConnection α}
    (handoff : Handoff getParser config localAddr datagrams c) (closed : c.closed = true)
    (returned : c.parsing.pc = .returned) :
    ∃ k, c.input = datagrams.drop k ∧ c.parsing.stashed.map (·.parsed) =
      (datagrams.take k).filterMap (parseRaw getParser config ∘ rawOf localAddr) := by
  obtain ⟨⟨k, input, inOrder⟩, stashes, ended, -⟩ := handoff
  refine ⟨k, input, ?_⟩
  rw [returned, ended closed] at inOrder
  rw [stashes, ← List.filterMap_map]
  simpa [ParserPc.held] using congrArg (List.filterMap (parseRaw getParser config)) inOrder

theorem handoff_reachable {datagrams : List (Option Bytes × Bytes)} {c : UdpConnection α}
    (reach : Relation.ReflTransGen (UdpStep getParser config localAddr)
      (UdpConnection.init datagrams) c) :
    Handoff getParser config localAddr datagrams c := by
  induction reach with
  | refl => exact handoff_init getParser config localAddr datagrams
  | tail _ step ih => exact (ih.step getParser config localAddr step).1

end Steps

section Handler

variable {ε α : Type} (getParser : Bytes → Option (Parser ε α)) (config : SyslogConfig)
  (localAddr : Option Bytes)

/--
Whatever the datagrams and the interleaving of the reader, the parsing
goroutine and the connection's close, in every state a run reaches: the
reader has read the first `k` datagrams, and the messages handled, in hand and
not yet sent are theirs, in order, each cut to 65536 bytes; what has been
stashed is the parse of every message handled. No run goes on for ever, and a
run that can go no further has closed the connection, both goroutines have
returned, and the parse of every datagram read is stashed, in order.
-/
theorem udp_connection_stashes_every_datagram (datagrams : List (Option Bytes × Bytes)) :
    (∀ c, Relation.ReflTransGen (UdpStep getParser config localAddr)
        (UdpConnection.init datagrams) c →
      ∃ k, c.input = datagrams.drop k ∧
        c.parsing.handled ++ c.parsing.pc.held ++ c.pending.toList =
          (datagrams.take k).map (rawOf localAddr) ∧
        c.parsing.stashed.map (·.parsed) =
          c.parsing.handled.filterMap (parseRaw getParser config)) ∧
    Acc (fun c' c => UdpStep getParser config localAddr c c')
        (UdpConnection.init datagrams : UdpConnection α) ∧
      ∀ c, Relation.ReflTransGen (UdpStep getParser config localAddr)
          (UdpConnection.init datagrams) c →
        (∃ c', UdpStep getParser config localAddr c c') ∨
          (c.closed = true ∧ c.parsing.pc = .returned ∧ ∃ k, c.input = datagrams.drop k ∧
            c.parsing.stashed.map (·.parsed) =
              (datagrams.take k).filterMap (parseRaw getParser config ∘ rawOf localAddr)) := by
  refine ⟨fun c reach => ?_, run_of_invariant UdpConnection.work
    (fun _ _ (handoff : Handoff getParser config localAddr datagrams _) next =>
      handoff.step getParser config localAddr next)
    (fun _ handoff => (handoff.progress getParser config localAddr).imp id fun ended =>
      ⟨ended.1, ended.2, handoff.stashed_eq getParser config localAddr ended.1 ended.2⟩)
    (handoff_init getParser config localAddr datagrams)⟩
  obtain ⟨⟨k, input, inOrder⟩, stashes, -, -⟩ := handoff_reachable getParser config localAddr reach
  exact ⟨k, input, inOrder, stashes⟩

/-- A datagram from a peer on the network, read on a socket bound to port 514. -/
def oneDatagram : List (Option Bytes × Bytes) := [(some (ascii "10.0.0.1:40000"), ascii "<13>hello")]

/-- The datagram is read, sent to the parsing goroutine and handled. -/
theorem udp_connection_stashes_every_datagram_handled :
    ∃ c : UdpConnection Bytes,
      Relation.ReflTransGen (UdpStep acceptAll ⟨ascii "rfc3164", false, [], 0⟩
        (some (ascii "0.0.0.0:514"))) (UdpConnection.init oneDatagram) c ∧
      c.parsing.handled = oneDatagram.map (rawOf (some (ascii "0.0.0.0:514"))) ∧
      ∃ k, c.input = oneDatagram.drop k ∧
        c.parsing.handled ++ c.parsing.pc.held ++ c.pending.toList =
          (oneDatagram.take k).map (rawOf (some (ascii "0.0.0.0:514"))) ∧
        c.parsing.stashed.map (·.parsed) =
          c.parsing.handled.filterMap (parseRaw acceptAll ⟨ascii "rfc3164", false, [], 0⟩) :=
  have run : Relation.ReflTransGen (UdpStep acceptAll ⟨ascii "rfc3164", false, [], 0⟩
      (some (ascii "0.0.0.0:514"))) (UdpConnection.init oneDatagram) _ :=
    ((Relation.ReflTransGen.single
      (UdpStep.readFrom (UdpConnection.init oneDatagram) _ _ rfl rfl rfl)).tail
      (UdpStep.send _ _ rfl rfl rfl)).tail
      (UdpStep.handle _ _ (ascii "01") rfl)
  ⟨_, run, rfl, (udp_connection_stashes_every_datagram acceptAll ⟨ascii "rfc3164", false, [], 0⟩
    (some (ascii "0.0.0.0:514")) oneDatagram).1 _ run⟩

end Handler

end Skewer.Udp
