import Skewer.Relp.Cooker
import Skewer.Relp.Handler

/-!
# One RELP connection

`HandleConnection` (the reader), the `handleResponses` goroutine it starts
(the cooker) and the pipeline that acknowledges queued messages, as one step
system over the connection's state. Every access to shared state is a step of
its own: a socket write, a socket close, each call on the forwarder. A step
only touches the goroutine's own locals besides, so every interleaving of the
three goroutines is a run of the system.

A write reaches the client unless the socket is closed. The socket is closed
by the reader's `conn.Close()` after a close reply, by the crash that follows a
panic, and possibly by `RemoveConnection`, whose code is not in the
repository's files: the `release` step lets it close the socket at any time
after the handler has returned, or never.
-/

namespace Skewer.Relp

open Skewer.Go

/-- Where `HandleConnection` stands. -/
inductive ReaderPc where
  /-- At `scanner.Scan()`. -/
  | scanning
  /-- The close reply is written; `conn.Close()` is next. -/
  | closing
  /-- `Received` was called for a syslog frame without data; `ForwardSucc` is next. -/
  | forwarding (txnr : Int)
  /-- `Received` was called for a syslog frame; the raw message goes on the ring next. -/
  | queueing (txnr : Int)
  /-- The loop has returned; the deferred `RemoveConn` is next. -/
  | removing
  | finished
  | crashed
  deriving DecidableEq, Repr

/-- Where `handleResponses` stands. -/
inductive CookerPc where
  /-- At `s.forwarder.Wait(connID)`. -/
  | waiting
  /-- `Wait` returned true; `GetSucc`, then maybe `GetFail`, is next. -/
  | taking
  /-- At the top of the `Cooking` loop. -/
  | cooking
  /-- `NextToCommit` chose the txnr of `line` and a local map holds its outcome. -/
  | answering (line : Response)
  /-- `line` is written; deleting it from the local map and `Committed` are next. -/
  | committing (line : Response)
  | exited
  deriving DecidableEq, Repr

/-- The txnr the reader has passed to `Received` and still has to hand on. -/
def ReaderPc.handing : ReaderPc → Option Int
  | forwarding t | queueing t => some t
  | _ => none

namespace CookerPc

/-- The line chosen by `NextToCommit` and not yet written. -/
def toWrite : CookerPc → List Response
  | answering line => [line]
  | _ => []

/-- The line written and not yet committed. -/
def toCommit : CookerPc → List Response
  | committing line => [line]
  | _ => []

end CookerPc

def Response.isCloseReply : Response → Bool
  | .closeReply _ => true
  | _ => false

/-- The forwarder's entries of the connection, the three goroutines and the socket. -/
structure Connection where
  /-- The tokens the scanner has still to return. -/
  frames : List Bytes
  session : Session
  reader : ReaderPc
  /-- The forwarder's entries, the cooker's local maps and their ghosts. -/
  ack : AckState
  cooker : CookerPc
  /-- The txnrs whose raw message is in the pipeline and not yet acknowledged. -/
  inFlight : List Int
  removed : Bool
  closed : Bool
  /-- The lines the cooker passed to `conn.Write`. -/
  wrote : List Response
  /-- The lines that reached the client, in order. -/
  out : List Response

def Connection.initial (frames : List Bytes) : Connection :=
  ⟨frames, Session.initial, .scanning, AckState.initial, .waiting, [], false, false, [], []⟩

/-- `conn.Write(line)`: the lines that reached the client afterwards. -/
def Connection.emit (s : Connection) (line : Response) : List Response :=
  if s.closed then s.out else s.out ++ [line]

/-- The reader's pass over a frame it decoded to `verdict`, up to its first call on shared state. -/
def Connection.pass (s : Connection) (rest : List Bytes) (verdict : Verdict) : Connection :=
  let s' := { s with frames := rest, session := s.session.next verdict }
  match verdict with
  | .reject _ => { s' with reader := .removing }
  | .openSession t data => { s' with out := s.emit (.openReply t data) }
  | .closeSession t => { s' with reader := .closing, out := s.emit (.closeReply t) }
  | .syslog t data =>
      { s' with ack := s.ack.receive t
                reader := if data = [] then .forwarding t else .queueing t }

/-- `GetSucc`, and `GetFail` when it gave `-1`. -/
def AckState.take (s : AckState) : AckState :=
  { s with conn := (takeOutcome s.conn s.cooker).1, cooker := (takeOutcome s.conn s.cooker).2 }

/-- `delete(successes, next)` or `delete(failures, next)`, then `Committed(connID, next)`. -/
def commitLine (conn : ConnState) (cooker : Cooker) : Response → ConnState × Cooker
  | .ok t => (conn.committed t, { cooker with successes := Function.update cooker.successes t false })
  | .ko t => (conn.committed t, { cooker with failures := Function.update cooker.failures t false })
  | _ => (conn, cooker)

/-- The end of a round of the `Cooking` loop, with the committed line recorded. -/
def AckState.commit (s : AckState) (line : Response) : AckState :=
  { s with conn := (commitLine s.conn s.cooker line).1, cooker := (commitLine s.conn s.cooker line).2
           written := s.written ++ [line] }

/-- `NextToCommit` and the local maps: the line to write, or back to `Wait`. -/
def Connection.nextLine (s : Connection) : CookerPc :=
  if s.removed then .waiting
  else
    match cookRound s.ack.conn s.ack.cooker with
    | none => .waiting
    | some (line, _, _) => .answering line

/-- The steps of the reader, the pipeline and the cooker. -/
inductive ConnStep : Connection → Connection → Prop
  | pass (s : Connection) (line : Bytes) (rest : List Bytes) (verdict : Verdict)
      (scanning : s.reader = .scanning) (next : s.frames = line :: rest)
      (decoded : handleFrame s.session line = .ok verdict) :
      ConnStep s (s.pass rest verdict)
  | panic (s : Connection) (line : Bytes) (rest : List Bytes) (p : Panic)
      (scanning : s.reader = .scanning) (next : s.frames = line :: rest)
      (decoded : handleFrame s.session line = .error p) :
      ConnStep s { s with reader := .crashed, closed := true }
  /-- The scanner stops: end of stream, read error or deadline. -/
  | scanEnd (s : Connection) (scanning : s.reader = .scanning) :
      ConnStep s { s with reader := .removing }
  | closeConn (s : Connection) (closing : s.reader = .closing) :
      ConnStep s { s with reader := .scanning, closed := true }
  | forwardEmpty (s : Connection) (t : Int) (forwarding : s.reader = .forwarding t) :
      ConnStep s { s with reader := .scanning, ack := s.ack.forward true t }
  | enqueue (s : Connection) (t : Int) (queueing : s.reader = .queueing t) :
      ConnStep s { s with reader := .scanning, inFlight := s.inFlight ++ [t] }
  | removeConn (s : Connection) (removing : s.reader = .removing) :
      ConnStep s { s with reader := .finished, removed := true }
  | release (s : Connection) (finished : s.reader = .finished) :
      ConnStep s { s with closed := true }
  /-- The pipeline's `ForwardSucc` (`ok`) or `ForwardFail` for a message it carried. -/
  | outcome (s : Connection) (ok : Bool) (t : Int) (mem : t ∈ s.inFlight) :
      ConnStep s { s with inFlight := s.inFlight.erase t
                          ack := if s.removed then s.ack else s.ack.forward ok t }
  | wait (s : Connection) (waiting : s.cooker = .waiting) (live : s.removed = false)
      (ready : s.ack.conn.ready) :
      ConnStep s { s with cooker := .taking }
  | waitEnd (s : Connection) (waiting : s.cooker = .waiting) (gone : s.removed = true) :
      ConnStep s { s with cooker := .exited }
  | take (s : Connection) (taking : s.cooker = .taking) :
      ConnStep s { s with cooker := .cooking, ack := if s.removed then s.ack else s.ack.take }
  | next (s : Connection) (cooking : s.cooker = .cooking) :
      ConnStep s { s with cooker := s.nextLine }
  | write (s : Connection) (line : Response) (answering : s.cooker = .answering line) :
      ConnStep s { s with cooker := .committing line, wrote := s.wrote ++ [line]
                          out := s.emit line }
  | commit (s : Connection) (line : Response) (committing : s.cooker = .committing line) :
      ConnStep s { s with cooker := .cooking
                          ack := if s.removed then s.ack else s.ack.commit line }

/-- The states a connection reaches from the tokens the scanner cuts out of `stream`. -/
def ConnReachable (stream : Bytes) (s : Connection) : Prop :=
  Relation.ReflTransGen ConnStep (Connection.initial (scanStream stream)) s

/-- A close frame read while the syslog frame before it still waits for its ack. -/
def closeRaceStream : Bytes := ascii "1 open 0\n2 syslog 1 a\n3 close 0\n"

/--
The reader writes the close reply, the pipeline then acknowledges 2 and the
cooker writes its answer before the reader's `conn.Close()`.
-/
theorem closeRace_reachable :
    ∃ s, ConnReachable closeRaceStream s ∧ s.ack.received = [2] ∧
      s.out = [.openReply 1 [], .closeReply 3, .ok 2] :=
  ⟨_, .head (.pass _ (ascii "1 open 0") [ascii "2 syslog 1 a", ascii "3 close 0"]
        (.openSession 1 []) rfl (by decide) (by decide))
    (.head (.pass _ (ascii "2 syslog 1 a") [ascii "3 close 0"] (.syslog 2 (ascii "a")) rfl
        (by decide) (by decide))
    (.head (.enqueue _ 2 rfl)
    (.head (.pass _ (ascii "3 close 0") [] (.closeSession 3) rfl (by decide) (by decide))
    (.head (.outcome _ true 2 (by decide))
    (.head (.wait _ rfl rfl (by decide))
    (.head (.take _ rfl)
    (.head (.next _ rfl)
    (.head (.write _ (.ok 2) (by decide))
    (.head (.closeConn _ rfl) .refl))))))))), rfl, by decide⟩

theorem handleConnection_close_overtakes_answer :
    ∃ s, ConnReachable closeRaceStream s ∧ 2 ∈ s.ack.received ∧
      s.out = [.openReply 1 [], .closeReply 3, .ok 2] ∧
      ¬ (s.out.map Response.txnr).Pairwise (· < ·) := by
  obtain ⟨s, reach, received, out⟩ := closeRace_reachable
  exact ⟨s, reach, by simp [received], out, by rw [out]; decide⟩

end Skewer.Relp
