import Skewer.Go.Bytes
import Mathlib.Logic.Relation

/-!
# The parsing goroutine of the TCP and UDP handlers

`HandleConnection` of the TCP service and of the UDP service starts a
goroutine that ranges over `raw_messages_chan`. For each raw message it asks
the parsers' environment for the parser of the connection's format and parses
the message. When that succeeds it takes a ULID from `s.generator` and passes
the parsed message to `s.stasher.Stash`. A message with no parser for its
format, or that fails to parse, is dropped. The two handlers' goroutines are
the same code, written once here.

The parsers' environment (`NewParsersEnv`, `GetParser`, `Parse`) is not among
the sources: it is a parameter, from a format to its parser, if any.
-/

namespace Skewer.Services

open Skewer.Go

/-- The fields of `conf.SyslogConfig` the handlers read. -/
structure SyslogConfig where
  format : Bytes
  dontParseSD : Bool
  confId : Bytes
  /-- `Timeout`, a `time.Duration` in nanoseconds: the TCP handler's read deadline, when positive. -/
  timeout : Int
  deriving DecidableEq, Repr

/-- `model.RawMessage`. -/
structure RawMessage where
  client : Bytes
  localPort : Int
  unixSocketPath : Bytes
  message : Bytes
  deriving DecidableEq, Repr

/-- `model.ParsedMessage`, with the fields a parser returns of type `α`. -/
structure ParsedMessage (α : Type) where
  fields : α
  client : Bytes
  localPort : Int
  unixSocketPath : Bytes
  deriving DecidableEq, Repr

/-- `model.TcpUdpParsedMessage`. -/
structure TcpUdpParsedMessage (α : Type) where
  parsed : ParsedMessage α
  uid : Bytes
  confId : Bytes
  deriving DecidableEq, Repr

/-- `parser.Parse(m.Message, config.DontParseSD)`, failing with an error of type `ε`. -/
abbrev Parser (ε α : Type) := Bytes → Bool → Except ε α

section Parse

variable {ε α : Type} (getParser : Bytes → Option (Parser ε α)) (config : SyslogConfig)

/-- What the goroutine makes of a raw message: the parsed message, or nothing. -/
def parseRaw (m : RawMessage) : Option (ParsedMessage α) :=
  match getParser config.format with
  | none => none
  | some parser =>
      match parser m.message config.dontParseSD with
      | .ok p => some ⟨p, m.client, m.localPort, m.unixSocketPath⟩
      | .error _ => none

/-- One pass of the loop; `uid` is what `<-s.generator` gives when the message parses. -/
def handleRaw (uid : Bytes) (stashed : List (TcpUdpParsedMessage α)) (m : RawMessage) :
    List (TcpUdpParsedMessage α) :=
  match parseRaw getParser config m with
  | none => stashed
  | some parsed => stashed ++ [⟨parsed, uid, config.confId⟩]

theorem handleRaw_parsed (uid : Bytes) (stashed : List (TcpUdpParsedMessage α))
    (m : RawMessage) :
    (handleRaw getParser config uid stashed m).map (·.parsed) =
      stashed.map (·.parsed) ++ (parseRaw getParser config m).toList := by
  unfold handleRaw
  cases parseRaw getParser config m <;> simp

end Parse

/-- A parsers' environment whose parser, for every format, accepts every message as it is. -/
def acceptAll : Bytes → Option (Parser Unit Bytes) := fun _ => some fun m _ => .ok m

/-! ## The goroutine -/

/-- Where the parsing goroutine stands. -/
inductive ParserPc where
  /-- At `for m := range raw_messages_chan`. -/
  | receiving
  /-- Handling the message it has received. -/
  | holding (m : RawMessage)
  /-- The channel is closed and drained: the goroutine has returned. -/
  | returned
  deriving DecidableEq, Repr

/-- The message the goroutine is handling, if any. -/
def ParserPc.held : ParserPc → List RawMessage
  | .holding m => [m]
  | _ => []

def ParserPc.rank : ParserPc → Nat
  | .holding _ => 2
  | .receiving => 1
  | .returned => 0

/-- The parsing goroutine, with the messages it has handled as ghost state. -/
structure Parsing (α : Type) where
  pc : ParserPc
  /-- The messages it has received and handled, in order. -/
  handled : List RawMessage
  /-- What it has passed to `s.stasher.Stash`, in order. -/
  stashed : List (TcpUdpParsedMessage α)
  deriving DecidableEq, Repr

namespace Parsing

variable {ε α : Type} (getParser : Bytes → Option (Parser ε α)) (config : SyslogConfig)

def initial : Parsing α := ⟨.receiving, [], []⟩

/-- `raw_messages_chan` hands it `m`. -/
def receive (p : Parsing α) (m : RawMessage) : Parsing α := { p with pc := .holding m }

/-- It handles `m`, with the ULID `uid`, and goes back to the channel. -/
def handle (p : Parsing α) (m : RawMessage) (uid : Bytes) : Parsing α :=
  { pc := .receiving, handled := p.handled ++ [m],
    stashed := handleRaw getParser config uid p.stashed m }

/-- The channel is closed: the range loop ends. -/
def finish (p : Parsing α) : Parsing α := { p with pc := .returned }

/-- What has been stashed is, in order, the parse of every message handled. -/
def Stashes (p : Parsing α) : Prop :=
  p.stashed.map (·.parsed) = p.handled.filterMap (parseRaw getParser config)

theorem stashes_initial : (initial : Parsing α).Stashes getParser config := rfl

theorem Stashes.handle {p : Parsing α} (stashes : p.Stashes getParser config) (m : RawMessage)
    (uid : Bytes) : (p.handle getParser config m uid).Stashes getParser config := by
  unfold Stashes at stashes ⊢
  simp only [Parsing.handle, handleRaw_parsed, stashes, List.filterMap_append]
  cases parsed : parseRaw getParser config m <;> simp [parsed]

end Parsing

end Skewer.Services
