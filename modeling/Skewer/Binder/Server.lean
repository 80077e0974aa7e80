import Mathlib.Logic.Relation
import Skewer.Go.Bytes
import Skewer.Go.HashMap

/-!
# The binder

`binderOne` serves one child over a UNIX socket with two goroutines: the
command goroutine reads the child's lines and binds listeners and packet
sockets; the handler goroutine records every connection and packet socket it
is handed, with the file it duplicates from it, and closes them on demand. An
accept goroutine per listener hands the handler each accepted connection.

Package `net` is modelled by the dynamic types its functions return; whether a
system call succeeds is an argument of the step that makes it.
-/

namespace Skewer.Binder

open Skewer.Go

/-! ## Package `net` -/

/-- The dynamic type behind a `net.Listener`, `net.Conn` or `net.PacketConn`. -/
inductive NetType where
  | tcpListener
  | unixListener
  | tcpConn
  | udpConn
  | unixConn
  deriving DecidableEq, Repr

/-- The type `net.Listen(network, address)` returns when it succeeds. -/
def listenType (network : Bytes) : Option NetType :=
  if network ∈ [ascii "tcp", ascii "tcp4", ascii "tcp6"] then some .tcpListener
  else if network ∈ [ascii "unix", ascii "unixpacket"] then some .unixListener
  else none

/-- The type of the connections `Accept` returns. -/
def acceptType : NetType → NetType
  | .unixListener => .unixConn
  | _ => .tcpConn

/--
The type `net.ListenPacket(network, address)` returns when it succeeds. The
`ip` networks need a protocol after a colon, which a network cut at the first
colon cannot carry, so they fail.
-/
def listenPacketType (network : Bytes) : Option NetType :=
  if network ∈ [ascii "udp", ascii "udp4", ascii "udp6"] then some .udpConn
  else if network = ascii "unixgram" then some .unixConn
  else none

/-- Modelled from the spec: `IsStream`, true for the networks the spec calls stream. -/
def isStream (network : Bytes) : Bool :=
  decide (network ∈ [ascii "tcp", ascii "tcp4", ascii "tcp6", ascii "unix", ascii "unixpacket"])

/-! ## `BinderListen`, `BinderPacket` and the type assertions -/

/-- `strings.SplitN(addr, ":", 2)[0]`. -/
def networkOf (addr : Bytes) : Except Panic Bytes := index (splitN 58 2 addr) 0

/--
`BinderListen(ctx, logger, schan, addr)`: the listener's type, or `none` when
`net.Listen` fails; `bound` says whether the system call succeeds.
-/
def binderListen (addr : Bytes) (bound : Bool) : Except Panic (Option NetType) := do
  let parts := splitN 58 2 addr
  let lnet ← index parts 0
  let _laddr ← index parts 1
  match if bound then listenType lnet else none with
  | none => pure none
  | some listener =>
      if lnet = ascii "unix" ∨ lnet = ascii "unixpacket" then
        if listener = .unixListener then pure (some listener) else throw .typeAssertion
      else pure (some listener)

/-- `BinderPacket(addr)`: the socket's type, or `none` when `net.ListenPacket` fails. -/
def binderPacket (addr : Bytes) (bound : Bool) : Except Panic (Option NetType) := do
  let parts := splitN 58 2 addr
  let lnet ← index parts 0
  let _laddr ← index parts 1
  match if bound then listenPacketType lnet else none with
  | none => pure none
  | some conn =>
      if lnet = ascii "unixgram" then
        if conn = .unixConn then pure (some conn) else throw .typeAssertion
      else if conn = .udpConn then pure (some conn) else throw .typeAssertion

/-- The handler's assertion on a connection accepted on a listener for `addr`. -/
def assertConn (addr : Bytes) (conn : NetType) : Except Panic Unit := do
  let lnet ← networkOf addr
  if lnet = ascii "unix" then
    if conn = .unixConn then pure () else throw .typeAssertion
  else if conn = .tcpConn then pure () else throw .typeAssertion

/-- The handler's assertion on a packet socket bound for `addr`. -/
def assertPacket (addr : Bytes) (conn : NetType) : Except Panic Unit := do
  let lnet ← networkOf addr
  if lnet = ascii "unixgram" then
    if conn = .unixConn then pure () else throw .typeAssertion
  else if conn = .udpConn then pure () else throw .typeAssertion

/-- The command and the argument string the command goroutine reads from a line. -/
def parseLine (line : Bytes) : Except Panic (Bytes × Bytes) := do
  let rmsg := trim (ascii " \r\n") line
  let command ← index (splitN 32 2 rmsg) 0
  pure (command, trim (ascii " \r\n") (rmsg.drop command.length))

/-! ## The binder's state -/

/-- What the binder holds: a listener, a packet socket, a connection, or a file. -/
inductive Kind where
  | listener (addr : Bytes) (type : NetType)
  | packet (addr : Bytes)
  | conn (addr : Bytes)
  | file
  deriving DecidableEq, Repr

/-- A message the binder writes to the child. -/
inductive Reply where
  /-- `confirmlisten ADDR`. -/
  | confirmListen (addr : Bytes)
  /-- `newconn UID ADDR`, with the descriptor of the binder's file `file` attached. -/
  | newConn (uid addr : Bytes) (file : Nat)
  /-- `error ADDR MESSAGE`, with the message of the call that failed. -/
  | error (addr : Bytes)
  /-- `stopped ADDR`. -/
  | stopped (addr : Bytes)
  deriving DecidableEq, Repr

/-- The address a reply names. -/
def Reply.addr : Reply → Bytes
  | confirmListen addr | newConn _ addr _ | error addr | stopped addr => addr

/-- Where the command goroutine stands. -/
inductive CommandPc where
  | scanning
  /-- Inside `listen`, with the addresses still to bind. -/
  | listening (addrs : List Bytes)
  /-- Returned, after `byebye` or the end of the control stream: `cancel()` has run. -/
  | done
  deriving DecidableEq, Repr

/--
The binder for one child. Resources and connection UIDs are numbered by
`next`; a connection's UID is its number written in decimal.
-/
structure BinderOne where
  lines : List Bytes
  command : CommandPc
  crashed : Bool
  next : Nat
  /-- The resources open now, with what each one is. -/
  opened : List (Nat × Kind)
  /-- The command goroutine's `listeners`. -/
  listeners : HashMap Bytes Nat
  /-- The handler's `connections`, `packetconnections` and `connfiles`. -/
  connections : HashMap Bytes Nat
  packetconnections : HashMap Bytes Nat
  connfiles : HashMap Bytes Nat
  handlerDone : Bool
  /-- What the two goroutines have written to the child, in order. -/
  replies : List Reply

namespace BinderOne

def initial (lines : List Bytes) : BinderOne :=
  ⟨lines, .scanning, false, 0, [], [], [], [], [], false, []⟩

/-- A write to the child; whether it reaches the child does not change what was written. -/
def write (s : BinderOne) (reply : Reply) : BinderOne := { s with replies := s.replies ++ [reply] }

/-- A new resource, numbered `s.next`. -/
def openRes (s : BinderOne) (kind : Kind) : BinderOne :=
  { s with next := s.next + 1, opened := s.opened ++ [(s.next, kind)] }

def closeRes (s : BinderOne) (id : Nat) : BinderOne :=
  { s with opened := s.opened.filter (·.1 ≠ id) }

/--
The handler keeps a connection or packet socket `id` for `addr` handed to it
under `uid` when `conn.File()` succeeds (`duplicated`), and sends the child
the file's descriptor; otherwise it drops it, open, and writes nothing.
-/
def record (s : BinderOne) (packet : Bool) (uid addr : Bytes) (id : Nat) (duplicated : Bool) :
    BinderOne :=
  if duplicated then
    let s' := (s.openRes .file).write (.newConn uid addr s.next)
    if packet then
      { s' with packetconnections := s.packetconnections.set uid id
                connfiles := s.connfiles.set uid s.next }
    else
      { s' with connections := s.connections.set uid id, connfiles := s.connfiles.set uid s.next }
  else s

/-- The handler's `closeconn` branch for `uid`: the file, then the connection or socket. -/
def closeUid (s : BinderOne) (packet : Bool) (uid : Bytes) : BinderOne :=
  let s := match s.connfiles.get? uid with
    | some f => { s.closeRes f with connfiles := s.connfiles.del uid }
    | none => s
  let conns := if packet then s.packetconnections else s.connections
  match conns.get? uid with
  | some c =>
      if packet then { s.closeRes c with packetconnections := s.packetconnections.del uid }
      else { s.closeRes c with connections := s.connections.del uid }
  | none => s

/-- The handler's `reset` branch: every connection (or socket) and its file. -/
def closeEvery (s : BinderOne) (packet : Bool) : BinderOne :=
  let conns := if packet then s.packetconnections else s.connections
  let s := conns.foldl (fun s entry =>
    let s := s.closeRes entry.2
    match s.connfiles.get? entry.1 with
    | some f => { s.closeRes f with connfiles := s.connfiles.del entry.1 }
    | none => s) s
  if packet then { s with packetconnections := [] } else { s with connections := [] }

/--
The handler's branch for a message with no connection on `schan`, or on
`pchan` when `packet`: for the empty UID, which `reset` sends and `closeconn`
with no argument, every connection (or socket) and its file; otherwise the one
under `uid`.
-/
def handleClose (s : BinderOne) (packet : Bool) (uid : Bytes) : BinderOne :=
  if uid = [] then s.closeEvery packet else s.closeUid packet uid

/-- `stoplisten addr`. -/
def stopListen (s : BinderOne) (addr : Bytes) : BinderOne :=
  let s := match s.listeners.get? addr with
    | some l => { s.closeRes l with listeners := s.listeners.del addr }
    | none => s
  s.write (.stopped addr)

/-- `reset`: every listener, then the empty UID on `schan` and on `pchan`. -/
def reset (s : BinderOne) : BinderOne :=
  let s := { s.listeners.foldl (fun s entry => s.closeRes entry.2) s with listeners := [] }
  (s.handleClose false []).handleClose true []

/-- What the command goroutine does with a line it parsed. -/
def dispatch (s : BinderOne) (command args : Bytes) : BinderOne :=
  if command = ascii "listen" then { s with command := .listening (split 32 args) }
  else if command = ascii "closeconn" then (s.handleClose false args).handleClose true args
  else if command = ascii "stoplisten" then s.stopListen args
  else if command = ascii "reset" then s.reset
  else if command = ascii "byebye" then { s with command := .done }
  else s

/--
One address of a `listen`: a listener kept when the confirmation reaches the
child (`confirmed`), or a packet socket handed to the handler, who keeps it
when `conn.File()` succeeds (`duplicated`).
-/
def listenOne (s : BinderOne) (addr : Bytes) (bound confirmed duplicated : Bool) :
    Except Panic BinderOne := do
  let lnet ← networkOf addr
  if isStream lnet then
    match ← binderListen addr bound with
    | none => pure (s.write (.error addr))
    | some listener =>
        let s' := (s.openRes (.listener addr listener)).write (.confirmListen addr)
        if confirmed then pure { s' with listeners := s.listeners.set addr s.next }
        else pure (s'.closeRes s.next)
  else
    match ← binderPacket addr bound with
    | none => pure (s.write (.error addr))
    | some conn =>
        assertPacket addr conn
        pure ((s.openRes (.packet addr)).record true (itoa s.next) addr s.next duplicated)

/-- The crash that follows a panic in any goroutine. -/
def crash (s : BinderOne) : BinderOne := { s with crashed := true }

end BinderOne

/-- The address and type of the open listener numbered `id`. -/
def BinderOne.listenerOf (s : BinderOne) (id : Nat) : Option (Bytes × NetType) :=
  match s.opened.find? (·.1 = id) with
  | some (_, .listener addr type) => some (addr, type)
  | _ => none

/-- The steps of the command goroutine, the accept goroutines and the handler. -/
inductive BinderStep : BinderOne → BinderOne → Prop
  | line (s : BinderOne) (line : Bytes) (rest : List Bytes) (live : s.crashed = false)
      (scanning : s.command = .scanning) (next : s.lines = line :: rest) :
      BinderStep s (match parseLine line with
        | .ok (command, args) => { s with lines := rest }.dispatch command args
        | .error _ => s.crash)
  | endOfStream (s : BinderOne) (live : s.crashed = false) (scanning : s.command = .scanning)
      (empty : s.lines = []) :
      BinderStep s { s with command := .done }
  | listenOne (s : BinderOne) (addr : Bytes) (rest : List Bytes) (live : s.crashed = false)
      (listening : s.command = .listening (addr :: rest)) (bound confirmed duplicated : Bool) :
      BinderStep s
        (match { s with command := .listening rest }.listenOne addr bound confirmed duplicated with
          | .ok s' => s'
          | .error _ => s.crash)
  | listenDone (s : BinderOne) (live : s.crashed = false) (listening : s.command = .listening []) :
      BinderStep s { s with command := .scanning }
  /-- An accept goroutine hands a new connection to the handler. -/
  | accept (s : BinderOne) (id : Nat) (addr : Bytes) (type : NetType) (live : s.crashed = false)
      (handling : s.handlerDone = false) (listener : s.listenerOf id = some (addr, type))
      (duplicated : Bool) :
      BinderStep s (match assertConn addr (acceptType type) with
        | .ok () => (s.openRes (.conn addr)).record false (itoa s.next) addr s.next duplicated
        | .error _ => s.crash)
  /-- `ctx.Done()` in the handler: it closes its packet sockets and returns. -/
  | handlerEnd (s : BinderOne) (live : s.crashed = false) (done : s.command = .done)
      (handling : s.handlerDone = false) :
      BinderStep s { s.packetconnections.foldl (fun s entry => s.closeRes entry.2) s with
        packetconnections := [], handlerDone := true }
  /--
  `Accept` fails: its goroutine calls `cancel()`, and the listener's other
  goroutine closes it, though `listeners` still holds it.
  -/
  | acceptError (s : BinderOne) (id : Nat) (listener : Bytes × NetType) (live : s.crashed = false)
      (open_ : s.listenerOf id = some listener) :
      BinderStep s (s.closeRes id)
  /-- `ctx.Done()` in a listener's goroutine: `l.Close()`. -/
  | listenerEnd (s : BinderOne) (id : Nat) (listener : Bytes × NetType) (live : s.crashed = false)
      (done : s.command = .done) (open_ : s.listenerOf id = some listener) :
      BinderStep s (s.closeRes id)

def BinderReachable (lines : List Bytes) (s : BinderOne) : Prop :=
  Relation.ReflTransGen BinderStep (BinderOne.initial lines) s

/--
`listen` with no address: `strings.Split` gives one empty address, which is
not a stream network, and `BinderPacket` reads `parts[1]` of a one-element
slice.
-/
theorem listen_without_address_panics :
    binderPacket [] true = .error .indexOutOfRange ∧
      ∃ s, BinderReachable [ascii "listen"] s ∧ s.crashed = true :=
  ⟨by decide, _, .tail (.tail .refl (.line _ _ [] rfl rfl rfl))
    (.listenOne _ [] [] rfl rfl true true true), rfl⟩

/--
A `unixpacket` listener accepts `*net.UnixConn` connections, which the
handler asserts to be `*net.TCPConn` since the network is not `unix`.
-/
theorem unixpacket_connection_panics :
    assertConn (ascii "unixpacket:/tmp/binder.sock") .unixConn = .error .typeAssertion ∧
      ∃ s, BinderReachable [ascii "listen unixpacket:/tmp/binder.sock"] s ∧ s.crashed = true :=
  ⟨by decide, _, .tail (.tail (.tail .refl (.line _ _ [] rfl rfl rfl))
    (.listenOne _ (ascii "unixpacket:/tmp/binder.sock") [] rfl (by decide) true true true))
    (.accept _ 0 (ascii "unixpacket:/tmp/binder.sock") .unixListener rfl rfl (by decide) true),
    by decide⟩

/--
Two `listen` lines for an address that binds anew each time, such as port 0:
the second listener replaces the first in `listeners`, and the first stays
open with no entry left to close it by.
-/
theorem relisten_orphans_listener :
    ∃ s, BinderReachable [ascii "listen tcp:127.0.0.1:0", ascii "listen tcp:127.0.0.1:0"] s ∧
      s.command = .scanning ∧
      (0, .listener (ascii "tcp:127.0.0.1:0") .tcpListener) ∈ s.opened ∧
      s.listeners = [(ascii "tcp:127.0.0.1:0", 1)] :=
  ⟨_, .tail (.tail (.tail (.tail (.tail (.tail .refl
      (.line _ _ _ rfl rfl rfl))
      (.listenOne _ (ascii "tcp:127.0.0.1:0") [] rfl (by decide) true true true))
      (.listenDone _ rfl rfl))
      (.line _ _ [] rfl rfl rfl))
      (.listenOne _ (ascii "tcp:127.0.0.1:0") [] rfl (by decide) true true true))
      (.listenDone _ rfl rfl), rfl, by decide, by decide⟩

/--
A packet socket whose `conn.File()` fails is dropped by the handler without a
word to the child: `listen udp:127.0.0.1:0` ends with nothing written.
-/
theorem packet_without_file_gets_no_reply :
    ∃ s, BinderReachable [ascii "listen udp:127.0.0.1:0"] s ∧ s.command = .scanning ∧
      s.replies = [] :=
  ⟨_, .tail (.tail (.tail .refl (.line _ _ [] rfl rfl rfl))
      (.listenOne _ (ascii "udp:127.0.0.1:0") [] rfl (by decide) true true false))
      (.listenDone _ rfl rfl), rfl, by decide⟩

end Skewer.Binder
