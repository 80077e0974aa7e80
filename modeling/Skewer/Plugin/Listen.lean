import Skewer.Go.Bytes

/-!
# The `listen` goroutine of the plugin controller

`PluginController.listen` reads the child's stdout through a scanner and acts
on each line by its first word: it stashes `syslog` messages, answers `Start`
through `startErrorChan` at most once, keeps the listener registry up to date
on `infos`, forwards `metrics`, and returns on a fatal line, on `stopped` or
at the end of the stream. Its deferred function then kills the child when
`kill` is set. The JSON and msgpack decoders are library code, so they are
parameters here: each returns the decoded value or fails.
-/

namespace Skewer.Plugin

open Skewer.Go

/-- The decoders `listen` calls on a line's body. -/
structure Decoders (Info Msg Metric : Type) where
  /-- `json.Unmarshal` into `[]model.ListenerInfo`. -/
  listenerInfos : Bytes → Option (List Info)
  /-- `UnmarshalMsg` into a `model.TcpUdpParsedMessage`. -/
  parsedMessage : Bytes → Option Msg
  /-- `json.Unmarshal` into `[]*dto.MetricFamily`. -/
  metricFamilies : Bytes → Option (List Metric)

/-- The errors `listen` can hand to `Start`. -/
inductive StartError where
  | unexpectedEnd
  | syslogBeforeInit
  | badListenerInfo
  | startError (text : Bytes)
  | confError (text : Bytes)
  | noListener
  | unexpectedMessage
  | scannerError
  deriving DecidableEq, Repr

inductive RegistryCall (Info : Type) where
  | register (info : Info)
  | unregister (info : Info)
  deriving DecidableEq, Repr

/-- How the loop returns. -/
inductive Exit where
  /-- `kill = true`: the deferred function kills the child. -/
  | kill
  /-- `stopped`: `normalStop = true`, the child is left to exit. -/
  | normalStop
  /-- The scanner met the end of stdout; `listen` waits for the child's exit. -/
  | childExited
  deriving DecidableEq, Repr

/-- The variables of the `listen` goroutine, and what it has handed out. -/
structure Listen (Info Msg Metric : Type) where
  initialized : Bool
  /-- The loop's `infos`, declared before the loop. -/
  infos : List Info
  /-- What the `once.Do` sent on `startErrorChan`, if it ran. -/
  startReply : Option (Except StartError (List Info))
  stashed : List Msg
  registry : List (RegistryCall Info)
  metrics : List (List Metric)
  metricsClosed : Bool

namespace Listen

variable {Info Msg Metric : Type}

def initial : Listen Info Msg Metric := ⟨false, [], none, [], [], [], false⟩

/-- `once.Do(func() { startErrorChan <- reply; close(startErrorChan) })`. -/
def reply (s : Listen Info Msg Metric) (r : Except StartError (List Info)) :
    Listen Info Msg Metric :=
  if s.startReply.isNone then { s with startReply := some r } else s

variable (dec : Decoders Info Msg Metric) (registered : Bool)

/--
One line of stdout, with `registered` for `s.registry != nil`. The `started`
branch fills an `infos` it declares itself, so the loop's `infos` is left as
it was.
-/
def line (s : Listen Info Msg Metric) (text : Bytes) : Listen Info Msg Metric × Option Exit :=
  let parts := splitN 32 2 text
  let command := parts.headD []
  let body := parts[1]?
  if command = ascii "syslog" then
    match body with
    | none => (s, none)
    | some b =>
        if !s.initialized then (s.reply (.error .syslogBeforeInit), some .kill)
        else
          match dec.parsedMessage b with
          | some m => ({ s with stashed := s.stashed ++ [m] }, none)
          | none => (s, some .kill)
  else if command = ascii "started" then
    match body with
    | none => (s, none)
    | some b =>
        match dec.listenerInfos b with
        | some infos => ({ s.reply (.ok infos) with initialized := true }, none)
        | none => (s.reply (.error .badListenerInfo), some .kill)
  else if command = ascii "infos" then
    match body with
    | none => (s, none)
    | some b =>
        match dec.listenerInfos b with
        | some newinfos =>
            if registered then
              ({ s with registry := s.registry ++ s.infos.map .unregister ++ newinfos.map .register
                        infos := newinfos }, none)
            else (s, none)
        | none => (s, none)
  else if command = ascii "stopped" then (s, some .normalStop)
  else if command = ascii "shutdown" then (s, none)
  else if command = ascii "starterror" then
    match body with
    | none => (s, none)
    | some b => (s.reply (.error (.startError b)), none)
  else if command = ascii "conferror" then
    match body with
    | none => (s, none)
    | some b => (s.reply (.error (.confError b)), none)
  else if command = ascii "nolistenererror" then (s.reply (.error .noListener), none)
  else if command = ascii "metrics" then
    match body.bind dec.metricFamilies with
    | some families => ({ s with metrics := s.metrics ++ [families] }, none)
    | none => ({ s with metricsClosed := true }, some .kill)
  else (s.reply (.error .unexpectedMessage), some .kill)

/-- The loop over the lines the scanner returns, then the scanner's end. -/
def loop (s : Listen Info Msg Metric) : List Bytes → Bool → Listen Info Msg Metric × Exit
  | [], scanFailed =>
      if scanFailed then (s.reply (.error .scannerError), .kill) else (s, .childExited)
  | text :: rest, scanFailed =>
      match s.line dec registered text with
      | (s, none) => s.loop rest scanFailed
      | (s, some exit) => (s, exit)

end Listen

/--
`listen()`: the loop from its initial variables, then the deferred `once.Do`
that reports an unexpected end to a `Start` still waiting.
-/
def listen {Info Msg Metric : Type} (dec : Decoders Info Msg Metric) (registered : Bool)
    (lines : List Bytes) (scanFailed : Bool) : Listen Info Msg Metric × Exit :=
  let (s, exit) := Listen.initial.loop dec registered lines scanFailed
  (s.reply (.error .unexpectedEnd), exit)

/-! ## Fatal lines and the registry -/

variable {Info Msg Metric : Type} (dec : Decoders Info Msg Metric)

/-- The line `command SP body` the child writes. -/
def frame (command body : Bytes) : Bytes := command ++ 32 :: body

theorem splitN_frame {command : Bytes} (free : 32 ∉ command) (body : Bytes) :
    splitN 32 2 (frame command body) = [command, body] :=
  splitN_two free body

/-- `started` with a well-formed body answers `Start` and sets `initialized`, nothing else. -/
theorem line_started (registered : Bool) (s : Listen Info Msg Metric) {body : Bytes}
    {infos : List Info} (decoded : dec.listenerInfos body = some infos) :
    s.line dec registered (frame (ascii "started") body) =
      ({ s.reply (.ok infos) with initialized := true }, none) := by
  rw [Listen.line, splitN_frame (by decide)]
  simp [decoded, show ascii "started" ≠ ascii "syslog" by decide]

/-- `infos` is never fatal: a body that does not decode is ignored. -/
theorem line_infos (registered : Bool) (s : Listen Info Msg Metric) (body : Bytes) :
    s.line dec registered (frame (ascii "infos") body) =
      match dec.listenerInfos body with
      | some newinfos =>
          if registered then
            ({ s with registry := s.registry ++ s.infos.map .unregister ++ newinfos.map .register
                      infos := newinfos }, none)
          else (s, none)
      | none => (s, none) := by
  rw [Listen.line, splitN_frame (by decide)]
  simp [show ascii "infos" ≠ ascii "syslog" by decide, show ascii "infos" ≠ ascii "started" by decide]

/--
An `infos` line before any `started`, whether or not its body decodes, is not
fatal: the loop goes on and, at the end of stdout, `listen` leaves the child
to exit.
-/
theorem infos_before_started_not_fatal (registered : Bool) (body : Bytes) :
    (listen dec registered [frame (ascii "infos") body] false).2 = .childExited := by
  cases decoded : dec.listenerInfos body <;> cases registered <;>
    simp [listen, Listen.loop, line_infos, decoded]

/--
The `started` branch fills its own `infos`, so the first `infos` line after it
unregisters nothing and the listeners `started` announced stay registered.
-/
theorem infos_after_started_unregisters_nothing {announced renewed : List Info} {x y : Bytes}
    (hx : dec.listenerInfos x = some announced) (hy : dec.listenerInfos y = some renewed) :
    (listen dec true [frame (ascii "started") x, frame (ascii "infos") y] false).1.registry =
      renewed.map .register := by
  simp [listen, Listen.loop, line_started dec true _ hx, line_infos, hy, Listen.initial,
    Listen.reply]

/-- Listener infos decoded as the one listener the body names. -/
def namedListener : Decoders Bytes Unit Unit := ⟨fun b => some [b], fun _ => none, fun _ => none⟩

theorem infos_after_started_unregisters_nothing_named :
    namedListener.listenerInfos (ascii "a") = some [ascii "a"] ∧
      namedListener.listenerInfos (ascii "b") = some [ascii "b"] ∧
      (listen namedListener true
          [frame (ascii "started") (ascii "a"), frame (ascii "infos") (ascii "b")] false).1.registry =
        [.register (ascii "b")] :=
  ⟨rfl, rfl, infos_after_started_unregisters_nothing namedListener rfl rfl⟩

/-! ## What the registry holds -/

section Registry

variable [DecidableEq Info]

/-- A registry's listeners after one call: `RegisterTcpListener` adds one, `UnregisterTcpListener` removes one. -/
def RegistryCall.apply (held : List Info) : RegistryCall Info → List Info
  | .register info => held ++ [info]
  | .unregister info => held.erase info

/-- What a registry that starts empty holds after these calls. -/
def registryHolds (calls : List (RegistryCall Info)) : List Info :=
  calls.foldl RegistryCall.apply []

theorem foldl_apply_unregister (infos : List Info) :
    (infos.map .unregister).foldl RegistryCall.apply infos = [] := by
  induction infos with
  | nil => rfl
  | cons info rest ih => simpa [RegistryCall.apply] using ih

theorem foldl_apply_register (held infos : List Info) :
    (infos.map .register).foldl RegistryCall.apply held = held ++ infos := by
  induction infos generalizing held with
  | nil => simp
  | cons info rest ih => simp [RegistryCall.apply, ih]

/-- Unregistering the listeners a registry holds, then registering new ones, leaves the new ones. -/
theorem registryHolds_renew {calls : List (RegistryCall Info)} {old : List Info}
    (holds : registryHolds calls = old) (new : List Info) :
    registryHolds (calls ++ old.map .unregister ++ new.map .register) = new := by
  simp only [registryHolds, List.foldl_append] at holds ⊢
  rw [holds, foldl_apply_unregister, foldl_apply_register, List.nil_append]

end Registry

/--
The registry and the loop's `infos` after a step: as they were, or the old
`infos` unregistered and new ones registered, which become the loop's `infos`.
-/
def Renews (s t : Listen Info Msg Metric) : Prop :=
  (t.registry = s.registry ∧ t.infos = s.infos) ∨
    ∃ new, t.registry = s.registry ++ s.infos.map .unregister ++ new.map .register ∧ t.infos = new

section Registry

variable [DecidableEq Info]

theorem Renews.holds {s t : Listen Info Msg Metric} (renews : Renews s t)
    (holds : registryHolds s.registry = s.infos) : registryHolds t.registry = t.infos := by
  rcases renews with ⟨registry, infos⟩ | ⟨new, registry, infos⟩
  · rw [registry, infos, holds]
  · rw [registry, infos, registryHolds_renew holds]

end Registry

end Skewer.Plugin
