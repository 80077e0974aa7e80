import Skewer.Relp.Wire

/-!
# The RELP connection reader

One pass of `HandleConnection`'s scan loop decodes the token the scanner
returned with `bytes.SplitN(line, " ", 4)` and either ends the handler on a
protocol error or acts on the frame. The loop keeps two variables between
passes: the txnr of the previous frame and whether the session is open.
-/

namespace Skewer.Relp

open Skewer.Go

/-- The early returns of the scan loop; each adds one to `relp_protocol_errors_total`. -/
inductive ProtocolError where
  | txnrNotIncreased
  | missingData
  | openTwice
  | closeBeforeOpen
  | syslogBeforeOpen
  | unknownCommand (command : Bytes)
  deriving DecidableEq, Repr

/-- The warning each early return logs. -/
def ProtocolError.message : ProtocolError → String
  | .txnrNotIncreased => "TXNR did not increase"
  | .missingData => "datalen is non-null, but no data is provided"
  | .openTwice => "Received open command twice"
  | .closeBeforeOpen => "Received close command before open"
  | .syslogBeforeOpen => "Received syslog command before open"
  | .unknownCommand _ => "Unknown RELP command"

/-- What one pass of the loop does with a frame. -/
inductive Verdict where
  | reject (reason : ProtocolError)
  | openSession (txnr : Int) (data : Bytes)
  | closeSession (txnr : Int)
  | syslog (txnr : Int) (data : Bytes)
  deriving DecidableEq, Repr

namespace Verdict

/-- The verdicts on which the handler acts: a reply, `Received`, or an enqueue. -/
def acts : Verdict → Bool
  | reject _ => false
  | _ => true

def txnr : Verdict → Int
  | reject _ => -1
  | openSession t _ | closeSession t | syslog t _ => t

/-- Whether the verdict's command is allowed in a session that is open or not. -/
def fits (relpIsOpen : Bool) : Verdict → Bool
  | reject _ => false
  | openSession .. => !relpIsOpen
  | closeSession _ | syslog .. => relpIsOpen

end Verdict

/-- The loop variables `previous` and `relpIsOpen`. -/
structure Session where
  previous : Int
  relpIsOpen : Bool
  deriving DecidableEq, Repr

def Session.initial : Session := ⟨-1, false⟩

/-- The loop variables after a pass that did not return. -/
def Session.next (session : Session) : Verdict → Session
  | .reject _ => session
  | .openSession t _ => ⟨t, true⟩
  | .closeSession t => ⟨t, false⟩
  | .syslog t _ => ⟨t, session.relpIsOpen⟩

/-- The `switch command` of the scan loop. -/
def dispatch (relpIsOpen : Bool) (txnr : Int) (command data : Bytes) : Verdict :=
  if command = ascii "open" then
    if relpIsOpen then .reject .openTwice else .openSession txnr data
  else if command = ascii "close" then
    if relpIsOpen then .closeSession txnr else .reject .closeBeforeOpen
  else if command = ascii "syslog" then
    if relpIsOpen then .syslog txnr data else .reject .syslogBeforeOpen
  else .reject (.unknownCommand command)

/--
One pass of the scan loop over the token `line`. The errors of both `Atoi`
calls are discarded, and `splits[1]` and `splits[2]` are indexed without a
length check.
-/
def handleFrame (session : Session) (line : Bytes) : Except Panic Verdict :=
  let splits := splitN 32 4 line
  (index splits 0).bind fun first =>
  let txnr := (atoi first).1
  if txnr ≤ session.previous then .ok (.reject .txnrNotIncreased)
  else
    (index splits 1).bind fun command =>
    (index splits 2).bind fun datalenField =>
    if (atoi datalenField).1 = 0 then .ok (dispatch session.relpIsOpen txnr command [])
    else if splits.length = 4 then
      .ok (dispatch session.relpIsOpen txnr command (trim spaceCutset (splits.getD 3 [])))
    else .ok (.reject .missingData)

/--
The outcome of each pass of the loop over the tokens `lines`, with the
session the frame found, up to the first pass that returns or panics.
-/
def scanTrace (session : Session) : List Bytes → List (Session × Except Panic Verdict)
  | [] => []
  | line :: rest =>
      match handleFrame session line with
      | .ok (.reject reason) => [(session, .ok (.reject reason))]
      | .error p => [(session, .error p)]
      | .ok verdict => (session, .ok verdict) :: scanTrace (session.next verdict) rest

/-! ## One pass -/

/-- The commands the session state admits: `open` while closed, `close` and `syslog` while open. -/
def commandFits (relpIsOpen : Bool) (command : Bytes) : Prop :=
  (command = ascii "open" ∧ relpIsOpen = false) ∨
    ((command = ascii "close" ∨ command = ascii "syslog") ∧ relpIsOpen = true)

theorem dispatch_acts_iff {relpIsOpen : Bool} {txnr : Int} {command data : Bytes} :
    (dispatch relpIsOpen txnr command data).acts ↔ commandFits relpIsOpen command := by
  unfold dispatch commandFits
  split_ifs <;> simp_all [Verdict.acts]; decide

theorem dispatch_txnr_fits {relpIsOpen : Bool} {txnr : Int} {command data : Bytes}
    (acts : (dispatch relpIsOpen txnr command data).acts) :
    (dispatch relpIsOpen txnr command data).txnr = txnr ∧
      (dispatch relpIsOpen txnr command data).fits relpIsOpen := by
  unfold dispatch at acts ⊢
  split_ifs at acts ⊢ <;> simp_all [Verdict.acts, Verdict.txnr, Verdict.fits]

theorem dispatch_rejects {relpIsOpen : Bool} {txnr : Int} {command data : Bytes}
    (unfit : ¬ commandFits relpIsOpen command) :
    ∃ reason, dispatch relpIsOpen txnr command data = .reject reason := by
  rw [← @dispatch_acts_iff relpIsOpen txnr command data] at unfit
  cases h : dispatch relpIsOpen txnr command data <;> simp_all [Verdict.acts]

/-- A frame the loop acts on has a fresh txnr and a command the session allows. -/
theorem handleFrame_acts {session : Session} {line : Bytes} {verdict : Verdict}
    (h : handleFrame session line = .ok verdict) (acts : verdict.acts) :
    session.previous < verdict.txnr ∧ verdict.fits session.relpIsOpen := by
  unfold handleFrame at h
  rcases hs : splitN 32 4 line with _ | ⟨first, _ | ⟨command, _ | ⟨datalen, rest⟩⟩⟩ <;>
    simp only [hs, index, Except.bind] at h
  · cases h
  all_goals
    split_ifs at h with fresh <;> cases h <;>
      first
      | (simp [Verdict.acts] at acts; done)
      | obtain ⟨txnr_eq, fits⟩ := dispatch_txnr_fits acts
        exact ⟨by rw [txnr_eq]; omega, fits⟩

/-- A token cut into three pieces or more with a stale txnr or an unfit command is rejected. -/
theorem handleFrame_rejects {session : Session} {line first command datalen : Bytes}
    {rest : List Bytes} (hs : splitN 32 4 line = first :: command :: datalen :: rest)
    (violates : (atoi first).1 ≤ session.previous ∨ ¬ commandFits session.relpIsOpen command) :
    ∃ reason, handleFrame session line = .ok (.reject reason) := by
  unfold handleFrame
  simp only [hs, index, Except.bind]
  split_ifs with stale
  all_goals first
    | exact ⟨_, rfl⟩
    | obtain ⟨reason, rejected⟩ :=
        @dispatch_rejects _ (atoi first).1 _ _ (violates.resolve_left stale)
      exact ⟨reason, by rw [rejected]⟩

/-! ## The scan loop -/

/-- How a frame the loop acts on leaves the session: `open` opens it, `close` closes it. -/
def openStep (isOpen : Bool) : Verdict → Bool
  | .openSession .. => true
  | .closeSession _ => false
  | _ => isOpen

/-- Whether the session is open after the frames `history`. -/
def openAfter (history : List Verdict) : Bool := history.foldl openStep false

theorem openAfter_append (history : List Verdict) (verdict : Verdict) :
    openAfter (history ++ [verdict]) = openStep (openAfter history) verdict := by
  simp [openAfter]

theorem Session.next_relpIsOpen (session : Session) (verdict : Verdict) :
    (session.next verdict).relpIsOpen = openStep session.relpIsOpen verdict := by
  cases verdict <;> rfl

/-- The verdicts of the passes of a trace that did not panic. -/
def verdictsOf (trace : List (Session × Except Panic Verdict)) : List Verdict :=
  trace.filterMap fun entry => entry.2.toOption

/-- The loop variables summarise the frames acted on so far. -/
structure Summarises (session : Session) (history : List Verdict) : Prop where
  acted : ∀ v ∈ history, v.acts
  below : ∀ v ∈ history, v.txnr ≤ session.previous
  isOpen : session.relpIsOpen = openAfter history

theorem summarises_initial : Summarises Session.initial [] :=
  ⟨by simp, by simp, rfl⟩

theorem Summarises.next {session : Session} {history : List Verdict} {line : Bytes}
    {verdict : Verdict} (inv : Summarises session history)
    (pass : handleFrame session line = .ok verdict) (acts : verdict.acts) :
    Summarises (session.next verdict) (history ++ [verdict]) := by
  have fresh := (handleFrame_acts pass acts).1
  have previous_eq : (session.next verdict).previous = verdict.txnr := by
    cases verdict <;> simp_all [Session.next, Verdict.acts, Verdict.txnr]
  refine ⟨?_, ?_, ?_⟩
  · exact List.forall_mem_append.2 ⟨inv.acted, List.forall_mem_singleton.2 acts⟩
  · rw [previous_eq]
    exact List.forall_mem_append.2
      ⟨fun v old => Int.le_of_lt (Int.lt_of_le_of_lt (inv.below v old) fresh),
        List.forall_mem_singleton.2 (Int.le_refl _)⟩
  · rw [openAfter_append, ← inv.isOpen, Session.next_relpIsOpen]

/-- What one pass may do, given the frames the loop acted on before it. -/
structure PassAllowed (earlier : List Verdict) (line : Bytes)
    (outcome : Except Panic Verdict) : Prop where
  fresh : ∀ v, outcome = .ok v → v.acts → ∀ w ∈ earlier, w.txnr < v.txnr
  fits : ∀ v, outcome = .ok v → v.acts → v.fits (openAfter earlier)
  rejects : ∀ first command datalen rest,
    splitN 32 4 line = first :: command :: datalen :: rest →
    (∃ w ∈ earlier, (atoi first).1 ≤ w.txnr) ∨ ¬ commandFits (openAfter earlier) command →
    ∃ reason, outcome = .ok (.reject reason)

theorem passAllowed_handleFrame {session : Session} {history : List Verdict}
    (inv : Summarises session history) (line : Bytes) :
    PassAllowed history line (handleFrame session line) where
  fresh v pass acts w hw := Int.lt_of_le_of_lt (inv.below w hw) (handleFrame_acts pass acts).1
  fits v pass acts := inv.isOpen ▸ (handleFrame_acts pass acts).2
  rejects first command datalen rest hs violates := by
    refine handleFrame_rejects hs ?_
    rw [inv.isOpen]
    rcases violates with ⟨w, hw, stale⟩ | unfit
    · exact .inl (Int.le_trans stale (inv.below w hw))
    · exact .inr unfit

theorem scanTrace_cons (session : Session) (line : Bytes) (rest : List Bytes) :
    scanTrace session (line :: rest) =
      (session, handleFrame session line) ::
        match handleFrame session line with
        | .ok v => if v.acts then scanTrace (session.next v) rest else []
        | .error _ => [] := by
  simp only [scanTrace]
  split <;> simp_all [Verdict.acts]

theorem scanTrace_passes (lines : List Bytes) {session : Session} {history : List Verdict}
    (inv : Summarises session history) (k : Nat) (entry : Session × Except Panic Verdict)
    (found : (scanTrace session lines)[k]? = some entry) :
    PassAllowed (history ++ verdictsOf ((scanTrace session lines).take k)) (lines.getD k [])
        entry.2 ∧
      ((scanTrace session lines)[k + 1]? ≠ none → ∃ v, entry.2 = .ok v ∧ v.acts) := by
  induction lines generalizing session history k with
  | nil => simp [scanTrace] at found
  | cons line rest ih =>
      rw [scanTrace_cons] at found ⊢
      cases k with
      | zero =>
          simp only [List.getElem?_cons_zero, Option.some.injEq] at found
          subst found
          refine ⟨by simpa [verdictsOf] using passAllowed_handleFrame inv line, fun more => ?_⟩
          rcases hframe : handleFrame session line with panic | verdict
          · simp [hframe] at more
          · cases acts : verdict.acts
            · simp [hframe, acts] at more
            · exact ⟨verdict, rfl, acts⟩
      | succ k =>
          simp only [List.getElem?_cons_succ] at found ⊢
          rcases hframe : handleFrame session line with panic | verdict
          · simp [hframe] at found
          · cases acts : verdict.acts
            · simp [hframe, acts] at found
            · simp only [hframe, acts, if_true] at found ⊢
              simpa [verdictsOf, Except.toOption, hframe] using ih (inv.next hframe acts) k found

/-- The stream of the reopening scenario: frames pipelined behind a `close`. -/
def reopenStream : Bytes := ascii "1 open 0\n2 close 0\n3 open 0\n4 syslog 5 hello\n"

/--
`conn.Close()` does not leave the loop: the frames buffered behind the close
are still read, the third reopens the session and the fourth is enqueued.
-/
theorem handler_reads_past_close :
    (scanTrace Session.initial (scanStream reopenStream)).map Prod.snd =
      [.ok (.openSession 1 []), .ok (.closeSession 2), .ok (.openSession 3 []),
        .ok (.syslog 4 (ascii "hello"))] := by
  decide

/--
The loop acts on a frame only when its txnr exceeds that of every earlier
frame and its command fits the session state, where a `close` closes the
session again and the loop goes on; every pass but the last acts, and a
violating frame that `SplitN` cuts into three pieces or more is rejected, so
it ends the loop with the single protocol error of the run.
-/
theorem handleConnection_acts_in_order (lines : List Bytes) (k : Nat)
    (entry : Session × Except Panic Verdict)
    (found : (scanTrace Session.initial lines)[k]? = some entry) :
    PassAllowed (verdictsOf ((scanTrace Session.initial lines).take k)) (lines.getD k [])
        entry.2 ∧
      ((scanTrace Session.initial lines)[k + 1]? ≠ none → ∃ v, entry.2 = .ok v ∧ v.acts) := by
  simpa using scanTrace_passes lines summarises_initial k entry found

theorem handleConnection_acts_in_order_reopen :
    (scanTrace Session.initial (scanStream reopenStream))[2]? =
        some (⟨2, false⟩, .ok (.openSession 3 [])) ∧
      PassAllowed (verdictsOf ((scanTrace Session.initial (scanStream reopenStream)).take 2))
        ((scanStream reopenStream).getD 2 []) (.ok (.openSession 3 [])) :=
  have found : (scanTrace Session.initial (scanStream reopenStream))[2]? =
      some (⟨2, false⟩, .ok (.openSession 3 [])) := by
    decide
  ⟨found, (handleConnection_acts_in_order _ 2 _ found).1⟩

/--
`1 syslog\n3\nabc\n`: `RelpSplit` reads the three header fields across the
LFs, while the handler's `SplitN` on spaces finds only two pieces of the
token, so `splits[2]` panics.
-/
theorem relpSplit_token_panics_handler :
    scanStream (ascii "1 syslog\n3\nabc\n") = [ascii "1 syslog\n3\nabc"] ∧
      splitN 32 4 (ascii "1 syslog\n3\nabc") = [ascii "1", ascii "syslog\n3\nabc"] ∧
      handleFrame ⟨-1, true⟩ (ascii "1 syslog\n3\nabc") = .error .indexOutOfRange := by
  decide

end Skewer.Relp
