import Skewer.Tcp.Framing
import Skewer.Services.Parsing
import Skewer.Runs

/-!
# A TCP connection

`tcpHandler.HandleConnection` reads its connection with a `bufio.Scanner`.
The split function is `TcpSplit` for the formats `rfc5424`, `rfc3164`, `json`
and `auto`, and `LFTcpSplit` for any other. Each token goes, as a raw message,
on the unbuffered `raw_messages_chan` to the parsing goroutine. When `Scan`
returns false the handler returns, and its deferred call closes the channel;
the parsing goroutine then drains it and returns. A panic in the split
function, or the scanner's panic on too many empty tokens, ends the process.

When `config.Timeout` is positive the handler arms a read deadline before the
first `Scan`, and again after each token. A `Read` that waits past it fails,
and `Scan` ends as at the end of the input, having read no more
(`Scanner.timeOut`). When the deadline passes is not modelled: any `Read` may
fail so. The client and the local port, read off the connection's addresses
once, are parameters.
-/

namespace Skewer.Tcp

open Skewer.Go Skewer.Relp Skewer.Services

/-- The split function `HandleConnection` gives its scanner for `format`. -/
def splitFor (format : Bytes) : Bytes → Bool → Except Panic SplitResult :=
  if format ∈ [ascii "rfc5424", ascii "rfc3164", ascii "json", ascii "auto"] then tcpSplit
  else lfTcpSplit

/-- `model.RawMessage{Client: client, LocalPort: local_port, Message: scanner.Text()}`. -/
def rawOf (client : Bytes) (localPort : Int) (token : Bytes) : RawMessage :=
  ⟨client, localPort, [], token⟩

/-- The reader and the parsing goroutine of one connection. -/
structure TcpConnection (α : Type) where
  /-- The reader's scanner. -/
  scanner : Scanner
  /-- How many of the scanner's tokens the reader has sent on `raw_messages_chan`. -/
  sent : Nat
  /-- Whether `HandleConnection` has returned, closing `raw_messages_chan`. -/
  closed : Bool
  /-- Whether a panic has ended the process. -/
  crashed : Bool
  parsing : Parsing α

def TcpConnection.init {α : Type} (stream : Bytes) : TcpConnection α :=
  ⟨tcpScanner stream, 0, false, false, .initial⟩

section Steps

variable {ε α : Type} (getParser : Bytes → Option (Parser ε α)) (config : SyslogConfig)
  (client : Bytes) (localPort : Int)

/-- The steps of the reader and of the parsing goroutine. -/
inductive TcpStep : TcpConnection α → TcpConnection α → Prop
  /-- A pass of the loop of `scanner.Scan()`, once every token returned is sent. -/
  | scan (c : TcpConnection α) (s' : Scanner) (live : c.crashed = false)
      (reading : c.closed = false) (caughtUp : c.sent = c.scanner.tokens.length)
      (step : ScanStep (splitFor config.format) 65536 c.scanner s') :
      TcpStep c { c with scanner := s' }
  /-- `raw_messages_chan <- &raw`, received by the parsing goroutine. -/
  | send (c : TcpConnection α) (token : Bytes) (live : c.crashed = false)
      (reading : c.closed = false) (next : c.scanner.tokens[c.sent]? = some token)
      (waiting : c.parsing.pc = .receiving) :
      TcpStep c { c with sent := c.sent + 1,
                         parsing := c.parsing.receive (rawOf client localPort token) }
  /-- `Read` fails: the read deadline, armed when `config.Timeout` is positive, has passed. -/
  | deadline (c : TcpConnection α) (live : c.crashed = false) (reading : c.closed = false)
      (caughtUp : c.sent = c.scanner.tokens.length) (armed : 0 < config.timeout)
      (filling : c.scanner.pc = .fill) :
      TcpStep c { c with scanner := c.scanner.timeOut }
  /-- `Scan` returned false: the handler returns, and the deferred `close` runs. -/
  | hangUp (c : TcpConnection α) (err : Option ScanError) (live : c.crashed = false)
      (reading : c.closed = false) (caughtUp : c.sent = c.scanner.tokens.length)
      (stopped : c.scanner.pc = .stopped err) (returned : ∀ e ∈ err, e.panicked = false) :
      TcpStep c { c with closed := true }
  /-- `Scan` panicked: the process ends. -/
  | crash (c : TcpConnection α) (e : ScanError) (live : c.crashed = false)
      (stopped : c.scanner.pc = .stopped (some e)) (panicked : e.panicked = true) :
      TcpStep c { c with crashed := true }
  /-- The parsing goroutine handles its message; `uid` is what `<-s.generator` gives. -/
  | handle (c : TcpConnection α) (m : RawMessage) (uid : Bytes) (live : c.crashed = false)
      (holding : c.parsing.pc = .holding m) :
      TcpStep c { c with parsing := c.parsing.handle getParser config m uid }
  /-- The channel is closed and empty: the range loop ends. -/
  | drain (c : TcpConnection α) (live : c.crashed = false) (waiting : c.parsing.pc = .receiving)
      (closed : c.closed = true) :
      TcpStep c { c with parsing := c.parsing.finish }

/-! ## Messages in order, once each -/

/--
The reader is at most one token ahead of the parsing goroutine. The messages
handed over are the tokens, in order, and the stashed ones are their parses.
-/
structure Handoff (c : TcpConnection α) : Prop where
  sent_le : c.sent ≤ c.scanner.tokens.length
  ahead : c.scanner.tokens.length ≤ c.sent + 1
  inOrder : c.parsing.handled ++ c.parsing.pc.held =
    (c.scanner.tokens.take c.sent).map (rawOf client localPort)
  stashes : c.parsing.Stashes getParser config
  ended : c.closed = true → c.sent = c.scanner.tokens.length ∧ ∃ err, c.scanner.pc = .stopped err
  returned : c.parsing.pc = .returned → c.closed = true

theorem handoff_init (stream : Bytes) :
    Handoff getParser config client localPort (TcpConnection.init stream : TcpConnection α) :=
  ⟨Nat.zero_le _, by simp [TcpConnection.init, tcpScanner, Scanner.init], rfl,
    Parsing.stashes_initial getParser config, nofun, nofun⟩

theorem Handoff.step {c c' : TcpConnection α} (handoff : Handoff getParser config client localPort c)
    (step : TcpStep getParser config client localPort c c') :
    Handoff getParser config client localPort c' := by
  obtain ⟨sent_le, ahead, inOrder, stashes, ended, returned⟩ := handoff
  cases step with
  | scan s' _ _ caughtUp step =>
      rcases step.tokens_cases with same | ⟨t, longer⟩
      · refine ⟨same ▸ sent_le, same ▸ ahead, by rw [same]; exact inOrder, stashes, ?_, returned⟩
        simp_all
      · refine ⟨by simp [longer]; omega, by simp [longer]; omega, ?_, stashes, by simp_all,
          returned⟩
        rw [longer, List.take_append_of_le_length sent_le]
        exact inOrder
  | send token _ reading next waiting =>
      have within : c.sent < c.scanner.tokens.length := (List.getElem?_eq_some_iff.1 next).1
      refine ⟨within, show c.scanner.tokens.length ≤ c.sent + 1 + 1 by omega, ?_, stashes,
        fun closed => ?_, nofun⟩
      · simp only [Parsing.receive, ParserPc.held, waiting] at inOrder ⊢
        rw [List.take_succ, next, List.map_append, ← inOrder]
        simp
      · simp [reading] at closed
  | deadline _ reading =>
      exact ⟨sent_le, ahead, inOrder, stashes, fun closed => by simp [reading] at closed, returned⟩
  | hangUp err _ _ caughtUp stopped _ =>
      exact ⟨sent_le, ahead, inOrder, stashes, fun _ => ⟨caughtUp, err, stopped⟩, fun _ => rfl⟩
  | crash => exact ⟨sent_le, ahead, inOrder, stashes, ended, returned⟩
  | handle m uid _ holding =>
      refine ⟨sent_le, ahead, ?_, stashes.handle getParser config m uid, ended, nofun⟩
      simpa [Parsing.handle, ParserPc.held, holding] using inOrder
  | drain _ waiting closed =>
      refine ⟨sent_le, ahead, ?_, stashes, ended, fun _ => closed⟩
      simpa [Parsing.finish, ParserPc.held, waiting] using inOrder

theorem handoff_reachable {stream : Bytes} {c : TcpConnection α}
    (reach : Relation.ReflTransGen (TcpStep getParser config client localPort)
      (TcpConnection.init stream) c) :
    Handoff getParser config client localPort c := by
  induction reach with
  | refl => exact handoff_init getParser config client localPort stream
  | tail _ step ih => exact ih.step getParser config client localPort step

end Steps

/-! ## A stream of frames, delivered whole -/

/-- What is left of a connection's run: the scan, the tokens not yet sent, and the two goroutines. -/
def TcpConnection.work {α : Type} (c : TcpConnection α) : Nat :=
  4 * c.scanner.work 65536 + 2 * (c.scanner.tokens.length - c.sent) + c.parsing.pc.rank +
    (if c.closed then 0 else 1)

section Delivery

variable {ε α : Type} (getParser : Bytes → Option (Parser ε α)) (config : SyslogConfig)
  (client : Bytes) (localPort : Int) {frames : List (Bytes × Bytes)} {tail : Bytes}

/-- A connection on a stream of frames: the scan is framed and nothing has panicked. -/
structure Delivering (frames : List (Bytes × Bytes)) (tail : Bytes) (c : TcpConnection α) :
    Prop where
  handoff : Handoff getParser config client localPort c
  framed : Framed frames tail 65536 c.scanner
  live : c.crashed = false

variable {getParser config client localPort}

theorem Delivering.step (untimed : config.timeout ≤ 0)
    (splits : Splits (splitFor config.format) 65536 frames tail) {c c' : TcpConnection α} (delivering : Delivering getParser config client localPort frames tail c)
    (step : TcpStep getParser config client localPort c c') :
    Delivering getParser config client localPort frames tail c' ∧ c'.work < c.work := by
  have handoff := delivering.handoff.step getParser config client localPort step
  cases step with
  | scan s' _ _ caughtUp next =>
      obtain ⟨framed, lower⟩ := delivering.framed.step splits next
      have more : s'.tokens.length ≤ c.scanner.tokens.length + 1 := by
        rcases next.tokens_cases with same | ⟨t, longer⟩
        · rw [same]; omega
        · simp [longer]
      refine ⟨⟨handoff, framed, delivering.live⟩, ?_⟩
      simp only [TcpConnection.work]
      omega
  | send token _ _ next waiting =>
      have within := (List.getElem?_eq_some_iff.1 next).1
      refine ⟨⟨handoff, delivering.framed, delivering.live⟩, ?_⟩
      simp only [TcpConnection.work, Parsing.receive, ParserPc.rank, waiting]
      omega
  | deadline _ _ _ armed => omega
  | hangUp _ _ reading =>
      refine ⟨⟨handoff, delivering.framed, delivering.live⟩, ?_⟩
      simp [TcpConnection.work, reading]
  | crash e _ stopped panicked =>
      rcases delivering.framed with run | ⟨done, -⟩
      · exact absurd stopped (run.live _)
      · rw [stopped] at done
        split_ifs at done <;> cases done
        cases panicked
  | handle m uid _ holding =>
      refine ⟨⟨handoff, delivering.framed, delivering.live⟩, ?_⟩
      simp [TcpConnection.work, Parsing.handle, ParserPc.rank, holding]
  | drain _ waiting =>
      refine ⟨⟨handoff, delivering.framed, delivering.live⟩, ?_⟩
      simp [TcpConnection.work, Parsing.finish, ParserPc.rank, waiting]

/-- A connection on a stream of frames can step until both goroutines have returned. -/
theorem Delivering.progress {c : TcpConnection α}
    (delivering : Delivering getParser config client localPort frames tail c) :
    (∃ c', TcpStep getParser config client localPort c c') ∨
      (c.closed = true ∧ c.parsing.pc = .returned) := by
  obtain ⟨handoff, framed, live⟩ := delivering
  cases pc : c.parsing.pc with
  | holding m => exact .inl ⟨_, .handle c m [] live pc⟩
  | returned => exact .inr ⟨handoff.returned pc, rfl⟩
  | receiving =>
      cases closed : c.closed
      · by_cases caughtUp : c.sent = c.scanner.tokens.length
        · rcases framed with run | ⟨stopped, -⟩
          · obtain ⟨s', next⟩ : ∃ s', ScanStep (splitFor config.format) 65536 c.scanner s' :=
              run.progress
            exact .inl ⟨_, .scan c s' live closed caughtUp next⟩
          · exact .inl ⟨_, .hangUp c _ live closed caughtUp stopped
              (by split <;> simp [ScanError.panicked])⟩
        · have within := lt_of_le_of_ne handoff.sent_le caughtUp
          exact .inl ⟨_, .send c _ live closed (List.getElem?_eq_getElem within) pc⟩
      · exact .inl ⟨_, .drain c live pc closed⟩

/-- Once both goroutines have returned, the stash holds the parse of every frame's token. -/
theorem Delivering.stashed_eq {c : TcpConnection α}
    (delivering : Delivering getParser config client localPort frames tail c)
    (closed : c.closed = true) (returned : c.parsing.pc = .returned) :
    c.parsing.stashed.map (·.parsed) =
      (frames.map Prod.snd).filterMap (parseRaw getParser config ∘ rawOf client localPort) := by
  obtain ⟨handoff, framed, -⟩ := delivering
  obtain ⟨caughtUp, err, stopped⟩ := handoff.ended closed
  have tokens : c.scanner.tokens = frames.map Prod.snd :=
    framed.elim (fun run => absurd stopped (run.live err)) fun done => done.2
  have handled := handoff.inOrder
  rw [returned, caughtUp, List.take_length, tokens] at handled
  rw [handoff.stashes, ← List.filterMap_map]
  simpa [ParserPc.held] using congrArg (List.filterMap (parseRaw getParser config)) handled

/--
On a stream of frames that the handler's split function cuts, and with no read
deadline, the connection's run ends: no run goes on for ever, and one that can
go no further has both goroutines returned, with the parse of every frame's
token stashed, in order.
-/
theorem delivers (untimed : config.timeout ≤ 0)
    (splits : Splits (splitFor config.format) 65536 frames tail) :
    Acc (fun c' c => TcpStep getParser config client localPort c c')
        (TcpConnection.init (frames.flatMap Prod.fst ++ tail) : TcpConnection α) ∧
      ∀ c, Relation.ReflTransGen (TcpStep getParser config client localPort)
          (TcpConnection.init (frames.flatMap Prod.fst ++ tail)) c →
        (∃ c', TcpStep getParser config client localPort c c') ∨
          (c.closed = true ∧ c.parsing.pc = .returned ∧ c.parsing.stashed.map (·.parsed) =
            (frames.map Prod.snd).filterMap (parseRaw getParser config ∘ rawOf client localPort)) :=
  run_of_invariant TcpConnection.work
    (fun _ _ (delivering : Delivering getParser config client localPort frames tail _) next =>
      delivering.step untimed splits next)
    (fun _ delivering => delivering.progress.imp id fun ended =>
      ⟨ended.1, ended.2, delivering.stashed_eq ended.1 ended.2⟩)
    ⟨handoff_init getParser config client localPort _,
      show Framed frames tail 65536 (Scanner.init 0 _) from .inl (Running.init (Nat.zero_le _)),
      rfl⟩

end Delivery

section Handler

variable {ε α : Type} (getParser : Bytes → Option (Parser ε α)) (config : SyslogConfig)
  (client : Bytes) (localPort : Int)

/--
Whatever the stream, its chunking, the interleaving of the reader and the
parsing goroutine, what the parser makes of each message and whether a read
deadline ends the scan early: the reader is never more than one token ahead of
the parsing goroutine, the messages handed over are the scanner's tokens in
order, each once, and what has been stashed is, in order, the parse of every
message handled, those that fail dropped.
-/
theorem tcp_connection_stashes_in_order (stream : Bytes) (c : TcpConnection α)
    (reach : Relation.ReflTransGen (TcpStep getParser config client localPort)
      (TcpConnection.init stream) c) :
    c.scanner.tokens.length ≤ c.sent + 1 ∧
      c.parsing.handled ++ c.parsing.pc.held =
        (c.scanner.tokens.take c.sent).map (rawOf client localPort) ∧
      c.parsing.stashed.map (·.parsed) = c.parsing.handled.filterMap (parseRaw getParser config) :=
  have handoff := handoff_reachable getParser config client localPort reach
  ⟨handoff.ahead, handoff.inOrder, handoff.stashes⟩

/-- A connection in a format other than the octet-counted ones, with a read deadline of a second. -/
def rawConfig : SyslogConfig := ⟨ascii "raw", false, [], 1000000000⟩

/-- The line `hi` is scanned, sent to the parsing goroutine and handled. -/
theorem tcp_connection_stashes_in_order_handled :
    ∃ c : TcpConnection Bytes,
      Relation.ReflTransGen (TcpStep acceptAll rawConfig [] 514)
        (TcpConnection.init (ascii "hi\n")) c ∧
      c.sent = 1 ∧ c.parsing.handled = [rawOf [] 514 (ascii "hi")] ∧
      c.scanner.tokens.length ≤ c.sent + 1 ∧
      c.parsing.handled ++ c.parsing.pc.held = (c.scanner.tokens.take c.sent).map (rawOf [] 514) ∧
      c.parsing.stashed.map (·.parsed) = c.parsing.handled.filterMap (parseRaw acceptAll rawConfig) :=
  have run : Relation.ReflTransGen (TcpStep acceptAll rawConfig [] 514)
      (TcpConnection.init (ascii "hi\n")) _ :=
    (((((Relation.ReflTransGen.single
      (TcpStep.scan (TcpConnection.init (ascii "hi\n")) _ rfl rfl rfl (.skip _ rfl rfl rfl))).tail
      (TcpStep.scan _ _ rfl rfl rfl (.makeRoom _ rfl))).tail
      (TcpStep.scan _ _ rfl rfl rfl (.fill _ 3 rfl (by decide) (by decide) (by decide)))).tail
      (TcpStep.scan _ _ rfl rfl rfl (.split _ rfl (.inl (by decide))))).tail
      (TcpStep.send _ (ascii "hi") rfl rfl (by decide) rfl)).tail
      (TcpStep.handle _ _ (ascii "01") rfl rfl)
  ⟨_, run, rfl, by decide, tcp_connection_stashes_in_order acceptAll rawConfig [] 514 _ _ run⟩

/--
With no read deadline (`Timeout` not positive), on a stream of frames in the
handler's framing, however it is chunked and however the two goroutines
interleave, the connection's run ends. A run that can go no further has both
goroutines returned and has stashed, in order, the parse of every message.
With `TcpSplit`, for the formats `rfc5424`, `rfc3164`, `json` and `auto`, the
frames are octet-counted or line-fed frames, each fitting `MaxScanTokenSize`
with the separators before it, and any separators may follow the last. With
`LFTcpSplit`, for any other format, they are lines shorter than that.
-/
theorem tcp_connection_stashes_every_message (untimed : config.timeout ≤ 0) :
    (∀ (msgs : List (Bytes × Bytes × Bool)) (tail : Bytes),
      config.format ∈ [ascii "rfc5424", ascii "rfc3164", ascii "json", ascii "auto"] →
      (∀ x ∈ msgs, Framable x.1 x.2.1 x.2.2 ∧ (tcpFrame x.1 x.2.1 x.2.2).length ≤ 65536) →
      (∀ b ∈ tail, spaceCutset.contains b = true) →
      Acc (fun c' c => TcpStep getParser config client localPort c c')
          (TcpConnection.init ((messagesOf msgs).flatMap Prod.fst ++ tail) : TcpConnection α) ∧
        ∀ c, Relation.ReflTransGen (TcpStep getParser config client localPort)
            (TcpConnection.init ((messagesOf msgs).flatMap Prod.fst ++ tail)) c →
          (∃ c', TcpStep getParser config client localPort c c') ∨
            (c.closed = true ∧ c.parsing.pc = .returned ∧
              c.parsing.stashed.map (·.parsed) = msgs.filterMap fun x =>
                parseRaw getParser config (rawOf client localPort (trim spaceCutset x.2.1)))) ∧
    ∀ lines : List Bytes,
      config.format ∉ [ascii "rfc5424", ascii "rfc3164", ascii "json", ascii "auto"] →
      (∀ line ∈ lines, 10 ∉ line ∧ trim spaceCutset line ≠ [] ∧ line.length < 65536) →
      Acc (fun c' c => TcpStep getParser config client localPort c c')
          (TcpConnection.init ((linesOf lines).flatMap Prod.fst) : TcpConnection α) ∧
        ∀ c, Relation.ReflTransGen (TcpStep getParser config client localPort)
            (TcpConnection.init ((linesOf lines).flatMap Prod.fst)) c →
          (∃ c', TcpStep getParser config client localPort c c') ∨
            (c.closed = true ∧ c.parsing.pc = .returned ∧
              c.parsing.stashed.map (·.parsed) = lines.filterMap fun line =>
                parseRaw getParser config (rawOf client localPort (trim spaceCutset line))) := by
  refine ⟨fun msgs tail octets valid cut => ?_, fun lines lf valid => ?_⟩
  · have splits : Splits (splitFor config.format) 65536 (messagesOf msgs) tail := by
      rw [splitFor, if_pos octets]
      exact ⟨messagesOf_cuts valid, fun p pre _ => tcpSplit_of_cut fun b mem => cut b (pre.subset mem)⟩
    simpa [messagesOf, List.filterMap_map, Function.comp_def] using delivers untimed splits
  · have splits : Splits (splitFor config.format) 65536 (linesOf lines) [] := by
      rw [splitFor, if_neg lf]
      exact ⟨linesOf_cuts valid, fun p pre _ _ => by rw [List.prefix_nil.1 pre]; rfl⟩
    simpa [linesOf, List.filterMap_map, Function.comp_def] using delivers untimed splits

theorem tcp_connection_stashes_every_message_session :
    (ascii "rfc5424" ∈ [ascii "rfc5424", ascii "rfc3164", ascii "json", ascii "auto"] ∧
      (∀ x ∈ tcpSession, Framable x.1 x.2.1 x.2.2 ∧ (tcpFrame x.1 x.2.1 x.2.2).length ≤ 65536) ∧
      Acc (fun c' c => TcpStep acceptAll ⟨ascii "rfc5424", false, [], 0⟩ [] 514 c c')
        (TcpConnection.init ((messagesOf tcpSession).flatMap Prod.fst ++ ascii "\n") :
          TcpConnection Bytes)) ∧
    (ascii "raw" ∉ [ascii "rfc5424", ascii "rfc3164", ascii "json", ascii "auto"] ∧
      (∀ line ∈ lineSession, 10 ∉ line ∧ trim spaceCutset line ≠ [] ∧ line.length < 65536) ∧
      Acc (fun c' c => TcpStep acceptAll ⟨ascii "raw", false, [], 0⟩ [] 514 c c')
        (TcpConnection.init ((linesOf lineSession).flatMap Prod.fst) : TcpConnection Bytes)) :=
  have octets : ascii "rfc5424" ∈ [ascii "rfc5424", ascii "rfc3164", ascii "json", ascii "auto"] := by
    decide
  have valid : ∀ x ∈ tcpSession, Framable x.1 x.2.1 x.2.2 ∧
      (tcpFrame x.1 x.2.1 x.2.2).length ≤ 65536 := by
    decide
  have other : ascii "raw" ∉ [ascii "rfc5424", ascii "rfc3164", ascii "json", ascii "auto"] := by
    decide
  have validLines : ∀ line ∈ lineSession, 10 ∉ line ∧ trim spaceCutset line ≠ [] ∧
      line.length < 65536 := by
    decide
  ⟨⟨octets, valid, ((tcp_connection_stashes_every_message acceptAll ⟨ascii "rfc5424", false, [], 0⟩
      [] 514 (by decide)).1 tcpSession (ascii "\n") octets valid (by decide)).1⟩,
    ⟨other, validLines, ((tcp_connection_stashes_every_message acceptAll ⟨ascii "raw", false, [], 0⟩
      [] 514 (by decide)).2 lineSession other validLines).1⟩⟩

end Handler

end Skewer.Tcp
