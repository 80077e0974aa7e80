import Skewer.Tcp.Split
import Skewer.Relp.Framing

/-!
# Syslog frames over TCP

The two framings of a TCP syslog stream: octet counting, `N SP m` with `N` the
decimal length of `m`, and, for a message that starts with `<` and holds no
line feed, `m LF`; separators (spaces, CRs and LFs) may stand before a frame.
`TcpSplit` cuts each frame off as its message, trimmed, and asks for more on a
frame not yet whole; `LFTcpSplit` does the same for lines. With the scanner's
default buffer a stream of such frames is split back into its messages,
however it is chunked, as long as each frame fits.
-/

namespace Skewer.Tcp

open Skewer.Go Skewer.Relp

/-- Spec side: the message `m` after the separators `sep`, framed by a line feed when `lf`, otherwise by its octet count. -/
def tcpFrame (sep m : Bytes) (lf : Bool) : Bytes :=
  sep ++ if lf then m ++ [10] else itoa m.length ++ 32 :: m

/--
What the spec allows: only separators in `sep`, a message that does not trim
to nothing, and line-feed framing only for a message that starts with `<` and
holds no line feed.
-/
def Framable (sep m : Bytes) (lf : Bool) : Prop :=
  (∀ b ∈ sep, spaceCutset.contains b = true) ∧ trim spaceCutset m ≠ [] ∧
    (lf = true → m.head? = some 60 ∧ 10 ∉ m)

instance (sep m : Bytes) (lf : Bool) : Decidable (Framable sep m lf) :=
  inferInstanceAs (Decidable (_ ∧ _ ∧ _))

/-! ## The line-feed branch -/

theorem lfSplit_line {line : Bytes} (free : 10 ∉ line) (trimmed : Int) (rest : Bytes) :
    lfSplit trimmed (line ++ 10 :: rest) =
      .ok ⟨trimmed + line.length + 1, nonNil (trim spaceCutset line), none⟩ := by
  have lf : indexByte (line ++ 10 :: rest) 10 = line.length :=
    indexAny_append_cons (fun a mem => by simpa using ne_of_mem_of_not_mem mem free) (by decide) rest
  simp only [lfSplit, lf]
  rw [if_pos (by omega), slice_prefix]
  rfl

theorem lfSplit_no_lf {s : Bytes} (free : 10 ∉ s) (trimmed : Int) :
    lfSplit trimmed s = .ok requestMore := by
  have lf : indexByte s 10 = -1 :=
    indexAny_eq_neg_one fun a mem => by simpa using ne_of_mem_of_not_mem mem free
  simp only [lfSplit, lf]
  rw [if_neg (by omega)]
  rfl

/-! ## `TcpSplit` on a frame -/

theorem digitByte_not_space_lf : ∀ d < 10, (ascii " \n").contains (digitByte d) = false := by
  decide

theorem itoa_not_space_lf (n : Nat) : ∀ b ∈ itoa n, (ascii " \n").contains b = false :=
  fun b mem => by
    obtain ⟨d, small, rfl⟩ := (itoa_plain n).2 b mem
    exact digitByte_not_space_lf d small

/-- A prefix of a decimal, followed by anything, starts with a digit or is empty. -/
theorem trimLeft_of_prefix_itoa {n : Nat} {q rest : Bytes} (pre : q <+: itoa n ++ rest) :
    trimLeft spaceCutset q = q := by
  obtain ⟨a, mid, front⟩ := List.exists_cons_of_ne_nil (itoa_plain n).1
  rcases q with _ | ⟨b, q⟩
  · rfl
  · simp only [front, List.cons_append, List.cons_prefix_cons] at pre
    exact pre.1 ▸ trimLeft_of_head (itoa_not_cut n a (by simp [front])) q

/-- Separators alone ask for more. -/
theorem tcpSplit_of_cut {s : Bytes} (cut : ∀ b ∈ s, spaceCutset.contains b = true) (atEOF : Bool) :
    tcpSplit s atEOF = .ok requestMore := by
  unfold tcpSplit
  simp only [trimLeft_eq_nil cut, bind, Except.bind, pure, Except.pure]
  rfl

/-- Digits with no space after them yet ask for more. -/
theorem tcpSplit_digits {data q : Bytes} {n : Nat} (kept : trimLeft spaceCutset data = q)
    (pre : q <+: itoa n) (atEOF : Bool) : tcpSplit data atEOF = .ok requestMore := by
  unfold tcpSplit
  simp only [kept, bind, Except.bind, pure, Except.pure]
  rcases q with _ | ⟨d, q⟩
  · rfl
  · obtain ⟨digit, small, rfl⟩ := (itoa_plain n).2 d (pre.subset (List.mem_cons_self _ _))
    rw [if_neg (by simp)]
    simp only [index]
    rw [if_neg (digitByte_plain digit small).2.2.1,
      indexAny_eq_neg_one fun b mem => itoa_not_space_lf n b (pre.subset mem)]
    rfl

/-- After the separators, a `<` hands the data to `lfSplit`. -/
theorem tcpSplit_lt {data rest : Bytes} (kept : trimLeft spaceCutset data = 60 :: rest)
    (atEOF : Bool) :
    tcpSplit data atEOF = lfSplit (data.length - (60 :: rest : Bytes).length) (60 :: rest) := by
  unfold tcpSplit
  simp only [kept, bind, Except.bind, pure, Except.pure]
  rw [if_neg (by simp)]
  rfl

/--
After the separators, an octet count `n` and a space: `TcpSplit` cuts off the
`n` bytes after the space once they are all there, and asks for more before.
-/
theorem tcpSplit_count {data r : Bytes} {n : Nat}
    (kept : trimLeft spaceCutset data = itoa n ++ 32 :: r)
    (fits : data.length + n < 9223372036854775808 + r.length) (atEOF : Bool) :
    tcpSplit data atEOF =
      if n ≤ r.length then
        .ok ⟨data.length - r.length + n, nonNil (trim spaceCutset (r.take n)), none⟩
      else .ok requestMore := by
  obtain ⟨d, digits, front⟩ := List.exists_cons_of_ne_nil (itoa_plain n).1
  obtain ⟨digit, small, rfl⟩ := (itoa_plain n).2 d (by simp [front])
  have sp : indexAny (itoa n ++ 32 :: r) (ascii " \n") = (itoa n).length :=
    indexAny_append_cons (itoa_not_space_lf n) (by decide) r
  have nonempty : 0 < (itoa n).length := List.length_pos.2 (itoa_plain _).1
  have within : (itoa n ++ 32 :: r).length ≤ data.length :=
    kept ▸ (List.dropWhile_suffix _).length_le
  have lengths : (itoa n ++ 32 :: r).length = (itoa n).length + 1 + r.length := by
    simp only [List.length_append, List.length_cons]
    omega
  have advance : (data.length : Int) - (itoa n ++ 32 :: r).length + (itoa n).length + 1 + n =
      data.length - r.length + n := by
    rw [lengths]
    omega
  unfold tcpSplit
  simp only [kept, bind, Except.bind, pure, Except.pure]
  rw [if_neg (by simp)]
  simp only [front, index]
  rw [if_neg (digitByte_plain digit small).2.2.1, ← front, sp, if_neg (by omega), slice_prefix]
  simp only [trim_of_plain (itoa_not_cut _), atoi_itoa (by omega : n < 9223372036854775808)]
  rw [advance, wrapInt_of_fits (by omega) (by omega)]
  by_cases enough : n ≤ r.length
  · have token : slice (itoa n ++ 32 :: r) ((itoa n).length + 1) ((itoa n).length + 1 + n) =
        .ok (r.take n) := by
      have := slice_after (itoa n) 32 (r.take n) (r.drop n)
      rwa [List.take_append_drop, List.length_take, Nat.min_eq_left enough] at this
    rw [if_pos (by omega), if_pos enough, wrapInt_of_fits (by omega) (by omega), token]
  · rw [if_neg (by omega), if_neg enough]

theorem tcpSplit_frame {sep m : Bytes} {lf : Bool} (framable : Framable sep m lf)
    (fits : (tcpFrame sep m lf).length < 9223372036854775808) (rest : Bytes) (atEOF : Bool) :
    tcpSplit (tcpFrame sep m lf ++ rest) atEOF =
      .ok ⟨(tcpFrame sep m lf).length, some (trim spaceCutset m), none⟩ := by
  obtain ⟨cut, nonBlank, lfFramed⟩ := framable
  have token : nonNil (trim spaceCutset m) = some (trim spaceCutset m) := if_neg nonBlank
  cases lf with
  | true =>
      obtain ⟨first, free⟩ := lfFramed rfl
      obtain ⟨body, rfl⟩ : ∃ body, m = 60 :: body := by
        cases m with
        | nil => cases first
        | cons a body => exact ⟨body, by simpa using first⟩
      have kept : trimLeft spaceCutset (tcpFrame sep (60 :: body) true ++ rest) =
          60 :: (body ++ 10 :: rest) := by
        simp only [tcpFrame, if_true, List.append_assoc, trimLeft_append_cut cut]
        exact trimLeft_of_head (by decide) _
      rw [tcpSplit_lt kept, ← List.cons_append, lfSplit_line free, token]
      congr 2
      simp [tcpFrame]
      omega
  | false =>
      have kept : trimLeft spaceCutset (tcpFrame sep m false ++ rest) =
          itoa m.length ++ 32 :: (m ++ rest) := by
        simp only [tcpFrame, Bool.false_eq_true, if_false, List.append_assoc, List.cons_append,
          trimLeft_append_cut cut]
        exact trimLeft_of_prefix_itoa (List.prefix_refl _)
      have lengths : (tcpFrame sep m false).length =
          sep.length + (itoa m.length).length + 1 + m.length := by
        simp [tcpFrame]
        omega
      rw [tcpSplit_count kept (by simp only [List.length_append]; omega) atEOF,
        if_pos (by simp), List.take_left, token]
      congr 2
      simp only [List.length_append, lengths]
      omega

/-- A frame not yet whole asks for more. -/
theorem tcpSplit_prefix_frame {sep m : Bytes} {lf : Bool} (framable : Framable sep m lf)
    (fits : (tcpFrame sep m lf).length < 9223372036854775808) {p : Bytes}
    (pre : p <+: tcpFrame sep m lf) (proper : p ≠ tcpFrame sep m lf) (atEOF : Bool) :
    tcpSplit p atEOF = .ok requestMore := by
  obtain ⟨cut, -, lfFramed⟩ := framable
  unfold tcpFrame at pre proper fits
  rcases prefix_append_cases pre with inSep | ⟨q, inFrame, rfl⟩
  · exact tcpSplit_of_cut (fun b mem => cut b (inSep.subset mem)) atEOF
  have kept : trimLeft spaceCutset (sep ++ q) = trimLeft spaceCutset q := trimLeft_append_cut cut q
  have shorter : q ≠ if lf then m ++ [10] else itoa m.length ++ 32 :: m :=
    fun same => proper (by rw [same])
  cases lf with
  | true =>
      obtain ⟨first, free⟩ := lfFramed rfl
      simp only [if_true] at inFrame shorter
      have inM := prefix_of_prefix_concat inFrame shorter
      rcases q with _ | ⟨a, q⟩
      · exact tcpSplit_of_cut (by simpa using cut) atEOF
      obtain rfl : a = 60 := by
        obtain ⟨body, rfl⟩ := inM
        simpa using first
      rw [tcpSplit_lt (kept.trans (trimLeft_of_head (by decide) q))]
      exact lfSplit_no_lf (fun mem => free (inM.subset mem)) _
  | false =>
      simp only [Bool.false_eq_true, if_false] at inFrame shorter fits
      rcases prefix_append_cases inFrame with inDigits | ⟨r, afterDigits, rfl⟩
      · exact tcpSplit_digits (kept.trans (trimLeft_of_prefix_itoa inFrame)) inDigits atEOF
      rcases List.prefix_cons_iff.1 afterDigits with rfl | ⟨r, rfl, inM⟩
      · have whole : itoa m.length ++ [] <+: itoa m.length := by simp
        exact tcpSplit_digits (kept.trans (trimLeft_of_prefix_itoa inFrame)) whole atEOF
      have short : r.length < m.length :=
        lt_of_le_of_ne inM.length_le fun same => shorter (by rw [inM.eq_of_length same])
      rw [tcpSplit_count (kept.trans (trimLeft_of_prefix_itoa inFrame)) ?_ atEOF, if_neg (by omega)]
      simp only [List.length_append, List.length_cons] at fits ⊢
      omega

/-! ## `LFTcpSplit` on a line -/

/-- A line that is not blank, then anything: `LFTcpSplit` cuts it off, trimmed. -/
theorem lfTcpSplit_line {line : Bytes} (free : 10 ∉ line) (nonBlank : trim spaceCutset line ≠ [])
    (rest : Bytes) (atEOF : Bool) :
    lfTcpSplit (line ++ 10 :: rest) atEOF =
      .ok ⟨line.length + 1, some (trim spaceCutset line), none⟩ := by
  have kept : trimLeft spaceCutset line ≠ [] := fun empty =>
    nonBlank (by rw [← trim_trimLeft, empty]; rfl)
  have free' : 10 ∉ trimLeft spaceCutset line := fun mem =>
    free ((List.dropWhile_suffix _).subset mem)
  have within : (trimLeft spaceCutset line).length ≤ line.length :=
    (List.dropWhile_suffix _).length_le
  dsimp only [lfTcpSplit]
  rw [trimLeft_append_of_ne_nil kept, if_neg (by simp), lfSplit_line free', trim_trimLeft, nonNil,
    if_neg nonBlank]
  congr 2
  simp only [List.length_append, List.length_cons]
  omega

/-- A line not yet ended asks for more. -/
theorem lfTcpSplit_prefix_line {line p : Bytes} (free : 10 ∉ line) (pre : p <+: line ++ [10])
    (proper : p ≠ line ++ [10]) (atEOF : Bool) : lfTcpSplit p atEOF = .ok requestMore := by
  have inLine := prefix_of_prefix_concat pre proper
  dsimp only [lfTcpSplit]
  split_ifs
  · rfl
  · exact lfSplit_no_lf (fun mem => free (inLine.subset ((List.dropWhile_suffix _).subset mem))) _

/-! ## The handler's scanner -/

/--
The scanner of the TCP handler on a connection that sends `stream`:
`bufio.NewScanner` starts with no buffer, and its `maxTokenSize` is
`bufio.MaxScanTokenSize`, 65536.
-/
def tcpScanner (stream : Bytes) : Scanner := Scanner.init 0 stream

/-- The frames of a stream of `(separators, message, framed by a line feed)` and the tokens they give. -/
def messagesOf (msgs : List (Bytes × Bytes × Bool)) : List (Bytes × Bytes) :=
  msgs.map fun x => (tcpFrame x.1 x.2.1 x.2.2, trim spaceCutset x.2.1)

/-- The lines of a stream, each with its line feed, and the tokens they give. -/
def linesOf (lines : List Bytes) : List (Bytes × Bytes) :=
  lines.map fun line => (line ++ [10], trim spaceCutset line)

/-- Octet-counted and line-fed frames, each fitting `MaxScanTokenSize`, are cut by `TcpSplit`. -/
theorem messagesOf_cuts {msgs : List (Bytes × Bytes × Bool)}
    (valid : ∀ x ∈ msgs, Framable x.1 x.2.1 x.2.2 ∧ (tcpFrame x.1 x.2.1 x.2.2).length ≤ 65536) :
    Cuts tcpSplit 65536 (messagesOf msgs) := by
  refine ⟨fun f mem rest atEOF => ?_, fun f mem p pre proper atEOF => ?_, fun f mem => ?_,
    fun f mem => ?_, by decide⟩ <;>
  obtain ⟨x, sent, rfl⟩ := List.mem_map.1 mem <;>
  have fits := (valid x sent).2
  · exact tcpSplit_frame (valid x sent).1 (by omega) rest atEOF
  · exact tcpSplit_prefix_frame (valid x sent).1 (by omega) pre proper atEOF
  · simp [tcpFrame]
    split_ifs <;> simp
  · exact fits

/-- Lines shorter than `MaxScanTokenSize`, each with its line feed, are cut by `LFTcpSplit`. -/
theorem linesOf_cuts {lines : List Bytes}
    (valid : ∀ line ∈ lines, 10 ∉ line ∧ trim spaceCutset line ≠ [] ∧ line.length < 65536) :
    Cuts lfTcpSplit 65536 (linesOf lines) := by
  refine ⟨fun f mem rest atEOF => ?_, fun f mem p pre proper atEOF => ?_, fun f mem => ?_,
    fun f mem => ?_, by decide⟩ <;>
  obtain ⟨line, sent, rfl⟩ := List.mem_map.1 mem <;>
  obtain ⟨free, nonBlank, fits⟩ := valid line sent
  · simpa using lfTcpSplit_line free nonBlank rest atEOF
  · exact lfTcpSplit_prefix_line free pre proper atEOF
  · simp
  · simp only [List.length_append, List.length_singleton]
    omega

/--
`TcpSplit` inverts both framings, after any separators: a whole frame is cut
off as its message, trimmed, with the frame's length as advance, and a frame
not yet whole asks for more; `LFTcpSplit` does the same for lines. With the
handler's scanner, a stream of such frames, each fitting `MaxScanTokenSize`
with its separators, is split back into its messages however it is chunked:
the scan halts, and a run that can go no further has stopped with no error
after returning one token per message, in order; likewise for lines.
-/
theorem tcpSplit_splits_messages :
    (∀ sep m lf, Framable sep m lf → (tcpFrame sep m lf).length < 9223372036854775808 →
      (∀ rest atEOF, tcpSplit (tcpFrame sep m lf ++ rest) atEOF =
        .ok ⟨(tcpFrame sep m lf).length, some (trim spaceCutset m), none⟩) ∧
      ∀ p, p <+: tcpFrame sep m lf → p ≠ tcpFrame sep m lf → ∀ atEOF,
        tcpSplit p atEOF = .ok requestMore) ∧
    (∀ line, 10 ∉ line → trim spaceCutset line ≠ [] →
      (∀ rest atEOF, lfTcpSplit (line ++ 10 :: rest) atEOF =
        .ok ⟨line.length + 1, some (trim spaceCutset line), none⟩) ∧
      ∀ p, p <+: line ++ [10] → p ≠ line ++ [10] → ∀ atEOF,
        lfTcpSplit p atEOF = .ok requestMore) ∧
    (∀ (msgs : List (Bytes × Bytes × Bool)) (tail : Bytes),
      (∀ x ∈ msgs, Framable x.1 x.2.1 x.2.2 ∧ (tcpFrame x.1 x.2.1 x.2.2).length ≤ 65536) →
      (∀ b ∈ tail, spaceCutset.contains b = true) → tail.length < 65536 →
      (tcpScanner ((messagesOf msgs).flatMap Prod.fst ++ tail)).Halts tcpSplit 65536 ∧
      ∀ s, Relation.ReflTransGen (ScanStep tcpSplit 65536)
          (tcpScanner ((messagesOf msgs).flatMap Prod.fst ++ tail)) s →
        (∃ s', ScanStep tcpSplit 65536 s s') ∨
          (s.pc = .stopped none ∧ s.tokens = (messagesOf msgs).map Prod.snd)) ∧
    ∀ lines : List Bytes,
      (∀ line ∈ lines, 10 ∉ line ∧ trim spaceCutset line ≠ [] ∧ line.length < 65536) →
      (tcpScanner ((linesOf lines).flatMap Prod.fst)).Halts lfTcpSplit 65536 ∧
      ∀ s, Relation.ReflTransGen (ScanStep lfTcpSplit 65536)
          (tcpScanner ((linesOf lines).flatMap Prod.fst)) s →
        (∃ s', ScanStep lfTcpSplit 65536 s s') ∨
          (s.pc = .stopped none ∧ s.tokens = (linesOf lines).map Prod.snd) := by
  refine ⟨fun sep m lf framable fits => ⟨tcpSplit_frame framable fits,
      fun p pre proper => tcpSplit_prefix_frame framable fits pre proper⟩,
    fun line free nonBlank => ⟨lfTcpSplit_line free nonBlank,
      fun p pre proper => lfTcpSplit_prefix_line free pre proper⟩,
    fun msgs tail valid cut short => ?_, fun lines valid => ?_⟩
  · have splits : Splits tcpSplit 65536 (messagesOf msgs) tail :=
      ⟨messagesOf_cuts valid, fun p pre _ => tcpSplit_of_cut fun b mem => cut b (pre.subset mem)⟩
    simpa only [if_pos short] using splits.scan (Nat.zero_le _)
  · have splits : Splits lfTcpSplit 65536 (linesOf lines) [] :=
      ⟨linesOf_cuts valid, fun p pre _ _ => by rw [List.prefix_nil.1 pre]; rfl⟩
    simpa using splits.scan (Nat.zero_le _)

/-- An LF-framed message after a CR LF, an octet-counted one holding a line feed, and a third after a space. -/
def tcpSession : List (Bytes × Bytes × Bool) :=
  [(ascii "\r\n", ascii "<13>hello", true), ([], ascii "<14>two\nlines", false),
    (ascii " ", ascii " plain text ", false)]

/-- Two lines, one with blanks around it. -/
def lineSession : List Bytes := [ascii "first line", ascii "  second\r"]

theorem tcpSplit_splits_messages_session :
    (Framable (ascii "\r\n") (ascii "<13>hello") true ∧
      (tcpFrame (ascii "\r\n") (ascii "<13>hello") true).length < 9223372036854775808) ∧
    (10 ∉ ascii "first line" ∧ trim spaceCutset (ascii "first line") ≠ []) ∧
    (∀ x ∈ tcpSession, Framable x.1 x.2.1 x.2.2 ∧ (tcpFrame x.1 x.2.1 x.2.2).length ≤ 65536) ∧
    (∀ line ∈ lineSession, 10 ∉ line ∧ trim spaceCutset line ≠ [] ∧ line.length < 65536) ∧
    (∀ rest atEOF, tcpSplit (tcpFrame (ascii "\r\n") (ascii "<13>hello") true ++ rest) atEOF =
      .ok ⟨(tcpFrame (ascii "\r\n") (ascii "<13>hello") true).length,
        some (trim spaceCutset (ascii "<13>hello")), none⟩) ∧
    (∀ rest atEOF, lfTcpSplit (ascii "first line" ++ 10 :: rest) atEOF =
      .ok ⟨(ascii "first line").length + 1, some (trim spaceCutset (ascii "first line")), none⟩) ∧
    (tcpScanner ((messagesOf tcpSession).flatMap Prod.fst ++ ascii "\n")).Halts tcpSplit 65536 ∧
    (tcpScanner ((linesOf lineSession).flatMap Prod.fst)).Halts lfTcpSplit 65536 :=
  have framable : Framable (ascii "\r\n") (ascii "<13>hello") true ∧
      (tcpFrame (ascii "\r\n") (ascii "<13>hello") true).length < 9223372036854775808 := by
    decide
  have line : 10 ∉ ascii "first line" ∧ trim spaceCutset (ascii "first line") ≠ [] := by decide
  have valid : ∀ x ∈ tcpSession, Framable x.1 x.2.1 x.2.2 ∧
      (tcpFrame x.1 x.2.1 x.2.2).length ≤ 65536 := by
    decide
  have validLines : ∀ line ∈ lineSession, 10 ∉ line ∧ trim spaceCutset line ≠ [] ∧
      line.length < 65536 := by
    decide
  have laws := tcpSplit_splits_messages
  ⟨framable, line, valid, validLines, (laws.1 _ _ _ framable.1 framable.2).1,
    (laws.2.1 _ line.1 line.2).1,
    (laws.2.2.1 tcpSession (ascii "\n") valid (by decide) (by decide)).1,
    (laws.2.2.2 lineSession validLines).1⟩

example : (messagesOf tcpSession).map Prod.snd =
    [ascii "<13>hello", ascii "<14>two\nlines", ascii "plain text"] := by
  decide

/-- An octet-counted message of 65536 bytes, and a line of as many: each longer than the buffer with its framing. -/
def longMessage : Bytes := List.replicate 65536 120

/--
A message longer than the buffer, with its framing, is never returned: in the
run where the scan reads it, the buffer grows to `MaxScanTokenSize`, fills
without a token, and the scan stops with `ErrTooLong`, having returned nothing.
So it goes for an octet-counted message and for a line. Every run ends so:
that is `Cuts.overlong_scan`, from which the two runs are taken.
-/
theorem tcpScanner_long_message_too_long :
    (∃ s, Relation.ReflTransGen (ScanStep tcpSplit 65536)
        (tcpScanner (tcpFrame [] longMessage false)) s ∧
      s.pc = .stopped (some .tooLong) ∧ s.tokens = []) ∧
    ∃ s, Relation.ReflTransGen (ScanStep lfTcpSplit 65536) (tcpScanner (longMessage ++ [10])) s ∧
      s.pc = .stopped (some .tooLong) ∧ s.tokens = [] := by
  have length : longMessage.length = 65536 := List.length_replicate _ _
  have free : 10 ∉ longMessage := fun mem => by
    rw [longMessage, List.mem_replicate] at mem
    cases mem.2
  have framable : Framable [] longMessage false :=
    ⟨nofun, List.ne_nil_of_mem (mem_trim (List.mem_replicate.2 ⟨by decide, rfl⟩) (by decide)),
      nofun⟩
  have frameLength :
      (tcpFrame [] longMessage false).length = (itoa ((65536 : Nat) : Int)).length + 1 + 65536 := by
    rw [tcpFrame, if_neg (by decide), List.nil_append, List.length_append, List.length_cons, length]
  have octet := (Cuts.nil (by decide)).overlong_scan
    (fun p pre proper atEOF => tcpSplit_prefix_frame framable (by rw [frameLength]; decide) pre proper
      atEOF)
    (show 65536 < (tcpFrame [] longMessage false).length by rw [frameLength]; decide)
    (Nat.zero_le 65536) []
  have line := (Cuts.nil (by decide)).overlong_scan
    (fun p pre proper atEOF => lfTcpSplit_prefix_line free pre proper atEOF)
    (show 65536 < (longMessage ++ [10]).length by rw [List.length_append, length]; decide)
    (Nat.zero_le 65536) []
  rw [List.flatMap_nil, List.nil_append, List.append_nil, List.map_nil] at octet line
  exact ⟨octet.1.reaches octet.2, line.1.reaches line.2⟩

end Skewer.Tcp
