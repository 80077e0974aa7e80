import Skewer.Relp.Scanner

/-!
# RELP frames and `RelpSplit`

The frame the spec describes, `TXNR SP COMMAND SP DATALEN (SP DATA)? LF`, and
what `RelpSplit` makes of it: a whole frame, followed by anything, is cut off
as one token, and a frame not yet whole asks for more data. The response
lines the handler and the cooker write are frames of this form.
-/

namespace Skewer.Relp

open Skewer.Go

/-- Spec side: the header `TXNR SP COMMAND SP DATALEN` of the frame carrying `data`. -/
def frameHeader (txnr : Nat) (command data : Bytes) : Bytes :=
  itoa txnr ++ 32 :: (command ++ 32 :: itoa data.length)

/-- Spec side: the frame `TXNR SP COMMAND SP DATALEN (SP DATA)? LF`. -/
def frame (txnr : Nat) (command data : Bytes) : Bytes :=
  frameHeader txnr command data ++ if data = [] then [10] else 32 :: (data ++ [10])

theorem frame_length_of_ne_nil {txnr : Nat} {command data : Bytes} (nonempty : data ≠ []) :
    (frame txnr command data).length =
      (frameHeader txnr command data).length + data.length + 2 := by
  simp [frame, nonempty]
  omega

/-- A command the spec allows: non-empty, with no space, CR or LF. -/
def IsCommand (command : Bytes) : Prop :=
  command ≠ [] ∧ ∀ b ∈ command, splitSpaceOrLF b = false

instance : DecidablePred IsCommand := fun _ => inferInstanceAs (Decidable (_ ∧ _))

/-! ## Decimals on the wire -/

/-- What a decimal digit is not: a separator, a trimmed byte, or `<`. -/
theorem digitByte_plain : ∀ d < 10, splitSpaceOrLF (digitByte d) = false ∧
    spaceCutset.contains (digitByte d) = false ∧ digitByte d ≠ 60 ∧ digitByte d ≠ 32 ∧
      digitByte d ≠ 10 := by
  decide

/-- The decimal of a natural number is non-empty and made of digits. -/
theorem itoa_plain (n : Nat) : itoa n ≠ [] ∧ ∀ b ∈ itoa n, ∃ d < 10, b = digitByte d := by
  obtain ⟨digits, eq, nonempty, below, -⟩ := itoa_ofNat n
  rw [eq]
  exact ⟨by simpa using nonempty, fun b mem => by
    obtain ⟨d, digit, rfl⟩ := List.mem_map.1 mem
    exact ⟨d, below d digit, rfl⟩⟩

theorem itoa_not_sep (n : Nat) : ∀ b ∈ itoa n, splitSpaceOrLF b = false := fun b mem => by
  obtain ⟨d, small, rfl⟩ := (itoa_plain n).2 b mem
  exact (digitByte_plain d small).1

theorem itoa_not_cut (n : Nat) : ∀ b ∈ itoa n, spaceCutset.contains b = false := fun b mem => by
  obtain ⟨d, small, rfl⟩ := (itoa_plain n).2 b mem
  exact (digitByte_plain d small).2.1

/-! ## `RelpSplit` on a frame -/

theorem trimLeft_frameHeader (txnr : Nat) (command data rest : Bytes) :
    trimLeft spaceCutset (frameHeader txnr command data ++ rest) =
      frameHeader txnr command data ++ rest := by
  obtain ⟨a, mid, eq⟩ := List.exists_cons_of_ne_nil (itoa_plain txnr).1
  have := itoa_not_cut txnr a (by simp [eq])
  simp only [frameHeader, eq, List.cons_append, trimLeft_of_head this]

theorem frameHeader_ne_nil (txnr : Nat) (command data : Bytes) :
    frameHeader txnr command data ≠ [] := by
  simp [frameHeader]

/-- The header starts and ends with a digit, which no `Trim` removes. -/
theorem frameHeader_ends (txnr : Nat) (command data : Bytes) :
    (∀ a ∈ (frameHeader txnr command data).head?, spaceCutset.contains a = false) ∧
      ∀ z ∈ (frameHeader txnr command data).getLast?, spaceCutset.contains z = false := by
  obtain ⟨a, mid, front⟩ := List.exists_cons_of_ne_nil (itoa_plain txnr).1
  obtain ⟨init, z, back⟩ := (List.eq_nil_or_concat (itoa data.length)).resolve_left (itoa_plain _).1
  constructor
  · intro a' mem
    simp only [frameHeader, front, List.cons_append, List.head?_cons, Option.mem_def,
      Option.some.injEq] at mem
    exact mem ▸ itoa_not_cut txnr a (by simp [front])
  · intro z' mem
    have ends :
        frameHeader txnr command data = itoa txnr ++ 32 :: (command ++ 32 :: init) ++ [z] := by
      simp [frameHeader, back]
    rw [ends, List.getLast?_concat, Option.mem_some_iff] at mem
    subst mem
    exact itoa_not_cut _ _ (by rw [back]; simp)

/-- A frame never trims to nothing: its first byte is a digit. -/
theorem trim_frame_ne_nil (txnr : Nat) (command data : Bytes) :
    trim spaceCutset (frame txnr command data) ≠ [] := by
  obtain ⟨a, mid, front⟩ := List.exists_cons_of_ne_nil (itoa_plain txnr).1
  have first : a ∈ frame txnr command data := by simp [frame, frameHeader, front]
  exact List.ne_nil_of_mem (mem_trim first (itoa_not_cut txnr a (by simp [front])))

/-- Every prefix of a frame, and of a header followed by anything, starts with a digit. -/
theorem trimLeft_prefix_frameHeader {txnr : Nat} {command data p rest : Bytes}
    (pre : p <+: frameHeader txnr command data ++ rest) : trimLeft spaceCutset p = p := by
  obtain ⟨a, mid, front⟩ := List.exists_cons_of_ne_nil (itoa_plain txnr).1
  rcases p with _ | ⟨b, p⟩
  · rfl
  · simp only [frameHeader, front, List.cons_append, List.cons_prefix_cons] at pre
    exact pre.1 ▸ trimLeft_of_head (itoa_not_cut txnr a (by simp [front])) p

/-- With fewer than three fields, or three that make up all the data, `RelpSplit` asks for more. -/
theorem relpSplit_of_fields {p : Bytes} (kept : trimLeft spaceCutset p = p)
    (few : (fieldsFunc splitSpaceOrLF p).length < 3 ∨
      ∃ x y z, fieldsFunc splitSpaceOrLF p = [x, y, z] ∧ x ++ [32] ++ y ++ [32] ++ z = p)
    (atEOF : Bool) : relpSplit p atEOF = .ok requestMore := by
  unfold relpSplit
  simp only [kept]
  split_ifs with empty
  · rfl
  rcases few with few | ⟨x, y, z, fields, token⟩
  · split
    · rename_i splits
      simp only [splits, List.length_cons] at few
      omega
    · rfl
  · simp only [fields, token, List.length_cons, List.length_nil]
    rw [if_pos ⟨trivial, by omega⟩]

section Frame

variable {txnr : Nat} {command : Bytes} (isCommand : IsCommand command)
  (small : txnr < 9223372036854775808)

include isCommand

theorem fields_frameHeader (data : Bytes) {b : UInt8} (cut : splitSpaceOrLF b = true)
    (rest : Bytes) :
    fieldsFunc splitSpaceOrLF (frameHeader txnr command data ++ b :: rest) =
      itoa txnr :: command :: itoa data.length :: fieldsFunc splitSpaceOrLF rest := by
  simp only [frameHeader, List.append_assoc, List.cons_append]
  rw [fieldsFunc_field_sep (itoa_plain _).1 (itoa_not_sep _) (by decide),
    fieldsFunc_field_sep isCommand.1 isCommand.2 (by decide),
    fieldsFunc_field_sep (itoa_plain _).1 (itoa_not_sep _) cut]

/-- A prefix of a header has at most three fields, and with three it is all token. -/
theorem relpSplit_prefix_frameHeader {data p : Bytes} (pre : p <+: frameHeader txnr command data)
    (atEOF : Bool) : relpSplit p atEOF = .ok requestMore := by
  have kept : p <+: frameHeader txnr command data ++ [] := by simpa using pre
  refine relpSplit_of_fields (trimLeft_prefix_frameHeader kept) ?_ atEOF
  unfold frameHeader at pre
  rcases prefix_append_cases pre with inTxnr | ⟨q, afterTxnr, rfl⟩
  · left
    rw [fieldsFunc_word fun b mem => itoa_not_sep txnr b (inTxnr.subset mem)]
    split_ifs <;> simp
  rcases List.prefix_cons_iff.1 afterTxnr with rfl | ⟨q, rfl, afterSep⟩
  · left
    rw [List.append_nil, fieldsFunc_word (itoa_not_sep txnr), if_neg (itoa_plain txnr).1]
    simp
  rw [fieldsFunc_field_sep (itoa_plain _).1 (itoa_not_sep _) (by decide)]
  rcases prefix_append_cases afterSep with inCommand | ⟨q, afterCommand, rfl⟩
  · left
    rw [fieldsFunc_word fun b mem => isCommand.2 b (inCommand.subset mem)]
    split_ifs <;> simp
  rcases List.prefix_cons_iff.1 afterCommand with rfl | ⟨q, rfl, inDatalen⟩
  · left
    rw [List.append_nil, fieldsFunc_word isCommand.2, if_neg isCommand.1]
    simp
  rw [fieldsFunc_field_sep isCommand.1 isCommand.2 (by decide),
    fieldsFunc_word fun b mem => itoa_not_sep _ b (inDatalen.subset mem)]
  split_ifs
  · left; simp
  · right; exact ⟨_, _, _, rfl, by simp⟩

include small

/--
`RelpSplit` on a header and a separator: a frame without data is whole, and
one with data is whole once its length is buffered.
-/
theorem relpSplit_frameHeader {data : Bytes}
    (fits : (frame txnr command data).length < 9223372036854775808) {b : UInt8}
    (cut : splitSpaceOrLF b = true) (rest : Bytes) (atEOF : Bool) :
    relpSplit (frameHeader txnr command data ++ b :: rest) atEOF =
      if data = [] then
        .ok ⟨(frameHeader txnr command data).length + 1, some (frameHeader txnr command data), none⟩
      else if (frame txnr command data).length ≤ (frameHeader txnr command data).length + 1 +
          rest.length then
        .ok ⟨(frame txnr command data).length,
          nonNil (trim spaceCutset ((frameHeader txnr command data ++ b :: rest).take
            (frame txnr command data).length)), none⟩
      else .ok requestMore := by
  have token : itoa txnr ++ [32] ++ command ++ [32] ++ itoa data.length =
      frameHeader txnr command data := by simp [frameHeader]
  have lengthFits : data.length < 9223372036854775808 := by
    refine lt_of_le_of_lt ?_ fits
    unfold frame; split_ifs with empty <;> simp [empty]; omega
  unfold relpSplit
  simp only [trimLeft_frameHeader, fields_frameHeader isCommand data cut, token,
    atoi_itoa small, atoi_itoa lengthFits, List.length_append, List.length_cons]
  rw [if_neg (by omega), if_neg (by omega)]
  by_cases empty : data = []
  · subst empty
    rw [if_pos rfl, if_pos (show (([] : Bytes).length : Int) = 0 from rfl)]
    congr 2; omega
  · have frameLength : (frame txnr command data).length = _ := frame_length_of_ne_nil empty
    have pos : 0 < data.length := List.length_pos.2 empty
    rw [frameLength] at fits ⊢
    have datalen : wrapInt (data.length + 1) = data.length + 1 :=
      wrapInt_of_fits (by omega) (by omega)
    rw [if_neg (by omega), if_neg empty, datalen, wrapInt_of_fits (by omega) (by omega)]
    have advance : ((frameHeader txnr command data).length : Int) + 1 + (data.length + 1) =
        ((frameHeader txnr command data).length + data.length + 2 : Nat) := by omega
    simp only [Int.sub_self, Int.zero_add, advance]
    split_ifs <;> first | omega | rfl

/-- A whole frame, followed by anything, is cut off as one token: the frame, trimmed. -/
theorem relpSplit_frame {data : Bytes}
    (fits : (frame txnr command data).length < 9223372036854775808)
    (rest : Bytes) (atEOF : Bool) :
    relpSplit (frame txnr command data ++ rest) atEOF =
      .ok ⟨(frame txnr command data).length, some (trim spaceCutset (frame txnr command data)),
        none⟩ := by
  by_cases empty : data = []
  · subst empty
    have whole : frame txnr command [] ++ rest = frameHeader txnr command [] ++ 10 :: rest := by
      simp [frame]
    have token : trim spaceCutset (frame txnr command []) = frameHeader txnr command [] := by
      simp only [frame, if_true]
      exact trim_append_cut (frameHeader_ne_nil _ _ _) (frameHeader_ends _ _ _).1
        (frameHeader_ends _ _ _).2 (by decide)
    rw [whole, relpSplit_frameHeader isCommand small fits (by decide) rest atEOF, if_pos rfl, token]
    simp [frame]
  · have whole : frame txnr command data ++ rest =
        frameHeader txnr command data ++ 32 :: (data ++ 10 :: rest) := by
      simp [frame, empty]
    have token : (frameHeader txnr command data ++ 32 :: (data ++ 10 :: rest)).take
        (frame txnr command data).length = frame txnr command data := by
      rw [← whole, List.take_left]
    rw [whole, relpSplit_frameHeader isCommand small fits (by decide) _ atEOF, if_neg empty,
      if_pos (by simp [frame, empty]; omega), token, nonNil, if_neg (trim_frame_ne_nil _ _ _)]

/-- A frame not yet whole asks for more data. -/
theorem relpSplit_prefix_frame {data p : Bytes}
    (fits : (frame txnr command data).length < 9223372036854775808)
    (pre : p <+: frame txnr command data) (proper : p ≠ frame txnr command data) (atEOF : Bool) :
    relpSplit p atEOF = .ok requestMore := by
  unfold frame at pre proper
  rcases prefix_append_cases pre with inHeader | ⟨q, afterHeader, rfl⟩
  · exact relpSplit_prefix_frameHeader isCommand inHeader atEOF
  have short : q.length < (if data = [] then [(10 : UInt8)] else 32 :: (data ++ [10])).length :=
    lt_of_le_of_ne afterHeader.length_le fun same => proper (by rw [afterHeader.eq_of_length same])
  have afterHeader' :
      q <+: (if data = [] then 10 else 32) :: (if data = [] then [] else data ++ [10]) := by
    split_ifs at afterHeader ⊢ <;> exact afterHeader
  rcases List.prefix_cons_iff.1 afterHeader' with rfl | ⟨q, rfl, inData⟩
  · simpa using relpSplit_prefix_frameHeader isCommand (List.prefix_refl _) atEOF
  by_cases empty : data = []
  · simp [empty] at short
  rw [relpSplit_frameHeader isCommand small fits (by rw [if_neg empty]; decide) q atEOF, if_neg empty,
    if_neg]
  simp [frame, empty] at short ⊢
  omega

end Frame

/-! ## The response lines -/

/--
Each response line the handler and the cooker write is a frame of command
`rsp`; the answer to `close` is followed by a `serverclose` frame.
-/
theorem Response.render_eq_frames (n : Nat) (data : Bytes) :
    Response.render (.ok n) = frame n (ascii "rsp") (ascii "200 OK") ∧
      Response.render (.ko n) = frame n (ascii "rsp") (ascii "500 KO") ∧
      Response.render (.openReply n data) = frame n (ascii "rsp") (ascii "200 OK\n" ++ data) ∧
      Response.render (.closeReply n) =
        frame n (ascii "rsp") [] ++ frame 0 (ascii "serverclose") [] := by
  have length : (ascii "200 OK\n" ++ data).length = data.length + 7 := by simp [ascii]
  refine ⟨?_, ?_, ?_, ?_⟩ <;>
    simp only [Response.render, frame, frameHeader, length, List.append_assoc, List.cons_append] <;>
    rfl

/-! ## The handler's scanner -/

/--
The scanner of `HandleConnection` on a connection that sends `stream`:
`scanner.Buffer(make([]byte, 0, 132000), 132000)` makes the whole capacity the
buffer, and 132000 the `maxTokenSize`.
-/
def relpScanner (stream : Bytes) : Scanner := Scanner.init 132000 stream

/-- The frames of a stream of `(txnr, command, data)` and the tokens `RelpSplit` cuts from them. -/
def framesOf (msgs : List (Nat × Bytes × Bytes)) : List (Bytes × Bytes) :=
  msgs.map fun m => (frame m.1 m.2.1 m.2.2, trim spaceCutset (frame m.1 m.2.1 m.2.2))

/-- The frames of valid messages, each fitting the handler's buffer, are cut by `RelpSplit`. -/
theorem framesOf_cuts {msgs : List (Nat × Bytes × Bytes)}
    (valid : ∀ m ∈ msgs, IsCommand m.2.1 ∧ m.1 < 9223372036854775808 ∧
      (frame m.1 m.2.1 m.2.2).length ≤ 132000) :
    Cuts relpSplit 132000 (framesOf msgs) := by
  refine ⟨fun f mem rest atEOF => ?_, fun f mem p pre proper atEOF => ?_, fun f mem => ?_,
    fun f mem => ?_, by decide⟩ <;>
  obtain ⟨m, sent, rfl⟩ := List.mem_map.1 mem <;>
  obtain ⟨isCommand, small, fits⟩ := valid m sent
  · exact relpSplit_frame isCommand small (by omega) rest atEOF
  · exact relpSplit_prefix_frame isCommand small (by omega) pre proper atEOF
  · simp [frame, frameHeader]
  · exact fits

/--
RELP frames are what `RelpSplit` inverts: a whole frame is cut off as one
token, the frame trimmed, and a frame not yet whole asks for more, for every
frame a Go slice can hold. On a stream of frames that each fit the handler's
buffer the scan, however the stream is chunked, halts, and a run that can go no
further has stopped with no error after returning each frame's token, in order.
A frame longer than the buffer is never returned, whatever frames come before
it: the scan halts, and a run that can go no further has returned the tokens
of the frames before it and stopped with `ErrTooLong`. The response lines are
frames too.
-/
theorem relpSplit_splits_frames :
    (∀ txnr command data, IsCommand command → txnr < 9223372036854775808 →
      (frame txnr command data).length < 9223372036854775808 →
      (∀ rest atEOF, relpSplit (frame txnr command data ++ rest) atEOF =
        .ok ⟨(frame txnr command data).length,
          some (trim spaceCutset (frame txnr command data)), none⟩) ∧
      ∀ p, p <+: frame txnr command data → p ≠ frame txnr command data → ∀ atEOF,
        relpSplit p atEOF = .ok requestMore) ∧
    (∀ msgs : List (Nat × Bytes × Bytes), (∀ m ∈ msgs, IsCommand m.2.1 ∧
        m.1 < 9223372036854775808 ∧ (frame m.1 m.2.1 m.2.2).length ≤ 132000) →
      (relpScanner ((framesOf msgs).flatMap Prod.fst)).Halts relpSplit 132000 ∧
      ∀ s, Relation.ReflTransGen (ScanStep relpSplit 132000)
          (relpScanner ((framesOf msgs).flatMap Prod.fst)) s →
        (∃ s', ScanStep relpSplit 132000 s s') ∨
          (s.pc = .stopped none ∧ s.tokens = (framesOf msgs).map Prod.snd)) ∧
    (∀ msgs : List (Nat × Bytes × Bytes), (∀ m ∈ msgs, IsCommand m.2.1 ∧
        m.1 < 9223372036854775808 ∧ (frame m.1 m.2.1 m.2.2).length ≤ 132000) →
      ∀ txnr command data, IsCommand command → txnr < 9223372036854775808 →
      132000 < (frame txnr command data).length →
      (frame txnr command data).length < 9223372036854775808 → ∀ rest,
      (relpScanner ((framesOf msgs).flatMap Prod.fst ++ frame txnr command data ++ rest)).Halts
          relpSplit 132000 ∧
      ∀ s, Relation.ReflTransGen (ScanStep relpSplit 132000)
          (relpScanner ((framesOf msgs).flatMap Prod.fst ++ frame txnr command data ++ rest)) s →
        (∃ s', ScanStep relpSplit 132000 s s') ∨
          (s.pc = .stopped (some .tooLong) ∧ s.tokens = (framesOf msgs).map Prod.snd)) ∧
    ∀ (n : Nat) (data : Bytes),
      Response.render (.ok n) = frame n (ascii "rsp") (ascii "200 OK") ∧
      Response.render (.ko n) = frame n (ascii "rsp") (ascii "500 KO") ∧
      Response.render (.openReply n data) = frame n (ascii "rsp") (ascii "200 OK\n" ++ data) ∧
      Response.render (.closeReply n) =
        frame n (ascii "rsp") [] ++ frame 0 (ascii "serverclose") [] := by
  refine ⟨fun _ _ _ isCommand small fits =>
    ⟨relpSplit_frame isCommand small fits, fun _ pre proper =>
      relpSplit_prefix_frame isCommand small fits pre proper⟩, fun msgs valid => ?_,
    fun _ valid _ _ _ isCommand small long fits rest =>
      (framesOf_cuts valid).overlong_scan (fun _ pre proper =>
        relpSplit_prefix_frame isCommand small fits pre proper) long (Nat.le_refl 132000) rest,
    Response.render_eq_frames⟩
  have splits : Splits relpSplit 132000 (framesOf msgs) [] :=
    ⟨framesOf_cuts valid, fun p pre _ _ => by rw [List.prefix_nil.1 pre]; rfl⟩
  simpa using splits.scan (Nat.le_refl 132000)

/-- An `open`, a `syslog` and a `close` frame. -/
def relpSession : List (Nat × Bytes × Bytes) :=
  [(1, ascii "open", ascii "relp_version=0"), (2, ascii "syslog", ascii "<13>hello world\n"),
    (3, ascii "close", [])]

/-- A `syslog` frame with 132000 bytes of data: longer than the handler's buffer. -/
def longFrame : Bytes := frame 1 (ascii "syslog") (List.replicate 132000 120)

theorem longFrame_length : longFrame.length = 132017 := by
  have nonempty : List.replicate 132000 (120 : UInt8) ≠ [] :=
    List.ne_nil_of_length_pos (by rw [List.length_replicate]; decide)
  rw [longFrame, frame_length_of_ne_nil nonempty, frameHeader, List.length_replicate]
  decide

theorem relpSplit_splits_frames_session :
    (IsCommand (ascii "syslog") ∧ 2 < 9223372036854775808 ∧
      (frame 2 (ascii "syslog") (ascii "<13>hello world\n")).length < 9223372036854775808) ∧
    (∀ m ∈ relpSession, IsCommand m.2.1 ∧ m.1 < 9223372036854775808 ∧
      (frame m.1 m.2.1 m.2.2).length ≤ 132000) ∧
    ((∀ rest atEOF, relpSplit (frame 2 (ascii "syslog") (ascii "<13>hello world\n") ++ rest) atEOF =
        .ok ⟨(frame 2 (ascii "syslog") (ascii "<13>hello world\n")).length,
          some (trim spaceCutset (frame 2 (ascii "syslog") (ascii "<13>hello world\n"))), none⟩) ∧
      ∀ p, p <+: frame 2 (ascii "syslog") (ascii "<13>hello world\n") →
        p ≠ frame 2 (ascii "syslog") (ascii "<13>hello world\n") → ∀ atEOF,
          relpSplit p atEOF = .ok requestMore) ∧
    ((relpScanner ((framesOf relpSession).flatMap Prod.fst)).Halts relpSplit 132000 ∧
      ∀ s, Relation.ReflTransGen (ScanStep relpSplit 132000)
          (relpScanner ((framesOf relpSession).flatMap Prod.fst)) s →
        (∃ s', ScanStep relpSplit 132000 s s') ∨
          (s.pc = .stopped none ∧ s.tokens = (framesOf relpSession).map Prod.snd)) ∧
    (132000 < longFrame.length ∧ longFrame.length < 9223372036854775808 ∧
      ∀ s, Relation.ReflTransGen (ScanStep relpSplit 132000) (relpScanner
          ((framesOf relpSession).flatMap Prod.fst ++ longFrame ++ frame 2 (ascii "syslog") [])) s →
        (∃ s', ScanStep relpSplit 132000 s s') ∨
          (s.pc = .stopped (some .tooLong) ∧ s.tokens = (framesOf relpSession).map Prod.snd)) :=
  have single : IsCommand (ascii "syslog") ∧ 2 < 9223372036854775808 ∧
      (frame 2 (ascii "syslog") (ascii "<13>hello world\n")).length < 9223372036854775808 := by
    decide
  have valid : ∀ m ∈ relpSession, IsCommand m.2.1 ∧ m.1 < 9223372036854775808 ∧
      (frame m.1 m.2.1 m.2.2).length ≤ 132000 := by
    decide
  have long : 132000 < longFrame.length ∧ longFrame.length < 9223372036854775808 := by
    rw [longFrame_length]
    decide
  ⟨single, valid, relpSplit_splits_frames.1 2 _ _ single.1 single.2.1 single.2.2,
    relpSplit_splits_frames.2.1 relpSession valid, long.1, long.2,
    (relpSplit_splits_frames.2.2.1 relpSession valid 1 _ _ single.1 (by decide) long.1 long.2
      (frame 2 (ascii "syslog") [])).2⟩

example : (framesOf relpSession).map Prod.snd =
    [ascii "1 open 14 relp_version=0", ascii "2 syslog 16 <13>hello world", ascii "3 close 0"] := by
  decide

/--
A frame longer than the buffer is never returned: in the run where the scan
reads the frame, once the buffer is full at `maxTokenSize` with no token in it,
the scan stops with `ErrTooLong`, having returned nothing, and so does every
run that can go no further.
-/
theorem relpScanner_long_frame_too_long :
    (∃ s, Relation.ReflTransGen (ScanStep relpSplit 132000) (relpScanner longFrame) s ∧
      s.pc = .stopped (some .tooLong) ∧ s.tokens = []) ∧
    ∀ s, Relation.ReflTransGen (ScanStep relpSplit 132000) (relpScanner longFrame) s →
      (∃ s', ScanStep relpSplit 132000 s s') ∨ (s.pc = .stopped (some .tooLong) ∧ s.tokens = []) := by
  have scan := (Cuts.nil (by decide)).overlong_scan
    (fun p pre proper atEOF => relpSplit_prefix_frame (by decide) (by decide)
      (by rw [← longFrame, longFrame_length]; decide) pre proper atEOF)
    (show 132000 < longFrame.length by rw [longFrame_length]; decide) (Nat.le_refl 132000) []
  rw [List.flatMap_nil, List.nil_append, List.append_nil, List.map_nil] at scan
  exact ⟨scan.1.reaches scan.2, scan.2⟩

end Skewer.Relp
