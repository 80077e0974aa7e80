import Skewer.Relp.Wire
import Mathlib.Logic.Relation

/-!
# `bufio.Scanner`

The RELP and TCP handlers read their connections through a `bufio.Scanner`.
`Scan` asks the split function for a token in the bytes it holds,
`s.buf[s.start:s.end]`; when there is none it shifts them to the front of the
buffer, doubles a full buffer up to `maxTokenSize`, and reads again. Each pass
of that loop is a step below. A `Read` returns some of the bytes the peer has
sent, as many as fit, and `io.EOF` once all of them are read, so a run of the
relation is one chunking of the stream.

The split functions here never return `ErrFinalToken`, and a connection read
to its end never returns zero bytes without an error. A `Read` that fails
because the read deadline has passed is `Scanner.timeOut`, a step of the
handler that arms one.
-/

namespace Skewer.Relp

open Skewer.Go

/-- Why `Scan` returned false with `Err()` set, or panicked. -/
inductive ScanError where
  /-- `ErrTooLong`: the buffer is full at `maxTokenSize` and holds no token. -/
  | tooLong
  | negativeAdvance
  | advanceTooFar
  /-- An error the split function returned. -/
  | split (err : NumError)
  /-- The error of a `Read` that waited past the connection's read deadline. -/
  | deadline
  /-- A panic inside the split function. -/
  | panic (p : Panic)
  /-- `panic("bufio.Scan: too many empty tokens without progressing")`. -/
  | emptyTokens
  deriving DecidableEq, Repr

/-- Whether `Scan` panicked, rather than returned false with `Err()` set. -/
def ScanError.panicked : ScanError → Bool
  | .panic _ | .emptyTokens => true
  | _ => false

/-- Where the loop of `Scan` stands. -/
inductive ScanPc where
  /-- The top of the loop, where the split function is asked for a token. -/
  | split
  /-- No token: stop at end of input, otherwise make room to read. -/
  | read
  /-- `s.r.Read(s.buf[s.end:len(s.buf)])`. -/
  | fill
  /-- `Scan` has returned false, with `Err()` as given, or panicked. -/
  | stopped (err : Option ScanError)
  deriving DecidableEq, Repr

/-- A scanner on a connection; `held` is `s.buf[s.start:s.end]`. -/
structure Scanner where
  /-- `len(s.buf)`. -/
  bufLen : Nat
  start : Nat
  held : Bytes
  /-- What the peer has sent and the scanner has not read yet. -/
  input : Bytes
  /-- Whether `s.err` is set: `io.EOF`, or the error of a `Read` past the deadline. -/
  eof : Bool
  /-- Whether `s.err` is the read deadline's error, which `Err()` returns, rather than `io.EOF`. -/
  timedOut : Bool
  empties : Nat
  /-- The tokens `Scan` has returned, in order. -/
  tokens : List Bytes
  pc : ScanPc
  deriving DecidableEq, Repr

/-- A scanner with a buffer of `bufLen` bytes, before the first `Scan`. -/
def Scanner.init (bufLen : Nat) (input : Bytes) : Scanner :=
  ⟨bufLen, 0, [], input, false, false, 0, [], .split⟩

def startBufSize : Nat := 4096

def maxConsecutiveEmptyReads : Nat := 100

/-- `int(^uint(0) >> 1)`. -/
def maxInt : Nat := 9223372036854775807

/-- The top of the loop, given what the split function made of the held bytes. -/
def Scanner.afterSplit (s : Scanner) : Except Panic SplitResult → Scanner
  | .error p => { s with pc := .stopped (some (.panic p)) }
  | .ok ⟨_, _, some err⟩ => { s with pc := .stopped (some (.split err)) }
  | .ok ⟨advance, token, none⟩ =>
      if advance < 0 then { s with pc := .stopped (some .negativeAdvance) }
      else if s.held.length < advance then { s with pc := .stopped (some .advanceTooFar) }
      else
        let s' := { s with start := s.start + advance.toNat, held := s.held.drop advance.toNat }
        match token with
        | none => { s' with pc := .read }
        | some t =>
            if s.eof = false ∨ 0 < advance then
              { s' with empties := 0, tokens := s.tokens ++ [t], pc := .split }
            else if maxConsecutiveEmptyReads < s.empties + 1 then
              { s' with pc := .stopped (some .emptyTokens) }
            else { s' with empties := s.empties + 1, tokens := s.tokens ++ [t], pc := .split }

/--
No token. At end of input `Scan` returns false; otherwise the held bytes move
to the front when the buffer is full or more than half read, and a full
buffer grows to twice its size, from `startBufSize`, up to `maxTokenSize`.
-/
def Scanner.makeRoom (maxTokenSize : Nat) (s : Scanner) : Scanner :=
  if s.eof then
    { s with start := 0, held := [], pc := .stopped (if s.timedOut then some .deadline else none) }
  else
    let start :=
      if 0 < s.start ∧ (s.start + s.held.length = s.bufLen ∨ s.bufLen / 2 < s.start) then 0
      else s.start
    if start + s.held.length = s.bufLen then
      if maxTokenSize ≤ s.bufLen ∨ maxInt / 2 < s.bufLen then
        { s with start := start, pc := .stopped (some .tooLong) }
      else
        { s with bufLen := min (if s.bufLen = 0 then startBufSize else s.bufLen * 2) maxTokenSize,
                 start := 0, pc := .fill }
    else { s with start := start, pc := .fill }

/--
`Read` fails, the read deadline having passed: `s.setErr(err)`. `Scan` goes on
as at the end of the input, and what the peer sends after it is never read.
-/
def Scanner.timeOut (s : Scanner) : Scanner :=
  { s with eof := true, timedOut := true, pc := .split }

/-- One pass of the loop of `Scan`, with split function `split`; each `Read` succeeds. -/
inductive ScanStep (split : Bytes → Bool → Except Panic SplitResult) (maxTokenSize : Nat) :
    Scanner → Scanner → Prop
  /-- `if s.end > s.start || s.err != nil`: the split function is called. -/
  | split (s : Scanner) : s.pc = .split → (s.held ≠ [] ∨ s.eof = true) →
      ScanStep split maxTokenSize s (s.afterSplit (split s.held s.eof))
  /-- Nothing held and no error yet: straight to reading. -/
  | skip (s : Scanner) : s.pc = .split → s.held = [] → s.eof = false →
      ScanStep split maxTokenSize s { s with pc := .read }
  | makeRoom (s : Scanner) : s.pc = .read → ScanStep split maxTokenSize s (s.makeRoom maxTokenSize)
  /-- `Read` returns `n` of the bytes the peer has sent. -/
  | fill (s : Scanner) (n : Nat) : s.pc = .fill → 0 < n → n ≤ s.input.length →
      s.start + s.held.length + n ≤ s.bufLen →
      ScanStep split maxTokenSize s
        { s with held := s.held ++ s.input.take n, input := s.input.drop n, empties := 0,
                 pc := .split }
  /-- Everything the peer sent is read and it has closed the connection: `io.EOF`. -/
  | hangUp (s : Scanner) : s.pc = .fill → s.input = [] →
      ScanStep split maxTokenSize s { s with eof := true, pc := .split }

namespace Scanner

@[simp]
theorem afterSplit_requestMore (s : Scanner) :
    s.afterSplit (.ok requestMore) = { s with pc := .read } := by
  simp only [afterSplit, requestMore, Int.lt_irrefl, if_false, Int.toNat_zero, Nat.add_zero,
    List.drop_zero, if_neg (by omega : ¬(s.held.length : Int) < 0)]

theorem afterSplit_token (s : Scanner) {advance : Nat} (pos : 0 < advance)
    (within : advance ≤ s.held.length) (t : Bytes) :
    s.afterSplit (.ok ⟨advance, some t, none⟩) =
      { s with start := s.start + advance, held := s.held.drop advance, empties := 0,
               tokens := s.tokens ++ [t], pc := .split } := by
  simp only [afterSplit, if_neg (by omega : ¬(advance : Int) < 0),
    if_neg (by omega : ¬(s.held.length : Int) < advance), Int.toNat_ofNat]
  simp [pos]

/-- What `makeRoom` does before end of input: give up on a full buffer that may not grow, grow a full buffer, or leave room to read. -/
theorem makeRoom_cases (s : Scanner) (maxTokenSize : Nat) (notEof : s.eof = false)
    (within : s.start + s.held.length ≤ s.bufLen) :
    (s.held.length = s.bufLen ∧ (maxTokenSize ≤ s.bufLen ∨ maxInt / 2 < s.bufLen) ∧
      s.makeRoom maxTokenSize = { s with start := 0, pc := .stopped (some .tooLong) }) ∨
    (s.held.length = s.bufLen ∧ s.bufLen < maxTokenSize ∧ s.bufLen ≤ maxInt / 2 ∧
      ∃ grown, grown = min (if s.bufLen = 0 then startBufSize else s.bufLen * 2) maxTokenSize ∧
        s.bufLen < grown ∧ grown ≤ maxTokenSize ∧
        s.makeRoom maxTokenSize = { s with bufLen := grown, start := 0, pc := .fill }) ∨
    (∃ start ≤ s.start, start + s.held.length < s.bufLen ∧
      s.makeRoom maxTokenSize = { s with start := start, pc := .fill }) := by
  unfold makeRoom
  simp only [notEof, Bool.false_eq_true, if_false]
  by_cases full : s.held.length = s.bufLen
  · have shifted : (if 0 < s.start ∧ (s.start + s.held.length = s.bufLen ∨ s.bufLen / 2 < s.start)
        then 0 else s.start) = 0 := by split_ifs <;> omega
    rw [shifted, Nat.zero_add, if_pos full]
    by_cases big : maxTokenSize ≤ s.bufLen ∨ maxInt / 2 < s.bufLen
    · exact .inl ⟨full, big, by rw [if_pos big]⟩
    · have larger : s.bufLen < min (if s.bufLen = 0 then startBufSize else s.bufLen * 2)
          maxTokenSize := by
        simp only [startBufSize]
        split_ifs <;> omega
      exact .inr (.inl ⟨full, by omega, by omega, _, rfl, larger, Nat.min_le_right _ _,
        by rw [if_neg big]⟩)
  · have room : (if 0 < s.start ∧ (s.start + s.held.length = s.bufLen ∨ s.bufLen / 2 < s.start)
        then 0 else s.start) + s.held.length < s.bufLen := by split_ifs <;> omega
    rw [if_neg (Nat.ne_of_lt room)]
    exact .inr (.inr ⟨_, by split_ifs <;> omega, room, rfl⟩)

@[simp]
theorem makeRoom_tokens (s : Scanner) (maxTokenSize : Nat) :
    (s.makeRoom maxTokenSize).tokens = s.tokens := by
  dsimp only [makeRoom]
  split_ifs <;> rfl

theorem afterSplit_tokens (s : Scanner) (result : Except Panic SplitResult) :
    (s.afterSplit result).tokens = s.tokens ∨
      ∃ t, (s.afterSplit result).tokens = s.tokens ++ [t] := by
  unfold afterSplit
  split
  · exact .inl rfl
  · exact .inl rfl
  · rename_i token
    cases token <;> dsimp only <;> split_ifs <;> first | exact .inl rfl | exact .inr ⟨_, rfl⟩

end Scanner

/-- A step returns at most one token, after those returned before. -/
theorem ScanStep.tokens_cases {split : Bytes → Bool → Except Panic SplitResult}
    {maxTokenSize : Nat} {s s' : Scanner} (step : ScanStep split maxTokenSize s s') :
    s'.tokens = s.tokens ∨ ∃ t, s'.tokens = s.tokens ++ [t] := by
  cases step with
  | split => exact Scanner.afterSplit_tokens _ _
  | makeRoom => exact .inl (Scanner.makeRoom_tokens _ _)
  | skip | fill | hangUp => exact .inl rfl

/-- A stopped scan takes no further step. -/
theorem ScanStep.not_stopped {split : Bytes → Bool → Except Panic SplitResult} {maxTokenSize : Nat}
    {s s' : Scanner} (step : ScanStep split maxTokenSize s s') (err : Option ScanError) :
    s.pc ≠ .stopped err := by
  cases step <;> simp_all

/-- No run of the scanner from `s` goes on for ever. -/
def Scanner.Halts (split : Bytes → Bool → Except Panic SplitResult) (maxTokenSize : Nat)
    (s : Scanner) : Prop :=
  Acc (fun s' s => ScanStep split maxTokenSize s s') s

def ScanPc.rank : ScanPc → Nat
  | .split => 2
  | .read => 1
  | _ => 0

/-- What is left of a scan; the steps of the scans below lower it. -/
def Scanner.work (maxTokenSize : Nat) (s : Scanner) : Nat :=
  4 * s.input.length + s.held.length + (if s.eof then 0 else 3) + s.pc.rank +
    (maxTokenSize - s.bufLen)

section Runs

variable {split : Bytes → Bool → Except Panic SplitResult} {maxTokenSize : Nat} {s : Scanner}

theorem Scanner.work_toRead (splitting : s.pc = .split) :
    { s with pc := .read }.work maxTokenSize < s.work maxTokenSize := by
  simp only [Scanner.work, splitting, ScanPc.rank]
  omega

theorem Scanner.work_makeRoom (reading : s.pc = .read)
    (within : s.start + s.held.length ≤ s.bufLen) :
    (s.makeRoom maxTokenSize).work maxTokenSize < s.work maxTokenSize := by
  cases eof : s.eof
  · rcases makeRoom_cases s maxTokenSize eof within with ⟨-, -, moved⟩ |
      ⟨-, -, -, grown, -, larger, -, moved⟩ | ⟨start, -, -, moved⟩ <;>
    · simp only [moved, Scanner.work, reading, ScanPc.rank]
      omega
  · simp only [Scanner.makeRoom, eof, if_true, Scanner.work, reading, ScanPc.rank,
      List.length_nil]
    omega

theorem Scanner.work_fill {n : Nat} (filling : s.pc = .fill) (pos : 0 < n)
    (enough : n ≤ s.input.length) :
    { s with held := s.held ++ s.input.take n, input := s.input.drop n, empties := 0,
             pc := .split }.work maxTokenSize < s.work maxTokenSize := by
  simp only [Scanner.work, filling, ScanPc.rank, List.length_append, List.length_take,
    List.length_drop, Nat.min_eq_left enough]
  omega

/-- A scan that has not stopped can take a step, given room in the buffer when it reads. -/
theorem ScanStep.exists_of_live (live : ∀ err, s.pc ≠ .stopped err)
    (room : s.pc = .fill → s.start + s.held.length < s.bufLen) :
    ∃ s', ScanStep split maxTokenSize s s' := by
  cases pc : s.pc with
  | split =>
      by_cases calls : s.held ≠ [] ∨ s.eof = true
      · exact ⟨_, .split s pc calls⟩
      · simp only [not_or, ne_eq, not_not, Bool.not_eq_true] at calls
        exact ⟨_, .skip s pc calls.1 calls.2⟩
  | read => exact ⟨_, .makeRoom s pc⟩
  | fill =>
      have room := room pc
      cases input : s.input with
      | nil => exact ⟨_, .hangUp s pc input⟩
      | cons b rest => exact ⟨_, .fill s 1 pc Nat.one_pos (by simp [input]) (by omega)⟩
  | stopped err => exact absurd pc (live err)

/-- A scan halts from every state of an invariant that each step keeps while lowering `work`. -/
theorem Scanner.halts_of_invariant {inv : Scanner → Prop}
    (step : ∀ s s', inv s → ScanStep split maxTokenSize s s' →
      inv s' ∧ s'.work maxTokenSize < s.work maxTokenSize)
    (holds : inv s) : s.Halts split maxTokenSize := by
  generalize left : s.work maxTokenSize = n
  induction n using Nat.strong_induction_on generalizing s with
  | _ n ih =>
      exact ⟨s, fun s' next =>
        ih _ (left ▸ (step s s' holds next).2) (step s s' holds next).1 rfl⟩

/-- A halting scan, each of whose reachable states can step or satisfies `done`, reaches one that satisfies `done`. -/
theorem Scanner.Halts.reaches {done : Scanner → Prop} (halts : s.Halts split maxTokenSize)
    (stuck : ∀ s', Relation.ReflTransGen (ScanStep split maxTokenSize) s s' →
      (∃ s'', ScanStep split maxTokenSize s' s'') ∨ done s') :
    ∃ s', Relation.ReflTransGen (ScanStep split maxTokenSize) s s' ∧ done s' := by
  induction halts with
  | intro s _ ih =>
      rcases stuck s .refl with ⟨s', next⟩ | finished
      · obtain ⟨t, reach, holds⟩ := ih s' next fun t reach => stuck t (.head next reach)
        exact ⟨t, .head next reach, holds⟩
      · exact ⟨s, .refl, finished⟩

/--
From a state of an invariant that each step keeps while lowering `work`, the
scan halts, and every state it reaches can step or satisfies `done`, given that
every state of the invariant can.
-/
theorem Scanner.scan_of_invariant {inv done : Scanner → Prop}
    (step : ∀ s s', inv s → ScanStep split maxTokenSize s s' →
      inv s' ∧ s'.work maxTokenSize < s.work maxTokenSize)
    (stuck : ∀ s, inv s → (∃ s', ScanStep split maxTokenSize s s') ∨ done s) (holds : inv s) :
    s.Halts split maxTokenSize ∧ ∀ s', Relation.ReflTransGen (ScanStep split maxTokenSize) s s' →
      (∃ s'', ScanStep split maxTokenSize s' s'') ∨ done s' := by
  refine ⟨Scanner.halts_of_invariant step holds, fun s' reach => stuck s' ?_⟩
  induction reach with
  | refl => exact holds
  | tail _ next ih => exact (step _ _ ih next).1

end Runs

/-! ## A stream of frames -/

/--
What the split function does on a stream of frames, each `(bytes, token)`: a
frame whole at the front of the data is cut off and gives its token, and a
frame not yet whole asks for more. Every frame fits in `maxTokenSize`.
-/
structure Cuts (split : Bytes → Bool → Except Panic SplitResult) (maxTokenSize : Nat)
    (frames : List (Bytes × Bytes)) : Prop where
  whole : ∀ f ∈ frames, ∀ rest atEOF, split (f.1 ++ rest) atEOF = .ok ⟨f.1.length, some f.2, none⟩
  part : ∀ f ∈ frames, ∀ p, p <+: f.1 → p ≠ f.1 → ∀ atEOF, split p atEOF = .ok requestMore
  nonempty : ∀ f ∈ frames, f.1 ≠ []
  fits : ∀ f ∈ frames, f.1.length ≤ maxTokenSize
  small : maxTokenSize ≤ maxInt / 2

/--
The frames followed by `tail`, of which the split function asks for more on
every part the buffer can hold. `tail` may be longer than `maxTokenSize`.
-/
structure Splits (split : Bytes → Bool → Except Panic SplitResult) (maxTokenSize : Nat)
    (frames : List (Bytes × Bytes)) (tail : Bytes) extends Cuts split maxTokenSize frames :
    Prop where
  trailing : ∀ p, p <+: tail → p.length ≤ maxTokenSize → ∀ atEOF, split p atEOF = .ok requestMore

/--
A scan of the stream under way: it has returned the tokens of the first
frames, and the rest of the stream is held or yet to be read. While it reads,
the held bytes are no whole frame and there is room for more; at the end of
the input there is room to spare.
-/
structure Running (frames : List (Bytes × Bytes)) (tail : Bytes) (maxTokenSize : Nat)
    (s : Scanner) : Prop where
  tokens : s.tokens = (frames.take s.tokens.length).map Prod.snd
  rest : s.held ++ s.input = (frames.drop s.tokens.length).flatMap Prod.fst ++ tail
  inBuffer : s.start + s.held.length ≤ s.bufLen
  bounded : s.bufLen ≤ maxTokenSize
  ended : s.eof = true → s.input = [] ∧ s.start + s.held.length < s.bufLen
  inTime : s.timedOut = false
  noEmpties : s.empties = 0
  short : s.pc = .read ∨ s.pc = .fill →
    ∀ f ∈ (frames.drop s.tokens.length).head?, s.held.length < f.1.length
  room : s.pc = .fill → s.start + s.held.length < s.bufLen ∧ s.eof = false
  live : ∀ err, s.pc ≠ .stopped err

/--
A scan of the stream under way, or stopped after the tokens of all the frames:
with no error if `tail` fits the buffer, with `ErrTooLong` if it does not.
-/
def Framed (frames : List (Bytes × Bytes)) (tail : Bytes) (maxTokenSize : Nat) (s : Scanner) :
    Prop :=
  Running frames tail maxTokenSize s ∨
    (s.pc = .stopped (if tail.length < maxTokenSize then none else some .tooLong) ∧
      s.tokens = frames.map Prod.snd)

section Framed

variable {split : Bytes → Bool → Except Panic SplitResult} {maxTokenSize : Nat}
  {frames : List (Bytes × Bytes)} {tail : Bytes} {s : Scanner}

theorem mem_of_drop_eq_cons {k : Nat} {f : Bytes × Bytes} {more : List (Bytes × Bytes)}
    (ahead : frames.drop k = f :: more) : f ∈ frames :=
  List.mem_of_mem_drop (ahead ▸ List.mem_cons_self f more)

/-- A scan from the start of the stream, with a buffer no larger than `maxTokenSize`. -/
theorem Running.init {bufLen : Nat} (fitsBuffer : bufLen ≤ maxTokenSize) :
    Running frames tail maxTokenSize (Scanner.init bufLen (frames.flatMap Prod.fst ++ tail)) :=
  ⟨rfl, by simp [Scanner.init], by simp [Scanner.init], fitsBuffer, nofun, rfl, rfl,
    by simp [Scanner.init], nofun, fun _ => nofun⟩

namespace Running

variable (run : Running frames tail maxTokenSize s)
include run

/-- What the held bytes are: the next frame whole, part of it, or part of `tail`. -/
theorem ahead :
    (∃ f more rest, frames.drop s.tokens.length = f :: more ∧ s.held = f.1 ++ rest ∧
      rest ++ s.input = more.flatMap Prod.fst ++ tail) ∨
    (∃ f more, frames.drop s.tokens.length = f :: more ∧ s.held <+: f.1 ∧ s.held ≠ f.1) ∨
    (frames.drop s.tokens.length = [] ∧ s.held <+: tail) := by
  have rest := run.rest
  cases ahead : frames.drop s.tokens.length with
  | nil => exact .inr (.inr ⟨rfl, s.input, by simpa [ahead] using rest⟩)
  | cons f more =>
      rw [ahead, List.flatMap_cons, List.append_assoc] at rest
      rcases List.append_eq_append_iff.1 rest with ⟨extra, front, back⟩ | ⟨extra, front, back⟩
      · by_cases whole : extra = []
        · subst whole
          exact .inl ⟨f, more, [], rfl, by simpa using front.symm, by simpa using back⟩
        · refine .inr (.inl ⟨f, more, rfl, ⟨extra, front.symm⟩, fun same => whole ?_⟩)
          simpa [same] using front
      · exact .inl ⟨f, more, extra, rfl, front, back.symm⟩

/-- Once no frame is left, the scan has returned the tokens of all of them. -/
theorem tokens_all (drained : frames.drop s.tokens.length = []) : s.tokens = frames.map Prod.snd := by
  rw [run.tokens, List.take_of_length_le (List.drop_eq_nil_iff.1 drained)]

/-- A scan that reads holding `maxTokenSize` bytes holds no frame: they are part of `tail`. -/
theorem drained_of_full (splits : Splits split maxTokenSize frames tail)
    (reading : s.pc = .read ∨ s.pc = .fill) (full : maxTokenSize ≤ s.held.length) :
    frames.drop s.tokens.length = [] ∧ s.held <+: tail := by
  rcases run.ahead with ⟨f, more, rest, ahead, held, -⟩ | ⟨f, more, ahead, -, -⟩ | done
  · have := run.short reading f (by simp [ahead])
    rw [held, List.length_append] at this
    omega
  · have := run.short reading f (by simp [ahead])
    have := splits.fits f (mem_of_drop_eq_cons ahead)
    omega
  · exact done

/-- The scan goes on to read, the held bytes being no whole frame. -/
theorem toRead (short : ∀ f ∈ (frames.drop s.tokens.length).head?, s.held.length < f.1.length) :
    Running frames tail maxTokenSize { s with pc := .read } :=
  { run with
    short := fun _ => short
    room := fun filling => nomatch filling
    live := fun _ => nofun }

/-- The split function on the held bytes gives the next frame's token, or asks for more. -/
theorem split_step (splits : Splits split maxTokenSize frames tail) (splitting : s.pc = .split) :
    Framed frames tail maxTokenSize (s.afterSplit (split s.held s.eof)) ∧
      (s.afterSplit (split s.held s.eof)).work maxTokenSize < s.work maxTokenSize := by
  rcases run.ahead with ⟨f, more, rest, ahead, held, rest'⟩ | ⟨f, more, ahead, pre, proper⟩ |
    ⟨ahead, pre⟩
  · have mem := mem_of_drop_eq_cons ahead
    have pos : 0 < f.1.length := List.length_pos.2 (splits.nonempty f mem)
    have within : f.1.length ≤ s.held.length := by simp [held]
    have dropped : s.held.drop f.1.length = rest := by simp [held]
    have heldLength : s.held.length = f.1.length + rest.length := by simp [held]
    have taken : frames.take (s.tokens.length + 1) = frames.take s.tokens.length ++ [f] := by
      rw [List.take_add, ahead]
      rfl
    have after : frames.drop (s.tokens.length + 1) = more := by
      rw [← List.drop_drop, ahead]
      rfl
    have inBuffer := run.inBuffer
    rw [held, splits.whole f mem rest s.eof, Scanner.afterSplit_token s pos within]
    refine ⟨.inl ⟨?_, ?_, ?_, run.bounded, fun eof => ?_, run.inTime, rfl, fun h => by simp at h,
      fun h => by simp at h, fun _ => by simp⟩, ?_⟩
    · simp [taken, ← run.tokens]
    · simpa [dropped, after] using rest'
    · simp only [dropped]
      omega
    · have ended := run.ended eof
      simp only [dropped]
      exact ⟨ended.1, by omega⟩
    · simp only [Scanner.work, dropped, splitting, ScanPc.rank]
      omega
  · rw [splits.part f (mem_of_drop_eq_cons ahead) s.held pre proper s.eof,
      Scanner.afterSplit_requestMore]
    refine ⟨.inl (run.toRead ?_), Scanner.work_toRead splitting⟩
    simpa [ahead] using lt_of_le_of_ne pre.length_le fun same => proper (pre.eq_of_length same)
  · have fits : s.held.length ≤ maxTokenSize := by
      have := run.inBuffer
      have := run.bounded
      omega
    rw [splits.trailing s.held pre fits s.eof, Scanner.afterSplit_requestMore]
    exact ⟨.inl (run.toRead (by simp [ahead])), Scanner.work_toRead splitting⟩

/-- At end of input the split function has asked for more only of the whole of `tail`. -/
theorem drained (reading : s.pc = .read) (eof : s.eof = true) :
    frames.drop s.tokens.length = [] ∧ s.held = tail := by
  have input := (run.ended eof).1
  rcases run.ahead with ⟨f, more, rest, ahead, held, -⟩ | ⟨f, more, ahead, pre, proper⟩ | ⟨ahead, -⟩
  · have := run.short (.inl reading) f (by simp [ahead])
    rw [held, List.length_append] at this
    omega
  · have whole := congrArg List.length run.rest
    have shorter := lt_of_le_of_ne pre.length_le fun same => proper (pre.eq_of_length same)
    simp only [input, ahead, List.append_nil, List.flatMap_cons, List.length_append] at whole
    omega
  · simpa [ahead, input] using run.rest

/--
Making room: at end of input the scan stops after every token, `tail` fitting
the buffer; a full buffer that may not grow holds part of `tail`, which does
not fit, and the scan stops with `ErrTooLong`; otherwise there is room to read.
-/
theorem makeRoom_step (splits : Splits split maxTokenSize frames tail) (reading : s.pc = .read) :
    Framed frames tail maxTokenSize (s.makeRoom maxTokenSize) ∧
      (s.makeRoom maxTokenSize).work maxTokenSize < s.work maxTokenSize := by
  refine ⟨?_, Scanner.work_makeRoom reading run.inBuffer⟩
  cases eof : s.eof
  · have short := run.short (.inl reading)
    have bounded := run.bounded
    rcases Scanner.makeRoom_cases s maxTokenSize eof run.inBuffer with ⟨full, big, tooLong⟩ |
      ⟨full, -, -, grown, -, larger, le, moved⟩ | ⟨start, -, room, moved⟩
    · have small := splits.small
      obtain ⟨drained, pre⟩ := run.drained_of_full splits (.inl reading) (by omega)
      have long : ¬tail.length < maxTokenSize := by
        have := pre.length_le
        omega
      rw [tooLong]
      exact .inr ⟨by rw [if_neg long], run.tokens_all drained⟩
    · rw [moved]
      exact .inl { run with
        inBuffer := by dsimp only; omega
        bounded := le
        ended := by simp [eof]
        short := fun _ => short
        room := fun _ => ⟨by dsimp only; omega, eof⟩
        live := fun _ => nofun }
    · rw [moved]
      exact .inl { run with
        inBuffer := room.le
        ended := by simp [eof]
        short := fun _ => short
        room := fun _ => ⟨room, eof⟩
        live := fun _ => nofun }
  · obtain ⟨drained, held⟩ := run.drained reading eof
    have fits : tail.length < maxTokenSize := by
      have room := (run.ended eof).2
      have := run.bounded
      rw [held] at room
      omega
    have stopped : s.makeRoom maxTokenSize = { s with start := 0, held := [], pc := .stopped none } := by
      simp [Scanner.makeRoom, eof, run.inTime]
    rw [stopped]
    exact .inr ⟨by rw [if_pos fits], run.tokens_all drained⟩

/-- Each step keeps the scan framed and lowers what is left of it. -/
theorem step (splits : Splits split maxTokenSize frames tail) {s' : Scanner}
    (step : ScanStep split maxTokenSize s s') :
    Framed frames tail maxTokenSize s' ∧ s'.work maxTokenSize < s.work maxTokenSize := by
  cases step with
  | split splitting _ => exact run.split_step splits splitting
  | skip splitting empty _ =>
      refine ⟨.inl (run.toRead fun f mem => ?_), Scanner.work_toRead splitting⟩
      rw [empty]
      exact List.length_pos.2
        (splits.nonempty f (List.mem_of_mem_drop (List.mem_of_mem_head? mem)))
  | makeRoom reading => exact run.makeRoom_step splits reading
  | fill n filling pos enough fits =>
      have notEof := (run.room filling).2
      refine ⟨.inl { run with
        rest := by simpa using run.rest
        inBuffer := by
          simp only [List.length_append, List.length_take, Nat.min_eq_left enough]
          omega
        ended := by simp [notEof]
        noEmpties := rfl
        short := by simp
        room := by simp
        live := fun _ => nofun }, Scanner.work_fill filling pos enough⟩
  | hangUp filling drained =>
      have notEof := (run.room filling).2
      refine ⟨.inl { run with
        ended := fun _ => ⟨drained, (run.room filling).1⟩
        short := by simp
        room := by simp
        live := fun _ => nofun }, ?_⟩
      simp [Scanner.work, filling, ScanPc.rank, notEof]

/-- A scan under way can always take a step. -/
theorem progress : ∃ s', ScanStep split maxTokenSize s s' :=
  ScanStep.exists_of_live run.live fun filling => (run.room filling).1

end Running

theorem Framed.step (splits : Splits split maxTokenSize frames tail)
    (framed : Framed frames tail maxTokenSize s) {s' : Scanner}
    (step : ScanStep split maxTokenSize s s') :
    Framed frames tail maxTokenSize s' ∧ s'.work maxTokenSize < s.work maxTokenSize :=
  framed.elim (fun run => run.step splits step) fun done => absurd done.1 (step.not_stopped _)

/--
On a stream of frames followed by `tail`, however it is chunked, the scan ends:
no run goes on for ever, and a run that can go no further has returned the
tokens of all the frames, in order, and stopped: with no error if `tail` fits
the buffer, and with `ErrTooLong` if it does not.
-/
theorem Splits.scan (splits : Splits split maxTokenSize frames tail) {bufLen : Nat}
    (fitsBuffer : bufLen ≤ maxTokenSize) :
    (Scanner.init bufLen (frames.flatMap Prod.fst ++ tail)).Halts split maxTokenSize ∧
      ∀ s, Relation.ReflTransGen (ScanStep split maxTokenSize)
          (Scanner.init bufLen (frames.flatMap Prod.fst ++ tail)) s →
        (∃ s', ScanStep split maxTokenSize s s') ∨
          (s.pc = .stopped (if tail.length < maxTokenSize then none else some .tooLong) ∧
            s.tokens = frames.map Prod.snd) :=
  Scanner.scan_of_invariant
    (fun _ _ (framed : Framed frames tail maxTokenSize _) next => framed.step splits next)
    (fun _ framed => framed.elim (fun run => .inl run.progress) .inr)
    (.inl (Running.init fitsBuffer))

/-! ## A frame longer than the buffer -/

theorem Cuts.nil (small : maxTokenSize ≤ maxInt / 2) : Cuts split maxTokenSize [] :=
  ⟨nofun, nofun, nofun, nofun, small⟩

/-- What a buffer can hold of a frame longer than it, and of what follows, is a proper prefix of the frame. -/
theorem Cuts.long {f : Bytes}
    (part : ∀ p, p <+: f → p ≠ f → ∀ atEOF, split p atEOF = .ok requestMore)
    (long : maxTokenSize < f.length) (rest : Bytes) :
    ∀ p, p <+: f ++ rest → p.length ≤ maxTokenSize → ∀ atEOF, split p atEOF = .ok requestMore :=
  fun p pre fits => part p (List.prefix_of_prefix_length_le pre (List.prefix_append f rest)
    (by omega)) fun same => by rw [same] at fits; omega

/--
Frames the split function cuts, then a frame `f` longer than `maxTokenSize` on
each of whose proper prefixes it asks for more: however the stream is chunked,
the scan halts, and a run that can go no further has returned the frames'
tokens and stopped with `ErrTooLong`. The long frame is never returned.
-/
theorem Cuts.overlong_scan (cuts : Cuts split maxTokenSize frames) {f : Bytes}
    (part : ∀ p, p <+: f → p ≠ f → ∀ atEOF, split p atEOF = .ok requestMore)
    (long : maxTokenSize < f.length) {bufLen : Nat} (fitsBuffer : bufLen ≤ maxTokenSize)
    (rest : Bytes) :
    (Scanner.init bufLen (frames.flatMap Prod.fst ++ f ++ rest)).Halts split maxTokenSize ∧
      ∀ s, Relation.ReflTransGen (ScanStep split maxTokenSize)
          (Scanner.init bufLen (frames.flatMap Prod.fst ++ f ++ rest)) s →
        (∃ s', ScanStep split maxTokenSize s s') ∨
          (s.pc = .stopped (some .tooLong) ∧ s.tokens = frames.map Prod.snd) := by
  have tooLong : ¬(f ++ rest).length < maxTokenSize := by
    rw [List.length_append]
    omega
  simpa only [List.append_assoc, if_neg tooLong] using
    (Splits.mk cuts (Cuts.long part long rest)).scan fitsBuffer

end Framed

end Skewer.Relp
