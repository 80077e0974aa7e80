import Skewer.Go.Strconv

/-!
# The RELP wire format

Frames arrive as `TXNR SP COMMAND SP DATALEN (SP DATA)? LF` and are cut out of
the stream by `RelpSplit`, the split function of the handler's
`bufio.Scanner`. Responses leave as the `rsp` lines the handler and the
response cooker format with `fmt.Sprintf`.
-/

namespace Skewer.Relp

open Skewer.Go

def splitSpaceOrLF (r : UInt8) : Bool := r == 32 || r == 10 || r == 13

/-- The cutset `" \r\n"` of every `Trim` and `TrimLeft` call on frames. -/
def spaceCutset : Bytes := ascii " \r\n"

/-- The triple `(advance, token, err)` a `bufio.SplitFunc` returns. -/
structure SplitResult where
  advance : Int
  token : Option Bytes
  err : Option NumError
  deriving DecidableEq, Repr

/-- `return 0, nil, nil`: the scanner must read more before splitting again. -/
def requestMore : SplitResult := ⟨0, none, none⟩

/-- `bytes.Trim` returns a nil slice when nothing is left. -/
def nonNil (s : Bytes) : Option Bytes := if s = [] then none else some s

/--
`RelpSplit(data, atEOF)`. Only `advance += datalen + 1` can leave Go's `int`
range for data the scanner holds (at most 132000 bytes), so only there is the
sum wrapped; a negative `advance` then reaches the slice `data[:advance]`.
-/
def relpSplit (data : Bytes) (_atEOF : Bool) : Except Panic SplitResult :=
  let trimmedData := trimLeft spaceCutset data
  if trimmedData.length = 0 then .ok requestMore
  else
    let splits := fieldsFunc splitSpaceOrLF trimmedData
    match splits with
    | txnrStr :: command :: datalenStr :: _ =>
        let tokenStr := txnrStr ++ [32] ++ command ++ [32] ++ datalenStr
        let advance : Int :=
          data.length - trimmedData.length + tokenStr.length + 1
        if splits.length = 3 ∧ (data.length : Int) < advance then .ok requestMore
        else
          match atoi txnrStr with
          | (_, some err) => .ok ⟨0, none, some err⟩
          | (_, none) =>
              match atoi datalenStr with
              | (_, some err) => .ok ⟨0, none, some err⟩
              | (datalen, none) =>
                  if datalen = 0 then .ok ⟨advance, some tokenStr, none⟩
                  else
                    let advance := wrapInt (advance + wrapInt (datalen + 1))
                    if advance ≤ data.length then
                      if advance < 0 then .error .sliceBoundsOutOfRange
                      else .ok ⟨advance, nonNil (trim spaceCutset (data.take advance.toNat)), none⟩
                    else .ok requestMore
    | _ => .ok requestMore

/--
A negative DATALEN, and one at `math.MaxInt`, both bring `advance` below
zero, and `data[:advance]` panics inside `scanner.Scan()`, whatever `atEOF`.
-/
theorem relpSplit_datalen_panics :
    (∀ atEOF, relpSplit (ascii "1 syslog -20 x\n") atEOF = .error .sliceBoundsOutOfRange) ∧
      ∀ atEOF, relpSplit (ascii "1 syslog 9223372036854775807 x\n") atEOF =
        .error .sliceBoundsOutOfRange := by
  decide

/--
The tokens `scanner.Scan()` returns once the whole stream `data` has been
read: `RelpSplit` is applied to the unconsumed bytes, the scanner skips what a
nil token advances over, and scanning stops at the first error, panic,
invalid advance or request for more data.
-/
def scanBuffered : Nat → Bytes → List Bytes
  | 0, _ => []
  | fuel + 1, data =>
      if data = [] then []
      else
        match relpSplit data true with
        | .ok ⟨advance, token, none⟩ =>
            if advance ≤ 0 ∨ data.length < advance then []
            else
              match token with
              | some t => t :: scanBuffered fuel (data.drop advance.toNat)
              | none => scanBuffered fuel (data.drop advance.toNat)
        | _ => []

/-- Each token consumes at least one byte, so `len(data) + 1` rounds suffice. -/
def scanStream (data : Bytes) : List Bytes := scanBuffered (data.length + 1) data

/-- The response lines written back on a RELP connection. -/
inductive Response where
  /-- The handler's answer to `open`, echoing the offered capabilities. -/
  | openReply (txnr : Int) (data : Bytes)
  /-- The handler's answer to `close`. -/
  | closeReply (txnr : Int)
  /-- The cooker's `immediateSuccess`. -/
  | ok (txnr : Int)
  /-- The cooker's `immediateFailure`. -/
  | ko (txnr : Int)
  deriving DecidableEq, Repr

namespace Response

def txnr : Response → Int
  | openReply t _ | closeReply t | ok t | ko t => t

/-- Whether the line reports a success. -/
def isOk : Response → Bool
  | ok _ => true
  | _ => false

/-- Whether the cooker, rather than the reader, writes this line. -/
def fromCooker : Response → Bool
  | ok _ | ko _ => true
  | _ => false

/-- The bytes `fmt.Sprintf` produces for each line. -/
def render : Response → Bytes
  | openReply t data =>
      itoa t ++ ascii " rsp " ++ itoa (data.length + 7) ++ ascii " 200 OK\n" ++ data ++
        ascii "\n"
  | closeReply t => itoa t ++ ascii " rsp 0\n0 serverclose 0\n"
  | ok t => itoa t ++ ascii " rsp 6 200 OK\n"
  | ko t => itoa t ++ ascii " rsp 6 500 KO\n"

end Response

end Skewer.Relp
