import Skewer.Relp.Wire

/-!
# The TCP split functions

The TCP handler reads its connection through a `bufio.Scanner` whose split
function is `TcpSplit` for the syslog formats and `LFTcpSplit` otherwise.
`LFTcpSplit` cuts the stream at line feeds. `TcpSplit` does the same for a
frame that starts with `<` and otherwise reads an octet count: a decimal
length, a space, then that many bytes.
-/

namespace Skewer.Tcp

open Skewer.Go Skewer.Relp

/-- The line-feed branch both split functions share, on data trimmed of `trimmed` bytes. -/
def lfSplit (trimmed : Int) (trimmedData : Bytes) : Except Panic SplitResult := do
  let lf := indexByte trimmedData 10
  if 0 ≤ lf then
    let line ← slice trimmedData 0 lf
    return ⟨trimmed + lf + 1, nonNil (trim spaceCutset line), none⟩
  else return requestMore

/-- `LFTcpSplit(data, atEOF)`. -/
def lfTcpSplit (data : Bytes) (_atEOF : Bool) : Except Panic SplitResult :=
  let trimmedData := trimLeft spaceCutset data
  if trimmedData.length = 0 then .ok requestMore
  else lfSplit (data.length - trimmedData.length : Int) trimmedData

/--
`TcpSplit(data, atEOF)`. The sums of Go's `int` wrap; a negative count, or
one near `math.MaxInt`, reaches the slice of the message with its bounds
reversed.
-/
def tcpSplit (data : Bytes) (_atEOF : Bool) : Except Panic SplitResult := do
  let trimmedData := trimLeft spaceCutset data
  if trimmedData.length = 0 then return requestMore
  let trimmed : Int := data.length - trimmedData.length
  if (← index trimmedData 0) = 60 then lfSplit trimmed trimmedData
  else
    let sp := indexAny trimmedData (ascii " \n")
    if sp ≤ 0 then return requestMore
    let datalenS := trim spaceCutset (← slice trimmedData 0 sp)
    match atoi datalenS with
    | (_, some err) => return ⟨0, none, some err⟩
    | (datalen, none) =>
        let advance := wrapInt (trimmed + sp + 1 + datalen)
        if advance ≤ data.length then
          let token ← slice trimmedData (sp + 1) (wrapInt (sp + 1 + datalen))
          return ⟨advance, nonNil (trim spaceCutset token), none⟩
        else return requestMore

/--
`-1 abc` gives `advance = 2`, within the data, and the slice `[3:2]`; a count
of `math.MaxInt` wraps `advance` below zero and the slice's high bound with it.
Both panic in the connection's goroutine, whatever `atEOF`.
-/
theorem tcpSplit_octet_count_panics :
    (∀ atEOF, tcpSplit (ascii "-1 abc") atEOF = .error .sliceBoundsOutOfRange) ∧
      ∀ atEOF, tcpSplit (ascii "9223372036854775807 x") atEOF = .error .sliceBoundsOutOfRange := by
  decide

end Skewer.Tcp
