import CodePrint.ScanError
import CodePrint.Syntax.Span
import CodePrint.Text.Utf8

/-! # Failures of a rendering

A rendering fails with an error of the scan, or it breaks down: a token cuts a character in two, or
a window is longer than positions can be counted. A breakdown inside a region is reported as an
internal error with the bounds of the region.
-/

namespace CodePrint

/-- A failure that no error of the scan describes. -/
inductive Breakdown where
  /-- A token is no text by itself; the octet is the first of the bad sequence. -/
  | cutCharacter (octet : UInt8) (fault : Utf8.Fault)
  | uncountable
deriving DecidableEq, Repr

namespace Breakdown

/-- The name of the breakdown. -/
def label : Breakdown → String
  | .cutCharacter _ _ => "UnicodeDecodeError"
  | .uncountable => "OverflowError"

/-- What broke down, in words. Positions count inside the token. -/
def message : Breakdown → String
  | .cutCharacter octet fault =>
    let first := fault.offset
    let reason := fault.cause.reason
    if fault.length = 1 then
      let digits := String.ofList (Text.hexDigits 2 octet.toNat)
      s!"'utf-8' codec can't decode byte 0x{digits} in position {first}: {reason}"
    else
      let last := fault.offset + fault.length - 1
      s!"'utf-8' codec can't decode bytes in position {first}-{last}: {reason}"
  | .uncountable => "cannot fit 'int' into an index-sized integer"

/-- The breakdown as an error of the region it happened in. -/
def toError (breakdown : Breakdown) (range : ByteRange) : ScanError :=
  .internal breakdown.message
    [("exception", .text breakdown.label), ("start", .ofNat range.start),
      ("end", .ofNat range.stop)]

end Breakdown

/-- Why a rendering failed. -/
inductive Failure where
  | error (cause : ScanError)
  | breakdown (cause : Breakdown)
deriving Repr

/-- The error that a failure inside a region is reported as. -/
def Failure.toError (failure : Failure) (range : ByteRange) : ScanError :=
  match failure with
  | .error cause => cause
  | .breakdown cause => cause.toError range

end CodePrint
