import RecordExpr.Kind
import RecordExpr.WholeNumber
import RecordExpr.Decimal.Basic
import RecordExpr.Date.Instant

/-!
# Values and results

A value has one of the five kinds. The result of an evaluation is a value or the absence of one, and
an absent result has a kind as well.
-/

namespace RecordExpr

/-- A value of one of the kinds. -/
inductive Value
  | string (s : String)
  | boolean (b : Bool)
  | wholeNumber (n : WholeNumber)
  | decimal (d : Decimal)
  | date (i : Instant)
  deriving DecidableEq

namespace Value

def kind : Value → Kind
  | string _ => .string
  | boolean _ => .boolean
  | wholeNumber _ => .wholeNumber
  | decimal _ => .decimal
  | date _ => .date

/-- Whether two values are equal, decimals as numbers: NaN is unequal to itself, and the two zeros
are equal. -/
def same : Value → Value → Bool
  | decimal a, decimal b => a.numEq b
  | a, b => a == b

end Value

/-- A value, or the absence of a value of some kind. -/
inductive Result
  | absent (k : Kind)
  | present (v : Value)
  deriving DecidableEq

namespace Result

def kind : Result → Kind
  | absent k => k
  | present v => v.kind

def value? : Result → Option Value
  | absent _ => none
  | present v => some v

def isAbsent : Result → Bool
  | absent _ => true
  | present _ => false

/-- The result for a value that may be missing. -/
def ofOption (k : Kind) : Option Value → Result
  | none => absent k
  | some v => present v

def string? : Result → Option String
  | present (.string s) => some s
  | _ => none

def boolean? : Result → Option Bool
  | present (.boolean b) => some b
  | _ => none

def wholeNumber? : Result → Option WholeNumber
  | present (.wholeNumber n) => some n
  | _ => none

def decimal? : Result → Option Decimal
  | present (.decimal d) => some d
  | _ => none

def date? : Result → Option Instant
  | present (.date i) => some i
  | _ => none

/-- Whether two results are equal, decimals as numbers. -/
def same : Result → Result → Bool
  | absent k, absent l => k == l
  | present v, present w => v.same w
  | _, _ => false

end Result

end RecordExpr
