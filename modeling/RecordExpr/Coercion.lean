import RecordExpr.Value
import RecordExpr.Error
import RecordExpr.Decimal.Arithmetic
import RecordExpr.Decimal.Reader
import RecordExpr.Decimal.Shortest
import RecordExpr.Date.Printer
import RecordExpr.Date.Reader

/-!
# Texts and values

Attributes are texts. Here texts are read as values of the other kinds, and values of every kind are
written as texts. Blanks around a text do not count when it is read.
-/

namespace RecordExpr

/-- The value, or else a failure to make a value of kind `k` of a text. -/
def orCoercionError {α : Type} (text : String) (k : Kind) : Option α → Except EvalError α
  | some a => .ok a
  | none => .error (.coercionFailed text k)

def readWholeNumber (text : String) : Except EvalError WholeNumber :=
  orCoercionError text .wholeNumber (WholeNumber.parse? text)

def readDecimal (text : String) : Except EvalError Decimal :=
  orCoercionError text .decimal (Decimal.parse? text)

/-- Reads `true` or `false`; the case of letters does not count. -/
def readBoolean (text : String) : Except EvalError Bool :=
  let word := (Text.trimmed text.toList).map Char.toLower
  orCoercionError text .boolean <|
    if word = "true".toList then some true
    else if word = "false".toList then some false
    else none

/-! ### Dates -/

/-- The items of a date format. -/
def dateFormatItems (format : String) : Except EvalError (List DateFormat.Item) :=
  match DateFormat.items? format with
  | some items => .ok items
  | none => .error (.invalidDateFormat format .unknownSpecifier)

/-- Reads a date in a format, or in the form of data interchange. -/
def readDate (text : String) (format : Option String) : Except EvalError Instant :=
  match format with
  | none => orCoercionError text .date (DateFormat.readStrict? (Text.trim text))
  | some format => do
    let items ← dateFormatItems format
    orCoercionError text .date (DateFormat.read? items (Text.trimmed text.toList))

/-- Writes a date in a format, or in the form of data interchange with milliseconds. -/
def writeDate (i : Instant) (format : Option String) : Except EvalError String :=
  match format with
  | none => .ok (DateFormat.renderMillis i)
  | some format => do
    let items ← dateFormatItems format
    match DateFormat.render? items i with
    | some text => return text
    | none => throw (.invalidDateFormat format .notWritable)

/-- The date a number of milliseconds after the beginning of 1970. -/
def dateOfMillis (n : WholeNumber) : Except EvalError Instant :=
  orCoercionError n.render .date (Instant.ofMillis? n.toInt)

/-! ### Numbers -/

/-- The decimal nearest to a whole number. -/
def WholeNumber.toDecimal (n : WholeNumber) : Decimal := Decimal.ofInt n.toInt

/-- The part of a decimal before the point, or the nearest whole number where it leaves the range.
For NaN it is zero. -/
def WholeNumber.ofDecimal (d : Decimal) : WholeNumber := if d.isNaN then zero else clamp d.truncated

/-- The part of a decimal before the point. The range is looked at with both ends as decimals. The
greatest whole number is no decimal: the nearest one is `2^63`, which is beyond the range. -/
def wholeOfDecimal (d : Decimal) : Except EvalError WholeNumber :=
  let t := d.trunc
  orCoercionError d.renderPlain .wholeNumber <|
    if !t.isFinite || t.lt WholeNumber.least.toDecimal || WholeNumber.greatest.toDecimal.le t then
      none
    else some (WholeNumber.ofDecimal t)

/-- A number as a decimal. -/
def Value.widen? : Value → Option Decimal
  | .wholeNumber n => some n.toDecimal
  | .decimal d => some d
  | _ => none

/-! ### All kinds -/

/-- The text of a value. -/
def Value.render (dateFormat : Option String) : Value → Except EvalError String
  | .string s => .ok s
  | .boolean b => .ok (if b then "true" else "false")
  | .wholeNumber n => .ok n.render
  | .decimal d => .ok d.render
  | .date i => writeDate i dateFormat

/-- The text of a result, unless it is absent. -/
def Result.render (dateFormat : Option String) : Result → Except EvalError (Option String)
  | .absent _ => .ok none
  | .present v => do return some (← v.render dateFormat)

end RecordExpr
