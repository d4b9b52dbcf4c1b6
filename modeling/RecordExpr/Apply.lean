import RecordExpr.Coercion
import RecordExpr.Config
import RecordExpr.Expr.Basic
import RecordExpr.Regex.Pattern
import RecordExpr.Text.Case
import RecordExpr.Text.Occurrence

/-!
# Operators on values

What the operators do to values that have been evaluated already. Each function is given the error
that is due where a value has a kind that the operator does not take.
-/

namespace RecordExpr

/-! ### Operands of one kind -/

/-- The truth of a condition; absence counts as false. -/
def Result.condition (mismatch : EvalError) : Result → Except EvalError Bool
  | .absent _ => .ok false
  | .present (.boolean b) => .ok b
  | .present _ => .error mismatch

/-- The text of a string operand. -/
def Result.text (mismatch : EvalError) : Result → Except EvalError (Option String)
  | .absent _ => .ok none
  | .present (.string s) => .ok (some s)
  | .present _ => .error mismatch

/-- A place in a text; negative numbers count as zero. -/
def Result.place (mismatch : EvalError) : Result → Except EvalError (Option Nat)
  | .absent _ => .ok none
  | .present (.wholeNumber n) => .ok (some n.toInt.toNat)
  | .present _ => .error mismatch

/-- A result that has to have a given kind. -/
def Result.expectKind (mismatch : EvalError) (k : Kind) (r : Result) : Except EvalError Result :=
  if r.kind = k then .ok r else .error mismatch

/-- Goes on with something that is present; the result is `absent` where there is nothing. -/
def whenPresent {α : Type} (x : Except EvalError (Option α)) (absent : Result)
    (f : α → Except EvalError Result) : Except EvalError Result := do
  match ← x with
  | none => return absent
  | some a => f a

/-! ### Conversion -/

/-- A value as a value of another kind. -/
def Value.convert (mismatch : EvalError) (dateFormat : Option String) :
    Kind → Value → Except EvalError Value
  | .string, v => return .string (← v.render dateFormat)
  | .boolean, .string s => return .boolean (← readBoolean s)
  | .boolean, .boolean b => .ok (.boolean b)
  | .wholeNumber, .string s => return .wholeNumber (← readWholeNumber s)
  | .wholeNumber, .wholeNumber n => .ok (.wholeNumber n)
  | .wholeNumber, .decimal d => return .wholeNumber (← wholeOfDecimal d)
  | .wholeNumber, .date i => .ok (.wholeNumber i.millis)
  | .decimal, .string s => return .decimal (← readDecimal s)
  | .decimal, .wholeNumber n => .ok (.decimal n.toDecimal)
  | .decimal, .decimal d => .ok (.decimal d)
  | .decimal, .date i => .ok (.decimal i.millis.toDecimal)
  | .date, .string s => return .date (← readDate s dateFormat)
  | .date, .wholeNumber n => return .date (← dateOfMillis n)
  | .date, .date i => .ok (.date i)
  | _, _ => .error mismatch

/-! ### One operand -/

/-- A whole number, or else the overflow of an operator. -/
def orOverflow {α : Type} (operator : String) : Option α → Except EvalError α
  | some a => .ok a
  | none => .error (.overflow operator)

/-- The result of an operator on a value that is there. -/
def Unary.onValue (mismatch : EvalError) : Unary → Value → Except EvalError Value
  | .isNull, _ => .ok (.boolean false)
  | .notNull, _ => .ok (.boolean true)
  | .isEmpty, .string s => .ok (.boolean (Text.trimmed s.toList).isEmpty)
  | .not, .boolean b => .ok (.boolean !b)
  | .negate, .wholeNumber n => return .wholeNumber (← orOverflow (Unary.negate.name) n.neg?)
  | .negate, .decimal d => .ok (.decimal d.neg)
  | .toUpper, .string s => .ok (.string (Text.toUpper s))
  | .toLower, .string s => .ok (.string (Text.toLower s))
  | .trim, .string s => .ok (.string (Text.trim s))
  | .length, .string s =>
    return .wholeNumber (← orOverflow (Unary.length.name) (WholeNumber.ofInt? s.toList.length))
  | _, _ => .error mismatch

/-- The result of an operator on an absent operand, for an expression of kind `k`. -/
def Unary.onAbsent (k : Kind) : Unary → Result
  | .isNull | .isEmpty | .not => .present (.boolean true)
  | .notNull => .present (.boolean false)
  | _ => .absent k

/-- The result of an operator, for an expression of kind `k`. -/
def Unary.apply (mismatch : EvalError) (k : Kind) (op : Unary) : Result → Except EvalError Result
  | .absent _ => .ok (op.onAbsent k)
  | .present v => return .present (← op.onValue mismatch v)

/-! ### Comparison -/

/-- The order of two values in a domain; `none` if they do not belong to it. -/
def ComparisonDomain.order? : ComparisonDomain → Value → Value → Option (Option Ordering)
  | .string, .string a, .string b => some (some (compare a b))
  | .boolean, .boolean a, .boolean b => some (some (compare a b))
  | .wholeNumber, .wholeNumber a, .wholeNumber b => some (some (compare a.toInt b.toInt))
  | .date, .date a, .date b => some (some (a.compare b))
  | .decimal, a, b => do return Decimal.compare? (← a.widen?) (← b.widen?)
  | _, _, _ => none

/-- The result of a comparison of values of a domain. -/
def Comparison.onValues (mismatch : EvalError) (op : Comparison) (domain : Option ComparisonDomain)
    (a b : Value) : Except EvalError Result :=
  match domain.bind (·.order? a b) with
  | some order => .ok (.present (.boolean (op.holds order)))
  | none => .error mismatch

/-! ### Arithmetic -/

def Arithmetic.onWhole (op : Arithmetic) (a b : WholeNumber) : Except EvalError WholeNumber :=
  match op with
  | .plus => orOverflow op.name (a.add? b)
  | .minus => orOverflow op.name (a.sub? b)
  | .multiply => orOverflow op.name (a.mul? b)
  | .divide => if b.toInt = 0 then .error .divisionByZero else orOverflow op.name (a.quot? b)
  | .mod => if b.toInt = 0 then .error .divisionByZero else orOverflow op.name (a.rem? b)

def Arithmetic.onDecimals : Arithmetic → Decimal → Decimal → Decimal
  | .plus => Decimal.add
  | .minus => Decimal.sub
  | .multiply => Decimal.mul
  | .divide => Decimal.div
  | .mod => Decimal.rem

/-- The date some milliseconds after a date, or before it. -/
def Arithmetic.shift (mismatch : EvalError) (op : Arithmetic) (i : Instant) (n : WholeNumber) :
    Except EvalError Instant :=
  match op with
  | .plus => orOverflow op.name (i.addMillis? n.toInt)
  | .minus => orOverflow op.name (i.addMillis? (-n.toInt))
  | _ => .error mismatch

def Arithmetic.onValues (mismatch : EvalError) (op : Arithmetic) :
    Option ArithmeticDomain → Value → Value → Except EvalError Value
  | some .wholeNumber, .wholeNumber a, .wholeNumber b => return .wholeNumber (← op.onWhole a b)
  | some .dateOffset, .date i, .wholeNumber n => return .date (← op.shift mismatch i n)
  | some .dateDifference, .date i, .date j => .ok (.wholeNumber (i.millisSince j))
  | some .decimal, a, b =>
    match a.widen?, b.widen? with
    | some x, some y => .ok (.decimal (op.onDecimals x y))
    | _, _ => .error mismatch
  | _, _, _ => .error mismatch

/-! ### Texts -/

/-- A number brought between two bounds; `none` if the bounds are not in order. -/
def clamp? (n low high : Nat) : Option Nat :=
  if low ≤ high then some (max low (min n high)) else none

/-- The characters of a text from `start` on and before `stop`, where both places are first brought
into the text, the second behind the first. -/
def substring? (s : String) (start : Nat) (stop : Option Nat) : Option String := do
  let cs := s.toList
  let first := min start cs.length
  let last ← clamp? (stop.getD cs.length) first cs.length
  return String.ofList ((cs.drop first).take (last - first))

theorem isSome_substring? (s : String) (start : Nat) (stop : Option Nat) :
    (substring? s start stop).isSome := by
  have horder : min start s.toList.length ≤ s.toList.length := Nat.min_le_right _ _
  simp [substring?, clamp?, horder]

/-- The characters of a text at the places from `start` on and before `stop`. -/
def substringOf (s : String) (start : Nat) (stop : Option Nat) : String :=
  (substring? s start stop).get (isSome_substring? s start stop)

/-- The answer of a test that looks for a text; `none` if the test takes patterns only. -/
def StringTest.onTexts? : StringTest → String → String → Option Bool
  | .startsWith, s, part => some (part.toList.isPrefixOf s.toList)
  | .endsWith, s, part => some (part.toList.isSuffixOf s.toList)
  | .contains, s, part => some (Text.occursIn part.toList s.toList)
  | .equalsIgnoreCase, s, other => some (Text.toLower s == Text.toLower other)
  | .fullMatch, _, _ | .find, _, _ => none

/-! ### Patterns -/

/-- The regular expression that a pattern stands for. -/
def compilePattern (pattern : String) (anchored : Bool) : Except EvalError Regex.Compiled :=
  match Regex.compile (if anchored then Regex.anchored pattern else pattern) with
  | .ok r => .ok r
  | .error fault => .error (.invalidPattern pattern fault)

/-- Refuses a text that is too long for patterns. -/
def Config.checkPatternInput (c : Config) (s : String) : Except EvalError Unit :=
  match c.maxPatternInput with
  | some limit =>
    if limit < s.utf8ByteSize then .error (.inputTooLarge s.utf8ByteSize limit) else .ok ()
  | none => .ok ()

end RecordExpr
