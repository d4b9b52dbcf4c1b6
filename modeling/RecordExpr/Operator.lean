import RecordExpr.Kind

/-!
# Operators

The families of operators, their names, and the kinds of operand that they take. The operands of a
comparison or of arithmetic decide together in which *domain* the operator works; where there is no
domain for them, they do not fit together.
-/

namespace RecordExpr

/-- How an operator treats an absent operand. -/
inductive NullPolicy
  /-- it makes the result false, or stands for false -/
  | absentIsFalse
  /-- it makes the result absent -/
  | propagate
  /-- the operator is there to look at it -/
  | inspect
  /-- another operand takes its place -/
  | replace
  deriving DecidableEq

/-! ### Comparison -/

inductive Comparison
  | equals
  | notEquals
  | lessThan
  | lessThanOrEqual
  | greaterThan
  | greaterThanOrEqual
  deriving DecidableEq

/-- What two values are compared as. Whole numbers beside decimals are compared as decimals. -/
inductive ComparisonDomain
  | string
  | boolean
  | wholeNumber
  | decimal
  | date
  deriving DecidableEq

namespace Comparison

def all : List Comparison :=
  [equals, notEquals, lessThan, lessThanOrEqual, greaterThan, greaterThanOrEqual]

def name : Comparison → String
  | equals => "equals"
  | notEquals => "notEquals"
  | lessThan => "lessThan"
  | lessThanOrEqual => "lessThanOrEqual"
  | greaterThan => "greaterThan"
  | greaterThanOrEqual => "greaterThanOrEqual"

/-- Whether the operator asks for the order of its operands. -/
def isOrdering : Comparison → Bool
  | equals | notEquals => false
  | _ => true

/-- Whether the operator holds for operands in some order. No operator holds for operands that are
not comparable. -/
def holds : Comparison → Option Ordering → Bool
  | _, none => false
  | equals, some o => o == .eq
  | notEquals, some o => o != .eq
  | lessThan, some o => o == .lt
  | lessThanOrEqual, some o => o != .gt
  | greaterThan, some o => o == .gt
  | greaterThanOrEqual, some o => o != .lt

/-- The domain for operands of two kinds. Booleans have no order. -/
def domain? (c : Comparison) : Kind → Kind → Option ComparisonDomain
  | .string, .string => some .string
  | .boolean, .boolean => if c.isOrdering then none else some .boolean
  | .wholeNumber, .wholeNumber => some .wholeNumber
  | .wholeNumber, .decimal | .decimal, .wholeNumber | .decimal, .decimal => some .decimal
  | .date, .date => some .date
  | _, _ => none

def subjectKinds (c : Comparison) : List Kind :=
  Kind.all.filter fun k => !(c.isOrdering && k == .boolean)

/-- The kinds that can be compared with a subject. -/
def partnerKinds (c : Comparison) (subject : Kind) : List Kind :=
  Kind.all.filter fun k => (c.domain? subject k).isSome

end Comparison

/-! ### Arithmetic -/

inductive Arithmetic
  | plus
  | minus
  | multiply
  | divide
  | mod
  deriving DecidableEq

/-- What arithmetic works on. -/
inductive ArithmeticDomain
  | wholeNumber
  /-- decimals, or a whole number beside a decimal -/
  | decimal
  /-- a date and a number of milliseconds -/
  | dateOffset
  /-- two dates -/
  | dateDifference
  deriving DecidableEq

/-- The kind of the result of arithmetic. -/
def ArithmeticDomain.resultKind : ArithmeticDomain → Kind
  | wholeNumber | dateDifference => .wholeNumber
  | decimal => .decimal
  | dateOffset => .date

namespace Arithmetic

def all : List Arithmetic := [plus, minus, multiply, divide, mod]

def name : Arithmetic → String
  | plus => "plus"
  | minus => "minus"
  | multiply => "multiply"
  | divide => "divide"
  | mod => "mod"

/-- The domain for operands of two kinds. -/
def domain? : Arithmetic → Kind → Kind → Option ArithmeticDomain
  | _, .wholeNumber, .wholeNumber => some .wholeNumber
  | _, .wholeNumber, .decimal | _, .decimal, .wholeNumber | _, .decimal, .decimal => some .decimal
  | plus, .date, .wholeNumber | minus, .date, .wholeNumber => some .dateOffset
  | minus, .date, .date => some .dateDifference
  | _, _, _ => none

def subjectKinds : Arithmetic → List Kind
  | plus | minus => [.wholeNumber, .decimal, .date]
  | _ => [.wholeNumber, .decimal]

/-- The kinds that fit to a subject. -/
def partnerKinds (a : Arithmetic) (subject : Kind) : List Kind :=
  Kind.all.filter fun k => (a.domain? subject k).isSome

end Arithmetic

/-! ### Connectives -/

inductive Connective
  | and
  | or
  deriving DecidableEq

def Connective.name : Connective → String
  | and => "and"
  | or => "or"

/-! ### Operators with one operand -/

inductive Unary
  | not
  | isNull
  | notNull
  | isEmpty
  | negate
  | toUpper
  | toLower
  | trim
  | length
  deriving DecidableEq

namespace Unary

def all : List Unary := [not, isNull, notNull, isEmpty, negate, toUpper, toLower, trim, length]

def name : Unary → String
  | not => "not"
  | isNull => "isNull"
  | notNull => "notNull"
  | isEmpty => "isEmpty"
  | negate => "negate"
  | toUpper => "toUpper"
  | toLower => "toLower"
  | trim => "trim"
  | length => "length"

def operandKinds : Unary → List Kind
  | not => [.boolean]
  | isNull | notNull => Kind.all
  | negate => [.wholeNumber, .decimal]
  | isEmpty | toUpper | toLower | trim | length => [.string]

/-- The kind of the result for an operand of a kind. -/
def resultKind : Unary → Kind → Kind
  | not, _ | isNull, _ | notNull, _ | isEmpty, _ => .boolean
  | negate, .wholeNumber => .wholeNumber
  | negate, _ => .decimal
  | toUpper, _ | toLower, _ | trim, _ => .string
  | length, _ => .wholeNumber

def nullPolicy : Unary → NullPolicy
  | not => .absentIsFalse
  | isNull | notNull | isEmpty => .inspect
  | _ => .propagate

end Unary

/-! ### Tests of strings -/

inductive StringTest
  | startsWith
  | endsWith
  | contains
  | equalsIgnoreCase
  /-- the whole text matches a pattern -/
  | fullMatch
  /-- some part of the text matches a pattern -/
  | find
  deriving DecidableEq

namespace StringTest

def all : List StringTest := [startsWith, endsWith, contains, equalsIgnoreCase, fullMatch, find]

def name : StringTest → String
  | startsWith => "startsWith"
  | endsWith => "endsWith"
  | contains => "contains"
  | equalsIgnoreCase => "equalsIgnoreCase"
  | fullMatch => "matches"
  | find => "find"

def usesPattern : StringTest → Bool
  | fullMatch | find => true
  | _ => false

end StringTest

/-! ### Conversion -/

namespace Kind

/-- The name of the conversion to a kind. -/
def conversionName : Kind → String
  | string => "toString"
  | boolean => "toBoolean"
  | wholeNumber => "toNumber"
  | decimal => "toDecimal"
  | date => "toDate"

/-- The kinds that can be converted to a kind. -/
def conversionSources : Kind → List Kind
  | string => all
  | boolean => [string, boolean]
  | wholeNumber | decimal => [string, wholeNumber, decimal, date]
  | date => [string, wholeNumber, date]

end Kind

end RecordExpr
