/-!
# Kinds of value

Every expression declares one of five kinds, and every value has one. A kind has two names: the
*label*, which messages show to people, and the *tag*, which data formats use.
-/

namespace RecordExpr

/-- The kind of value that an expression declares. -/
inductive Kind
  | string
  | boolean
  | wholeNumber
  | decimal
  | date
  deriving DecidableEq

namespace Kind

/-- Every kind, in the order in which lists of kinds name them. -/
def all : List Kind := [string, boolean, wholeNumber, decimal, date]

/-- The name of a kind in messages. -/
def label : Kind → String
  | string => "String"
  | boolean => "Boolean"
  | wholeNumber => "Whole Number"
  | decimal => "Decimal"
  | date => "Date"

/-- The name of a kind in data. -/
def tag : Kind → String
  | string => "String"
  | boolean => "Boolean"
  | wholeNumber => "WholeNumber"
  | decimal => "Decimal"
  | date => "Date"

/-- The kind with a given tag. -/
def ofTag? (s : String) : Option Kind := all.find? (·.tag == s)

/-- Whole numbers and decimals are numbers, and nothing else is. -/
def isNumeric : Kind → Bool
  | wholeNumber | decimal => true
  | _ => false

theorem mem_all (k : Kind) : k ∈ all := by cases k <;> decide

theorem ofTag?_tag (k : Kind) : ofTag? k.tag = some k := by cases k <;> decide

end Kind

end RecordExpr
