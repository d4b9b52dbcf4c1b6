import RecordExpr.Kind
import RecordExpr.Regex.Token

/-!
# Evaluation errors

An evaluation fails where a value is there but cannot be used as the expression asks. Absence is no
error.
-/

namespace RecordExpr

/-- Why a date format cannot be used. -/
inductive FormatFault
  | unknownSpecifier
  /-- the format has an item that can only be read -/
  | notWritable
  deriving DecidableEq

def FormatFault.message : FormatFault → String
  | unknownSpecifier => "unrecognized format specifier"
  | notWritable => "format cannot be applied to a date"

inductive EvalError
  /-- a text or a number that is no value of the kind -/
  | coercionFailed (text : String) (target : Kind)
  /-- whole numbers divided by zero -/
  | divisionByZero
  /-- a whole number or a date beyond its range -/
  | overflow (operator : String)
  | invalidPattern (pattern : String) (fault : Regex.Fault)
  | invalidDateFormat (format : String) (fault : FormatFault)
  /-- operands of kinds that the operator does not take -/
  | illTyped (operator : String) (expected : List (List Kind)) (actual : List Kind)
  | inputTooLarge (length limit : Nat)
  deriving DecidableEq

namespace EvalError

/-- What stands in messages for the reason why a pattern is refused. -/
def patternReason : String := "<reason>"

/-- Kinds by their labels. -/
def labels (separator : String) (ks : List Kind) : String :=
  separator.intercalate (ks.map Kind.label)

def message : EvalError → String
  | coercionFailed text target => "Cannot convert '" ++ text ++ "' to " ++ target.label
  | divisionByZero => "Division by zero"
  | overflow operator => "Arithmetic overflow in " ++ operator
  | invalidPattern pattern _ => "Invalid pattern '" ++ pattern ++ "': " ++ patternReason
  | invalidDateFormat format fault =>
    "Invalid date format '" ++ format ++ "': " ++ fault.message
  | illTyped operator expected actual =>
    "Invalid operand types for " ++ operator ++ ": expected " ++
      ", ".intercalate (expected.map (labels "|")) ++ ", got " ++ labels ", " actual
  | inputTooLarge length limit =>
    "Input of " ++ toString length ++ " bytes exceeds the limit of " ++ toString limit ++ " bytes"

end EvalError

end RecordExpr
