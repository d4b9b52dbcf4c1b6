/-!
# JSON values

The values of JSON. A number keeps the way in which it is written, since that decides whether it can
stand for a whole number.
-/

namespace RecordExpr

/-- A number in decimal digits: `digits` times ten to the power `power`. -/
structure JsonNumber where
  negative : Bool
  digits : Nat
  power : Int
  /-- whether there is neither a fraction nor a power of ten -/
  integral : Bool
  deriving DecidableEq

namespace JsonNumber

def ofInt (n : Int) : JsonNumber := ⟨n < 0, n.natAbs, 0, true⟩

/-- The integer that a number is written as. Zero with a minus sign is none. -/
def integer? (n : JsonNumber) : Option Int :=
  if !n.integral ∨ (n.negative ∧ n.digits = 0) then none
  else some (if n.negative then -n.digits else n.digits)

theorem integer?_ofInt (n : Int) : (ofInt n).integer? = some n := by
  unfold ofInt integer?
  dsimp only
  split
  · rename_i h
    rcases h with h | ⟨h, h'⟩
    · exact absurd h Bool.false_ne_true
    · have : n < 0 := of_decide_eq_true h
      omega
  · split
    · rename_i h
      have : n < 0 := of_decide_eq_true h
      exact congrArg some (by omega)
    · rename_i h
      have : ¬ n < 0 := fun h' => h (decide_eq_true h')
      exact congrArg some (by omega)

end JsonNumber

inductive Json
  | null
  | bool (b : Bool)
  | number (n : JsonNumber)
  | string (s : String)
  | array (items : List Json)
  | object (fields : List (String × Json))

namespace Json

def ofInt (n : Int) : Json := number (.ofInt n)

/-- The value of a field; `none` for anything but an object that has it. -/
def field? (name : String) : Json → Option Json
  | object fields => fields.lookup name
  | _ => none

/-- The value of a field, which is null if it is missing. -/
def fieldD (name : String) (j : Json) : Json := (j.field? name).getD null

/-- The value that a name is given, if it is given one; `none` for a name that is given twice. -/
def givenOnce? (name : String) (fields : List (String × Json)) : Option (Option Json) :=
  match fields.filter (·.1 == name) with
  | [] => some none
  | [field] => some (some field.2)
  | _ => none

end Json

end RecordExpr
