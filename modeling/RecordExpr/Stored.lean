import RecordExpr.Coercion
import RecordExpr.Config
import RecordExpr.Json.Basic

/-!
# Stored results and configurations

Results and configurations are stored as JSON. A result has a kind and a value that names its kind
again; both must agree. Fields may also be given without names, as an array in their order. A field
may not be given twice, and fields that are not known do not count.

The main definitions are `Result.ofJson`, `Result.toJson?` and `Config.ofJson?`.
-/

namespace RecordExpr

/-! ### Results -/

/-- The kind that a name stands for. The name may be the only field of an object. -/
def Kind.ofJson? : Json → Option Kind
  | .string tag | .object [(tag, .null)] => Kind.ofTag? tag
  | _ => none

/-- The decimal nearest to a number, unless the number is out of range. -/
def JsonNumber.toDecimal? (n : JsonNumber) : Option Decimal :=
  let d := Decimal.ofScientific n.negative n.digits n.power
  if d.isFinite then some d else none

/-- The value in an object whose only field is named after the kind of the value. -/
def Value.ofJson? : Json → Option Value
  | .object [(tag, content)] =>
    match Kind.ofTag? tag, content with
    | some .string, .string s => some (.string s)
    | some .boolean, .bool b => some (.boolean b)
    | some .wholeNumber, .number n => do return .wholeNumber (← WholeNumber.ofInt? (← n.integer?))
    | some .decimal, .number n => do return .decimal (← n.toDecimal?)
    | some .date, .string s => do return .date (← DateFormat.readRelaxed? s)
    | _, _ => none
  | _ => none

/-- Why JSON is no stored result. -/
inductive StoredFault
  | malformed
  /-- the value has another kind than the result -/
  | wrongTag (value result : Kind)
  deriving DecidableEq

/-- What there is to say of a fault, beyond its being one. -/
def StoredFault.message? : StoredFault → Option String
  | malformed => none
  | wrongTag value result =>
    some (value.label ++ " value cannot be tagged as " ++ result.label)

/-- The result of a kind with a value that is given as JSON, where null stands for absence. -/
def Result.ofParts (kind value : Json) : Except StoredFault Result :=
  match Kind.ofJson? kind, value with
  | none, _ => .error .malformed
  | some k, .null => .ok (.absent k)
  | some k, value =>
    match Value.ofJson? value with
    | none => .error .malformed
    | some v => if v.kind = k then .ok (.present v) else .error (.wrongTag v.kind k)

def Result.ofJson : Json → Except StoredFault Result
  | .array [kind, value] => ofParts kind value
  | .object fields =>
    match Json.givenOnce? "result_type" fields, Json.givenOnce? "value" fields with
    | some (some kind), some value => ofParts kind (value.getD .null)
    | _, _ => .error .malformed
  | _ => .error .malformed

/-- The stored form of a value. Decimals have none. -/
def Value.toJson? (v : Value) : Option Json := do
  let content ← match v with
    | string s => some (Json.string s)
    | boolean b => some (Json.bool b)
    | wholeNumber n => some (Json.ofInt n.toInt)
    | date i => some (Json.string (DateFormat.renderExact i))
    | decimal _ => none
  return .object [(v.kind.tag, content)]

/-- The stored form of a result. -/
def Result.toJson? (r : Result) : Option Json := do
  let value ← match r with
    | absent _ => some Json.null
    | present v => v.toJson?
  return .object [("result_type", .string r.kind.tag), ("value", value)]

/-! ### Configurations -/

/-- A date format, or null for none. -/
def Config.dateFormatOfJson? : Json → Option (Option String)
  | .null => some none
  | .string s => some (some s)
  | _ => none

/-- A limit that fits into 64 bits, or null for none. -/
def Config.limitOfJson? : Json → Option (Option Nat)
  | .null => some none
  | .number n => do
    let i ← n.integer?
    if 0 ≤ i ∧ i < 0x10000000000000000 then some (some i.toNat) else none
  | _ => none

/-- The configuration with two fields, each of which may be missing. -/
def Config.ofFields? (dateFormat limit : Option Json) : Option Config := do
  let format ← match dateFormat with
    | some j => dateFormatOfJson? j
    | none => some default.dateFormat
  let limit ← match limit with
    | some j => limitOfJson? j
    | none => some default.maxPatternInput
  return ⟨format, limit⟩

def Config.ofJson? : Json → Option Config
  | .object fields => do
    ofFields? (← Json.givenOnce? "date_format" fields)
      (← Json.givenOnce? "max_pattern_input" fields)
  | .array [] => ofFields? none none
  | .array [format] => ofFields? (some format) none
  | .array [format, limit] => ofFields? (some format) (some limit)
  | _ => none

end RecordExpr
