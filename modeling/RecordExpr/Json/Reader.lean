import RecordExpr.Json.Basic
import RecordExpr.Text.Digits

/-!
# Reading JSON

A text is read as one JSON value. The functions that read a value inside another one return what is
left of the text; their first argument bounds the steps, and the length of the text is always
enough.

The main definition is `Json.parse?`.
-/

namespace RecordExpr.Json

/-- The text after blanks. -/
def skipSpace (cs : List Char) : List Char :=
  cs.dropWhile fun c => c == ' ' || c == '\n' || c == '\t' || c == '\r'

/-! ### Strings -/

def hexValue? (c : Char) : Option Nat :=
  if c.isDigit then some (c.toNat - '0'.toNat)
  else if 'a' ≤ c ∧ c ≤ 'f' then some (c.toNat - 'a'.toNat + 10)
  else if 'A' ≤ c ∧ c ≤ 'F' then some (c.toNat - 'A'.toNat + 10)
  else none

/-- The number that four hexadecimal digits stand for. -/
def unitOf? (a b c d : Char) : Option Nat := do
  return (((← hexValue? a) * 16 + (← hexValue? b)) * 16 + (← hexValue? c)) * 16 + (← hexValue? d)

def escaped? : Char → Option Char
  | '"' => some '"'
  | '\\' => some '\\'
  | '/' => some '/'
  | 'b' => some '\x08'
  | 'f' => some '\x0c'
  | 'n' => some '\n'
  | 'r' => some '\r'
  | 't' => some '\t'
  | _ => none

/-- Adds the unit of an escape to the characters in front of it, which come last first. `high` is
the first half of a pair of units that waits for the second. -/
def addUnit? (before : List Char) (high : Option Nat) (unit : Nat) :
    Option (List Char × Option Nat) :=
  match high with
  | some h =>
    if 0xDC00 ≤ unit ∧ unit < 0xE000 then
      some (Char.ofNat (0x10000 + (h - 0xD800) * 0x400 + (unit - 0xDC00)) :: before, none)
    else none
  | none =>
    if 0xD800 ≤ unit ∧ unit < 0xDC00 then some (before, some unit)
    else if 0xDC00 ≤ unit ∧ unit < 0xE000 then none
    else some (Char.ofNat unit :: before, none)

/-- Reads the rest of a string after its opening quote. `before` has the characters so far, the last
first. -/
def readString? (before : List Char) (high : Option Nat) :
    List Char → Option (String × List Char)
  | [] => none
  | '\\' :: 'u' :: a :: b :: c :: d :: cs => do
    let (before, high) ← addUnit? before high (← unitOf? a b c d)
    readString? before high cs
  | c :: cs =>
    if high.isSome then none
    else if c = '"' then some (String.ofList before.reverse, cs)
    else if c = '\\' then
      match cs with
      | [] => none
      | e :: cs => do readString? ((← escaped? e) :: before) none cs
    else if c.toNat < 0x20 then none
    else readString? (c :: before) none cs

/-! ### Numbers -/

/-- Reads the digits after a point, if there is one. -/
def readFraction? : List Char → Option (List Char × List Char)
  | '.' :: cs =>
    let digits := cs.takeWhile Char.isDigit
    if digits.isEmpty then none else some (digits, cs.dropWhile Char.isDigit)
  | cs => some ([], cs)

/-- Reads a power of ten, if there is one. -/
def readPower? : List Char → Option (Option Int × List Char)
  | c :: cs =>
    if c = 'e' ∨ c = 'E' then
      let (negative, cs) := match cs with
        | '-' :: cs => (true, cs)
        | '+' :: cs => (false, cs)
        | cs => (false, cs)
      let digits := cs.takeWhile Char.isDigit
      let power : Int := Text.digitsValue digits
      if digits.isEmpty then none
      else some (some (if negative then -power else power), cs.dropWhile Char.isDigit)
    else some (none, c :: cs)
  | [] => some (none, [])

/-- Reads a number. Only a lone zero begins with a zero. -/
def readNumber? (cs : List Char) : Option (JsonNumber × List Char) := do
  let (negative, cs) := match cs with
    | '-' :: cs => (true, cs)
    | cs => (false, cs)
  let whole := cs.takeWhile Char.isDigit
  if whole.isEmpty ∨ (whole.head? = some '0' ∧ whole.length ≠ 1) then none
  let (fraction, cs) ← readFraction? (cs.dropWhile Char.isDigit)
  let (power, cs) ← readPower? cs
  return (⟨negative, Text.digitsValue (whole ++ fraction), power.getD 0 - fraction.length,
    fraction.isEmpty && power.isNone⟩, cs)

/-! ### Values -/

/-- The fields with one more, in the place of any of the same name. -/
def putField (name : String) (value : Json) : List (String × Json) → List (String × Json)
  | [] => [(name, value)]
  | f :: fs => if f.1 = name then (name, value) :: fs else f :: putField name value fs

mutual

def readValue? : Nat → List Char → Option (Json × List Char)
  | 0, _ => none
  | fuel + 1, cs =>
    match skipSpace cs with
    | 'n' :: 'u' :: 'l' :: 'l' :: cs => some (null, cs)
    | 't' :: 'r' :: 'u' :: 'e' :: cs => some (bool true, cs)
    | 'f' :: 'a' :: 'l' :: 's' :: 'e' :: cs => some (bool false, cs)
    | '"' :: cs => do
      let (s, cs) ← readString? [] none cs
      return (string s, cs)
    | '[' :: cs =>
      match skipSpace cs with
      | ']' :: cs => some (array [], cs)
      | cs => do
        let (items, cs) ← readItems? fuel cs
        return (array items, cs)
    | '\x7b' :: cs =>
      match skipSpace cs with
      | '\x7d' :: cs => some (object [], cs)
      | cs => do
        let (fields, cs) ← readFields? fuel [] cs
        return (object fields, cs)
    | cs => do
      let (n, cs) ← readNumber? cs
      return (number n, cs)

/-- Reads the items of an array up to its closing bracket. -/
def readItems? : Nat → List Char → Option (List Json × List Char)
  | 0, _ => none
  | fuel + 1, cs => do
    let (item, cs) ← readValue? fuel cs
    match skipSpace cs with
    | ',' :: cs =>
      let (items, cs) ← readItems? fuel cs
      return (item :: items, cs)
    | ']' :: cs => return ([item], cs)
    | _ => none

/-- Reads the fields of an object up to its closing brace, after those that have been read. -/
def readFields? : Nat → List (String × Json) → List Char →
    Option (List (String × Json) × List Char)
  | 0, _, _ => none
  | fuel + 1, fields, cs => do
    let (name, cs) ← match skipSpace cs with
      | '"' :: cs => readString? [] none cs
      | _ => none
    let cs ← match skipSpace cs with
      | ':' :: cs => some cs
      | _ => none
    let (value, cs) ← readValue? fuel cs
    let fields := putField name value fields
    match skipSpace cs with
    | ',' :: cs => readFields? fuel fields cs
    | '\x7d' :: cs => return (fields, cs)
    | _ => none

end

/-- The JSON value that a text consists of. -/
def parse? (s : String) : Option Json := do
  let cs := s.toList
  let (j, rest) ← readValue? (cs.length + 1) cs
  if skipSpace rest = [] then some j else none

end RecordExpr.Json
