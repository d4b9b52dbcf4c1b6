import RecordExpr.Json.Basic
import RecordExpr.Text.Digits

/-!
# Writing JSON

A value is written on one line. In strings, quotes, backslashes and control characters are escaped.
-/

namespace RecordExpr.Json

/-- The hexadecimal digits of a number, at least `width` of them. -/
def hexDigits (width n : Nat) : List Char := Text.padLeft width '0' (Nat.toDigits 16 n)

def escapeChar (c : Char) : List Char :=
  if c = '"' ∨ c = '\\' then ['\\', c]
  else if c.toNat < 0x20 then '\\' :: 'u' :: hexDigits 4 c.toNat
  else [c]

def stringText (s : String) : List Char := '"' :: s.toList.flatMap escapeChar ++ ['"']

def numberText (n : JsonNumber) : List Char :=
  let digits := (if n.negative then ['-'] else []) ++ Text.natDigits n.digits
  if n.integral then digits else digits ++ 'e' :: Text.intDigits n.power

/-- Texts one after another with commas between them. -/
def separated : List (List Char) → List Char
  | [] => []
  | [t] => t
  | t :: ts => t ++ ',' :: separated ts

mutual

def text : Json → List Char
  | null => "null".toList
  | bool b => (if b then "true" else "false").toList
  | number n => numberText n
  | string s => stringText s
  | array items => '[' :: separated (itemTexts items) ++ [']']
  | object fields => '\x7b' :: separated (fieldTexts fields) ++ ['\x7d']

def itemTexts : List Json → List (List Char)
  | [] => []
  | j :: js => text j :: itemTexts js

def fieldTexts : List (String × Json) → List (List Char)
  | [] => []
  | (name, j) :: fs => (stringText name ++ ':' :: text j) :: fieldTexts fs

end

def render (j : Json) : String := String.ofList j.text

end RecordExpr.Json
