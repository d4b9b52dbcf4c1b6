/-!
# Occurrences of a text in another one

Whether a text occurs in another one, and what becomes of a text when every occurrence of another
one is replaced. Occurrences are taken from left to right and do not overlap. The empty text occurs
in front of every character and at the end.
-/

namespace RecordExpr.Text

/-- Whether `part` occurs somewhere in a text. -/
def occursIn (part : List Char) : List Char → Bool
  | [] => part.isEmpty
  | c :: cs => part.isPrefixOf (c :: cs) || occursIn part cs

/-- Replaces occurrences of a text that is not empty, after the next `skip` characters, which belong
to an occurrence already. -/
def replaceFrom (part replacement : List Char) : Nat → List Char → List Char
  | _, [] => []
  | skip + 1, _ :: cs => replaceFrom part replacement skip cs
  | 0, c :: cs =>
    if part.isPrefixOf (c :: cs) then
      replacement ++ replaceFrom part replacement (part.length - 1) cs
    else c :: replaceFrom part replacement 0 cs

/-- Replaces every occurrence of a text. -/
def replaceAll (part replacement cs : List Char) : List Char :=
  if part.isEmpty then cs.flatMap (fun c => replacement ++ [c]) ++ replacement
  else replaceFrom part replacement 0 cs

end RecordExpr.Text
