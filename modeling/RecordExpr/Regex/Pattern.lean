import RecordExpr.Regex.Lexer
import RecordExpr.Regex.Builder
import RecordExpr.Regex.Search
import RecordExpr.Regex.Template

/-!
# Patterns

From the text of a pattern to a regular expression, and what a regular expression is used for: to
look for a match in a text, and to replace every match.

The main definitions are `compile`, `Compiled.matchesIn` and `Compiled.replaceAll`.
-/

namespace RecordExpr.Regex

/-- The regular expression that a pattern stands for. -/
def compile (pattern : String) : Except Fault Compiled := do build (← tokenize pattern.toList)

/-- The pattern that matches a whole text or nothing. -/
def anchored (pattern : String) : String := "^(?:" ++ pattern ++ ")$"

namespace Compiled

/-- Whether there is a match somewhere in a text. -/
def matchesIn (r : Compiled) (text : String) : Bool := r.node.isMatch text.toList

/-- The stretch of a text between two places. -/
def stretch (text : Array Char) (start stop : Nat) : List Char := (text.extract start stop).toList

/-- What a piece of a template stands for after a match. A group that does not exist or took no part
in the match stands for nothing. -/
def expandPiece (r : Compiled) (text : Array Char) (m : Match) : Piece → List Char
  | .text c => [c]
  | .numbered index => group index
  | .named name => ((r.names.lookup name).map group).getD []
where
  group (index : Nat) : List Char :=
    match m.group? index with
    | some (start, stop) => stretch text start stop
    | none => []

/-- The text from `start` on with a template in the place of each match. -/
def replaceFrom (r : Compiled) (text : Array Char) (template : List Piece) (start : Nat) :
    List Match → List Char
  | [] => stretch text start text.size
  | m :: ms =>
    stretch text start m.start ++ template.flatMap (r.expandPiece text m) ++
      replaceFrom r text template m.stop ms

/-- The text with a template in the place of every match. -/
def replaceAll (r : Compiled) (text template : String) : String :=
  let cs := text.toList
  String.ofList <|
    r.replaceFrom cs.toArray (templatePieces template.toList) 0 (r.node.findAll cs)

end Compiled

end RecordExpr.Regex
