/-!
# Tokens of a pattern

A pattern is read in two steps: its characters become tokens (`RecordExpr.Regex.Lexer`), and the
tokens become a regular expression (`RecordExpr.Regex.Builder`). A token is what the notation means
before the flags in force and the grouping are taken into account.
-/

namespace RecordExpr.Regex

/-- Why a pattern is refused. -/
inductive Fault
  /-- the pattern ends inside a construct -/
  | unexpectedEnd
  | unclosedGroup
  | unopenedGroup
  | lookaround
  | groupName
  | duplicateName (name : String)
  | flags
  /-- a quantifier with nothing in front of it -/
  | nothingToRepeat
  /-- a count that is no number, or a range of counts that is empty -/
  | count
  | escape
  | bracket
  | unknownProperty
  /-- a construct that needs the Unicode flag -/
  | needsUnicode
  /-- a construct that would match what is not text -/
  | notText
  | nestedTooDeep
  deriving DecidableEq

/-- The flags that a pattern can set. -/
inductive Flag
  | ignoreCase
  | multiLine
  | dotAll
  | swapGreed
  | unicode
  | crlf
  | verbose
  deriving DecidableEq

/-- The flag with a given letter. -/
def Flag.ofChar? : Char → Option Flag
  | 'i' => some .ignoreCase
  | 'm' => some .multiLine
  | 's' => some .dotAll
  | 'U' => some .swapGreed
  | 'u' => some .unicode
  | 'R' => some .crlf
  | 'x' => some .verbose
  | _ => none

/-- A character, and whether it is written as two hexadecimal digits, which stand for a byte while
the Unicode flag is off. -/
structure Literal where
  char : Char
  isByte : Bool
  deriving DecidableEq

/-- A character that stands for itself. -/
def Literal.plain (c : Char) : Literal := ⟨c, false⟩

/-- A place in the text. -/
inductive Anchor
  | lineStart
  | lineEnd
  | textStart
  | textEnd
  | wordBoundary
  | notWordBoundary
  | wordStart
  | wordEnd
  | wordStartHalf
  | wordEndHalf
  deriving DecidableEq

/-- What a class written with a backslash is named by. -/
inductive ClassName
  | digit
  | blank
  | word
  | property (name : String)
  | value (property value : String)
  deriving DecidableEq

/-- A class written with a backslash. -/
structure NamedClass where
  name : ClassName
  negated : Bool
  deriving DecidableEq

/-- The classes of ASCII characters. -/
inductive AsciiClass
  | alnum
  | alpha
  | ascii
  | blank
  | cntrl
  | digit
  | graph
  | lower
  | print
  | punct
  | space
  | upper
  | word
  | xdigit
  deriving DecidableEq

namespace AsciiClass

def all : List AsciiClass :=
  [alnum, alpha, ascii, blank, cntrl, digit, graph, lower, print, punct, space, upper, word, xdigit]

def name : AsciiClass → String
  | alnum => "alnum"
  | alpha => "alpha"
  | ascii => "ascii"
  | blank => "blank"
  | cntrl => "cntrl"
  | digit => "digit"
  | graph => "graph"
  | lower => "lower"
  | print => "print"
  | punct => "punct"
  | space => "space"
  | upper => "upper"
  | word => "word"
  | xdigit => "xdigit"

end AsciiClass

/-- How two sets in a bracket are combined. -/
inductive SetOperator
  | intersection
  | difference
  | symmetricDifference
  deriving DecidableEq

/-- What stands in a bracket. -/
inductive Bracket
  | empty
  | literal (l : Literal)
  | range (first last : Literal)
  | ascii (c : AsciiClass) (negated : Bool)
  | named (c : NamedClass)
  | union (a b : Bracket)
  | combine (op : SetOperator) (a b : Bracket)
  | nested (negated : Bool) (b : Bracket)
  deriving DecidableEq

/-- The bracket with one more item. -/
def Bracket.add : Bracket → Bracket → Bracket
  | .empty, b => b
  | a, b => .union a b

/-- The settings in a group of flags, each flag at most once. -/
abbrev Settings := List (Flag × Bool)

/-- What a pair of parentheses is for. -/
inductive GroupKind
  /-- remembers what it matched, under a number and possibly a name -/
  | capture (name : Option String)
  /-- only groups, and changes flags inside -/
  | plain (settings : Settings)
  deriving DecidableEq

inductive Token
  | literal (l : Literal)
  | dot
  | anchor (a : Anchor)
  | named (c : NamedClass)
  | bracket (negated : Bool) (b : Bracket)
  | openGroup (k : GroupKind)
  | closeGroup
  | bar
  | settings (s : Settings)
  | repetition (min : Nat) (max : Option Nat) (greedy : Bool)
  deriving DecidableEq

end RecordExpr.Regex
