import RecordExpr.Regex.Token
import RecordExpr.Text.Blank
import RecordExpr.Unicode.Class

/-!
# Reading the tokens of a pattern

The reader takes one character at a time: `Lexer.step` says what a character does in each mode, and
`tokenize` folds it over the pattern. So what is read after a beginning of a pattern depends on the
state that the beginning leads to and on nothing else.

Where several characters have to be seen before a construct is known, the mode remembers them: a
quantifier waits for a `?`, a hyphen in a bracket for what follows it, and an opening bracket inside
a bracket for as long as it may be the beginning of an ASCII class.
-/

namespace RecordExpr.Regex

/-- An item of a bracket that may turn out to be the start of a range. -/
inductive Primary
  | literal (l : Literal)
  | named (c : NamedClass)
  deriving DecidableEq

/-- What a primary is when no range follows. -/
def Primary.toBracket : Primary → Bracket
  | .literal l => .literal l
  | .named c => .named c

/-- What surrounds the part of a bracket that is being read. -/
inductive BracketFrame
  /-- an opening bracket, with what its surroundings held before it -/
  | opened (before : Bracket) (negated : Bool)
  /-- an operator and its left side -/
  | operator (op : SetOperator) (left : Bracket)
  deriving DecidableEq

/-- A bracket that is being read: its surroundings, its items so far, and the start of a range whose
end is an escape. -/
structure OpenBracket where
  frames : List BracketFrame
  items : Bracket
  rangeStart : Option Literal
  deriving DecidableEq

/-- What the next character belongs to. -/
inductive Mode
  /-- a new item -/
  | item
  /-- possibly the `?` of a quantifier, after blanks or at once -/
  | quantified (afterBlanks : Bool)
  | groupOpened
  /-- what follows `(?` -/
  | groupKind
  /-- what follows `(?P` -/
  | groupNameOpen
  | groupName (name : List Char)
  /-- the settings so far, whether a minus was read, and whether it was the last character -/
  | groupFlags (settings : Settings) (off : Bool) (dangling : Bool)
  | escape
  | hexStart (digits : Nat)
  | hexDigits (left : Nat) (value : Nat) (isByte : Bool)
  | hexBraces (value : Option Nat)
  | propertyStart (negated : Bool)
  | propertyName (negated : Bool) (name : List Char)
  /-- possibly the brace after a word boundary -/
  | boundary
  | boundaryBrace
  | boundaryName (name : List Char)
  /-- the first count so far, and whether blanks have ended it -/
  | countMin (value : Option Nat) (ended : Bool)
  | countComma (min : Option Nat)
  | countMax (min : Nat) (value : Option Nat) (ended : Bool)
  /-- possibly the `^` of a bracket -/
  | bracketOpened
  /-- a hyphen or closing bracket that stands for itself -/
  | bracketLead
  | bracketItem
  /-- possibly the second half of a set operator -/
  | bracketTwin (first : Char)
  /-- possibly the hyphen of a range -/
  | bracketAfter (p : Primary)
  /-- what follows a hyphen, and whether it follows at once -/
  | bracketHyphen (p : Primary) (atOnce : Bool)
  /-- a comment after a hyphen up to its first sign that is not blank, and whether it goes on -/
  | bracketRemark (p : Primary) (goesOn : Bool)
  /-- the end of a range -/
  | bracketRangeEnd (p : Primary)
  /-- an opening bracket in a bracket, possibly of an ASCII class, and the text after it -/
  | bracketProbe (text : List Char)
  deriving DecidableEq

/-- The state of reading a pattern. Tokens are kept the newest first, and `outer` holds the verbose
flag outside of each open group. -/
structure Lexer where
  tokens : List Token
  mode : Mode
  inComment : Bool
  verbose : Bool
  outer : List Bool
  bracket : OpenBracket
  deriving DecidableEq

namespace Lexer

def noBracket : OpenBracket := ⟨[], .empty, none⟩

/-- The state before the first character. -/
def start : Lexer := ⟨[], .item, false, false, [], noBracket⟩

/-! ### Finishing constructs -/

def goto (s : Lexer) (m : Mode) : Except Fault Lexer := .ok { s with mode := m }

/-- Adds a token, after which a new item starts. -/
def emit (s : Lexer) (t : Token) : Lexer := { s with tokens := t :: s.tokens, mode := .item }

/-- Adds an item to the open bracket. -/
def addItem (s : Lexer) (b : Bracket) : Lexer :=
  { s with bracket := { s.bracket with items := s.bracket.items.add b }, mode := .bracketItem }

def inBracket (s : Lexer) : Bool := !s.bracket.frames.isEmpty

/-- Ends a range; its ends must be in order. -/
def finishRange (s : Lexer) (first last : Literal) : Except Fault Lexer :=
  if first.char ≤ last.char then
    .ok ({ s with bracket := { s.bracket with rangeStart := none } }.addItem (.range first last))
  else .error .bracket

/-- Ends an escape that stands for a character. -/
def finishLiteral (s : Lexer) (l : Literal) : Except Fault Lexer :=
  if s.inBracket then
    match s.bracket.rangeStart with
    | some first => s.finishRange first l
    | none => s.goto (.bracketAfter (.literal l))
  else .ok (s.emit (.literal l))

/-- Ends an escape that stands for a class, which cannot end a range. -/
def finishNamed (s : Lexer) (c : NamedClass) : Except Fault Lexer :=
  if s.inBracket then
    match s.bracket.rangeStart with
    | some _ => .error .bracket
    | none => s.goto (.bracketAfter (.named c))
  else .ok (s.emit (.named c))

/-- Ends an escape that stands for a place, which a bracket cannot hold. -/
def finishAnchor (s : Lexer) (a : Anchor) : Except Fault Lexer :=
  if s.inBracket then .error .bracket else .ok (s.emit (.anchor a))

/-- Opens a group and sets the verbose flag inside it. -/
def openGroup (s : Lexer) (k : GroupKind) (verbose : Bool) : Lexer :=
  { s.emit (.openGroup k) with verbose := verbose, outer := s.verbose :: s.outer }

/-- Applies the operator in front of a set, if there is one. -/
def applyOperator (right : Bracket) : List BracketFrame → Bracket × List BracketFrame
  | .operator op left :: fs => (.combine op left right, fs)
  | fs => (right, fs)

/-- Starts the right side of a set operator. -/
def startOperand (s : Lexer) (op : SetOperator) : Lexer :=
  let (left, fs) := applyOperator s.bracket.items s.bracket.frames
  { s with bracket := ⟨.operator op left :: fs, .empty, none⟩, mode := .bracketItem }

def openBracket (s : Lexer) : Lexer :=
  { s with
    bracket := ⟨.opened s.bracket.items false :: s.bracket.frames, .empty, none⟩
    mode := .bracketOpened }

/-- Negates the bracket that was opened last. -/
def negateBracket (s : Lexer) : Lexer :=
  let frames := match s.bracket.frames with
    | .opened before _ :: fs => .opened before true :: fs
    | fs => fs
  { s with bracket := { s.bracket with frames := frames }, mode := .bracketLead }

/-- Closes the innermost bracket. -/
def closeBracket (s : Lexer) : Except Fault Lexer :=
  match applyOperator s.bracket.items s.bracket.frames with
  | (set, [.opened _ negated]) => .ok ({ s with bracket := noBracket }.emit (.bracket negated set))
  | (set, .opened before negated :: fs) =>
    .ok { s with bracket := ⟨fs, before.add (.nested negated set), none⟩, mode := .bracketItem }
  | _ => .error .bracket

/-- Makes the quantifier that was read last take as little as possible. -/
def makeLazy (s : Lexer) : Lexer :=
  match s.tokens with
  | .repetition min max _ :: ts =>
    { s with tokens := .repetition min max false :: ts, mode := .item }
  | _ => { s with mode := .item }

/-! ### Character classes of the notation -/

/-- Characters that may be escaped to stand for themselves. -/
def isEscapable (c : Char) : Bool :=
  c.toNat < 0x80 && !c.isAlphanum && c != '<' && c != '>'

/-- The control characters that have letters. -/
def controlOf? : Char → Option Char
  | 'a' => some '\x07'
  | 'f' => some '\x0C'
  | 't' => some '\t'
  | 'n' => some '\n'
  | 'r' => some '\r'
  | 'v' => some '\x0B'
  | _ => none

/-- The places that an escaped character stands for. -/
def anchorOf? : Char → Option Anchor
  | 'A' => some .textStart
  | 'z' => some .textEnd
  | 'B' => some .notWordBoundary
  | '<' => some .wordStart
  | '>' => some .wordEnd
  | _ => none

/-- The classes that an escaped letter stands for. -/
def classOf? : Char → Option NamedClass
  | 'd' => some ⟨.digit, false⟩
  | 'D' => some ⟨.digit, true⟩
  | 's' => some ⟨.blank, false⟩
  | 'S' => some ⟨.blank, true⟩
  | 'w' => some ⟨.word, false⟩
  | 'W' => some ⟨.word, true⟩
  | _ => none

/-- The places named in braces after `\b`. -/
def boundaryOf? (name : String) : Option Anchor :=
  if name == "start" then some .wordStart
  else if name == "end" then some .wordEnd
  else if name == "start-half" then some .wordStartHalf
  else if name == "end-half" then some .wordEndHalf
  else none

def isBoundaryChar (c : Char) : Bool := c.isAlpha || c == '-'

/-- Letters, digits and a few marks; a name does not start with a digit or a mark. -/
def isNameChar (c : Char) (first : Bool) : Bool :=
  c == '_' || Unicode.letters.contains c ||
    (!first && (c == '.' || c == '[' || c == ']' || Unicode.numbers.contains c))

/-- The character with a given code point. -/
def charOf? (n : Nat) : Option Char := if h : n.isValidChar then some (Char.ofNatAux n h) else none

/-- The texts of ASCII classes after their opening bracket. -/
def asciiClassTexts : List (List Char × AsciiClass × Bool) :=
  AsciiClass.all.flatMap fun c =>
    [(':' :: c.name.toList ++ [':', ']'], c, false),
      (':' :: '^' :: c.name.toList ++ [':', ']'], c, true)]

/-- The class that the text between `\p{` and `}` names. -/
def propertyClass (negated : Bool) (name : List Char) : NamedClass :=
  let isNotEq (cs : List Char) := ['!', '='].isPrefixOf cs
  let rec splitAt (stop : List Char → Bool) (before : List Char) :
      List Char → Option (List Char × List Char)
    | [] => none
    | c :: cs => if stop (c :: cs) then some (before.reverse, c :: cs)
      else splitAt stop (c :: before) cs
  let value (p v : List Char) (n : Bool) : NamedClass :=
    ⟨.value (String.ofList p) (String.ofList v), n⟩
  match splitAt isNotEq [] name with
  | some (p, v) => value p (v.drop 2) (!negated)
  | none =>
    match splitAt (·.head? == some ':') [] name with
    | some (p, v) => value p (v.drop 1) negated
    | none =>
      match splitAt (·.head? == some '=') [] name with
      | some (p, v) => value p (v.drop 1) negated
      | none => ⟨.property (String.ofList name), negated⟩

/-! ### What a character does in each mode -/

/-- In verbose patterns blanks and comments in front of a construct do not count. -/
def spaced (k : Lexer → Char → Except Fault Lexer) (s : Lexer) (c : Char) : Except Fault Lexer :=
  if s.verbose && Text.isBlank c then .ok s
  else if s.verbose && c == '#' then .ok { s with inComment := true }
  else k s c

/-- Adds a quantifier without counts. -/
def quantify (s : Lexer) (min : Nat) (max : Option Nat) : Except Fault Lexer :=
  (s.emit (.repetition min max true)).goto (.quantified false)

def itemStep (s : Lexer) (c : Char) : Except Fault Lexer :=
  match c with
  | '(' => s.goto .groupOpened
  | ')' =>
    match s.outer with
    | [] => .error .unopenedGroup
    | v :: vs => .ok { s.emit .closeGroup with verbose := v, outer := vs }
  | '|' => .ok (s.emit .bar)
  | '[' => .ok s.openBracket
  | '?' => s.quantify 0 (some 1)
  | '*' => s.quantify 0 none
  | '+' => s.quantify 1 none
  | '{' => s.goto (.countMin none false)
  | '\\' => s.goto .escape
  | '.' => .ok (s.emit .dot)
  | '^' => .ok (s.emit (.anchor .lineStart))
  | '$' => .ok (s.emit (.anchor .lineEnd))
  | c => .ok (s.emit (.literal (.plain c)))

def newItem (s : Lexer) (c : Char) : Except Fault Lexer :=
  spaced itemStep { s with mode := .item } c

def quantifiedStep (s : Lexer) (c : Char) : Except Fault Lexer :=
  if c = '?' then .ok s.makeLazy else s.newItem c

/-- The verbose flag after some settings. -/
def verboseAfter (s : Lexer) (settings : Settings) : Bool :=
  (settings.lookup .verbose).getD s.verbose

def groupFlagsStep (settings : Settings) (off dangling : Bool) (s : Lexer) (c : Char) :
    Except Fault Lexer :=
  if c = ':' ∨ c = ')' then
    if dangling then .error .flags
    else if c = ':' then .ok (s.openGroup (.plain settings) (s.verboseAfter settings))
    else if settings.isEmpty then .error .nothingToRepeat
    else .ok { s.emit (.settings settings) with verbose := s.verboseAfter settings }
  else if c = '-' then
    if off then .error .flags else s.goto (.groupFlags settings true true)
  else
    match Flag.ofChar? c with
    | none => .error .flags
    | some f =>
      if (settings.lookup f).isSome then .error .flags
      else s.goto (.groupFlags (settings ++ [(f, !off)]) off false)

def groupOpenedStep (s : Lexer) (c : Char) : Except Fault Lexer :=
  if c = '?' then s.goto .groupKind
  else itemStep (s.openGroup (.capture none) s.verbose) c

def groupKindStep (s : Lexer) (c : Char) : Except Fault Lexer :=
  match c with
  | '<' => s.goto (.groupName [])
  | 'P' => s.goto .groupNameOpen
  | '=' | '!' => .error .lookaround
  | c => groupFlagsStep [] false false s c

def groupNameStep (name : List Char) (s : Lexer) (c : Char) : Except Fault Lexer :=
  if c = '>' then
    if name.isEmpty then .error .groupName
    else .ok (s.openGroup (.capture (some (String.ofList name.reverse))) s.verbose)
  else if isNameChar c name.isEmpty then s.goto (.groupName (c :: name))
  else .error .groupName

def escapeStep (s : Lexer) (c : Char) : Except Fault Lexer :=
  match c with
  | 'x' => s.goto (.hexStart 2)
  | 'u' => s.goto (.hexStart 4)
  | 'U' => s.goto (.hexStart 8)
  | 'p' => s.goto (.propertyStart false)
  | 'P' => s.goto (.propertyStart true)
  | 'b' => if s.inBracket then .error .bracket else s.goto .boundary
  | c =>
    match classOf? c, anchorOf? c, controlOf? c with
    | some k, _, _ => s.finishNamed k
    | _, some a, _ => s.finishAnchor a
    | _, _, some k => s.finishLiteral (.plain k)
    | _, _, _ => if isEscapable c then s.finishLiteral (.plain c) else .error .escape

def hexDigitsStep (left value : Nat) (isByte : Bool) (s : Lexer) (c : Char) :
    Except Fault Lexer :=
  match Unicode.CharSet.hexDigit? c with
  | none => .error .escape
  | some d =>
    let n := 16 * value + d
    if 1 < left then s.goto (.hexDigits (left - 1) n isByte)
    else
      match charOf? n with
      | some k => s.finishLiteral ⟨k, isByte⟩
      | none => .error .escape

def hexStartStep (digits : Nat) (s : Lexer) (c : Char) : Except Fault Lexer :=
  if c = '\x7b' then s.goto (.hexBraces none) else hexDigitsStep digits 0 (digits == 2) s c

def hexBracesStep (value : Option Nat) (s : Lexer) (c : Char) : Except Fault Lexer :=
  if c = '\x7d' then
    match value.bind charOf? with
    | some k => s.finishLiteral (.plain k)
    | none => .error .escape
  else
    match Unicode.CharSet.hexDigit? c with
    | none => .error .escape
    | some d => s.goto (.hexBraces (some (16 * value.getD 0 + d)))

def propertyStartStep (negated : Bool) (s : Lexer) (c : Char) : Except Fault Lexer :=
  if c = '\x7b' then s.goto (.propertyName negated [])
  else if c = '\\' then .error .escape
  else s.finishNamed ⟨.property (String.ofList [c]), negated⟩

def propertyNameStep (negated : Bool) (name : List Char) (s : Lexer) (c : Char) :
    Except Fault Lexer :=
  if c = '\x7d' then s.finishNamed (propertyClass negated name.reverse)
  else s.goto (.propertyName negated (c :: name))

/-- Ends a quantifier with counts. -/
def finishCount (s : Lexer) (min : Nat) (max : Option Nat) : Except Fault Lexer :=
  if max.all (min ≤ ·) then (s.emit (.repetition min max true)).goto (.quantified true)
  else .error .count

/-- A count with one more digit; it must stay below `2^32`. -/
def addDigit (value : Option Nat) (c : Char) : Except Fault Nat :=
  let n := 10 * value.getD 0 + (c.toNat - '0'.toNat)
  if n < 0x100000000 then .ok n else .error .count

def countMinStep (value : Option Nat) (ended : Bool) (s : Lexer) (c : Char) :
    Except Fault Lexer :=
  if Text.isBlank c then s.goto (.countMin value (ended || value.isSome))
  else if c.isDigit then
    if ended then .error .count
    else do s.goto (.countMin (some (← addDigit value c)) false)
  else if c = ',' then s.goto (.countComma value)
  else
    match c, value with
    | '\x7d', some n => s.finishCount n (some n)
    | _, _ => .error .count

def countMaxStep (min : Nat) (value : Option Nat) (ended : Bool) (s : Lexer) (c : Char) :
    Except Fault Lexer :=
  if Text.isBlank c then s.goto (.countMax min value (ended || value.isSome))
  else if c.isDigit then
    if ended then .error .count
    else do s.goto (.countMax min (some (← addDigit value c)) false)
  else
    match c, value with
    | '\x7d', some n => s.finishCount min (some n)
    | _, _ => .error .count

def countCommaStep (min : Option Nat) (s : Lexer) (c : Char) : Except Fault Lexer :=
  match min with
  | none => .error .count
  | some n => if c = '\x7d' then s.finishCount n none else countMaxStep n none false s c

def boundaryStep (s : Lexer) (c : Char) : Except Fault Lexer :=
  if c = '\x7b' then s.goto .boundaryBrace else (s.emit (.anchor .wordBoundary)).newItem c

def boundaryBraceStep (s : Lexer) (c : Char) : Except Fault Lexer :=
  if isBoundaryChar c then s.goto (.boundaryName [c])
  else countMinStep none false (s.emit (.anchor .wordBoundary)) c

def boundaryNameStep (name : List Char) (s : Lexer) (c : Char) : Except Fault Lexer :=
  if isBoundaryChar c then s.goto (.boundaryName (c :: name))
  else if c = '\x7d' then
    match boundaryOf? (String.ofList name.reverse) with
    | some a => .ok (s.emit (.anchor a))
    | none => .error .escape
  else .error .escape

def bracketItemStep (s : Lexer) (c : Char) : Except Fault Lexer :=
  match c with
  | '[' => s.goto (.bracketProbe [])
  | ']' => s.closeBracket
  | '&' | '-' | '~' => s.goto (.bracketTwin c)
  | '\\' => s.goto .escape
  | c => s.goto (.bracketAfter (.literal (.plain c)))

def bracketLeadStep (s : Lexer) (c : Char) : Except Fault Lexer :=
  if c = '-' then (s.addItem (.literal (.plain c))).goto .bracketLead
  else if c = ']' ∧ s.bracket.items = .empty then .ok (s.addItem (.literal (.plain c)))
  else s.bracketItemStep c

def bracketOpenedStep (s : Lexer) (c : Char) : Except Fault Lexer :=
  if c = '^' then .ok s.negateBracket else s.bracketLeadStep c

def bracketAfterStep (p : Primary) (s : Lexer) (c : Char) : Except Fault Lexer :=
  if c = '-' then s.goto (.bracketHyphen p true) else (s.addItem p.toBracket).bracketItemStep c

def bracketTwinStep (first : Char) (s : Lexer) (c : Char) : Except Fault Lexer :=
  if c = first then
    .ok (s.startOperand
      (if c = '&' then .intersection else if c = '-' then .difference else .symmetricDifference))
  else
    let p := Primary.literal (.plain first)
    spaced (bracketAfterStep p) { s with mode := .bracketAfter p } c

def bracketRangeEndStep (p : Primary) (s : Lexer) (c : Char) : Except Fault Lexer :=
  match p with
  | .named _ => .error .bracket
  | .literal first =>
    if c = '\\' then
      { s with bracket := { s.bracket with rangeStart := some first } }.goto .escape
    else s.finishRange first (.plain c)

def bracketHyphenStep (p : Primary) (atOnce : Bool) (s : Lexer) (c : Char) :
    Except Fault Lexer :=
  let hyphen : Literal := .plain '-'
  if c = ']' then ((s.addItem p.toBracket).addItem (.literal hyphen)).closeBracket
  else if c = '-' then
    if atOnce then .ok ((s.addItem p.toBracket).startOperand .difference)
    else (s.addItem p.toBracket).goto (.bracketHyphen (.literal hyphen) true)
  else bracketRangeEndStep p s c

/-- Whether a hyphen stands for itself is told by the next character, and that is looked for in a
comment as well, or in what follows a comment of blanks. -/
def bracketRemarkStep (p : Primary) (goesOn : Bool) (s : Lexer) (c : Char) : Except Fault Lexer :=
  if Text.isBlank c then s.goto (.bracketRemark p (goesOn && c != '\n'))
  else if c = ']' || c = '-' then
    let hyphen := Primary.literal (.plain '-')
    let next := { s.addItem p.toBracket with mode := .bracketAfter hyphen }
    if goesOn then .ok { next with inComment := true } else bracketAfterStep hyphen next c
  else
    let next := { s with mode := .bracketRangeEnd p }
    if goesOn then .ok { next with inComment := true } else spaced (bracketRangeEndStep p) next c

def bracketProbeStep (text : List Char) (s : Lexer) (c : Char) : Except Fault Lexer :=
  let read := text ++ [c]
  match asciiClassTexts.lookup read with
  | some (k, negated) => .ok (s.addItem (.ascii k negated))
  | none =>
    if asciiClassTexts.any fun t => read.isPrefixOf t.1 then s.goto (.bracketProbe read)
    else
      -- no ASCII class: the bracket is nested, and the characters read so far are items of it
      let nested := s.openBracket
      match text.reverse with
      | [] => spaced bracketOpenedStep nested c
      | last :: before =>
        let p := Primary.literal (.plain last)
        let filled := before.reverse.foldl (fun s d => s.addItem (.literal (.plain d))) nested
        spaced (bracketAfterStep p) { filled with mode := .bracketAfter p } c

/-- What a character does to the state. -/
def step (s : Lexer) (c : Char) : Except Fault Lexer :=
  if s.inComment then .ok { s with inComment := c != '\n' }
  else
    match s.mode with
    | .item => s.newItem c
    | .quantified true => spaced quantifiedStep s c
    | .quantified false => s.quantifiedStep c
    | .groupOpened => spaced groupOpenedStep s c
    | .groupKind => s.groupKindStep c
    | .groupNameOpen => if c = '<' then s.goto (.groupName []) else .error .flags
    | .groupName name => groupNameStep name s c
    | .groupFlags settings off dangling => groupFlagsStep settings off dangling s c
    | .escape => s.escapeStep c
    | .hexStart digits => spaced (hexStartStep digits) s c
    | .hexDigits left value isByte => spaced (hexDigitsStep left value isByte) s c
    | .hexBraces value => spaced (hexBracesStep value) s c
    | .propertyStart negated => spaced (propertyStartStep negated) s c
    | .propertyName negated name => spaced (propertyNameStep negated name) s c
    | .boundary => s.boundaryStep c
    | .boundaryBrace => spaced boundaryBraceStep s c
    | .boundaryName name => spaced (boundaryNameStep name) s c
    | .countMin value ended => spaced (countMinStep value ended) s c
    | .countComma min => spaced (countCommaStep min) s c
    | .countMax min value ended => spaced (countMaxStep min value ended) s c
    | .bracketOpened => spaced bracketOpenedStep s c
    | .bracketLead => spaced bracketLeadStep s c
    | .bracketItem => spaced bracketItemStep s c
    | .bracketTwin first => bracketTwinStep first s c
    | .bracketAfter p => spaced (bracketAfterStep p) s c
    -- the next character is looked for beyond blanks and comments, but is not read there
    | .bracketHyphen p atOnce =>
      if s.verbose && Text.isBlank c then s.goto (.bracketHyphen p false)
      else if s.verbose && c == '#' then s.goto (.bracketRemark p true)
      else bracketHyphenStep p atOnce s c
    | .bracketRemark p goesOn => bracketRemarkStep p goesOn s c
    | .bracketRangeEnd p => spaced (bracketRangeEndStep p) s c
    | .bracketProbe text => bracketProbeStep text s c

/-- The tokens at the end of a pattern, the oldest first. The pattern may end where an item could
start, if no group is open. -/
def finish (s : Lexer) : Except Fault (List Token) :=
  let tokens := match s.mode with
    | .boundary => Token.anchor .wordBoundary :: s.tokens
    | _ => s.tokens
  match s.mode with
  | .item | .quantified _ | .boundary =>
    if s.outer.isEmpty then .ok tokens.reverse else .error .unclosedGroup
  | _ => .error .unexpectedEnd

end Lexer

/-- The tokens of a pattern. -/
def tokenize (cs : List Char) : Except Fault (List Token) := do
  (← cs.foldlM Lexer.step Lexer.start).finish

end RecordExpr.Regex
