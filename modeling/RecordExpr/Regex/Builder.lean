import RecordExpr.Regex.Token
import RecordExpr.Regex.Node
import RecordExpr.Unicode.Folding
import RecordExpr.Unicode.Class

/-!
# From tokens to a regular expression

The builder takes one token at a time. It keeps the flags in force, the items of the branch that is
being read, the finished branches next to it, and the same of everything around the open groups.

The main definition is `build`.
-/

namespace RecordExpr.Regex

open RecordExpr.Unicode

/-- The flags in force. -/
structure Flags where
  ignoreCase : Bool
  multiLine : Bool
  dotAll : Bool
  swapGreed : Bool
  unicode : Bool
  crlf : Bool
  deriving DecidableEq

namespace Flags

/-- At the beginning of a pattern only the Unicode flag is on. -/
def initial : Flags := ⟨false, false, false, false, true, false⟩

/-- The flags after some settings. -/
def apply (f : Flags) (s : Settings) : Flags :=
  { ignoreCase := (s.lookup .ignoreCase).getD f.ignoreCase
    multiLine := (s.lookup .multiLine).getD f.multiLine
    dotAll := (s.lookup .dotAll).getD f.dotAll
    swapGreed := (s.lookup .swapGreed).getD f.swapGreed
    unicode := (s.lookup .unicode).getD f.unicode
    crlf := (s.lookup .crlf).getD f.crlf }

end Flags

/-! ### Sets of characters -/

/-- The characters of an ASCII class. -/
def AsciiClass.chars : AsciiClass → CharSet
  | .alnum => ⟨[(0x30, 0x39), (0x41, 0x5A), (0x61, 0x7A)]⟩
  | .alpha => ⟨[(0x41, 0x5A), (0x61, 0x7A)]⟩
  | .ascii => ⟨[(0, 0x7F)]⟩
  | .blank => ⟨[(0x09, 0x09), (0x20, 0x20)]⟩
  | .cntrl => ⟨[(0, 0x1F), (0x7F, 0x7F)]⟩
  | .digit => ⟨[(0x30, 0x39)]⟩
  | .graph => ⟨[(0x21, 0x7E)]⟩
  | .lower => ⟨[(0x61, 0x7A)]⟩
  | .print => ⟨[(0x20, 0x7E)]⟩
  | .punct => ⟨[(0x21, 0x2F), (0x3A, 0x40), (0x5B, 0x60), (0x7B, 0x7E)]⟩
  | .space => ⟨[(0x09, 0x0D), (0x20, 0x20)]⟩
  | .upper => ⟨[(0x41, 0x5A)]⟩
  | .word => ⟨[(0x30, 0x39), (0x41, 0x5A), (0x5F, 0x5F), (0x61, 0x7A)]⟩
  | .xdigit => ⟨[(0x30, 0x39), (0x41, 0x46), (0x61, 0x66)]⟩

/-- The word characters that boundaries look for. -/
def wordChars (f : Flags) : CharSet :=
  if f.unicode then Unicode.wordChars else AsciiClass.word.chars

/-- Adds what differs in case only, if case does not count. -/
def foldFor (f : Flags) (s : CharSet) : CharSet :=
  if f.ignoreCase then if f.unicode then s.foldCase else s.foldAsciiCase else s

/-- Without the Unicode flag a set holds bytes, and only those of ASCII are text. -/
def checkText (f : Flags) (s : CharSet) : Except Fault CharSet :=
  if f.unicode || s.isAscii then .ok s else .error .notText

/-- A set after folding of case and negation. -/
def foldAndNegate (f : Flags) (negated : Bool) (s : CharSet) : Except Fault CharSet :=
  let folded := foldFor f s
  checkText f (if negated then folded.compl else folded)

/-- The characters of a class written with a backslash. -/
def namedSet (f : Flags) (c : NamedClass) : Except Fault CharSet :=
  let perl (wide narrow : CharSet) :=
    let s := if f.unicode then wide else narrow
    checkText f (if c.negated then s.compl else s)
  let property (found : Option CharSet) : Except Fault CharSet :=
    if !f.unicode then .error .needsUnicode
    else
      match found with
      | some s => foldAndNegate f c.negated s
      | none => .error .unknownProperty
  match c.name with
  | .digit => perl digits AsciiClass.digit.chars
  | .blank => perl blanks AsciiClass.space.chars
  | .word => perl Unicode.wordChars AsciiClass.word.chars
  | .property name => property (named? name)
  | .value p v => property (valued? p v)

/-- The character that a literal in a bracket stands for. -/
def bracketChar (f : Flags) (l : Literal) : Except Fault Char :=
  if f.unicode || l.char.toNat < 0x80 then .ok l.char
  else .error (if l.isByte then .notText else .needsUnicode)

/-- The characters of what stands in a bracket. -/
def bracketSet (f : Flags) : Bracket → Except Fault CharSet
  | .empty => .ok .empty
  | .literal l => do return .singleton (← bracketChar f l)
  | .range a b => do return .range (← bracketChar f a) (← bracketChar f b)
  | .ascii c negated => foldAndNegate f negated c.chars
  | .named c => namedSet f c
  | .union a b => do return (← bracketSet f a).union (← bracketSet f b)
  | .combine op a b => do
    let left := foldFor f (← bracketSet f a)
    let right := foldFor f (← bracketSet f b)
    match op with
    | .intersection => return left.inter right
    | .difference => return left.diff right
    | .symmetricDifference => return left.symmDiff right
  | .nested negated b => do foldAndNegate f negated (← bracketSet f b)

/-! ### Nodes of single tokens -/

def literalNode (f : Flags) (l : Literal) : Except Fault Node :=
  if !f.unicode && l.isByte && 0x80 ≤ l.char.toNat then .error .notText
  else .ok (.set (foldFor f (.singleton l.char)))

/-- Any character; without the Unicode flag it would match bytes that are not text. -/
def dotNode (f : Flags) : Except Fault Node :=
  if !f.unicode then .error .notText
  else if f.dotAll then .ok (.set .full)
  else if f.crlf then .ok (.set (CharSet.compl ⟨[(0x0A, 0x0A), (0x0D, 0x0D)]⟩))
  else .ok (.set (CharSet.compl ⟨[(0x0A, 0x0A)]⟩))

def anchorLook (f : Flags) : Anchor → Look
  | .lineStart =>
    if !f.multiLine then .textStart else if f.crlf then .crlfLineStart else .lineStart
  | .lineEnd => if !f.multiLine then .textEnd else if f.crlf then .crlfLineEnd else .lineEnd
  | .textStart => .textStart
  | .textEnd => .textEnd
  | .wordBoundary => .wordBoundary (wordChars f)
  | .notWordBoundary => .notWordBoundary (wordChars f)
  | .wordStart => .wordStart (wordChars f)
  | .wordEnd => .wordEnd (wordChars f)
  | .wordStartHalf => .wordStartHalf (wordChars f)
  | .wordEndHalf => .wordEndHalf (wordChars f)

/-- How deeply brackets are nested; items side by side count once. -/
def Bracket.height : Bracket → Nat
  | .empty | .literal _ | .range _ _ | .ascii _ _ | .named _ => 0
  | .union a b =>
    match a with
    | .union _ _ => max a.height (b.height + 1)
    | _ => 1 + max a.height b.height
  | .combine _ a b => 1 + max a.height b.height
  | .nested _ b => 1 + b.height

/-! ### The builder -/

/-- A node with the height of what it was written as. Settings are items too: they match nothing and
cannot be repeated. -/
structure Part where
  node : Node
  height : Nat
  isSettings : Bool
  deriving DecidableEq

/-- What surrounds an open group. -/
structure Surroundings where
  items : List Part
  branches : List Part
  flags : Flags
  /-- the number of the group, if it captures -/
  capture : Option Nat
  deriving DecidableEq

/-- The state of building. Items, branches and surroundings are kept the newest first. -/
structure Builder where
  flags : Flags
  items : List Part
  branches : List Part
  around : List Surroundings
  groups : Nat
  names : List (String × Nat)
  deriving DecidableEq

namespace Builder

/-- The state before the first token. -/
def start : Builder := ⟨.initial, [], [], [], 0, []⟩

/-- The deepest nesting that is accepted. -/
def maxHeight : Nat := 250

/-- The greatest height of some parts. -/
def heightOf (ps : List Part) : Nat := (ps.map Part.height).foldl max 0

/-- The items of a branch as one part. -/
def sequence : List Part → Part
  | [] => ⟨.empty, 0, false⟩
  | [p] => p
  | ps => ⟨.seqAll (ps.reverse.map Part.node), 1 + heightOf ps, false⟩

/-- Everything that was read since the innermost group was opened, as one part. -/
def contents (b : Builder) : Part :=
  let last := sequence b.items
  match b.branches with
  | [] => last
  | ps =>
    ⟨.altAll ((ps.map Part.node).reverse ++ [last.node]), 1 + max last.height (heightOf ps), false⟩

def push (b : Builder) (p : Part) : Builder := { b with items := p :: b.items }

/-- Adds a node that nothing is nested in. -/
def leaf (b : Builder) (n : Node) : Builder := b.push ⟨n, 0, false⟩

/-- Opens a group: what surrounds it is put aside. -/
def openGroup (b : Builder) (capture : Option Nat) (flags : Flags) : Builder :=
  { b with
    flags := flags
    items := []
    branches := []
    around := ⟨b.items, b.branches, b.flags, capture⟩ :: b.around }

/-- What a token does to the state. -/
def step (b : Builder) : Token → Except Fault Builder
  | .literal l => do return b.leaf (← literalNode b.flags l)
  | .dot => do return b.leaf (← dotNode b.flags)
  | .anchor a => .ok (b.leaf (.look (anchorLook b.flags a)))
  | .named c => do return b.leaf (.set (← namedSet b.flags c))
  | .bracket negated s => do
    let set ← foldAndNegate b.flags negated (← bracketSet b.flags s)
    return b.push ⟨.set set, 1 + s.height, false⟩
  | .openGroup (.plain settings) => .ok (b.openGroup none (b.flags.apply settings))
  -- groups are counted from the left, by where they open
  | .openGroup (.capture none) =>
    .ok { b.openGroup (some (b.groups + 1)) b.flags with groups := b.groups + 1 }
  | .openGroup (.capture (some name)) =>
    if (b.names.lookup name).isSome then .error (.duplicateName name)
    else
      .ok { b.openGroup (some (b.groups + 1)) b.flags with
        groups := b.groups + 1
        names := (name, b.groups + 1) :: b.names }
  | .closeGroup =>
    match b.around with
    | [] => .error .unopenedGroup
    | s :: around =>
      let inner := b.contents
      let node := match s.capture with
        | some i => .group i inner.node
        | none => inner.node
      .ok { b with
        flags := s.flags
        items := ⟨node, 1 + inner.height, false⟩ :: s.items
        branches := s.branches
        around := around }
  | .bar => .ok { b with items := [], branches := sequence b.items :: b.branches }
  -- settings hold up to the end of the group
  | .settings s => .ok { b.push ⟨.empty, 0, true⟩ with flags := b.flags.apply s }
  | .repetition min max greedy =>
    match b.items with
    | [] => .error .nothingToRepeat
    | p :: ps =>
      if p.isSettings then .error .nothingToRepeat
      else
        let node := Node.repeated min max (greedy != b.flags.swapGreed) p.node
        .ok { b with items := ⟨node, 1 + p.height, false⟩ :: ps }

/-- The regular expression after the last token. -/
def finish (b : Builder) : Except Fault Compiled :=
  if b.around.isEmpty then
    let all := b.contents
    if all.height ≤ maxHeight then .ok ⟨all.node, b.names⟩ else .error .nestedTooDeep
  else .error .unclosedGroup

end Builder

/-- The regular expression that tokens stand for. -/
def build (ts : List Token) : Except Fault Compiled := do
  (← ts.foldlM Builder.step Builder.start).finish

end RecordExpr.Regex
