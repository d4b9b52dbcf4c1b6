import RecordExpr.Operator
import RecordExpr.Value

/-!
# Expressions

An expression is a tree. Its leaves are constants, attributes of a record and the present instant,
and its inner nodes apply operators. The kind of value that an expression declares follows from its
shape alone, whether or not its operands fit.

The main definitions are `Expr`, `Expr.kind`, `Expr.operands` and `Expr.fold`, which computes
something for a tree from what it is for the operands.
-/

namespace RecordExpr

/-- What a string test or a replacement looks for. -/
inductive Search
  | text
  /-- a regular expression, which has to match a whole text if it is anchored -/
  | pattern (anchored : Bool)
  deriving DecidableEq

inductive Expr
  /-- a constant, or the absence of a value -/
  | literal (r : Result)
  /-- an attribute of the record -/
  | attr (name : String)
  /-- the present instant -/
  | now
  /-- the operand as a value of another kind, dates by a format -/
  | convert (target : Kind) (operand : Expr) (format : Option String)
  | unary (op : Unary) (operand : Expr)
  | compare (op : Comparison) (subject comparison : Expr)
  | arithmetic (op : Arithmetic) (subject operand : Expr)
  | logical (op : Connective) (operands : List Expr)
  | ifElse (condition consequent alternative : Expr)
  /-- the subject, or the replacement if it is absent -/
  | replaceNull (subject replacement : Expr)
  /-- the texts of the operands, one after another -/
  | concat (operands : List Expr)
  /-- the characters of the subject from `start` on -/
  | substringFrom (subject start : Expr)
  /-- the characters of the subject from `start` on and before `stop` -/
  | substring (subject start stop : Expr)
  | test (op : StringTest) (subject : Expr) (search : Search) (argument : Expr)
  /-- the subject with a replacement for everything that is found -/
  | replace (subject : Expr) (search : Search) (argument replacement : Expr)

namespace Expr

/-! ### Kinds -/

/-- The kind of value that an expression declares. -/
def kind : Expr → Kind
  | literal r => r.kind
  | attr _ => .string
  | now => .date
  | convert target _ _ => target
  | unary op operand => op.resultKind operand.kind
  | compare _ _ _ | logical _ _ | test _ _ _ _ => .boolean
  | arithmetic op subject operand =>
    ((op.domain? subject.kind operand.kind).map (·.resultKind)).getD .decimal
  | ifElse _ consequent _ => consequent.kind
  | replaceNull subject _ => subject.kind
  | concat _ | substringFrom _ _ | substring _ _ _ | replace _ _ _ _ => .string

/-! ### Operands -/

def operands : Expr → List Expr
  | literal _ | attr _ | now => []
  | convert _ operand _ | unary _ operand => [operand]
  | compare _ subject comparison => [subject, comparison]
  | arithmetic _ subject operand => [subject, operand]
  | logical _ operands | concat operands => operands
  | ifElse condition consequent alternative => [condition, consequent, alternative]
  | replaceNull subject replacement => [subject, replacement]
  | substringFrom subject start => [subject, start]
  | substring subject start stop => [subject, start, stop]
  | test _ subject _ argument => [subject, argument]
  | replace subject _ argument replacement => [subject, argument, replacement]

/-- The operand that messages speak of first. -/
def subject? (e : Expr) : Option Expr := e.operands.head?

/-! ### Computing over a tree -/

mutual

/-- Computes from the leaves up: `f` is given a node and what it has computed for the operands. -/
def fold {α : Type} (f : Expr → List α → α) : Expr → α
  | literal r => f (literal r) []
  | attr name => f (attr name) []
  | now => f now []
  | convert target operand format => f (convert target operand format) [fold f operand]
  | unary op operand => f (unary op operand) [fold f operand]
  | compare op subject comparison =>
    f (compare op subject comparison) [fold f subject, fold f comparison]
  | arithmetic op subject operand =>
    f (arithmetic op subject operand) [fold f subject, fold f operand]
  | logical op operands => f (logical op operands) (foldList f operands)
  | ifElse condition consequent alternative =>
    f (ifElse condition consequent alternative)
      [fold f condition, fold f consequent, fold f alternative]
  | replaceNull subject replacement =>
    f (replaceNull subject replacement) [fold f subject, fold f replacement]
  | concat operands => f (concat operands) (foldList f operands)
  | substringFrom subject start => f (substringFrom subject start) [fold f subject, fold f start]
  | substring subject start stop =>
    f (substring subject start stop) [fold f subject, fold f start, fold f stop]
  | test op subject search argument =>
    f (test op subject search argument) [fold f subject, fold f argument]
  | replace subject search argument replacement =>
    f (replace subject search argument replacement)
      [fold f subject, fold f argument, fold f replacement]

@[inherit_doc fold]
def foldList {α : Type} (f : Expr → List α → α) : List Expr → List α
  | [] => []
  | e :: es => fold f e :: foldList f es

end

theorem foldList_eq_map {α : Type} (f : Expr → List α → α) (es : List Expr) :
    foldList f es = es.map (fold f) := by
  induction es with
  | nil => simp [foldList]
  | cons e es ih => simp [foldList, ih]

theorem fold_eq {α : Type} (f : Expr → List α → α) (e : Expr) :
    fold f e = f e (e.operands.map (fold f)) := by
  cases e <;> simp [fold, operands, foldList_eq_map]

/-- The nodes of a tree, each before its operands. -/
def nodes : Expr → List Expr := fold fun e below => e :: below.flatten

theorem nodes_eq (e : Expr) : e.nodes = e :: e.operands.flatMap nodes := by
  rw [nodes, fold_eq, List.flatMap_def]

/-- Whether a node looks at the record or the clock. -/
def readsContext : Expr → Bool
  | attr _ | now => true
  | _ => false

/-- Whether nothing in a tree depends on the record or the clock. -/
def isConstant (e : Expr) : Bool := e.nodes.all (!·.readsContext)

/-- Whether a node writes or reads a date for which the expression gives no format. -/
def readsDateFormat : Expr → Bool
  | convert .string operand none => operand.kind == .date
  | convert .date operand none => operand.kind == .string
  | concat operands => operands.any (·.kind == .date)
  | _ => false

/-- Whether the value of a tree may depend on the configured date format. -/
def usesDateFormat (e : Expr) : Bool := e.nodes.any (·.readsDateFormat)

/-! ### Equality -/

mutual

/-- Whether two trees are the same, decimals compared as numbers. -/
def same : Expr → Expr → Bool
  | literal r, literal s => r.same s
  | attr a, attr b => a == b
  | now, now => true
  | convert k x f, convert l y g => k == l && same x y && f == g
  | unary o x, unary p y => o == p && same x y
  | compare o x y, compare p z w => o == p && same x z && same y w
  | arithmetic o x y, arithmetic p z w => o == p && same x z && same y w
  | logical o xs, logical p ys => o == p && sameList xs ys
  | ifElse c x y, ifElse d z w => same c d && same x z && same y w
  | replaceNull x y, replaceNull z w => same x z && same y w
  | concat xs, concat ys => sameList xs ys
  | substringFrom x a, substringFrom y b => same x y && same a b
  | substring x a b, substring y c d => same x y && same a c && same b d
  | test o x s a, test p y t b => o == p && same x y && s == t && same a b
  | replace x s a r, replace y t b q => same x y && s == t && same a b && same r q
  | _, _ => false

@[inherit_doc same]
def sameList : List Expr → List Expr → Bool
  | [], [] => true
  | x :: xs, y :: ys => same x y && sameList xs ys
  | _, _ => false

end

end Expr

end RecordExpr
