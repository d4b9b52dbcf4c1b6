import RecordExpr.Expr.Basic

/-!
# Signatures

The signature of a node says what its operator is called, which kinds of operand it takes in which
role, and how it treats absent operands. Where an operand has to fit to another one, its slot names
the kinds that do.

The main definition is `Expr.signature`; it has one slot for each operand (`length_slots`).
-/

namespace RecordExpr

/-- What an operand is for. -/
inductive Role
  | operand
  | subject
  | comparison
  | condition
  | consequent
  | alternative
  | replacement
  | start
  | stop
  | argument
  | pattern
  deriving DecidableEq

def Role.name : Role → String
  | operand => "operand"
  | subject => "subject"
  | comparison => "comparison"
  | condition => "condition"
  | consequent => "then"
  | alternative => "otherwise"
  | replacement => "replacement"
  | start => "start"
  | stop => "end"
  | argument => "argument"
  | pattern => "pattern"

/-- The place of an operand. -/
structure Slot where
  role : Role
  accepted : List Kind
  deriving DecidableEq

def Slot.accepts (s : Slot) (k : Kind) : Bool := s.accepted.contains k

structure Signature where
  operator : String
  slots : List Slot
  result : Kind
  nullPolicy : NullPolicy
  deriving DecidableEq

/-- The role of what a search looks for. -/
def Search.role : Search → Role
  | text => .argument
  | pattern _ => .pattern

namespace Expr

/-- The name of a node's operator. -/
def operator : Expr → String
  | literal _ => "literal"
  | attr _ => "attribute"
  | now => "now"
  | convert target _ _ => target.conversionName
  | unary op _ => op.name
  | compare op _ _ => op.name
  | arithmetic op _ _ => op.name
  | logical op _ => op.name
  | ifElse _ _ _ => "ifElse"
  | replaceNull _ _ => "replaceNull"
  | concat _ => "concat"
  | substringFrom _ _ | substring _ _ _ => "substring"
  | test op _ _ _ => op.name
  | replace _ .text _ _ => "replace"
  | replace _ (.pattern _) _ _ => "replaceAll"

/-- The kinds that fit to a subject, which is judged only if it is acceptable itself. -/
def partners (subjects : List Kind) (fitting : Kind → List Kind) (subject : Kind) : List Kind :=
  if subjects.contains subject then fitting subject else Kind.all

def slots : Expr → List Slot
  | literal _ | attr _ | now => []
  | convert target _ _ => [⟨.operand, target.conversionSources⟩]
  | unary op _ => [⟨.operand, op.operandKinds⟩]
  | compare op subject _ =>
    [⟨.subject, op.subjectKinds⟩,
      ⟨.comparison, partners op.subjectKinds op.partnerKinds subject.kind⟩]
  | arithmetic op subject _ =>
    [⟨.subject, op.subjectKinds⟩,
      ⟨.operand, partners op.subjectKinds op.partnerKinds subject.kind⟩]
  | logical _ operands => operands.map fun _ => ⟨.operand, [.boolean]⟩
  | ifElse _ consequent _ =>
    [⟨.condition, [.boolean]⟩, ⟨.consequent, Kind.all⟩, ⟨.alternative, [consequent.kind]⟩]
  | replaceNull subject _ => [⟨.subject, Kind.all⟩, ⟨.replacement, [subject.kind]⟩]
  | concat operands => operands.map fun _ => ⟨.operand, Kind.all⟩
  | substringFrom _ _ => [⟨.subject, [.string]⟩, ⟨.start, [.wholeNumber]⟩]
  | substring _ _ _ =>
    [⟨.subject, [.string]⟩, ⟨.start, [.wholeNumber]⟩, ⟨.stop, [.wholeNumber]⟩]
  | test _ _ search _ => [⟨.subject, [.string]⟩, ⟨search.role, [.string]⟩]
  | replace _ search _ _ =>
    [⟨.subject, [.string]⟩, ⟨search.role, [.string]⟩, ⟨.replacement, [.string]⟩]

def nullPolicy : Expr → NullPolicy
  | unary op _ => op.nullPolicy
  | compare _ _ _ | logical _ _ | ifElse _ _ _ | test _ _ _ _ => .absentIsFalse
  | replaceNull _ _ => .replace
  | _ => .propagate

def signature (e : Expr) : Signature := ⟨e.operator, e.slots, e.kind, e.nullPolicy⟩

/-- Whether the kinds of the slot at a place depend on another operand. -/
def isPartnerSlot (e : Expr) (index : Nat) : Bool :=
  match e with
  | compare _ _ _ | arithmetic _ _ _ | replaceNull _ _ => index == 1
  | ifElse _ _ _ => index == 2
  | _ => false

theorem length_slots (e : Expr) : e.slots.length = e.operands.length := by
  cases e <;> simp [slots, operands]

end Expr

/-! ### Paths -/

/-- One step from a node to an operand. Operands that share a role are numbered. -/
structure Step where
  role : Role
  index : Option Nat
  deriving DecidableEq

def Step.render (s : Step) : String :=
  match s.index with
  | none => s.role.name
  | some i => s.role.name ++ "[" ++ toString i ++ "]"

/-- The way from the root of a tree to one of its nodes. -/
abbrev Path := List Step

def Path.render (p : Path) : String := ".".intercalate ("root" :: p.map Step.render)

/-- The steps to the last operands with some roles, where `before` has the roles of those in front
of them. -/
def stepsFrom (before : List Role) : List Role → List Step
  | [] => []
  | r :: rs =>
    let shared := before.contains r || rs.contains r
    ⟨r, if shared then some (before.count r) else none⟩ :: stepsFrom (before ++ [r]) rs

/-- The steps from a node to its operands. -/
def Expr.steps (e : Expr) : List Step := stepsFrom [] (e.slots.map (·.role))

/-- The nodes of a tree below a path with the ways to them, each after its operands. -/
def Expr.locatedFrom (path : Path) (e : Expr) : List (Path × Expr) := go e path
where
  go : Expr → Path → List (Path × Expr) :=
    Expr.fold fun e below path =>
      (List.zipWith (fun locate step => locate (path ++ [step])) below e.steps).flatten ++
        [(path, e)]

/-- The nodes of a tree with the ways to them, each after its operands. -/
def Expr.located (e : Expr) : List (Path × Expr) := e.locatedFrom []

end RecordExpr
