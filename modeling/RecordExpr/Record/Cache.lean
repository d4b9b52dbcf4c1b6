import RecordExpr.Record.Failure
import RecordExpr.Dictionary

/-!
# The cache of expressions

A cache keeps one valid expression for each property, together with the fingerprint of what it was
built from. It is built again only when the fingerprint changes. Each expression that enters the
cache gets a number of its own, so that one that is kept can be told from an equal one that is built
anew.

The main definition is `Cache.get`.
-/

namespace RecordExpr

/-- An expression in the cache. -/
structure CacheEntry where
  fingerprint : String
  expr : Expr
  serial : Nat

structure Cache where
  entries : Dictionary CacheEntry
  /-- how many expressions have entered the cache so far -/
  entered : Nat

namespace Cache

def empty : Cache := ⟨.empty, 0⟩

/-- The entry for a property, if it has a given fingerprint. -/
def current? (c : Cache) (name fingerprint : String) : Option CacheEntry :=
  (c.entries.get? name).filter (·.fingerprint == fingerprint)

/-- A new entry for a property, whose expression must be valid and may have to be of some kind. -/
def enter (c : Cache) (name fingerprint : String) (required : Option Kind)
    (build : Except String Expr) : Except Failure (CacheEntry × Cache) := do
  let e ← match build with
    | .ok e => pure e
    | .error message => throw (Failure.building message)
  requireValid (.property name) (validateFor e required)
  let entry : CacheEntry := ⟨fingerprint, e, c.entered⟩
  return (entry, ⟨c.entries.insert name entry, c.entered + 1⟩)

/-- What a request to the cache comes to. -/
structure Answer where
  /-- whether the expression had to be built -/
  built : Bool
  entry : Except Failure CacheEntry

/-- The expression of a property, built only if there is none with the fingerprint. If the new one
is refused, the cache stays as it is. -/
def get (c : Cache) (name fingerprint : String) (required : Option Kind)
    (build : Except String Expr) : Answer × Cache :=
  match c.current? name fingerprint with
  | some entry => (⟨false, .ok entry⟩, c)
  | none =>
    match c.enter name fingerprint required build with
    | .ok (entry, c) => (⟨true, .ok entry⟩, c)
    | .error failure => (⟨true, .error failure⟩, c)

/-- Whether the cache had an entry for a property, and the cache without it. -/
def invalidate (c : Cache) (name : String) : Bool × Cache :=
  ((c.entries.get? name).isSome, { c with entries := c.entries.erase name })

def size (c : Cache) : Nat := c.entries.size

end Cache

end RecordExpr
