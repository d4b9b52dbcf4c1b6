import RecordExpr.Date.Instant

/-!
# What an evaluation can see

An evaluation looks up attributes by name, knows the present instant, and follows a configuration. A
configuration says how dates are written and read where an expression does not, and how long a text
may be that patterns are applied to.
-/

namespace RecordExpr

/-- A source of attributes. -/
abbrev Lookup := String → Option String

/-- A source of attributes that is asked first, on top of another one. -/
def Lookup.over (first second : Lookup) : Lookup := fun name => (first name).or (second name)

structure Config where
  /-- the date format, or none for the form of data interchange -/
  dateFormat : Option String
  /-- the longest text for patterns in bytes, or none for no limit -/
  maxPatternInput : Option Nat
  deriving DecidableEq

/-- The configuration where nothing is said: a limit of one mebibyte. -/
def Config.default : Config := ⟨none, some (1024 * 1024)⟩

/-- What an evaluation can see. -/
structure Environment where
  lookup : Lookup
  now : Instant
  config : Config

/-- The environment in which constant expressions are evaluated. -/
def Environment.constant : Environment := ⟨fun _ => none, .epoch, .default⟩

end RecordExpr
