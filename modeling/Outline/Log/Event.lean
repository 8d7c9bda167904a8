/-
Events: what the library says about its work while doing it.

A computation that has something to say returns its events, in order,
beside its result. Where they go is decided elsewhere.
-/
import Outline.Value.Basic

namespace Outline

/-- How serious an event is. -/
inductive Severity where
  | debug
  | info
  | warning
  | error
  | critical
deriving DecidableEq, Repr, Inhabited

namespace Severity

/-- Every severity, least serious first. -/
def all : List Severity := [debug, info, warning, error, critical]

/-- The number of a severity. -/
def number : Severity → Nat
  | debug => 10
  | info => 20
  | warning => 30
  | error => 40
  | critical => 50

/-- The name of a severity in settings. -/
def name : Severity → String
  | debug => "DEBUG"
  | info => "INFO"
  | warning => "WARNING"
  | error => "ERROR"
  | critical => "CRITICAL"

/-- The name of a severity in events. -/
def label : Severity → String
  | debug => "debug"
  | info => "info"
  | warning => "warning"
  | error => "error"
  | critical => "critical"

end Severity

/-- Something worth saying: who says it, how serious it is, its name
and its fields in order. -/
structure Event where
  logger : String
  severity : Severity
  name : String
  fields : List (String × Value) := []
deriving Repr, Inhabited

/-- A result with the events of its computation. -/
structure Logged (α : Type) where
  result : α
  events : List Event := []
deriving Repr, Inhabited

namespace Logged

/-- A result of which there is nothing to say. -/
def silent {α : Type} (a : α) : Logged α := ⟨a, []⟩

/-- Continues with a result; events of the first part come first. -/
def andThen {α β : Type} (x : Logged α) (f : α → Logged β) : Logged β :=
  let y := f x.result
  ⟨y.result, x.events ++ y.events⟩

/-- Changes the result only. -/
def map {α β : Type} (f : α → β) (x : Logged α) : Logged β :=
  ⟨f x.result, x.events⟩

end Logged

end Outline
