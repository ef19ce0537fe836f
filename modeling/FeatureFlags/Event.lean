import FeatureFlags.Failure

/-! Events worth a line in the log, and computations that give rise to them. What an event says does
not depend on how or whether it is written down.
-/

namespace FeatureFlags

/-- How much an event matters. -/
inductive Level where
  | debug
  | info
  | warning
  | error
deriving DecidableEq, Repr

namespace Level

def all : List Level := [debug, info, warning, error]

def name : Level → String
  | debug => "DEBUG"
  | info => "INFO"
  | warning => "WARNING"
  | error => "ERROR"

/-- The place of a level on the scale of all levels. -/
def number : Level → Nat
  | debug => 10
  | info => 20
  | warning => 30
  | error => 40

end Level

/-- Something that happened. -/
structure Event where
  level : Level
  /-- The part of the library in which it happened. -/
  channel : String
  message : String
deriving DecidableEq, Repr

/-- A computation that may fail, with the events on its way. -/
structure Traced (α : Type) where
  result : Except Failure α
  events : List Event

namespace Traced

variable {α β : Type}

/-- Goes on with the result of a computation, unless it has failed. -/
protected def bind (x : Traced α) (f : α → Traced β) : Traced β :=
  match x.result with
  | .ok a => ⟨(f a).result, x.events ++ (f a).events⟩
  | .error e => ⟨.error e, x.events⟩

instance : Monad Traced where
  pure a := ⟨.ok a, []⟩
  bind := Traced.bind

/-- The computation that fails. -/
def fail (e : Failure) : Traced α := ⟨.error e, []⟩

/-- A computation without events. -/
def lift (x : Except Failure α) : Traced α := ⟨x, []⟩

/-- The computation of a single event. -/
def emit (event : Event) : Traced Unit := ⟨.ok (), [event]⟩

/-- Whether a test holds of all members of a list; the test stops at the first one that fails. -/
def all (test : α → Traced Bool) : List α → Traced Bool
  | [] => pure true
  | a :: rest => do
    if ← test a then all test rest else return false

/-- Whether a test holds of some member of a list; the test stops at the first one. -/
def any (test : α → Traced Bool) : List α → Traced Bool
  | [] => pure false
  | a :: rest => do
    if ← test a then return true else any test rest

end Traced

end FeatureFlags
