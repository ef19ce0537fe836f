import FeatureFlags.Context.Basic

/-! Building a context step by step. Values are checked as they come, so a refused value leaves the
builder as it was; id and names are checked when the context is built.
-/

namespace FeatureFlags.Context

/-- A context under construction. -/
structure Builder where
  entityId : Datum
  attributes : List (Datum × Attribute)

namespace Builder

def start (entityId : Datum) : Builder := ⟨entityId, []⟩

def withEntity (b : Builder) (entityId : Datum) : Builder := { b with entityId }

/-- Adds an attribute. -/
def add (b : Builder) (name value : Datum) : Except Failure Builder := do
  let a ← Attribute.normalize name value
  match name.unhashable? with
  | some kind => throw (.unhashable kind)
  | none => return { b with attributes := putPair name a b.attributes }

def email (b : Builder) (value : Datum) : Except Failure Builder := b.add (.text "email") value

def plan (b : Builder) (value : Datum) : Except Failure Builder := b.add (.text "plan") value

def country (b : Builder) (value : Datum) : Except Failure Builder := b.add (.text "country") value

/-- Adds attributes up to the first that is refused, and says why that one is. -/
def addAll (b : Builder) : List (Datum × Datum) → Builder × Option Failure
  | [] => (b, none)
  | (name, value) :: rest =>
    match b.add name value with
    | .ok next => next.addAll rest
    | .error f => (b, some f)

/-- The context built so far. Its attributes are read like those of any other one. -/
def build (b : Builder) : Except Failure Context :=
  of b.entityId (b.attributes.map fun e => (e.1, e.2.loose))

end Builder

end FeatureFlags.Context
