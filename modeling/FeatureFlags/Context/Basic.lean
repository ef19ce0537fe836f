import FeatureFlags.Attribute
import FeatureFlags.OrderedMap

/-! Evaluation contexts: the entity for which flags are evaluated and its attributes. The id decides
the buckets of the entity; the attributes are what conditions test.
-/

namespace FeatureFlags

/-- An entity with its attributes. -/
structure Context where
  entityId : String
  attributes : OrderedMap String Attribute

namespace Context

def empty : Context := ⟨"", ∅⟩

/-- The fault that a context has an id that is no text. -/
def badEntity (entity : Datum) : Failure :=
  .fault (.of .invalidAttribute ("entity_id must be a string, got " ++ entity.kindName)
    [("attribute", .text "entity_id")])

/-- The fault that an attribute has a name that is no text. -/
def badName (name : Datum) : Failure :=
  .quoting [name] (.of .invalidAttribute ("attribute names must be strings, got " ++ name.literal)
    [("attribute", .text name.literal)])

/-- Reads the id of an entity. -/
def entity (x : Datum) : Except Failure String :=
  match x with
  | .text s => .ok s
  | x => .error (badEntity x)

/-- Reads attributes one after the other. -/
def attributesOf : List (Datum × Datum) → Except Failure (List (String × Attribute))
  | [] => .ok []
  | (.text name, value) :: rest => do
    let first ← Attribute.normalize (.text name) value
    return (name, first) :: (← attributesOf rest)
  | (name, _) :: _ => .error (badName name)

/-- The context of an id and attributes with distinct names. -/
def of (entityId : Datum) (attributes : List (Datum × Datum)) : Except Failure Context := do
  let id ← entity entityId
  return ⟨id, .ofList (← attributesOf attributes)⟩

/-- Puts a value under a name; names that count as the same key replace one another. -/
def putPair {α : Type} (name : Datum) (value : α) : List (Datum × α) → List (Datum × α)
  | [] => [(name, value)]
  | (n, v) :: rest =>
    if n.sameKey name then (n, value) :: rest else (n, v) :: putPair name value rest

/-- The pairs in which later values replace earlier ones of the same name. -/
def distinctPairs (pairs : List (Datum × Datum)) : Except Failure (List (Datum × Datum)) :=
  pairs.foldlM (fun all pair =>
    match pair.1.unhashable? with
    | some kind => .error (.unhashable kind)
    | none => .ok (putPair pair.1 pair.2 all)) []

/-- The context of an id and pairs of a name and a value; a later pair wins. -/
def ofPairs (entityId : Datum) (pairs : List (Datum × Datum)) : Except Failure Context := do
  of entityId (← distinctPairs pairs)

def get? (c : Context) (name : String) : Option Attribute := c.attributes.get? name

def has (c : Context) (name : String) : Bool := c.attributes.contains name

/-- The context with `other` on top of it. The other id wins unless it is empty. -/
def merge (c other : Context) : Context :=
  ⟨if other.entityId = "" then c.entityId else other.entityId, c.attributes.union other.attributes⟩

/-- Equality of contexts: the same id, and alike attributes whatever their order. -/
def same (c other : Context) : Bool :=
  c.entityId == other.entityId && c.attributes.size == other.attributes.size &&
    c.attributes.entries.all fun e =>
      match other.get? e.1 with
      | some b => e.2.alike b
      | none => false

/-- A context as loose data. -/
def datum (c : Context) : Datum :=
  .record [("entity_id", .text c.entityId),
    ("attributes", .record (c.attributes.entries.map fun e => (e.1, e.2.datum)))]

end Context

end FeatureFlags
