import FeatureFlags.Datum.Literal

/-! Tables under construction. Keys with dots and headers reach into tables within tables. What a
header or an inline value has defined is closed: it can be neither declared again nor changed.
-/

namespace FeatureFlags.Toml

/-- The names on the way to a table or value. -/
abbrev Key := List String

/-- The entries of a table. -/
abbrev Entries := List (String × Datum)

/-- A change of a table, or what is wrong with it. -/
abbrev Change := Entries → Except String Entries

def Key.literal (key : Key) : String := Datum.literal (.tuple (key.map .text))

def taken : String := "Cannot overwrite a value"

/-- Changes the table behind a key; missing tables on the way are made. Of an array of tables the
last one is meant, unless `arrays` is false. -/
def changeAt (arrays : Bool) (change : Change) : Key → Change
  | [], entries => change entries
  | name :: rest, entries =>
    match entries.lookup name with
    | none => do
      return Datum.putEntry name (.record (← changeAt arrays change rest [])) entries
    | some (.record inner) => do
      return Datum.putEntry name (.record (← changeAt arrays change rest inner)) entries
    | some (.list items) =>
      if arrays then
        match items.getLast? with
        | some (.record inner) => do
          let last := Datum.record (← changeAt arrays change rest inner)
          return Datum.putEntry name (.list (items.dropLast ++ [last])) entries
        | _ => .error taken
      else .error taken
    | some _ => .error taken

/-- Gives a name that is still free a value. -/
def define (name : String) (value : Datum) (complaint : String) : Change := fun entries =>
  if (entries.lookup name).isSome then .error complaint else .ok (entries ++ [(name, value)])

/-- Adds an empty table to an array of tables, which may be new. -/
def extend (name : String) : Change := fun entries =>
  match entries.lookup name with
  | none => .ok (entries ++ [(name, .list [.record []])])
  | some (.list items) => .ok (Datum.putEntry name (.list (items ++ [.record []])) entries)
  | some _ => .error taken

/-- The way to the table in which the last name of a key stands. -/
def Key.way (key : Key) : Key := key.dropLast

/-- The last name of a key. -/
def Key.name (key : Key) : String := key.getLast?.getD ""

/-- What has been read of a text. -/
structure Draft where
  entries : Entries
  /-- The key of the last header. -/
  header : Key
  /-- Tables that a header or a key with dots has made. -/
  declared : List Key
  /-- Tables that keys with dots make and that are closed from the next header on. -/
  pending : List Key
  /-- Inline arrays and tables, of which nothing can be changed. -/
  frozen : List Key

namespace Draft

def empty : Draft := ⟨[], [], [], [], []⟩

/-- Whether a key lies within an inline value. -/
def isFrozen (d : Draft) (key : Key) : Bool := d.frozen.any fun k => k.isPrefixOf key

/-- Closes the tables that keys with dots have made. -/
def settle (d : Draft) : Draft := { d with declared := d.declared ++ d.pending, pending := [] }

def immutable (key : Key) : String := "Cannot mutate immutable namespace " ++ key.literal

/-- Goes on with the table of a header. -/
def openTable (d : Draft) (key : Key) : Except String Draft :=
  let d := d.settle
  if d.declared.contains key || d.isFrozen key then
    .error ("Cannot declare " ++ key.literal ++ " twice")
  else do
    let entries ← changeAt true .ok key d.entries
    return { d with entries, header := key, declared := key :: d.declared }

/-- Goes on with a new table of an array of tables. Keys within the former ones are free again. -/
def openArray (d : Draft) (key : Key) : Except String Draft :=
  let d := d.settle
  if d.isFrozen key then .error (immutable key)
  else do
    let entries ← changeAt true (extend key.name) key.way d.entries
    return { d with
      entries
      header := key
      declared := key :: d.declared.filter (fun k => !key.isPrefixOf k)
      frozen := d.frozen.filter fun k => !key.isPrefixOf k }

/-- The tables on the way from a header to the last name of a key. -/
def between (header key : Key) : List Key :=
  (List.range (key.length - 1)).map fun i => header ++ key.take (i + 1)

/-- Whether a value is an array or a table. -/
def isNest : Datum → Bool
  | .record _ | .list _ => true
  | _ => false

/-- Gives a key in the table of the last header a value. -/
def assign (d : Draft) (key : Key) (value : Datum) : Except String Draft :=
  let passed := between d.header key
  -- Keys with dots do not reach into tables that have a header of their own.
  match passed.find? d.declared.contains with
  | some other => .error ("Cannot redefine namespace " ++ Key.literal other)
  | none =>
    let way := d.header ++ key.way
    if d.isFrozen way then .error (immutable way)
    else do
      let entries ← changeAt true (define key.name value taken) way d.entries
      return { d with
        entries
        pending := d.pending ++ passed
        frozen := if isNest value then (d.header ++ key) :: d.frozen else d.frozen }

end Draft

end FeatureFlags.Toml
