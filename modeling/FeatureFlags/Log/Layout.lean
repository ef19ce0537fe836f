import FeatureFlags.Json.Writer
import FeatureFlags.Log.Record
import FeatureFlags.Pattern.Match
import FeatureFlags.Pattern.Reader

/-! How records are written: for machines as JSON objects, and for people after a template with the
tags behind it. Tags without a value are left out.
-/

namespace FeatureFlags.Log

/-- How the lines of a log look. -/
inductive Layout where
  /-- Objects, with times after a pattern. -/
  | json (clock : Option String)
  /-- A template, with times after a pattern. -/
  | human (template : String) (clock : Option String)
deriving DecidableEq, Repr

namespace Layout

/-- What is written about a record for machines. -/
def fields (clock : Option String) (r : Record) : Except Failure (List (String × Datum)) := do
  let message ← r.text
  let tags := (Tags.names.map fun name => (name, r.valueOf name)).filter fun e => e.2.isTrue
  let trouble : List (String × Datum) :=
    match r.trouble with
    | .raised _ _ => (r.trouble.text?.map fun s => ("exception", .text s)).toList
    | _ => []
  return [("ts", .text (r.stamp clock)), ("level", .text r.levelName),
    ("logger", .text r.channel), ("msg", .text message)] ++ tags ++ trouble

/-! ### Lines for people -/

/-- The template of lines that hold nothing but the message. -/
def bareTemplate : String := "%(message)s"

/-- What a template needs to have somewhere: a slot with a name. -/
def slotPattern : String :=
  "%\\(\\w+\\)[#0+ -]*(\\*|\\d+)?(\\.(\\*|\\d+))?[diouxefgcrsaDIOUXEFGCRSA%]"

/-- Whether a template has a slot with a name. -/
def hasSlot (template : String) : Bool :=
  match Pattern.read slotPattern with
  | .ok pattern => pattern.occursIn template
  | .error _ => false

/-- The layout after a template; without one only the message is shown. -/
def ofTemplate (template clock : Option String) : Except Failure Layout :=
  match template.filter fun t => !t.isEmpty with
  | none => .ok (.human bareTemplate clock)
  | some t =>
    if hasSlot t then .ok (.human t clock)
    else .error (.wrongValue ("Invalid format '" ++ t ++ "' for '%' style"))

/-- Whether a template shows the time. -/
def showsTime (template : String) : Bool := ((template.splitOn "%(asctime)").length) ≠ 1

/-- The values for the slots of a template. -/
def slotValues (template : String) (clock : Option String) (message : String) (r : Record)
    : List (String × Datum) :=
  (if showsTime template then [("asctime", .text (r.stamp clock))] else []) ++
    [("message", .text message)] ++ r.attributes ++
    [("name", .text r.channel), ("levelname", .text r.levelName), ("levelno", .int r.level),
      ("msg", r.message), ("args", .tuple r.values),
      ("created", .double (.ofRatio (r.time.instant < 0) r.time.instant.natAbs 1000000)),
      ("msecs", .double (.ofRatio false r.milliseconds 1))]

/-- The start of a request's name. -/
def requestHead : Datum → Except Failure Datum
  | .text s => .ok (.text (String.ofList (s.toList.take 12)))
  | .list l => .ok (.list (l.take 12))
  | .tuple l => .ok (.tuple (l.take 12))
  | .record _ => .error (.unhashable "slice")
  | x => .error (.wrongKind ("'" ++ x.fullKindName ++ "' object is not subscriptable"))

/-- A tag with its short name, unless it has no value. -/
def shortTag (name : String) (x : Datum) : List String :=
  if x.isTrue then [name ++ "=" ++ x.display] else []

/-- The tags behind a line. -/
def shortTags (r : Record) : Except Failure (List String) := do
  let request := r.valueOf "request_id"
  let head ← if request.isTrue then (requestHead request).map fun x => ["req=" ++ x.display]
    else .ok []
  return shortTag "env" (r.valueOf "environment") ++
    shortTag "v" (r.valueOf "snapshot_version") ++ head

/-- The line after a template, without tags. -/
def bareLine (template : String) (clock : Option String) (r : Record)
    : Except Failure String := do
  let message ← r.text
  let line ←
    match fillByName template (slotValues template clock message r) with
    | .error (.unknownName name) =>
      .error (.wrongValue ("Formatting field not found in record: " ++ Quoted.quote name))
    | line => line
  match r.trouble.text? with
  | none => return line
  | some trouble => return (if line.endsWith "\n" then line else line ++ "\n") ++ trouble

/-- The line about a record. -/
def line (layout : Layout) (r : Record) : Except Failure String :=
  match layout with
  | json clock => do Json.write Json.compact (.record (← fields clock r))
  | human template clock => do
    let tags ← shortTags r
    let line ← bareLine template clock r
    return if tags.isEmpty then line else line ++ " [" ++ " ".intercalate tags ++ "]"

end Layout

end FeatureFlags.Log
