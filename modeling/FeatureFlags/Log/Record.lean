import FeatureFlags.Calendar.Stamp
import FeatureFlags.Log.Scale
import FeatureFlags.Log.Template

/-! Records of a log: what happened, where, when, and the tags that say to which request, environment
and snapshot it belongs.
-/

namespace FeatureFlags.Log

/-- What went wrong when a record was made. -/
inductive Trouble where
  | absent
  /-- It is said that something went wrong, but not what. -/
  | unknown
  /-- A fault of a kind, with the values that came with it. -/
  | raised (kind : String) (values : List Datum)

namespace Trouble

/-- What the values that came with a fault say. -/
def detail (kind : String) : List Datum → String
  | [] => ""
  | [x] => if kind = "KeyError" then x.literal else x.display
  | values => Datum.literal (.tuple values)

/-- The line about a fault, if there is something to be said. -/
def text? : Trouble → Option String
  | absent => none
  | unknown => some "NoneType: None"
  | raised kind values =>
    let detail := detail kind values
    some (if detail.isEmpty then kind else kind ++ ": " ++ detail)

end Trouble

/-- Tags, which say to what a record belongs. -/
structure Tags where
  requestId : Datum
  environment : Datum
  snapshotVersion : Datum

namespace Tags

/-- Tags that are not shown. -/
def blank : Tags := ⟨.text "", .text "", .text ""⟩

/-- The names of the tags, in the order in which they are written. -/
def names : List String := ["request_id", "environment", "snapshot_version"]

def entries (t : Tags) : List (String × Datum) :=
  [("request_id", t.requestId), ("environment", t.environment),
    ("snapshot_version", t.snapshotVersion)]

/-- The tags after some of them were given values. -/
def update (t : Tags) (values : List (String × Datum)) : Tags :=
  ⟨(values.lookup "request_id").getD t.requestId,
    (values.lookup "environment").getD t.environment,
    (values.lookup "snapshot_version").getD t.snapshotVersion⟩

end Tags

/-- A record of a log. -/
structure Record where
  time : Moment
  level : Int
  levelName : String
  /-- The channel on which the record came. -/
  channel : String
  message : Datum
  /-- The values for the slots of the message. -/
  values : List Datum
  /-- Further values by name, tags among them. -/
  attributes : List (String × Datum)
  trouble : Trouble

namespace Record

/-- The value of an attribute; one that is missing is an empty text. -/
def valueOf (r : Record) (name : String) : Datum := (r.attributes.lookup name).getD (.text "")

/-- The same record with tags. -/
def tagged (t : Tags) (r : Record) : Record :=
  { r with attributes := t.entries ++ r.attributes.filter fun e => !Tags.names.contains e.1 }

/-- The message with its slots filled. Without values it is taken as it is; a single table that is
not empty gives its values by name. -/
def text (r : Record) : Except Failure String :=
  match r.values with
  | [] => .ok r.message.display
  | [.record (e :: rest)] => fillByName r.message.display (e :: rest)
  | values => fillInTurn r.message.display values

/-- The thousandths of a second of the time of a record. -/
def milliseconds (r : Record) : Nat := r.time.time.micro / 1000

def defaultPattern : String := "%Y-%m-%d %H:%M:%S"

/-- The time of a record after a pattern; without one the thousandths are shown as well. -/
def stamp (r : Record) (pattern : Option String) : String :=
  match pattern.filter fun p => !p.isEmpty with
  | some p => String.ofList (r.time.stamp p.toList)
  | none =>
    String.ofList (r.time.stamp defaultPattern.toList) ++ "," ++ padded 3 r.milliseconds

end Record

end FeatureFlags.Log
