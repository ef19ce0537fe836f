import FeatureFlags.Evaluation

/-! Engines, which serve decisions from the snapshot that was published last, and the host that they
share: the log, the version tag that goes with its lines, and what listeners have heard. A listener
hears of each decision and may call engines in turn.
-/

namespace FeatureFlags

/-- Someone who hears of decisions. Listeners of one name are the same listener. -/
structure Listener where
  name : String
deriving DecidableEq, Repr

namespace Engine

/-- The place of an engine among those of its host. -/
abbrev Id := Nat

end Engine

/-- What serves decisions. -/
structure Engine where
  snapshot : Option Snapshot
  /-- Whether only snapshots of greater versions are taken. -/
  rejectsStale : Bool
  /-- The successive readings of the engine's clock, if it has one. -/
  clock : Option (Nat → Moment)
  /-- How often the clock has been read. -/
  readings : Nat
  /-- The listeners in the order in which they were added; one may be there several times. -/
  listeners : List Listener

namespace Engine

def empty : Engine := ⟨none, true, none, 0, []⟩

/-- The version of the snapshot that is served. -/
def version (e : Engine) : Option Int := e.snapshot.map Snapshot.version

/-- How much the engine holds. -/
def stats (e : Engine) : Datum :=
  .record [("loaded", .bool e.snapshot.isSome),
    ("version", (e.version.map .int).getD .null),
    ("flags", .int ((e.snapshot.map fun s => s.flags.size).getD 0)),
    ("listeners", .int e.listeners.length)]

end Engine

/-- A line of the log: an event and the version tag at that time. -/
structure LogLine where
  event : Event
  boundVersion : String
deriving DecidableEq, Repr

/-- That a listener heard of a decision, and the version tag at that time. -/
structure Hearing where
  listener : Listener
  decision : Decision
  context : Context
  boundVersion : String

/-- The engines of a process and what they share. -/
structure Host where
  engines : List Engine
  /-- The engine that is shared by all who do not bring their own. -/
  shared : Option Engine.Id
  /-- The version tag of log lines. -/
  boundVersion : String
  /-- How often the present was asked for. -/
  readings : Nat
  log : List LogLine
  heard : List Hearing

namespace Host

def empty : Host := ⟨[], none, "", 0, [], []⟩

def engine (h : Host) (id : Engine.Id) : Engine := h.engines.getD id .empty

def setEngine (h : Host) (id : Engine.Id) (e : Engine) : Host :=
  { h with engines := h.engines.set id e }

/-- Adds an engine. -/
def addEngine (h : Host) (e : Engine) : Engine.Id × Host :=
  (h.engines.length, { h with engines := h.engines ++ [e] })

/-- Writes events into the log. -/
def write (h : Host) (events : List Event) : Host :=
  { h with log := h.log ++ events.map fun e => ⟨e, h.boundVersion⟩ }

/-- The shared engine, which is made when it is asked for first. -/
def sharedEngine (h : Host) : Engine.Id × Host :=
  match h.shared with
  | some id => (id, h)
  | none =>
    let (id, h) := h.addEngine .empty
    (id, { h with shared := some id })

/-- Forgets the shared engine. -/
def resetShared (h : Host) : Host := { h with shared := none }

/-! ### Snapshots -/

def channel : String := "flaps.runtime.engine"

/-- The event that a snapshot was refused because it is not newer. -/
def stale (active offered : Snapshot) : Event :=
  ⟨.warning, channel,
    "engine.stale_snapshot active=" ++ toString active.version ++ " offered=" ++
      toString offered.version⟩

/-- What goes wrong with a snapshot that is not newer. -/
def staleFault (active offered : Snapshot) : Failure :=
  .quoting [.int offered.version, .int active.version]
    (.of .staleSnapshot
      ("snapshot version " ++ toString offered.version ++ " does not advance active version " ++
        toString active.version)
      [("active", .int active.version), ("offered", .int offered.version)])

/-- The event that a snapshot was published. -/
def published (previous : Option Snapshot) (s : Snapshot) : Event :=
  ⟨.info, channel,
    "engine.snapshot_published version=" ++ toString s.version ++ " previous=" ++
      ((previous.map fun p => toString p.version).getD "None") ++ " flags=" ++
      toString s.flags.size ++ " segments=" ++ toString s.segments.size⟩

/-- Publishes a snapshot and answers with the former one. -/
def publish (id : Engine.Id) (offered : Snapshot) (h : Host)
    : Except Failure (Option Snapshot) × Host :=
  let e := h.engine id
  match e.snapshot with
  | some active =>
    if e.rejectsStale && offered.version ≤ active.version then
      (.error (staleFault active offered), h.write [stale active offered])
    else
      (.ok (some active),
        (h.setEngine id { e with snapshot := some offered }).write
          [published (some active) offered])
  | none =>
    (.ok none,
      (h.setEngine id { e with snapshot := some offered }).write [published none offered])

/-- Publishes a snapshot, the first one or a later one, and answers nothing. -/
def load (id : Engine.Id) (offered : Snapshot) (h : Host) : Except Failure Unit × Host :=
  let (r, h) := h.publish id offered
  (r.map fun _ => (), h)

/-! ### Listeners -/

/-- Adds a listener to an engine. -/
def addListener (id : Engine.Id) (l : Listener) (h : Host) : Host :=
  let e := h.engine id
  h.setEngine id { e with listeners := e.listeners ++ [l] }

/-- Removes the first occurrence of a listener; answers whether there was one. -/
def removeListener (id : Engine.Id) (l : Listener) (h : Host) : Bool × Host :=
  let e := h.engine id
  if e.listeners.contains l then
    (true, h.setEngine id { e with listeners := e.listeners.erase l })
  else (false, h)

end Host

end FeatureFlags
