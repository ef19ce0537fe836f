import FeatureFlags.Proofs.Engine.Decisions

/-! Traces of calls: what each call leaves behind, followed by what the calls leave that listeners
make in turn, in the order in which all that happens. A relation between hosts and such traces that
composes, and that holds of single calls, holds of all calls, whatever listeners do.
-/

namespace FeatureFlags

variable {α : Type}

/-- Lists what calls leave behind. -/
abbrev Tracer (α : Type) := Call → Host → List α

-----------------------------------------------------------------------------------------
-- The traces of calls
-----------------------------------------------------------------------------------------

/-- The trace of a reaction is that of its calls, one after the other. -/
def Reaction.trace (perform : Performer) (tracer : Tracer α) : Reaction → Host → List α
  | done, _ => []
  | failed, _ => []
  | call c next, h => tracer c h ++ (next (perform c h).1).trace perform tracer (perform c h).2
  | review next, h => (next h.heard).trace perform tracer h

namespace Host

section

variable (s : Surroundings) (perform : Performer) (tracer : Tracer α)

def tellTrace (d : Decision) (context : Context) (l : Listener) (h : Host) : List α :=
  (s.react l d context).trace perform tracer (h.hear l d context)

def notifyTrace (d : Decision) (context : Context) : List Listener → Host → List α
  | [], _ => []
  | l :: rest, h =>
    h.tellTrace s perform tracer d context l
      ++ notifyTrace d context rest (h.tell s perform d context l)

/-- The trace of a decision is that of the listeners who hear of it. -/
def decideTrace (id : Engine.Id) (snapshot : Option Snapshot) (flagKey environment : String)
    (context : Context) (fallback : Datum) (now : Option Moment) (h : Host) : List α :=
  match (h.evaluation s snapshot flagKey environment context fallback now).result with
  | .error _ => []
  | .ok d =>
    (h.deciding s snapshot flagKey environment context fallback now).notifyTrace s perform tracer d
      context (h.engine id).listeners

def evaluateFlagTrace (id : Engine.Id) (flagKey environment : String) (context : Context)
    (fallback : Datum) (now : Option Moment) (h : Host) : List α :=
  let snapshot := (h.engine id).snapshot
  let (now, h) := h.clockMoment id now
  h.decideTrace s perform tracer id snapshot flagKey environment context fallback now

def decideAllTrace (id : Engine.Id) (snapshot : Snapshot) (environment : String)
    (context : Context) (now : Option Moment) : List String → Host → List α
  | [], _ => []
  | key :: rest, h =>
    h.decideTrace s perform tracer id (some snapshot) key environment context (.bool false) now
      ++ match h.decide s perform id (some snapshot) key environment context (.bool false) now with
        | (.error _, _) => []
        | (.ok _, h) => decideAllTrace id snapshot environment context now rest h

def evaluateAllTrace (id : Engine.Id) (environment : String) (context : Context)
    (now : Option Moment) (h : Host) : List α :=
  match (h.engine id).snapshot with
  | none => []
  | some snapshot =>
    let (now, h) := h.clockMoment id now
    h.decideAllTrace s perform tracer id snapshot environment context now
      (snapshot.flagKeysIn environment)

end

/-- The trace of a call whose listeners may nest calls so deeply: what it leaves by itself, and then
what its listeners leave.
-/
def trace (s : Surroundings) (own : Tracer α) : Nat → Tracer α
  | 0, _, _ => []
  | depth + 1, call, h =>
    let perform := Host.perform s depth
    let tracer := trace s own depth
    own call h ++ match call with
    | .evaluate id flagKey environment context fallback now =>
      h.evaluateFlagTrace s perform tracer id flagKey environment context fallback now
    | .evaluateAll id environment context now =>
      h.evaluateAllTrace s perform tracer id environment context now
    | .value _ id flagKey environment context fallback =>
      h.evaluateFlagTrace s perform tracer id flagKey environment context fallback none
    | .isEnabled id flagKey environment context =>
      h.evaluateFlagTrace s perform tracer id flagKey environment context (.bool false) none
    | .load _ _ | .publish _ _ | .addListener _ _ | .removeListener _ _ => []

-----------------------------------------------------------------------------------------
-- Runs
-----------------------------------------------------------------------------------------

/-- Carries out calls from outside, one after the other. -/
def run (s : Surroundings) : List Call → Host → List Outcome × Host
  | [], h => ([], h)
  | c :: rest, h =>
    let (o, h) := h.handle s c
    let (others, h) := run s rest h
    (o :: others, h)

/-- The trace of a run. -/
def runTrace (s : Surroundings) (own : Tracer α) : List Call → Host → List α
  | [], _ => []
  | c :: rest, h => trace s own (s.depth + 1) c h ++ runTrace s own rest (h.handle s c).2

section

variable (s : Surroundings) (own : Tracer α) (calls later : List Call) (h : Host)

theorem run_append
    : h.run s (calls ++ later)
      = ((h.run s calls).1 ++ ((h.run s calls).2.run s later).1,
        ((h.run s calls).2.run s later).2) := by
  induction calls generalizing h with
  | nil => rfl
  | cons c rest ih => simp only [List.cons_append, run, ih]

theorem runTrace_append
    : h.runTrace s own (calls ++ later)
      = h.runTrace s own calls ++ (h.run s calls).2.runTrace s own later := by
  induction calls generalizing h with
  | nil => rfl
  | cons c rest ih => simp only [List.cons_append, runTrace, run, ih, List.append_assoc]

/-- A call that leaves a single item leaves it at its place in the trace of the run. -/
theorem runTrace_split {c : Call} {a : α}
    (single : trace s own (s.depth + 1) c (h.run s calls).2 = [a])
    : h.runTrace s own (calls ++ c :: later)
      = h.runTrace s own calls
        ++ a :: ((h.run s calls).2.handle s c).2.runTrace s own later := by
  rw [runTrace_append, runTrace, single]
  rfl

theorem length_run : (h.run s calls).1.length = calls.length := by
  induction calls generalizing h with
  | nil => rfl
  | cons c rest ih => simp only [run, List.length_cons, ih]

theorem getElem?_run (c : Call)
    : (h.run s (calls ++ c :: later)).1[calls.length]?
      = some (((h.run s calls).2.handle s c).1) := by
  rw [run_append, List.getElem?_append_right (Nat.le_of_eq (length_run s calls h)), length_run,
    Nat.sub_self]
  rfl

end

/-- The host in which a sweep begins: its clock has been read if there is something to decide. -/
def sweepStart (id : Engine.Id) (now : Option Moment) (h : Host) : Host :=
  match (h.engine id).snapshot with
  | none => h
  | some _ => (h.clockMoment id now).2

theorem alike_sweepStart (id : Engine.Id) (now : Option Moment) (h : Host)
    : h.Alike (h.sweepStart id now) := by
  unfold sweepStart
  cases (h.engine id).snapshot with
  | none => exact alike_of_engines rfl
  | some snapshot => exact alike_clockMoment id now h

-----------------------------------------------------------------------------------------
-- Relations that follow calls
-----------------------------------------------------------------------------------------

/-- The relation holds where nothing happens, and of what happens one after the other. -/
structure Composes (R : Host → List α → Host → Prop) : Prop where
  refl : ∀ h : Host, R h [] h
  append
    : ∀ {h h₁ h₂ : Host} {l more : List α}, R h l h₁ → R h₁ more h₂ → R h (l ++ more) h₂

/-- The relation is about engines, and not about what a host remembers besides, except for how often
it asked for the present.
-/
structure AboutEngines (R : Host → List α → Host → Prop) : Prop extends Composes R where
  quiet : ∀ {h h' : Host}, Quiet h h' → R h [] h'

/-- The relation holds whenever calls are carried out. -/
def Follows (R : Host → List α → Host → Prop) (perform : Performer) (tracer : Tracer α) : Prop :=
  ∀ c h, R h (tracer c h) (perform c h).2

section

variable {R : Host → List α → Host → Prop} {h h₁ h₂ : Host} {l : List α}

theorem AboutEngines.before (about : AboutEngines R) (quiet : Quiet h h₁) (rest : R h₁ l h₂)
    : R h l h₂ :=
  about.append (about.quiet quiet) rest

theorem AboutEngines.then (about : AboutEngines R) (first : R h l h₁) (quiet : Quiet h₁ h₂)
    : R h l h₂ := by
  have whole := about.append first (about.quiet quiet)
  rwa [List.append_nil] at whole

end

section

variable {R : Host → List α → Host → Prop} {s : Surroundings} {perform : Performer}
  {tracer : Tracer α}

/-- A reaction makes its calls one after the other, by induction over them. -/
theorem follows_reaction (composes : Composes R) (follows : Follows R perform tracer)
    (reaction : Reaction) (h : Host)
    : R h (reaction.trace perform tracer h) (reaction.run perform h).2 := by
  induction reaction generalizing h with
  | done => exact composes.refl h
  | failed => exact composes.refl h
  | call c next ih => exact composes.append (follows c h) (ih _ _)
  | review next ih => exact ih _ h

variable (about : AboutEngines R) (follows : Follows R perform tracer)

include about follows

theorem follows_tell (d : Decision) (context : Context) (l : Listener) (h : Host)
    : R h (h.tellTrace s perform tracer d context l) (h.tell s perform d context l) := by
  have hearing : Quiet h (h.hear l d context) := quiet_of_same rfl rfl
  have reacting := about.before hearing
    (follows_reaction about.toComposes follows (s.react l d context) (h.hear l d context))
  unfold tell tellTrace
  refine about.then reacting ?_
  dsimp only
  split <;> exact quiet_of_same rfl rfl

/-- Listeners are told one after the other, by list induction. -/
theorem follows_notify (d : Decision) (context : Context) (listeners : List Listener) (h : Host)
    : R h (h.notifyTrace s perform tracer d context listeners)
        (h.notify s perform d context listeners) := by
  induction listeners generalizing h with
  | nil => exact about.refl h
  | cons l rest ih =>
      exact about.append (follows_tell about follows d context l h) (ih _)

/-- A decision itself leaves the engines alone; only those who hear of it may change them. -/
theorem follows_decide (id : Engine.Id) (snapshot : Option Snapshot) (flagKey environment : String)
    (context : Context) (fallback : Datum) (now : Option Moment) (h : Host)
    : R h
        (h.decideTrace s perform tracer id snapshot flagKey environment context fallback now)
        (h.decide s perform id snapshot flagKey environment context fallback now).2 := by
  have reaching := quiet_deciding s snapshot flagKey environment context fallback now h
  rw [decide_eq]
  unfold decideTrace
  dsimp only
  cases (h.evaluation s snapshot flagKey environment context fallback now).result with
  | error e => exact about.then (about.quiet reaching) (quiet_of_same rfl rfl)
  | ok d =>
      have telling := follows_notify about follows (s := s) d context (h.engine id).listeners
        (h.deciding s snapshot flagKey environment context fallback now)
      exact about.then (about.before reaching telling) (quiet_of_same rfl rfl)

/-- What follows once the clock has been read. -/
theorem follows_evaluateFlag (id : Engine.Id) (flagKey environment : String) (context : Context)
    (fallback : Datum) (now : Option Moment) (h : Host)
    : R (h.clockMoment id now).2
        (h.evaluateFlagTrace s perform tracer id flagKey environment context fallback now)
        (h.evaluateFlag s perform id flagKey environment context fallback now).2 :=
  follows_decide about follows id _ flagKey environment context fallback _ _

/-- Decisions are made one after the other until one fails, by induction over the keys. -/
theorem follows_decideAll (id : Engine.Id) (snapshot : Snapshot) (environment : String)
    (context : Context) (now : Option Moment) (keys : List String) (h : Host)
    : R h
        (h.decideAllTrace s perform tracer id snapshot environment context now keys)
        (h.decideAll s perform id snapshot environment context now keys).2 := by
  induction keys generalizing h with
  | nil => exact about.refl h
  | cons key rest ih =>
      have first := follows_decide (s := s) about follows id (some snapshot) key environment
        context (.bool false) now h
      unfold decideAll decideAllTrace
      generalize h.decide s perform id (some snapshot) key environment context (.bool false) now
        = decision at first ⊢
      obtain ⟨outcome, reached⟩ := decision
      refine about.append first ?_
      cases outcome with
      | error e => exact about.refl reached
      | ok d =>
          have later := ih reached
          dsimp only
          generalize reached.decideAll s perform id snapshot environment context now rest
            = decisions at later ⊢
          obtain ⟨outcome, last⟩ := decisions
          cases outcome with
          | error e => exact later
          | ok others => exact later

theorem follows_evaluateAll (id : Engine.Id) (environment : String) (context : Context)
    (now : Option Moment) (h : Host)
    : R (h.sweepStart id now)
        (h.evaluateAllTrace s perform tracer id environment context now)
        (h.evaluateAll s perform id environment context now).2 := by
  unfold sweepStart evaluateAll evaluateAllTrace
  cases (h.engine id).snapshot with
  | none => exact about.refl h
  | some snapshot => exact follows_decideAll about follows id snapshot environment context _ _ _

theorem follows_valueOfKind (kind : Flag.Kind) (id : Engine.Id) (flagKey environment : String)
    (context : Context) (fallback : Datum) (h : Host)
    : R (h.clockMoment id none).2
        (h.evaluateFlagTrace s perform tracer id flagKey environment context fallback none)
        (h.valueOfKind s perform kind id flagKey environment context fallback).2 := by
  have evaluating := follows_evaluateFlag (s := s) about follows id flagKey environment context
    fallback none h
  unfold valueOfKind
  generalize h.evaluateFlag s perform id flagKey environment context fallback none = evaluation
    at evaluating ⊢
  obtain ⟨outcome, reached⟩ := evaluation
  cases outcome with
  | error e => exact evaluating
  | ok d =>
      refine about.then evaluating ?_
      dsimp only
      split <;> exact quiet_of_same rfl rfl

end

end Host

/-- What a call does by itself, without those who hear of decisions. -/
def Call.alone : Call → Host → Host
  | .evaluate id _ _ _ _ now, h => (h.clockMoment id now).2
  | .evaluateAll id _ _ now, h => h.sweepStart id now
  | .value _ id _ _ _ _, h | .isEnabled id _ _ _, h => (h.clockMoment id none).2
  | .load id snapshot, h => (h.load id snapshot).2
  | .publish id snapshot, h => (h.publish id snapshot).2
  | .addListener id l, h => h.addListener id l
  | .removeListener id l, h => (h.removeListener id l).2

namespace Host

section

variable {R : Host → List α → Host → Prop} {own : Tracer α} (about : AboutEngines R)
  (single : ∀ c h, R h (own c h) (c.alone h))

include about single

/-- A relation that holds of what single calls do holds of all calls, however deeply they are nested;
by induction over the depth, one case for each kind of call.
-/
theorem follows_perform (s : Surroundings) (depth : Nat)
    : Follows R (perform s depth) (trace s own depth) := by
  induction depth with
  | zero => exact fun c h => about.refl h
  | succ depth ih =>
      intro c h
      refine about.append (single c h) ?_
      cases c with
      | evaluate id flagKey environment context fallback now =>
          exact follows_evaluateFlag about ih id flagKey environment context fallback now h
      | evaluateAll id environment context now =>
          exact follows_evaluateAll about ih id environment context now h
      | value kind id flagKey environment context fallback =>
          exact follows_valueOfKind about ih kind id flagKey environment context fallback h
      | isEnabled id flagKey environment context =>
          exact follows_evaluateFlag about ih id flagKey environment context (.bool false) none h
      | load id snapshot => exact about.refl _
      | publish id snapshot => exact about.refl _
      | addListener id l => exact about.refl _
      | removeListener id l => exact about.refl _

/-- A relation that holds of what single calls do holds of whole runs, by induction over the calls. -/
theorem follows_run (s : Surroundings) (calls : List Call) (h : Host)
    : R h (h.runTrace s own calls) (h.run s calls).2 := by
  induction calls generalizing h with
  | nil => exact about.refl h
  | cons c rest ih =>
      exact about.append (follows_perform about single s (s.depth + 1) c h) (ih _)

end

end Host

end FeatureFlags
