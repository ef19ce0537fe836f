import FeatureFlags.Proofs.Engine.Traces

/-! Who hears of decisions. The listeners of an engine are those whom additions and removals leave,
those included that listeners make while they hear of a decision. A decision is told to the listeners
of the time when it was reached, once for each entry and in their order.
-/

namespace FeatureFlags

-----------------------------------------------------------------------------------------
-- Additions and removals
-----------------------------------------------------------------------------------------

/-- What happens to the listeners of an engine: one is added, or one is to be removed, who may or may
not be found.
-/
inductive Registration where
  | added (listener : Listener)
  | removed (listener : Listener) (found : Bool)
deriving DecidableEq

namespace Registration

/-- The registrations lead from the first listeners to the last ones. Additions go to the end; of
several entries of one listener the first is removed.
-/
inductive Leads : List Listener → List Registration → List Listener → Prop
  | none {listeners} : Leads listeners [] listeners
  | added {listeners l rest last} (later : Leads (listeners ++ [l]) rest last)
    : Leads listeners (.added l :: rest) last
  | removed {listeners l rest last} (later : Leads (listeners.erase l) rest last)
    : Leads listeners (.removed l (listeners.contains l) :: rest) last

/-- How many entries a listener has: those of the beginning, and its additions less its successful
removals.
-/
def entries (initial : List Listener) (registrations : List Registration) (l : Listener) : Int :=
  initial.count l + registrations.count (.added l) - registrations.count (.removed l true)

variable {first middle last : List Listener} {registrations later : List Registration}

theorem Leads.append (leads : Leads first registrations middle) (further : Leads middle later last)
    : Leads first (registrations ++ later) last := by
  induction leads with
  | none => exact further
  | added _ ih => exact .added (ih further)
  | removed _ ih => exact .removed (ih further)

/-- Up to any point in between the earlier registrations lead, by induction over them. -/
theorem Leads.split (leads : Leads first (registrations ++ later) last)
    : ∃ middle, Leads first registrations middle ∧ Leads middle later last := by
  induction registrations generalizing first with
  | nil => exact ⟨first, .none, leads⟩
  | cons r rest ih =>
      cases leads with
      | added further =>
          obtain ⟨middle, reached, remaining⟩ := ih further
          exact ⟨middle, .added reached, remaining⟩
      | removed further =>
          obtain ⟨middle, reached, remaining⟩ := ih further
          exact ⟨middle, .removed reached, remaining⟩

theorem count_erase_of_contains (listeners : List Listener) (l x : Listener)
    : ((listeners.erase l).count x : Int)
      = listeners.count x - if l = x ∧ listeners.contains l = true then 1 else 0 := by
  by_cases same : l = x
  · subst same
    by_cases found : l ∈ listeners
    · have positive := List.count_pos_iff.mpr found
      rw [List.count_erase_self, if_pos ⟨rfl, List.contains_iff_mem.mpr found⟩]
      omega
    · rw [List.erase_of_not_mem found, if_neg (by simpa using found), Int.sub_zero]
  · rw [List.count_erase_of_ne (Ne.symm same), if_neg (by tauto), Int.sub_zero]

/-- The number of entries follows from the registrations, by induction over them. -/
theorem Leads.count (leads : Leads first registrations last) (x : Listener)
    : (last.count x : Int) = entries first registrations x := by
  unfold entries
  induction leads with
  | none => simp
  | @added listeners l rest last _ ih =>
      rw [ih, List.count_append, List.count_singleton, List.count_cons, List.count_cons]
      by_cases same : l = x <;> simp [same]
      omega
  | @removed listeners l rest last _ ih =>
      rw [ih, count_erase_of_contains, List.count_cons, List.count_cons]
      by_cases same : l = x <;> cases found : listeners.contains l <;> simp [same]
      omega

/-- A removal finds the listener if and only if it has an entry at that time. -/
theorem Leads.found_iff {l : Listener} {found : Bool}
    (leads : Leads first (registrations ++ .removed l found :: later) last)
    : found = true ↔ 0 < entries first registrations l := by
  obtain ⟨middle, reached, remaining⟩ := leads.split
  cases remaining
  rw [← reached.count, List.contains_iff_mem, ← List.count_pos_iff, Int.natCast_pos]

/-- What a call by itself does to the listeners of one engine. -/
def madeTo (target : Engine.Id) : Tracer Registration
  | .addListener id l, _ => if id = target then [.added l] else []
  | .removeListener id l, h => if id = target then [.removed l (h.removeListener id l).1] else []
  | _, _ => []

end Registration

namespace Host

/-- The additions to the listeners of one engine and the removals from them during a run. -/
def runRegistrations (s : Surroundings) (target : Engine.Id) : List Call → Host → List Registration :=
  runTrace s (Registration.madeTo target)

/-- The engine is still there, and these registrations have led to its listeners. -/
structure Enrolled (id : Engine.Id) (h : Host) (registrations : List Registration) (h' : Host)
    : Prop where
  count : h'.engines.length = h.engines.length
  leads
    : id < h.engines.length
      → Registration.Leads (h.engine id).listeners registrations (h'.engine id).listeners

section

variable {id other : Engine.Id} {h h' : Host}

/-- Nothing has happened to the listeners of the engine. -/
theorem Enrolled.of_same (count : h'.engines.length = h.engines.length)
    (listeners : (h'.engine id).listeners = (h.engine id).listeners)
    : Enrolled id h [] h' :=
  ⟨count, fun _ => listeners ▸ .none⟩

theorem Alike.enrolled (alike : h.Alike h') (id : Engine.Id) : Enrolled id h [] h' := by
  obtain ⟨readings, same⟩ := alike.engines id
  exact .of_same alike.count (by rw [same])

theorem aboutEngines_enrolled (id : Engine.Id) : AboutEngines (Enrolled id) where
  refl _ := .of_same rfl rfl
  append first second :=
    ⟨second.count.trans first.count,
      fun there => (first.leads there).append (second.leads (first.count ▸ there))⟩
  quiet quiet := (alike_of_engines quiet.engines).enrolled id

theorem enrolled_publish (id other : Engine.Id) (snapshot : Snapshot) (h : Host)
    : Enrolled id h [] (h.publish other snapshot).2 :=
  .of_same (length_publish h other snapshot)
    (apply_engine_publish Engine.listeners (fun _ _ => rfl) other id snapshot h)

theorem enrolled_addListener (id other : Engine.Id) (l : Listener) (h : Host)
    : Enrolled id h (if other = id then [.added l] else []) (h.addListener other l) := by
  by_cases same : other = id
  · subst same
    rw [if_pos rfl]
    refine ⟨length_setEngine h other _, fun there => .added ?_⟩
    rw [addListener, engine_setEngine there]
    exact .none
  · rw [if_neg same]
    refine .of_same (length_setEngine h other _) ?_
    rw [addListener, engine_setEngine_of_ne same]

theorem enrolled_removeListener (id other : Engine.Id) (l : Listener) (h : Host)
    : Enrolled id h (if other = id then [.removed l (h.removeListener other l).1] else [])
        (h.removeListener other l).2 := by
  unfold removeListener
  by_cases same : other = id
  · subst same
    rw [if_pos rfl]
    dsimp only
    cases found : (h.engine other).listeners.contains l with
    | true =>
        refine ⟨length_setEngine h other _, fun there => ?_⟩
        rw [if_pos rfl, engine_setEngine there, ← found]
        exact .removed .none
    | false =>
        have absent : l ∉ (h.engine other).listeners := by simpa using found
        refine ⟨rfl, fun there => ?_⟩
        rw [if_neg Bool.false_ne_true, ← found]
        refine .removed ?_
        rw [List.erase_of_not_mem absent]
        exact .none
  · rw [if_neg same]
    dsimp only
    split
    · exact .of_same (length_setEngine h other _) (by rw [engine_setEngine_of_ne same])
    · exact .of_same rfl rfl

/-- Nothing but its registration happens to the listeners by a single call, by cases on the call. -/
theorem enrolled_alone (id : Engine.Id) (c : Call) (h : Host)
    : Enrolled id h (Registration.madeTo id c h) (c.alone h) := by
  cases c with
  | load other snapshot => exact enrolled_publish id other snapshot h
  | publish other snapshot => exact enrolled_publish id other snapshot h
  | addListener other l => exact enrolled_addListener id other l h
  | removeListener other l => exact enrolled_removeListener id other l h
  | evaluate other _ _ _ _ now => exact (alike_clockMoment other now h).enrolled id
  | evaluateAll other _ _ now => exact (alike_sweepStart other now h).enrolled id
  | value _ other => exact (alike_clockMoment other none h).enrolled id
  | isEnabled other => exact (alike_clockMoment other none h).enrolled id

/-- Nothing but its registrations happens to the listeners during a run. -/
theorem enrolled_run (s : Surroundings) (id : Engine.Id) (calls : List Call) (h : Host)
    : Enrolled id h (h.runRegistrations s id calls) (h.run s calls).2 :=
  follows_run (aboutEngines_enrolled id) (enrolled_alone id) s calls h

end

end Host

-----------------------------------------------------------------------------------------
-- Listeners who ask for no decisions
-----------------------------------------------------------------------------------------

/-- The call asks for no decision. -/
def Call.Quiet : Call → Prop
  | .load .. | .publish .. | .addListener .. | .removeListener .. => True
  | .evaluate .. | .evaluateAll .. | .value .. | .isEnabled .. => False

/-- No call asks for a decision, whatever the calls before it are answered. -/
def Reaction.Quiet : Reaction → Prop
  | done | failed => True
  | call c next => c.Quiet ∧ ∀ outcome, (next outcome).Quiet
  | review next => ∀ heard, (next heard).Quiet

namespace Host

section

variable {s : Surroundings} {depth : Nat}

theorem unheard_perform {c : Call} (quiet : c.Quiet) (h : Host)
    : Unheard h (perform s depth c h).2 := by
  cases depth with
  | zero => exact ⟨rfl, rfl⟩
  | succ depth =>
      cases c with
      | load id snapshot => exact unheard_publish id snapshot h
      | publish id snapshot => exact unheard_publish id snapshot h
      | addListener id l => exact ⟨rfl, rfl⟩
      | removeListener id l => exact unheard_removeListener id l h
      | evaluate => exact quiet.elim
      | evaluateAll => exact quiet.elim
      | value => exact quiet.elim
      | isEnabled => exact quiet.elim

/-- By induction over the calls of the reaction. -/
theorem unheard_reaction {reaction : Reaction} (quiet : reaction.Quiet) (h : Host)
    : Unheard h (reaction.run (perform s depth) h).2 := by
  induction reaction generalizing h with
  | done => exact ⟨rfl, rfl⟩
  | failed => exact ⟨rfl, rfl⟩
  | call c next ih => exact (unheard_perform quiet.1 h).trans (ih _ (quiet.2 _) _)
  | review next ih => exact ih _ (quiet _) h

variable (quiet : ∀ l d context, (s.react l d context).Quiet)

include quiet

theorem unheard_tell (d : Decision) (context : Context) (l : Listener) (h : Host)
    : Unheard (h.hear l d context) (h.tell s (perform s depth) d context l) := by
  have reacting
      : Unheard (h.hear l d context)
          ((s.react l d context).run (perform s depth) (h.hear l d context)).2 :=
    unheard_reaction (quiet l d context) _
  unfold tell
  dsimp only
  split
  · exact reacting
  · exact ⟨reacting.heard, reacting.boundVersion⟩

/-- Each listener hears once and finds the same version, by list induction. -/
theorem heard_notify (d : Decision) (context : Context) (listeners : List Listener) (h : Host)
    : (h.notify s (perform s depth) d context listeners).heard
      = h.heard ++ listeners.map fun l => ⟨l, d, context, h.boundVersion⟩ := by
  induction listeners generalizing h with
  | nil => exact (List.append_nil _).symm
  | cons l rest ih =>
      have first : Unheard (h.hear l d context) (h.tell s (perform s depth) d context l) :=
        unheard_tell quiet d context l h
      rw [notify, ih, first.heard, first.boundVersion]
      exact List.append_assoc ..

theorem heard_decide (id : Engine.Id) (snapshot : Option Snapshot) (flagKey environment : String)
    (context : Context) (fallback : Datum) (now : Option Moment) (h : Host)
    : (h.decide s (perform s depth) id snapshot flagKey environment context fallback now).2.heard
      = h.heard ++ match (h.evaluation s snapshot flagKey environment context fallback now).result
        with
        | .error _ => []
        | .ok d => (h.engine id).listeners.map fun l => ⟨l, d, context, tag snapshot⟩ := by
  rw [decide_eq]
  dsimp only
  cases (h.evaluation s snapshot flagKey environment context fallback now).result with
  | error e => simp only [heard_deciding, List.append_nil]
  | ok d => simp only [heard_notify quiet, heard_deciding, boundVersion_deciding]

/-- Those who hear of a decision are the listeners of the engine when the decision was asked for. -/
theorem heard_evaluateFlag (id : Engine.Id) (flagKey environment : String) (context : Context)
    (fallback : Datum) (now : Option Moment) (h : Host)
    : (h.evaluateFlag s (perform s depth) id flagKey environment context fallback now).2.heard
      = h.heard ++ match (h.asked s id flagKey environment context fallback now).result with
        | .error _ => []
        | .ok d =>
          (h.engine id).listeners.map fun l => ⟨l, d, context, tag (h.engine id).snapshot⟩ := by
  obtain ⟨readings, same⟩ := (alike_clockMoment id now h).engines id
  unfold evaluateFlag
  dsimp only
  rw [heard_decide quiet, evaluation_clockMoment, heard_clockMoment, same, asked]

end

end Host

-----------------------------------------------------------------------------------------
-- Every decision is heard once
-----------------------------------------------------------------------------------------

open Registration in
/-- Every listener hears of every decision once. Take an engine of a host and any calls from outside,
with listeners that do whatever they like except for asking for decisions: they may fail, and add and
remove listeners. The listeners at the time of a call for a decision are those to whom all additions
and removals before it have led. If a decision is made, they hear of it one after the other, and
each as often as it has entries; if none is made, nobody hears of anything. The call answers what
evaluation says of the snapshot that the engine holds at that time.

Additions and removals from outside are among those that are meant, each at its place. A removal,
from outside or by a listener, finds the listener if and only if it has an entry at that time.
-/
theorem listenersHearDecisionsOnce (s : Surroundings) (id : Engine.Id)
    (calls : List Call) (h : Host) (there : id < h.engines.length)
    (quiet : ∀ l d context, (s.react l d context).Quiet)
    : (∀ before flagKey environment context fallback now after,
        calls = before ++ .evaluate id flagKey environment context fallback now :: after
        → ∃ found reached evaluation,
            found = (h.run s before).2
            ∧ reached = (found.handle s (.evaluate id flagKey environment context fallback now)).2
            ∧ evaluation = found.asked s id flagKey environment context fallback now
            ∧ (h.run s calls).1[before.length]? = some (evaluation.result.map .decision)
            ∧ Leads (h.engine id).listeners (h.runRegistrations s id before)
                (found.engine id).listeners
            ∧ (∀ e, evaluation.result = .error e → reached.heard = found.heard)
            ∧ ∀ d,
                evaluation.result = .ok d
                → ∃ news : List Hearing,
                    reached.heard = found.heard ++ news
                    ∧ news
                      = (found.engine id).listeners.map
                          (⟨·, d, context, Host.tag (found.engine id).snapshot⟩)
                    ∧ ∀ l,
                        ((news.map Hearing.listener).count l : Int)
                          = entries (h.engine id).listeners (h.runRegistrations s id before) l)
      ∧ (∀ before l after,
          calls = before ++ .addListener id l :: after
          → (∃ later,
              h.runRegistrations s id calls = h.runRegistrations s id before ++ .added l :: later)
            ∧ (h.run s calls).1[before.length]? = some (.ok .done))
      ∧ (∀ before l after,
          calls = before ++ .removeListener id l :: after
          → ∃ found later,
              h.runRegistrations s id calls
                = h.runRegistrations s id before ++ .removed l found :: later
              ∧ (h.run s calls).1[before.length]? = some (.ok (.removed found)))
      ∧ ∀ before l found after,
          h.runRegistrations s id calls = before ++ .removed l found :: after
          → (found = true ↔ 0 < entries (h.engine id).listeners before l) := by
  refine ⟨?_, ?_, ?_, ?_⟩
  · rintro before flagKey environment context fallback now after rfl
    have leads := (Host.enrolled_run s id before h).leads there
    have answer := Host.getElem?_run s before after h
      (.evaluate id flagKey environment context fallback now)
    have hearing := @Host.heard_evaluateFlag s s.depth quiet id flagKey environment context
      fallback now (h.run s before).2
    refine ⟨_, _, _, rfl, rfl, rfl, ?_, leads, ?_, ?_⟩
    · rw [answer, ← Host.evaluateFlag_fst s (Host.perform s s.depth)]
      rfl
    · intro e failed
      rw [failed, List.append_nil] at hearing
      exact hearing
    · intro d decided
      rw [decided] at hearing
      refine ⟨_, hearing, rfl, ?_⟩
      intro l
      rw [List.map_map, ← leads.count]
      simp [Function.comp_def]
  · rintro before l after rfl
    refine ⟨⟨_, Host.runTrace_split s (madeTo id) before after h ?_⟩,
      Host.getElem?_run s before after h (.addListener id l)⟩
    simp [Host.trace, madeTo]
  · rintro before l after rfl
    refine ⟨((h.run s before).2.removeListener id l).1, _,
      Host.runTrace_split s (madeTo id) before after h ?_,
      Host.getElem?_run s before after h (.removeListener id l)⟩
    simp [Host.trace, madeTo]
  · intro before l found after split
    have leads := (Host.enrolled_run s id calls h).leads there
    rw [split] at leads
    exact leads.found_iff

namespace Sample

/-- One listener takes its leave and sends another one; all others fail. -/
def restless : Surroundings where
  react l _ _ :=
    if l = ⟨"once"⟩ then
      .call (.removeListener 0 l) fun _ => .call (.addListener 0 ⟨"late"⟩) fun _ => .done
    else .failed
  present _ := ⟨⟨1999, 12, 31, by decide⟩, .midnight, some 0, none⟩
  depth := 1

/-- A process with one engine, which nobody listens to. -/
def lone : Host := { Host.empty with engines := [.empty] }

/-- Two decisions, the first with a listener that has been added twice. -/
def meetings : List Call :=
  [.addListener 0 ⟨"once"⟩, .addListener 0 ⟨"loud"⟩, .addListener 0 ⟨"once"⟩,
    .evaluate 0 "theme" "production" .empty .null none,
    .evaluate 0 "theme" "production" .empty .null none,
    .removeListener 0 ⟨"once"⟩]

/-- What becomes of the listeners before the last call. -/
def departures : List Registration :=
  [.added ⟨"once"⟩, .added ⟨"loud"⟩, .added ⟨"once"⟩, .removed ⟨"once"⟩ true, .added ⟨"late"⟩,
    .removed ⟨"once"⟩ true, .added ⟨"late"⟩]

end Sample

/-- In the first round everyone is heard out, although the list changes meanwhile, and the second
round is that of the new list. The last removal finds nobody, since no entry is left.
-/
theorem sample_listeners_hear_in_rounds
    : 0 < Sample.lone.engines.length
      ∧ (∀ l d context, (Sample.restless.react l d context).Quiet)
      ∧ (Sample.lone.run Sample.restless Sample.meetings).2.heard.map (fun x => x.listener.name)
        = ["once", "loud", "once", "loud", "late", "late"]
      ∧ Sample.lone.runRegistrations Sample.restless 0 Sample.meetings
        = Sample.departures ++ [.removed ⟨"once"⟩ false]
      ∧ ¬ 0 < Registration.entries [] Sample.departures ⟨"once"⟩ := by
  have there : 0 < Sample.lone.engines.length := by decide
  have quiet (l : Listener) (d : Decision) (context : Context)
      : (Sample.restless.react l d context).Quiet := by
    simp only [Sample.restless]
    split <;> simp [Reaction.Quiet, Call.Quiet]
  obtain ⟨-, -, -, removals⟩ :=
    listenersHearDecisionsOnce Sample.restless 0 Sample.meetings Sample.lone there quiet
  have registrations
      : Sample.lone.runRegistrations Sample.restless 0 Sample.meetings
        = Sample.departures ++ [.removed ⟨"once"⟩ false] := by
    rfl
  have none := removals Sample.departures ⟨"once"⟩ false [] registrations
  exact ⟨there, quiet, rfl, registrations, fun some => Bool.false_ne_true (none.mpr some)⟩

end FeatureFlags
