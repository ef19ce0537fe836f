import FeatureFlags.Context.Builder
import FeatureFlags.Proofs.Context.Reading

/-! Calls on a builder of contexts. Whatever calls came before and whether or not they failed, the
context that is built is the one of the pairs that were accepted, under the id that was set last.
-/

namespace FeatureFlags.Context

open OrderedMap (Matched)

namespace Builder

-----------------------------------------------------------------------------------------
-- Calls
-----------------------------------------------------------------------------------------

/-- A call on a builder, with texts for ids and names. -/
inductive Call where
  | entity (id : String)
  | add (name : String) (value : Datum)
  | email (value : Datum)
  | plan (value : Datum)
  | country (value : Datum)
  | addAll (pairs : List (String × Datum))
  | build

/-- What a call answers: the builder itself, or what has been built. -/
inductive Answer where
  | builder
  | built (context : Context)

/-- The builder after an attribute was added to it, or as it was if that failed. -/
def settle (b : Builder) : Except Failure Builder → Builder × Except Failure Answer
  | .ok next => (next, .ok .builder)
  | .error e => (b, .error e)

/-- The builder after a call, and what the call is answered. -/
def perform (b : Builder) : Call → Builder × Except Failure Answer
  | .entity id => (b.withEntity (.text id), .ok .builder)
  | .add name value => b.settle (b.add (.text name) value)
  | .email value => b.settle (b.email value)
  | .plan value => b.settle (b.plan value)
  | .country value => b.settle (b.country value)
  | .addAll pairs =>
    match b.addAll (loosePairs pairs) with
    | (next, none) => (next, .ok .builder)
    | (next, some e) => (next, .error e)
  | .build => (b, b.build.map .built)

/-- The builder after calls one after the other, and their answers. A call that fails does not keep
the next one from being made.
-/
def run (b : Builder) : List Call → Builder × List (Except Failure Answer)
  | [] => (b, [])
  | call :: rest =>
    let (next, answer) := b.perform call
    let (last, answers) := next.run rest
    (last, answer :: answers)

namespace Call

/-- The pairs that a call offers to the builder. -/
def offered : Call → List (String × Datum)
  | add name value => [(name, value)]
  | email value => [("email", value)]
  | plan value => [("plan", value)]
  | country value => [("country", value)]
  | addAll pairs => pairs
  | entity _ | build => []

/-- The value of the pair can be normalized. -/
def Normalizes (pair : String × Datum) : Bool :=
  (Attribute.normalize (.text pair.1) pair.2).isOk

/-- The pairs that a call adds: those before the first one that cannot be normalized. -/
def accepted (call : Call) : List (String × Datum) := call.offered.takeWhile Normalizes

/-- The id after a call. -/
def idAfter (id : String) : Call → String
  | entity next => next
  | _ => id

/-- The call offers a single attribute. -/
def OffersOne : Call → Prop
  | add _ _ | email _ | plan _ | country _ => True
  | entity _ | addAll _ | build => False

end Call

variable {b : Builder} {id : String} {pairs : List (String × Datum)}

theorem run_cons (b : Builder) (call : Call) (rest : List Call)
    : b.run (call :: rest)
      = (((b.perform call).1.run rest).1, (b.perform call).2 :: ((b.perform call).1.run rest).2) :=
  rfl

/-- A run goes on where its first calls have left the builder, by induction over these. -/
theorem run_append (b : Builder) (before after : List Call)
    : b.run (before ++ after)
      = (((b.run before).1.run after).1, (b.run before).2 ++ ((b.run before).1.run after).2) := by
  induction before generalizing b with
  | nil => rfl
  | cons call rest ih => simp [run_cons, ih]

theorem length_run (b : Builder) (calls : List Call) : (b.run calls).2.length = calls.length := by
  induction calls generalizing b with
  | nil => rfl
  | cons call rest ih => simp [run_cons, ih]

/-- The answer to a call is given by the builder as the calls before it have left it. -/
theorem answer_run (b : Builder) (before after : List Call) (call : Call)
    : (b.run (before ++ call :: after)).2[before.length]?
      = some ((b.run before).1.perform call).2 := by
  rw [run_append, run_cons, ← length_run b before]
  simp

-----------------------------------------------------------------------------------------
-- What a builder holds
-----------------------------------------------------------------------------------------

/-- The builder has the id, and what it holds has been read from the pairs. -/
structure Holds (b : Builder) (id : String) (pairs : List (String × Datum)) : Prop where
  entityId : b.entityId = .text id
  attributes
    : ∃ l,
        b.attributes = loosePairs l
        ∧ Matched Attribute.IsRead (OrderedMap.ofList pairs).entries l

theorem holds_start (id : String) : (start (.text id)).Holds id [] := ⟨rfl, [], rfl, .nil⟩

/-- A value that can be normalized is added behind what is held, and any other one is refused. -/
theorem Holds.add_cases (holds : b.Holds id pairs) (name : String) (x : Datum)
    : (Call.Normalizes (name, x) = true
        ∧ ∃ next, b.add (.text name) x = .ok next ∧ next.Holds id (pairs ++ [(name, x)]))
      ∨ (¬ Call.Normalizes (name, x) = true ∧ ∃ e, b.add (.text name) x = .error e) := by
  obtain ⟨entityId, l, same, matched⟩ := holds
  unfold Call.Normalizes
  cases read : Attribute.normalize (.text name) x with
  | error e =>
      have refused : b.add (.text name) x = .error e := Outcome.bind_eq_error.mpr (.inl read)
      exact .inr ⟨by simp [Except.isOk, Except.toBool], e, refused⟩
  | ok a =>
      have added
          : b.add (.text name) x
            = .ok { b with attributes := putPair (.text name) a b.attributes } :=
        Outcome.bind_eq_ok.mpr ⟨a, read, rfl⟩
      have last
          : (OrderedMap.ofList (pairs ++ [(name, x)])).entries
            = OrderedMap.put name x (OrderedMap.ofList pairs).entries := by
        simp [OrderedMap.ofList, OrderedMap.insert]
      refine .inl ⟨rfl, _, added, entityId, OrderedMap.put name a l, ?_, ?_⟩
      · rw [← putPair_loosePairs, ← same]
      · rw [last]
        exact matched.put read

/-- A single attribute is held afterwards exactly if it is accepted. -/
theorem Holds.settle (holds : b.Holds id pairs) (name : String) (x : Datum)
    : (b.settle (b.add (.text name) x)).1.Holds id
        (pairs ++ [(name, x)].takeWhile Call.Normalizes) := by
  rcases holds.add_cases name x with ⟨accepted, next, added, holds'⟩ | ⟨refused, e, failed⟩
  · rw [added, List.takeWhile_cons_of_pos accepted]
    exact holds'
  · rw [failed, List.takeWhile_cons_of_neg refused, List.append_nil]
    exact holds

theorem addAll_cons (b : Builder) (name : String) (x : Datum) (rest : List (String × Datum))
    : b.addAll (loosePairs ((name, x) :: rest))
      = match b.add (.text name) x with
        | .ok next => next.addAll (loosePairs rest)
        | .error f => (b, some f) :=
  rfl

/-- Of pairs that are added together, those before the first one that is refused are held, by list
induction.
-/
theorem Holds.addAll (holds : b.Holds id pairs) (l : List (String × Datum))
    : (b.addAll (loosePairs l)).1.Holds id (pairs ++ l.takeWhile Call.Normalizes) := by
  induction l generalizing b pairs with
  | nil =>
      rw [List.takeWhile_nil, List.append_nil]
      exact holds
  | cons pair rest ih =>
      obtain ⟨name, x⟩ := pair
      rw [addAll_cons]
      rcases holds.add_cases name x with ⟨accepted, next, added, holds'⟩ | ⟨refused, e, failed⟩
      · rw [added, List.takeWhile_cons_of_pos accepted, List.append_cons]
        exact ih holds'
      · rw [failed, List.takeWhile_cons_of_neg refused, List.append_nil]
        exact holds

/-- After a call the builder holds also what the call has added, by cases on the call. -/
theorem Holds.perform (holds : b.Holds id pairs) (call : Call)
    : (b.perform call).1.Holds (call.idAfter id) (pairs ++ call.accepted) := by
  cases call with
  | entity next =>
      have nothing : pairs ++ (Call.entity next).accepted = pairs := List.append_nil pairs
      rw [nothing]
      exact ⟨rfl, holds.attributes⟩
  | add name value => exact holds.settle name value
  | email value => exact holds.settle "email" value
  | plan value => exact holds.settle "plan" value
  | country value => exact holds.settle "country" value
  | addAll l =>
      have added := holds.addAll l
      simp only [Builder.perform]
      split
      · next next same => exact (congrArg Prod.fst same) ▸ added
      · next next e same => exact (congrArg Prod.fst same) ▸ added
  | build =>
      have nothing : pairs ++ Call.build.accepted = pairs := List.append_nil pairs
      rw [nothing]
      exact holds

/-- After a run the builder holds all that the calls have added, by induction over the calls. -/
theorem Holds.run (holds : b.Holds id pairs) (calls : List Call)
    : (b.run calls).1.Holds (calls.foldl Call.idAfter id)
        (pairs ++ calls.flatMap Call.accepted) := by
  induction calls generalizing b id pairs with
  | nil =>
      rw [List.flatMap_nil, List.append_nil]
      exact holds
  | cons call rest ih =>
      rw [run_cons, List.flatMap_cons, ← List.append_assoc]
      exact ih (holds.perform call)

/-- What a builder holds can be built, and is what the pairs make. -/
theorem Holds.build (holds : b.Holds id pairs)
    : ∃ c, b.build = .ok c ∧ ofPairs (.text id) (loosePairs pairs) = .ok c := by
  obtain ⟨entityId, l, same, matched⟩ := holds
  have distinct : (l.map Prod.fst).Nodup := matched.keys ▸ (OrderedMap.ofList pairs).nodup
  refine ⟨⟨id, .ofList l⟩, ?_, ?_⟩
  · have read : attributesOf (loosePairs (l.map fun e => (e.1, e.2.loose))) = .ok l :=
      attributesOf_eq_ok_iff.mpr (List.forall₂_map_left_iff.mpr
        (List.forall₂_same.mpr fun e _ => ⟨rfl, Attribute.isRead_loose e.1 e.2⟩))
    have kept : (b.attributes.map fun e => (e.1, e.2.loose))
        = loosePairs (l.map fun e => (e.1, e.2.loose)) := by
      simp [same, loosePairs]
    rw [Builder.build, entityId, kept]
    exact Outcome.bind_eq_ok.mpr ⟨id, rfl, Outcome.bind_eq_ok.mpr ⟨l, read, rfl⟩⟩
  · rw [ofPairs_loosePairs]
    refine of_entries_eq_ok_iff.mpr ⟨rfl, ?_⟩
    rw [OrderedMap.entries_ofList distinct]
    exact matched

-----------------------------------------------------------------------------------------
-- Calls without effect
-----------------------------------------------------------------------------------------

theorem settle_of_error {outcome : Except Failure Builder} {e : Failure}
    (failed : (b.settle outcome).2 = .error e)
    : (b.settle outcome).1 = b := by
  cases outcome with
  | ok next => contradiction
  | error e' => rfl

/-- A call that offers a single attribute and fails leaves the builder as it was, by cases on the
call.
-/
theorem perform_of_error {call : Call} (one : call.OffersOne) {e : Failure}
    (failed : (b.perform call).2 = .error e)
    : (b.perform call).1 = b := by
  cases call with
  | entity next => exact one.elim
  | add name value => exact settle_of_error failed
  | email value => exact settle_of_error failed
  | plan value => exact settle_of_error failed
  | country value => exact settle_of_error failed
  | addAll l => exact one.elim
  | build => rfl

end Builder

end FeatureFlags.Context

namespace FeatureFlags

open Context (Builder)

/-- A builder replays what it has accepted. However calls on it are followed by others and whichever
of them fail, each build succeeds, with the context of the accepted pairs in the order of the calls and
under the id that was set last. No build changes the builder, and neither does a single attribute that
is refused.
-/
theorem buildsReplayAccepted (id : String) (before after : List Builder.Call)
    (call : Builder.Call)
    : (call = .build
        → (∃ c,
            ((Builder.start (.text id)).run (before ++ call :: after)).2[before.length]?
              = some (.ok (.built c))
            ∧ Context.ofPairs (.text (before.foldl Builder.Call.idAfter id))
                (Context.loosePairs (before.flatMap Builder.Call.accepted))
              = .ok c)
          ∧ ((Builder.start (.text id)).run (before ++ [call])).1
            = ((Builder.start (.text id)).run before).1)
      ∧ (call.OffersOne
        → ∀ e,
            ((Builder.start (.text id)).run (before ++ call :: after)).2[before.length]?
              = some (.error e)
            → ((Builder.start (.text id)).run (before ++ [call])).1
              = ((Builder.start (.text id)).run before).1) := by
  have holds := (Builder.holds_start id).run before
  rw [List.nil_append] at holds
  rw [Builder.answer_run, Builder.run_append]
  constructor
  · rintro rfl
    obtain ⟨c, built, made⟩ := holds.build
    refine ⟨⟨c, ?_, made⟩, rfl⟩
    change some (Except.map _ (Builder.build _)) = _
    rw [built]
    rfl
  · intro one e failed
    exact Builder.perform_of_error one (Option.some.inj failed)

namespace Sample

/-- Calls of which the second and the third one fail, the latter after its first pair. -/
def signup : List Builder.Call :=
  [.plan (.text "free"), .plan .null,
    .addAll [("age", .int 41), ("tags", .list [.int 1]), ("country", .text "FR")],
    .entity "user"]

end Sample

/-- What is refused leaves no trace, and what stood before it in the same call is kept. -/
theorem sample_signup_is_replayed
    : (∃ c,
        ((Builder.start (.text "")).run (Sample.signup ++ [.build])).2[4]?
          = some (.ok (.built c))
        ∧ c.entityId = "user"
        ∧ c.attributes.keys = ["plan", "age"]
        ∧ c.get? "plan" = some (.text "free"))
      ∧ ((Builder.start (.text "")).run [.plan (.text "free"), .plan .null]).1
        = ((Builder.start (.text "")).run [.plan (.text "free")]).1 := by
  constructor
  · obtain ⟨c, built, made⟩ :=
      ((buildsReplayAccepted "" Sample.signup [] .build).1 rfl).1
    have reached
        : (Context.ofPairs (.text (Sample.signup.foldl Builder.Call.idAfter ""))
            (Context.loosePairs (Sample.signup.flatMap Builder.Call.accepted))).toOption.map
            (fun c => (c.entityId, c.attributes.keys, c.get? "plan"))
          = some ("user", ["plan", "age"], some (.text "free")) := by
      decide +kernel
    rw [made] at reached
    obtain ⟨named, rest⟩ := Prod.mk.inj (Option.some.inj reached)
    obtain ⟨keys, plan⟩ := Prod.mk.inj rest
    exact ⟨c, built, named, keys, plan⟩
  · exact (buildsReplayAccepted "" [.plan (.text "free")] [] (.plan .null)).2
      trivial _ rfl

end FeatureFlags
