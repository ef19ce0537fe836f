import FeatureFlags.Log.Layout
import FeatureFlags.Proofs.Json.Documents
import FeatureFlags.Proofs.Json.Printable

/-! Lines for machines. A record takes one line, whatever its texts hold, and what the line holds is
what was logged and nothing else.
-/

namespace FeatureFlags.Log

-----------------------------------------------------------------------------------------
-- Tags of a record
-----------------------------------------------------------------------------------------

/-- Of some names those with a value are shown, by list induction. -/
theorem lookup_shown (names : List String) (value : String → Datum) (name : String)
    : ((names.map fun n => (n, value n)).filter fun e => e.2.isTrue).lookup name
      = if name ∈ names ∧ (value name).isTrue then some (value name) else none := by
  induction names with
  | nil => simp
  | cons n rest ih =>
      rw [List.map_cons, List.filter_cons]
      by_cases same : name = n
      · subst same
        by_cases shown : (value name).isTrue
        · simp [shown]
        · simp [shown, ih]
      · have other : (name == n) = false := by simpa using same
        split
        · simp [List.lookup_cons, other, ih, same]
        · simp [ih, same]

-----------------------------------------------------------------------------------------
-- Fields of a line
-----------------------------------------------------------------------------------------

/-- What is said about a fault that was raised. -/
def Trouble.raisedText? : Trouble → Option String
  | .raised kind values => (raised kind values).text?
  | _ => none

/-- The names that a line can give to what it holds. -/
def Layout.fieldNames : List String :=
  ["ts", "level", "logger", "msg"] ++ Tags.names ++ ["exception"]

/-- The fields hold everything about a record with a given message, a tag only if it is not empty, and
nothing else, since each of the names is there at most once.
-/
structure Record.HeldBy (r : Record) (clock : Option String) (message : String)
    (fields : List (String × Datum)) : Prop where
  time : fields.lookup "ts" = some (.text (r.stamp clock))
  level : fields.lookup "level" = some (.text r.levelName)
  channel : fields.lookup "logger" = some (.text r.channel)
  message : fields.lookup "msg" = some (.text message)
  tags
    : ∀ name ∈ Tags.names, ∀ s, r.valueOf name = .text s
        → fields.lookup name = if s = "" then none else some (.text s)
  trouble : fields.lookup "exception" = r.trouble.raisedText?.map .text
  names : (fields.map Prod.fst).Sublist Layout.fieldNames

namespace Layout

variable {clock : Option String} {r : Record} {message : String}

/-- The fields that every line has. -/
def firstFields (clock : Option String) (r : Record) (message : String) : List (String × Datum) :=
  [("ts", .text (r.stamp clock)), ("level", .text r.levelName), ("logger", .text r.channel),
    ("msg", .text message)]

/-- The fields that a line has if there is something to be said. -/
def optionalFields (r : Record) : List (String × Datum) :=
  ((Tags.names.map fun name => (name, r.valueOf name)).filter fun e => e.2.isTrue)
    ++ (r.trouble.raisedText?.map fun s => ("exception", .text s)).toList

theorem fields_eq (filled : r.text = .ok message)
    : fields clock r = .ok (firstFields clock r message ++ optionalFields r) := by
  rw [fields, filled, optionalFields, ← List.append_assoc]
  cases trouble : r.trouble <;> rfl

theorem lookup_optionalFields (r : Record) (name : String)
    : (optionalFields r).lookup name
      = if name ∈ Tags.names ∧ (r.valueOf name).isTrue then some (r.valueOf name)
        else if name = "exception" then r.trouble.raisedText?.map .text
        else none := by
  rw [optionalFields, List.lookup_append, lookup_shown]
  split
  · rfl
  · rw [Option.none_or]
    cases r.trouble.raisedText? with
    | none => simp
    | some s =>
        by_cases same : name = "exception"
        · simp [same]
        · have other : (name == "exception") = false := by simpa using same
          simp [List.lookup_cons, other, same]

/-- A name that only some lines have is none of those that all lines have. -/
theorem lookup_firstFields {name : String} (optional : name ∈ Tags.names ++ ["exception"])
    : (firstFields clock r message).lookup name = none := by
  have apart : ∀ name ∈ Tags.names ++ ["exception"],
      ∀ first ∈ ["ts", "level", "logger", "msg"], name ≠ first := by decide
  rw [List.lookup_eq_none_iff]
  intro e member
  exact bne_iff_ne.mpr (apart name optional e.1 (List.mem_map_of_mem member))

theorem heldBy_fields (clock : Option String) (r : Record) (message : String)
    : r.HeldBy clock message (firstFields clock r message ++ optionalFields r) where
  time := rfl
  level := rfl
  channel := rfl
  message := rfl
  tags name member s tag := by
    have other : name ≠ "exception" := by
      rintro rfl
      exact absurd member (by decide)
    rw [List.lookup_append, lookup_firstFields (List.mem_append_left _ member), Option.none_or,
      lookup_optionalFields, tag]
    by_cases blank : s = "" <;> simp [Datum.isTrue, member, other, blank]
  trouble := by
    rw [List.lookup_append, lookup_firstFields (by decide), Option.none_or, lookup_optionalFields,
      if_neg (by simp [Tags.names]), if_pos rfl]
  names := by
    have tags : (((Tags.names.map fun name => (name, r.valueOf name)).filter
        fun e => e.2.isTrue).map Prod.fst).Sublist Tags.names :=
      List.filter_sublist.map Prod.fst
    have trouble : (((r.trouble.raisedText?.map fun s => ("exception", Datum.text s)).toList).map
        Prod.fst).Sublist ["exception"] := by
      cases r.trouble.raisedText? <;> simp
    rw [optionalFields, fieldNames, List.map_append, List.map_append, List.append_assoc]
    exact (List.Sublist.refl _).append (tags.append trouble)

/-- All that a line holds are texts if the tags are. -/
theorem text_of_mem_fields (clock : Option String) (message : String)
    (texts : ∀ name ∈ Tags.names, ∃ s, r.valueOf name = .text s)
    : ∀ e ∈ firstFields clock r message ++ optionalFields r, ∃ s, e.2 = .text s := by
  intro e member
  rcases List.mem_append.mp member with first | optional
  · simp only [firstFields, List.mem_cons, List.not_mem_nil, or_false] at first
    rcases first with rfl | rfl | rfl | rfl <;> exact ⟨_, rfl⟩
  rcases List.mem_append.mp optional with tag | trouble
  · obtain ⟨name, given, rfl⟩ := List.mem_map.mp (List.mem_of_mem_filter tag)
    exact texts name given
  · obtain ⟨s, -, rfl⟩ := Option.map_eq_some_iff.mp (Option.mem_toList.mp trouble)
    exact ⟨s, rfl⟩

end Layout

/-- A line for machines can be neither forged nor split. Whatever texts a record has for its level,
its channel, its message and its tags, the line about it consists of printable ASCII characters, and
read as JSON it holds these texts as they are: a tag only if it is not empty, and nothing besides.
-/
theorem linesHoldRecords {clock : Option String} {r : Record} {message : String}
    (filled : r.text = .ok message) (texts : ∀ name ∈ Tags.names, ∃ s, r.valueOf name = .text s)
    : ∃ line held,
        (Layout.json clock).line r = .ok line
        ∧ Json.Printable line.toList
        ∧ Json.read line.toList = .ok (.record held)
        ∧ r.HeldBy clock message held := by
  have held := Layout.heldBy_fields clock r message
  have allTexts := Layout.text_of_mem_fields clock message texts
  have distinct : Layout.fieldNames.Nodup := by decide
  have faithful
      : Json.Faithful
          (.record (Layout.firstFields clock r message ++ Layout.optionalFields r)) := by
    refine .record (distinct.sublist held.names) ?_
    intro e member
    obtain ⟨s, same⟩ := allTexts e member
    exact same ▸ .text s
  have short
      : (Datum.record (Layout.firstFields clock r message ++ Layout.optionalFields r)).isOverlong
        = false := by
    rw [← Bool.not_eq_true, Datum.isOverlong_record_iff]
    rintro ⟨e, member, long⟩
    obtain ⟨s, same⟩ := allTexts e member
    rw [same] at long
    contradiction
  obtain ⟨line, written, read⟩ := Json.exists_text_of_short faithful short
  refine ⟨line, _, ?_, Json.printable_of_write allTexts written, read, held⟩
  rw [Layout.line, Layout.fields_eq filled]
  exact written

namespace Sample

/-- A text that tries to end its line and to begin another one. -/
def intrusion : String :=
  "no flag \"a\\\"\x7d\r\n\x7b\"level\": \"ERROR\", \"msg\": \"\u2028😀\"\x7d\x7f"

/-- A record that holds the text, with tags of which one is empty. -/
def intruded : Record :=
  Record.tagged ⟨.text intrusion, .text "", .text "7"⟩
    { time := ⟨⟨2026, 1, 1, by decide⟩, .midnight, some 0, none⟩
      level := 20
      levelName := "INFO"
      channel := "flags\n"
      message := .text intrusion
      values := []
      attributes := []
      trouble := .absent }

end Sample

/-- The line about a record whose message, channel and one tag try to forge another line. -/
theorem sample_line_holds_the_intrusion
    : Sample.intruded.text = .ok Sample.intrusion
      ∧ (∀ name ∈ Tags.names, ∃ s, Sample.intruded.valueOf name = .text s)
      ∧ ∃ line held,
          (Layout.json none).line Sample.intruded = .ok line
          ∧ Json.Printable line.toList
          ∧ Json.read line.toList = .ok (.record held)
          ∧ held.lookup "level" = some (.text "INFO")
          ∧ held.lookup "msg" = some (.text Sample.intrusion)
          ∧ held.lookup "request_id" = some (.text Sample.intrusion)
          ∧ held.lookup "environment" = none := by
  have filled : Sample.intruded.text = .ok Sample.intrusion := rfl
  have texts : ∀ name ∈ Tags.names, ∃ s, Sample.intruded.valueOf name = .text s := by
    intro name member
    simp only [Tags.names, List.mem_cons, List.not_mem_nil, or_false] at member
    rcases member with rfl | rfl | rfl <;> exact ⟨_, rfl⟩
  obtain ⟨line, held, written, printable, read, holds⟩ :=
    @linesHoldRecords none _ _ filled texts
  have request := holds.tags "request_id" (by decide) Sample.intrusion rfl
  have environment := holds.tags "environment" (by decide) "" rfl
  exact ⟨filled, texts, line, held, written, printable, read, holds.level, holds.message,
    request.trans (if_neg (by decide)), environment.trans (if_pos rfl)⟩

end FeatureFlags.Log
