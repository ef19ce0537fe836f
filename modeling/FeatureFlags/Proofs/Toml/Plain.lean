import FeatureFlags.Proofs.Datum.Plain
import FeatureFlags.Proofs.Outcome
import FeatureFlags.Toml.Reader

/-! TOML text holds plain data. Every change of a table under construction keeps its fields plain.
-/

namespace FeatureFlags.Toml

open Datum (Plain PlainFields)

-----------------------------------------------------------------------------------------
-- Single values
-----------------------------------------------------------------------------------------

/-- Offsets are read to the minute. -/
theorem offset_documented {s rest : List Char} {seconds : Int}
    (read : offset s = (some seconds, rest))
    : seconds % 60 = 0 ∧ seconds.natAbs < 86400 := by
  unfold offset at read
  split at read
  · obtain rfl : 0 = seconds := by simpa using (Prod.mk.inj read).1
    decide
  · obtain rfl : 0 = seconds := by simpa using (Prod.mk.inj read).1
    decide
  · dsimp only at read
    split at read
    · next found =>
        obtain rfl := Option.some.inj (Prod.mk.inj read).1
        obtain ⟨⟨hours, afterHours⟩, -, found⟩ := Option.bind_eq_some_iff.mp found
        dsimp only at found
        split at found
        · obtain ⟨⟨minutes, afterMinutes⟩, -, found⟩ := Option.bind_eq_some_iff.mp found
          dsimp only at found
          split at found
          · next inRange =>
              obtain ⟨rfl, -⟩ := Prod.mk.inj (Option.some.inj found)
              obtain ⟨-, hours, minutes⟩ := inRange
              split <;> omega
          · contradiction
        · contradiction
    · simp at read
  · simp at read

theorem plain_momentOn (date : Date) (rest : List Char) : (momentOn date rest).1.Plain := by
  unfold momentOn
  split
  · split
    · split
      · next time after _ => exact .moment ⟨fun _ same => offset_documented (Prod.ext same rfl), rfl⟩
      · exact .date date
    · exact .date date
  · exact .date date

theorem plain_of_moment {s rest : List Char} {x : Datum} (read : moment s = .ok (x, rest))
    : x.Plain := by
  unfold moment at read
  split at read
  · next date after _ =>
      have same : (momentOn date after).1 = x := congrArg Prod.fst (Except.ok.inj read)
      exact same ▸ plain_momentOn date after
  · contradiction

theorem plain_of_ofDigits {negative : Bool} {digits : List Char} {x : Datum}
    (read : (Datum.ofDigits negative digits : Except (Unread Stop) Datum) = .ok x)
    : x.Plain := by
  unfold Datum.ofDigits at read
  split at read
  · contradiction
  · exact Except.ok.inj read ▸ .int _

theorem plain_of_decimal? {s rest : List Char} {x : Datum}
    (read : decimal? s = some (.ok (x, rest)))
    : x.Plain := by
  obtain ⟨⟨whole, after⟩, -, read⟩ := Option.bind_eq_some_iff.mp read
  dsimp only at read
  split at read
  · obtain ⟨n, found, same⟩ := Outcome.map_eq_ok.mp (Option.some.inj read)
    obtain ⟨rfl, -⟩ := Prod.mk.inj same
    exact plain_of_ofDigits found
  · obtain ⟨rfl, -⟩ := Prod.mk.inj (Except.ok.inj (Option.some.inj read))
    exact .double _

theorem plain_of_special? {s rest : List Char} {x : Datum} (read : special? s = some (x, rest))
    : x.Plain := by
  unfold special? at read
  dsimp only at read
  split at read
  · obtain ⟨rfl, -⟩ := Prod.mk.inj (Option.some.inj read)
    exact .double _
  · obtain ⟨rfl, -⟩ := Prod.mk.inj (Option.some.inj read)
    exact .double _
  · contradiction

theorem plain_of_number {s rest : List Char} {x : Datum} (read : number s = .ok (x, rest))
    : x.Plain := by
  unfold number at read
  split at read
  · obtain ⟨rfl, -⟩ := Prod.mk.inj (Except.ok.inj read)
    exact .time _
  · obtain ⟨rfl, -⟩ := Prod.mk.inj (Except.ok.inj read)
    exact .int _
  · cases decimal : decimal? s with
    | some found =>
        rw [decimal] at read
        exact plain_of_decimal? (decimal.trans (congrArg some read))
    | none =>
        rw [decimal] at read
        cases special : special? s with
        | some found =>
            rw [special] at read
            exact plain_of_special? (special.trans (congrArg some (Except.ok.inj read)))
        | none =>
            rw [special] at read
            contradiction

theorem plain_of_scalar {s rest : List Char} {x : Datum} (read : scalar s = .ok (x, rest))
    : x.Plain := by
  unfold scalar at read
  split at read
  · obtain ⟨⟨text, after⟩, -, same⟩ := Outcome.map_eq_ok.mp read
    obtain ⟨rfl, -⟩ := Prod.mk.inj same
    exact .text text
  · split at read
    · obtain ⟨rfl, -⟩ := Prod.mk.inj (Except.ok.inj read)
      exact .bool true
    · obtain ⟨rfl, -⟩ := Prod.mk.inj (Except.ok.inj read)
      exact .bool false
    · split at read
      · exact plain_of_moment read
      · exact plain_of_number read

-----------------------------------------------------------------------------------------
-- Tables under construction
-----------------------------------------------------------------------------------------

/-- A change of a table that keeps its fields plain. -/
def KeepsPlain (change : Change) : Prop :=
  ∀ before after, PlainFields before → change before = .ok after → PlainFields after

theorem keepsPlain_ok : KeepsPlain .ok := by
  intro before after plain same
  exact Except.ok.inj same ▸ plain

theorem keepsPlain_define (name : String) {x : Datum} (added : x.Plain) (complaint : String)
    : KeepsPlain (define name x complaint) := by
  intro before after plain changed
  unfold define at changed
  split at changed
  · contradiction
  · exact Except.ok.inj changed ▸ plain.append name added

theorem keepsPlain_extend (name : String) : KeepsPlain (extend name) := by
  have empty : Plain (.record []) := .record (by simp)
  intro before after plain changed
  unfold extend at changed
  split at changed
  · exact Except.ok.inj changed ▸ plain.append name (.list (by simpa using empty))
  · next found =>
      refine Except.ok.inj changed ▸ plain.put name (.list ?_)
      intro x member
      rcases List.mem_append.mp member with former | last
      · exact (plain.lookup found).members x former
      · exact List.mem_singleton.mp last ▸ empty
  · contradiction

/-- Changing a table within a table keeps all fields plain, by induction over the way to it. -/
theorem keepsPlain_changeAt (arrays : Bool) {change : Change}
    (keeps : KeepsPlain change) (key : Key)
    : KeepsPlain (changeAt arrays change key) := by
  induction key with
  | nil => exact keeps
  | cons name rest ih =>
      intro before after plain changed
      unfold changeAt at changed
      split at changed
      · obtain ⟨inner, found, same⟩ := Outcome.bind_eq_ok.mp changed
        obtain rfl := Except.ok.inj same
        exact plain.put name (.record (ih _ _ Datum.plainFields_nil found))
      · next former =>
          obtain ⟨inner, found, same⟩ := Outcome.bind_eq_ok.mp changed
          obtain rfl := Except.ok.inj same
          exact plain.put name (.record (ih _ _ (plain.lookup former).fields found))
      · next items former =>
          have members := (plain.lookup former).members
          split at changed
          · split at changed
            · next table last =>
                obtain ⟨inner, found, same⟩ := Outcome.bind_eq_ok.mp changed
                obtain rfl := Except.ok.inj same
                have lastPlain := (members _ (List.mem_of_getLast? last)).fields
                refine plain.put name (.list ?_)
                intro x member
                rcases List.mem_append.mp member with former | changedLast
                · exact members x (List.dropLast_subset items former)
                · exact List.mem_singleton.mp changedLast ▸ .record (ih _ _ lastPlain found)
            · contradiction
          · contradiction
      · contradiction

theorem Draft.plain_openTable {d d' : Draft} {key : Key} (plain : PlainFields d.entries)
    (opened : d.openTable key = .ok d')
    : PlainFields d'.entries := by
  unfold Draft.openTable at opened
  dsimp only at opened
  split at opened
  · contradiction
  · obtain ⟨fields, changed, same⟩ := Outcome.bind_eq_ok.mp opened
    obtain rfl := Except.ok.inj same
    exact keepsPlain_changeAt true keepsPlain_ok key _ _ plain changed

theorem Draft.plain_openArray {d d' : Draft} {key : Key} (plain : PlainFields d.entries)
    (opened : d.openArray key = .ok d')
    : PlainFields d'.entries := by
  unfold Draft.openArray at opened
  dsimp only at opened
  split at opened
  · contradiction
  · obtain ⟨fields, changed, same⟩ := Outcome.bind_eq_ok.mp opened
    obtain rfl := Except.ok.inj same
    exact keepsPlain_changeAt true (keepsPlain_extend key.name) key.way _ _ plain changed

theorem Draft.plain_assign {d d' : Draft} {key : Key} {x : Datum} (plain : PlainFields d.entries)
    (added : x.Plain) (assigned : d.assign key x = .ok d')
    : PlainFields d'.entries := by
  unfold Draft.assign at assigned
  dsimp only at assigned
  split at assigned
  · contradiction
  · split at assigned
    · contradiction
    · obtain ⟨fields, changed, same⟩ := Outcome.bind_eq_ok.mp assigned
      obtain rfl := Except.ok.inj same
      exact keepsPlain_changeAt true (keepsPlain_define key.name added _) _ _ _ plain changed

-----------------------------------------------------------------------------------------
-- Values
-----------------------------------------------------------------------------------------

theorem keepsPlain_assignInline (key : Key) {x : Datum} (added : x.Plain) (frozen : List Key)
    : KeepsPlain (assignInline key x frozen) := by
  intro before after plain assigned
  unfold assignInline at assigned
  split at assigned
  · contradiction
  · exact keepsPlain_changeAt false (keepsPlain_define key.name added _) key.way _ _ plain assigned

/-- What the readers of values, items and inline tables leave is plain. -/
structure ReadsPlain (fuel : Nat) : Prop where
  value : ∀ s x rest, value fuel s = .ok (x, rest) → x.Plain
  items : ∀ s members rest, items fuel s = .ok (members, rest) → ∀ x ∈ members, x.Plain
  inlineTable
    : ∀ before frozen s after rest, inlineTable before frozen fuel s = .ok (after, rest)
        → PlainFields before → PlainFields after

theorem plain_of_value {fuel : Nat} (inner : ReadsPlain fuel) {s rest : List Char} {x : Datum}
    (read : value (fuel + 1) s = .ok (x, rest))
    : x.Plain := by
  unfold value at read
  split at read
  · obtain ⟨after, -, read⟩ := Outcome.bind_eq_ok.mp read
    split at read
    · obtain ⟨rfl, -⟩ := Prod.mk.inj (Except.ok.inj read)
      exact .list (by simp)
    · obtain ⟨⟨members, left⟩, found, same⟩ := Outcome.bind_eq_ok.mp read
      obtain ⟨rfl, -⟩ := Prod.mk.inj (Except.ok.inj same)
      exact .list (inner.items _ _ _ found)
  · split at read
    · obtain ⟨rfl, -⟩ := Prod.mk.inj (Except.ok.inj read)
      exact .record (by simp)
    · obtain ⟨⟨fields, left⟩, found, same⟩ := Outcome.map_eq_ok.mp read
      obtain ⟨rfl, -⟩ := Prod.mk.inj same
      exact .record (inner.inlineTable _ _ _ _ _ found Datum.plainFields_nil)
  · exact plain_of_scalar read

theorem plain_of_items {fuel : Nat} (inner : ReadsPlain fuel) {s rest : List Char}
    {members : List Datum} (read : items (fuel + 1) s = .ok (members, rest))
    : ∀ x ∈ members, x.Plain := by
  rw [items] at read
  obtain ⟨⟨first, after⟩, found, read⟩ := Outcome.bind_eq_ok.mp read
  have plain := inner.value _ _ _ found
  obtain ⟨next, -, read⟩ := Outcome.bind_eq_ok.mp read
  split at read
  · obtain ⟨rfl, -⟩ := Prod.mk.inj (Except.ok.inj read)
    simpa using plain
  · obtain ⟨next, -, read⟩ := Outcome.bind_eq_ok.mp read
    split at read
    · obtain ⟨rfl, -⟩ := Prod.mk.inj (Except.ok.inj read)
      simpa using plain
    · obtain ⟨⟨more, left⟩, others, same⟩ := Outcome.bind_eq_ok.mp read
      obtain ⟨rfl, -⟩ := Prod.mk.inj (Except.ok.inj same)
      intro x member
      rcases List.mem_cons.mp member with rfl | later
      · exact plain
      · exact inner.items _ _ _ others x later
  · contradiction

theorem plain_of_inlineTable {fuel : Nat} (inner : ReadsPlain fuel) {before after : Entries}
    {frozen : List Key} {s rest : List Char}
    (read : inlineTable before frozen (fuel + 1) s = .ok (after, rest))
    (plain : PlainFields before)
    : PlainFields after := by
  rw [inlineTable] at read
  obtain ⟨⟨key, afterKey⟩, -, read⟩ := Outcome.bind_eq_ok.mp read
  obtain ⟨⟨x, afterValue⟩, found, read⟩ := Outcome.bind_eq_ok.mp read
  have added := inner.value _ _ _ found
  obtain ⟨fields, assigned, read⟩ := Outcome.bind_eq_ok.mp read
  have kept := keepsPlain_assignInline key added frozen _ _ plain
    (Outcome.mapError_eq_ok.mp assigned)
  dsimp only at read
  split at read
  · obtain ⟨rfl, -⟩ := Prod.mk.inj (Except.ok.inj read)
    exact kept
  · exact inner.inlineTable _ _ _ _ _ read kept
  · contradiction

/-- The readers leave plain data, by induction on the fuel. -/
theorem readsPlain (fuel : Nat) : ReadsPlain fuel := by
  induction fuel with
  | zero =>
      refine ⟨?_, ?_, ?_⟩
      · intro s x rest read
        simp [value, complain] at read
      · intro s members rest read
        simp [items, complain] at read
      · intro before frozen s after rest read
        simp [inlineTable, complain] at read
  | succ fuel inner =>
      exact ⟨fun _ _ _ => plain_of_value inner, fun _ _ _ => plain_of_items inner,
        fun _ _ _ _ _ => plain_of_inlineTable inner⟩

-----------------------------------------------------------------------------------------
-- Statements
-----------------------------------------------------------------------------------------

theorem plain_of_arrayHeader {d d' : Draft} {s rest : List Char}
    (read : arrayHeader d s = .ok (d', rest)) (plain : PlainFields d.entries)
    : PlainFields d'.entries := by
  obtain ⟨⟨key, afterKey⟩, -, read⟩ := Outcome.bind_eq_ok.mp read
  obtain ⟨opened, found, read⟩ := Outcome.bind_eq_ok.mp read
  have kept := Draft.plain_openArray plain (Outcome.mapError_eq_ok.mp found)
  split at read
  · obtain ⟨rfl, -⟩ := Prod.mk.inj (Except.ok.inj read)
    exact kept
  · contradiction

theorem plain_of_tableHeader {d d' : Draft} {s rest : List Char}
    (read : tableHeader d s = .ok (d', rest)) (plain : PlainFields d.entries)
    : PlainFields d'.entries := by
  obtain ⟨⟨key, afterKey⟩, -, read⟩ := Outcome.bind_eq_ok.mp read
  obtain ⟨opened, found, read⟩ := Outcome.bind_eq_ok.mp read
  have kept := Draft.plain_openTable plain (Outcome.mapError_eq_ok.mp found)
  split at read
  · obtain ⟨rfl, -⟩ := Prod.mk.inj (Except.ok.inj read)
    exact kept
  · contradiction

theorem plain_of_assignment {d d' : Draft} {s rest : List Char}
    (read : assignment d s = .ok (d', rest)) (plain : PlainFields d.entries)
    : PlainFields d'.entries := by
  obtain ⟨⟨key, afterKey⟩, -, read⟩ := Outcome.bind_eq_ok.mp read
  obtain ⟨⟨x, afterValue⟩, found, read⟩ := Outcome.bind_eq_ok.mp read
  obtain ⟨assigned, given, same⟩ := Outcome.bind_eq_ok.mp read
  obtain ⟨rfl, -⟩ := Prod.mk.inj (Except.ok.inj same)
  exact Draft.plain_assign plain ((readsPlain _).value _ _ _ found)
    (Outcome.mapError_eq_ok.mp given)

/-- Every statement keeps the table plain, by cases on its first character. -/
theorem plain_of_statement {d d' : Draft} {s rest : List Char}
    (read : statement d s = .ok (d', rest)) (plain : PlainFields d.entries)
    : PlainFields d'.entries := by
  unfold statement at read
  split at read
  · exact plain_of_arrayHeader read plain
  · exact plain_of_tableHeader read plain
  · obtain ⟨rfl, -⟩ := Prod.mk.inj (Except.ok.inj read)
    exact plain
  · split at read
    · exact plain_of_assignment read plain
    · contradiction
  · obtain ⟨rfl, -⟩ := Prod.mk.inj (Except.ok.inj read)
    exact plain

/-- All statements together do, by induction on the fuel. -/
theorem plain_of_statements {d d' : Draft} {fuel : Nat} {s : List Char}
    (read : statements d fuel s = .ok d') (plain : PlainFields d.entries)
    : PlainFields d'.entries := by
  induction fuel generalizing d s with
  | zero => contradiction
  | succ fuel ih =>
      unfold statements at read
      split at read
      · exact Except.ok.inj read ▸ plain
      · exact ih read plain
      · obtain ⟨⟨next, after⟩, found, read⟩ := Outcome.bind_eq_ok.mp read
        have kept := plain_of_statement found plain
        obtain ⟨left, -, read⟩ := Outcome.bind_eq_ok.mp read
        split at read
        · exact Except.ok.inj read ▸ kept
        · exact ih read kept
        · contradiction

/-- A TOML text holds plain data. -/
theorem plain_of_read {text : List Char} {entries : Entries} (found : read text = .ok entries)
    : Plain (.record entries) := by
  unfold read at found
  dsimp only at found
  split at found
  · next d reached =>
      obtain rfl := Except.ok.inj found
      exact .record (plain_of_statements reached Datum.plainFields_nil)
  · contradiction

end FeatureFlags.Toml
