import FeatureFlags.Field.Basic
import Mathlib.Tactic.SplitIfs

/-! What the issues of a document are about. A part of a document that is refused has issues, and
what holds of the issues of all parts holds of those of the whole.
-/

namespace FeatureFlags

variable {α β : Type} {P Q : Issue → Prop}

namespace Checked

/-- If there are issues at all, then there are some, and this holds of each. -/
def IssuesSatisfy (P : Issue → Prop) (x : Checked α) : Prop :=
  ∀ l, x = .issues l → l ≠ [] ∧ ∀ issue ∈ l, P issue

theorem IssuesSatisfy.ok (a : α) : (ok a).IssuesSatisfy P := by
  intro l same
  contradiction

theorem IssuesSatisfy.issue {problem : Issue.Problem} (holds : P ⟨problem, []⟩)
    : (issue problem : Checked α).IssuesSatisfy P := by
  rintro _ ⟨⟩
  simpa using holds

theorem IssuesSatisfy.map {x : Checked α} (given : x.IssuesSatisfy P) (f : α → β)
    : (x.map f).IssuesSatisfy P := by
  cases x with
  | issues l =>
      rintro _ ⟨⟩
      exact given l rfl
  | _ =>
      intro l same
      contradiction

/-- The issues of a sequence are those of its parts. -/
theorem IssuesSatisfy.seq {f : Checked (α → β)} {x : Checked α} (first : f.IssuesSatisfy P)
    (second : x.IssuesSatisfy P)
    : (f <*> x).IssuesSatisfy P := by
  change (Checked.seq f fun _ => x).IssuesSatisfy P
  cases f with
  | ok g => exact second.map g
  | failure e =>
      intro l same
      contradiction
  | issues l =>
      obtain ⟨nonempty, each⟩ := first l rfl
      cases x with
      | ok a =>
          rintro _ ⟨⟩
          exact ⟨nonempty, each⟩
      | issues m =>
          rintro _ ⟨⟩
          exact ⟨by simp [nonempty], List.forall_mem_append.mpr ⟨each, (second m rfl).2⟩⟩
      | failure e =>
          intro l same
          contradiction

theorem IssuesSatisfy.under {x : Checked α} {step : Issue.Step} (given : x.IssuesSatisfy Q)
    (further : ∀ issue, Q issue → P (issue.under step))
    : (x.under step).IssuesSatisfy P := by
  cases x with
  | issues l =>
      rintro _ ⟨⟩
      obtain ⟨nonempty, each⟩ := given l rfl
      refine ⟨by simpa using nonempty, ?_⟩
      intro issue member
      obtain ⟨inner, given, rfl⟩ := List.mem_map.mp member
      exact further inner (each inner given)
  | _ =>
      intro l same
      contradiction

theorem IssuesSatisfy.refuseIf {x : Checked α} {problem? : α → Option Issue.Problem}
    (given : x.IssuesSatisfy P) (refused : ∀ problem, P ⟨problem, []⟩)
    : (x.refuseIf problem?).IssuesSatisfy P := by
  cases x with
  | ok a =>
      cases found : problem? a with
      | none => simpa [Checked.refuseIf, found] using .ok a
      | some problem => simpa [Checked.refuseIf, found] using .issue (refused problem)
  | issues l => exact given
  | failure e => exact given

/-- The issues of a mapping are those of its values, by list induction. -/
theorem IssuesSatisfy.entries {read : Datum → Checked α}
    (each : ∀ x, (read x).IssuesSatisfy Q)
    (further : ∀ name issue, Q issue → P (issue.under (.name name)))
    (fields : List (String × Datum))
    : (entries read fields).IssuesSatisfy P := by
  induction fields with
  | nil => exact .ok []
  | cons field rest ih =>
      obtain ⟨name, x⟩ := field
      rw [Checked.entries]
      exact (((each x).under (further name)).map _).seq ih

end Checked

namespace Field

open Checked (IssuesSatisfy)

/-- Nothing is said of the issues but that there are some. -/
def AnyIssue : Issue → Prop := fun _ => True

theorem issues_text (x : Datum) : (text x).IssuesSatisfy AnyIssue := by
  cases x with
  | text s => exact .ok s
  | _ => exact .issue trivial

theorem issues_properText (x : Datum) : (properText x).IssuesSatisfy AnyIssue :=
  (issues_text x).refuseIf fun _ => trivial

theorem issues_boolean (x : Datum) : (boolean x).IssuesSatisfy AnyIssue := by
  have ofInt (n : Int) : (intBool n).IssuesSatisfy AnyIssue := by
    unfold intBool
    split_ifs
    · exact .ok false
    · exact .ok true
    · exact .issue trivial
    · exact .issue trivial
  cases x with
  | bool b => exact .ok b
  | int n => exact ofInt n
  | double y =>
      simp only [boolean]
      split
      · exact ofInt _
      · exact .issue trivial
  | text s =>
      simp only [boolean, textBool]
      split_ifs
      · exact .ok true
      · exact .ok false
      · exact .issue trivial
  | _ => exact .issue trivial

variable {read : Datum → Checked α}

theorem issues_nullable (each : ∀ x, (read x).IssuesSatisfy P) (x : Datum)
    : (nullable read x).IssuesSatisfy P := by
  cases x with
  | null => exact .ok none
  | _ => exact (each _).map some

theorem issues_mapping (each : ∀ x, (read x).IssuesSatisfy AnyIssue) (x : Datum)
    : (mapping read x).IssuesSatisfy AnyIssue := by
  cases x with
  | record entries => exact (IssuesSatisfy.entries each (fun _ _ _ => trivial) entries).map _
  | _ => exact .issue trivial

theorem issues_optional (each : ∀ x, (read x).IssuesSatisfy Q) {name : String}
    (further : ∀ issue, Q issue → P (issue.under (.name name)))
    (entries : List (String × Datum)) (default : α)
    : (optional entries name default read).IssuesSatisfy P := by
  unfold optional
  cases entries.lookup name with
  | none => exact .ok default
  | some x => exact (each x).under further

theorem issues_record {read : List (String × Datum) → Checked α} (kind : String)
    (each : ∀ entries, (read entries).IssuesSatisfy AnyIssue) (x : Datum)
    : (record kind read x).IssuesSatisfy AnyIssue := by
  cases x with
  | record entries => exact each entries
  | _ => exact .issue trivial

end Field

end FeatureFlags
