import FeatureFlags.Failure

/-! The outcome of reading part of a document. Independent parts are all read, so that the issues of
all of them are reported together, in the order of the parts. Some values cannot even be looked at;
such a failure ends the reading at once.
-/

namespace FeatureFlags

/-- What reading part of a document has led to. -/
inductive Checked (α : Type) where
  | ok (value : α)
  | issues (issues : List Issue)
  | failure (failure : Failure)

namespace Checked

variable {α β : Type}

protected def map (f : α → β) : Checked α → Checked β
  | ok a => ok (f a)
  | issues l => issues l
  | failure e => failure e

/-- Reads two parts; the issues of the first one come first. -/
protected def seq (f : Checked (α → β)) (x : Unit → Checked α) : Checked β :=
  match f with
  | ok g => (x ()).map g
  | failure e => failure e
  | issues l =>
    match x () with
    | ok _ => issues l
    | issues m => issues (l ++ m)
    | failure e => failure e

instance : Applicative Checked where
  pure := ok
  map := Checked.map
  seq := Checked.seq

/-- Refuses a value. -/
def issue (problem : Issue.Problem) : Checked α := issues [⟨problem, []⟩]

/-- The outcome for a part, seen from one step further out. -/
def under (step : Issue.Step) : Checked α → Checked α
  | issues l => issues (l.map (Issue.under step))
  | x => x

/-- Refuses a value that has been read and that does not meet a condition. -/
def refuseIf (problem? : α → Option Issue.Problem) : Checked α → Checked α
  | ok a =>
    match problem? a with
    | some problem => issue problem
    | none => ok a
  | x => x

/-- Reads the items of a sequence, of which the first one has the given index. -/
def items (read : Datum → Checked α) (index : Nat) : List Datum → Checked (List α)
  | [] => ok []
  | x :: rest => List.cons <$> (read x).under (.index index) <*> items read (index + 1) rest

/-- Reads the values of a mapping. -/
def entries (read : Datum → Checked α) : List (String × Datum) → Checked (List (String × α))
  | [] => ok []
  | (name, x) :: rest =>
    (fun a all => (name, a) :: all) <$> (read x).under (.name name) <*> entries read rest

/-- The outcome for a whole record of a kind. -/
def toExcept (kind : String) : Checked α → Except Failure α
  | ok a => .ok a
  | issues l => .error (.refused kind l)
  | failure e => .error e

end Checked

end FeatureFlags
