import FeatureFlags.Command.Arguments
import FeatureFlags.Field.Basic
import FeatureFlags.Json.Reader
import FeatureFlags.Percentage
import FeatureFlags.Text.Likeness

/-! What the command line can ask for.
-/

namespace FeatureFlags.Command

/-- What a command line asks for. -/
inductive Request where
  /-- To evaluate a flag for an entity. -/
  | evaluate (path flagKey : String) (environment entity fallback : Option String)
    (attributes : List String) (moment : Option Moment) (json : Bool)
  /-- To show the bucket of an entity, and whether it is within a percentage. -/
  | bucket (scope entity : String) (percentage : Option Percentage)
  /-- To check a snapshot. -/
  | validate (path : Option String)
  /-- To list the flags of an environment. -/
  | flags (path environment : Option String)
  /-- To show how the command is used. -/
  | help

namespace Request

def helpSwitch : Switch := ⟨"help", none, false⟩

/-- The options that come before the name of a command. -/
def commonSwitches : List Switch := [⟨"verbose", some 'v', false⟩, helpSwitch]

/-- The names of the commands. -/
def commandNames : List String := ["evaluate", "bucket", "validate", "flags"]

/-- The options of a command. -/
def switches (command : String) : List Switch :=
  helpSwitch :: match command with
    | "evaluate" =>
      [⟨"env", some 'e', true⟩, ⟨"entity", none, true⟩, ⟨"attr", some 'a', true⟩,
        ⟨"fallback", none, true⟩, ⟨"at", none, true⟩, ⟨"json", none, false⟩]
    | "bucket" => [⟨"percentage", some 'p', true⟩]
    | "flags" => [⟨"env", some 'e', true⟩]
    | _ => []

/-- Reads the value of an option. -/
def readValue {α : Type} (read : Datum → Checked α) (text : Option String)
    : Except Misuse (Option α) :=
  match text with
  | none => .ok none
  | some s =>
    match read (.text s) with
    | .ok a => .ok (some a)
    | .issues (issue :: _) => .error (.badValue issue.problem.message)
    | _ => .error (.badValue "")

/-- Takes operands that have to be there, of which there are `count`. -/
def require (count : Nat) (operands : List String) : Except Misuse Unit :=
  if operands.length < count then .error .missingOperand else .ok ()

/-- Refuses operands after the first `count`. -/
def refuseMore (count : Nat) (operands : List String) : Except Misuse Unit :=
  if (operands.drop count).isEmpty then .ok ()
  else
    .error (.wrong
      ("Got unexpected extra argument(s) (" ++ " ".intercalate (operands.drop count) ++ ")"))

/-- The request of a command with its arguments. -/
def ofArguments (command : String) (a : Arguments) : Except Misuse Request := do
  let operand (i : Nat) : String := a.operands.getD i ""
  if a.has "help" then return .help
  match command with
  | "evaluate" =>
    let moment ← readValue Field.moment (a.value? "at")
    require 2 a.operands
    refuseMore 2 a.operands
    return .evaluate (operand 0) (operand 1) (a.value? "env") (a.value? "entity")
      (a.value? "fallback") (a.values "attr") (moment.map (·.toMoment)) (a.has "json")
  | "bucket" =>
    let percentage ← readValue Percentage.read (a.value? "percentage")
    require 2 a.operands
    refuseMore 2 a.operands
    return .bucket (operand 0) (operand 1) percentage
  | "validate" =>
    refuseMore 1 a.operands
    return .validate a.operands.head?
  | _ =>
    refuseMore 1 a.operands
    return .flags a.operands.head? (a.value? "env")

/-- The request of a command with what follows its name. -/
def read (command : String) (arguments : List String) : Except Misuse Request := do
  ofArguments command (← Arguments.read (switches command) true arguments)

/-- What is said about a command that does not exist. -/
def noCommand (name : String) : Misuse :=
  let close := Likeness.closest name commandNames
  .wrong ("No such command " ++ Quoted.quote name ++ "." ++
    if close.isEmpty then ""
    else " Did you mean " ++ ", ".intercalate (close.map Quoted.quote) ++ "?")

/-! ### Attributes -/

/-- The value that a text stands for: what it is as JSON, or else the text itself. -/
def looseValue (text : String) : Except Failure Datum :=
  match Json.read text.toList with
  | .ok x => .ok x
  | .error (.malformed fault) =>
    -- A text with half of a pair of surrogates is JSON all the same, only it cannot be held here.
    if fault.reason = .unpairedSurrogate then .error (.json fault) else .ok (.text text)
  | .error unread => .error (.ofUnread .json unread)

/-- The name of an attribute on the command line and the text of its value. -/
def splitAttribute (text : String) : Except Misuse (String × String) :=
  let name := text.toList.takeWhile (· ≠ '=')
  match name, text.toList.dropWhile (· ≠ '=') with
  | _ :: _, _ :: value => .ok (String.ofList name, String.ofList value)
  | _, _ => .error (.badValue ("expected name=value, got " ++ Quoted.quote text))

end Request

end FeatureFlags.Command
