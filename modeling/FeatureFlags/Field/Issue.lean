import FeatureFlags.Datum.Basic

/-! Issues with the fields of a document: what is wrong, and where.
-/

namespace FeatureFlags

namespace Issue

/-- One step of the way from a document to a value within it. -/
inductive Step where
  | name (name : String)
  | index (index : Nat)
deriving DecidableEq, Repr

/-- What is wrong with a value. -/
inductive Problem where
  | missing
  /-- The value is no record that could describe a thing of the given kind. -/
  | notRecord (kind : String)
  | notText
  | notList
  | notTuple
  | notSet
  | notMapping
  | tooShort
  /-- The value is none of the words that the field allows. -/
  | notMember (words : List String)
  /-- The value is none of the words that the field allows, which are levels. -/
  | notLevel (words : List String)
  | belowLeast (least : Int)
  | aboveGreatest (greatest : Int)
  | notInteger
  | unreadableInteger
  | fraction
  | hugeInteger
  | infinite
  | notBoolean
  | unreadableBoolean
  /-- A rule of the field itself refuses the value. -/
  | refused (reason : String)
  | notMoment
  | unreadableMoment (detail : String)
  | unreadableMomentOrDate (detail : String)
deriving DecidableEq, Repr

/-- Words in quotes, separated by commas, the last one by `or`. -/
def alternatives (words : List String) : String :=
  let quoted := words.map fun w => "'" ++ w ++ "'"
  match quoted.getLast? with
  | none => ""
  | some last =>
    match quoted.dropLast with
    | [] => last
    | others => ", ".intercalate others ++ " or " ++ last

/-- The identifier of a problem. -/
def Problem.code : Problem → String
  | missing => "missing"
  | notRecord _ => "model_type"
  | notText => "string_type"
  | notList => "list_type"
  | notTuple => "tuple_type"
  | notSet => "frozen_set_type"
  | notMapping => "dict_type"
  | tooShort => "string_too_short"
  | notMember _ => "enum"
  | notLevel _ => "literal_error"
  | belowLeast _ => "greater_than_equal"
  | aboveGreatest _ => "less_than_equal"
  | notInteger => "int_type"
  | unreadableInteger => "int_parsing"
  | fraction => "int_from_float"
  | hugeInteger => "int_parsing_size"
  | infinite => "finite_number"
  | notBoolean => "bool_type"
  | unreadableBoolean => "bool_parsing"
  | refused _ => "value_error"
  | notMoment => "datetime_type"
  | unreadableMoment _ => "datetime_parsing"
  | unreadableMomentOrDate _ => "datetime_from_date_parsing"

/-- What a problem is, in words. -/
def Problem.message : Problem → String
  | missing => "Field required"
  | notRecord kind => "Input should be a valid dictionary or instance of " ++ kind
  | notText => "Input should be a valid string"
  | notList => "Input should be a valid list"
  | notTuple => "Input should be a valid tuple"
  | notSet => "Input should be a valid frozenset"
  | notMapping => "Input should be a valid dictionary"
  | tooShort => "String should have at least 1 character"
  | notMember words => "Input should be " ++ alternatives words
  | notLevel words => "Input should be " ++ alternatives words
  | belowLeast least => "Input should be greater than or equal to " ++ toString least
  | aboveGreatest greatest => "Input should be less than or equal to " ++ toString greatest
  | notInteger => "Input should be a valid integer"
  | unreadableInteger => "Input should be a valid integer, unable to parse string as an integer"
  | fraction => "Input should be a valid integer, got a number with a fractional part"
  | hugeInteger => "Unable to parse input string as an integer, exceeded maximum size"
  | infinite => "Input should be a finite number"
  | notBoolean => "Input should be a valid boolean"
  | unreadableBoolean => "Input should be a valid boolean, unable to interpret input"
  | refused reason => "Value error, " ++ reason
  | notMoment => "Input should be a valid datetime"
  | unreadableMoment detail => "Input should be a valid datetime, " ++ detail
  | unreadableMomentOrDate detail => "Input should be a valid datetime or date, " ++ detail

def Step.datum : Step → Datum
  | .name n => .text n
  | .index i => .int i

end Issue

/-- A problem and the way to the value that has it. -/
structure Issue where
  problem : Issue.Problem
  path : List Issue.Step
deriving DecidableEq, Repr

namespace Issue

/-- The same issue, seen from one step further out. -/
def under (step : Step) (issue : Issue) : Issue := { issue with path := step :: issue.path }

/-- An issue as loose data. -/
def datum (issue : Issue) : Datum :=
  .record [("type", .text issue.problem.code), ("loc", .list (issue.path.map Step.datum)),
    ("msg", .text issue.problem.message)]

end Issue

end FeatureFlags
