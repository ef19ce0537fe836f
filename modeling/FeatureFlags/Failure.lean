import FeatureFlags.Datum.Digits
import FeatureFlags.Fault
import FeatureFlags.Field.Issue
import FeatureFlags.Json.Reader
import FeatureFlags.Pattern.Fault
import FeatureFlags.Text.Utf8

/-! Everything that can end an operation without an answer: the faults of this library, refused
documents, and what goes wrong below them with numbers, texts, files and times.
-/

namespace FeatureFlags

/-- Why a file cannot be read or a directory cannot be made. -/
inductive FileError where
  | notFound
  | isDirectory
  /-- Something on the way to the file is no directory. -/
  | notDirectory
  /-- There is a file where a directory should be made. -/
  | occupied
deriving DecidableEq, Repr

def FileError.message : FileError → String
  | notFound => "No such file or directory"
  | isDirectory => "Is a directory"
  | notDirectory => "Not a directory"
  | occupied => "File exists"

/-- Why an operation ended without an answer. -/
inductive Failure where
  | fault (fault : Fault)
  /-- A record does not describe a thing of the given kind. -/
  | refused (kind : String) (issues : List Issue)
  | file (error : FileError)
  | bytes (fault : Utf8.Fault)
  | json (fault : Json.Fault)
  /-- A text is no regular expression. -/
  | pattern (text : String) (fault : Pattern.Fault)
  /-- An integer lies outside the range of doubles. -/
  | overflow
  /-- The quotient of two integers lies outside the range of doubles. -/
  | hugeQuotient
  /-- A number lies outside the range of what is made from it. -/
  | outOfRange (message : String)
  /-- A value of the named kind is used as a key or as a member. -/
  | unhashable (kind : String)
  /-- Only one of two moments has an offset. -/
  | mixedMoments
  /-- Calls are nested more deeply than is allowed. -/
  | tooDeep
  /-- A value of the named kind is used as if it were a table. -/
  | notTable (kind : String)
  /-- A value has the wrong kind for what is done with it. -/
  | wrongKind (message : String)
  /-- A value has the right kind and is still not acceptable. -/
  | wrongValue (message : String)
  /-- A value has no part of the given name. -/
  | noPart (message : String)
  /-- A name has no value. -/
  | unknownName (name : String)
  /-- Terminal markup closes what is not open. -/
  | markup (message : String)

namespace Failure

/-- What went wrong, in words. -/
def message : Failure → String
  | fault f => f.message
  | refused kind issues =>
    toString issues.length ++ " validation errors for " ++ kind
  | file e => e.message
  | bytes f => f.message
  | json f => f.message
  | pattern text f => f.message text.toList
  | overflow => "int too large to convert to float"
  | hugeQuotient => "integer division result too large for a float"
  | outOfRange m => m
  | unhashable kind => "unhashable type: '" ++ kind ++ "'"
  | mixedMoments => "can't compare offset-naive and offset-aware datetimes"
  | tooDeep => "maximum recursion depth exceeded"
  | notTable kind => "'" ++ kind ++ "' object does not support item assignment"
  | wrongKind m => m
  | wrongValue m => m
  | noPart m => m
  | unknownName name => Quoted.quote name
  | markup m => m

/-- What goes wrong when an integer with too many digits is written out. -/
def tooManyDigits : Failure :=
  .wrongValue ("Exceeds the limit (4300 digits) for integer string conversion; " ++
    "use sys.set_int_max_str_digits() to increase the limit")

/-- The text of an integer, if it can be written out. -/
def numeral (n : Int) : Except Failure String :=
  if (Datum.int n).isOverlong then .error tooManyDigits else .ok (toString n)

/-- What goes wrong when an integer with so many digits is read. -/
def tooManyDigitsRead (count : Nat) : Failure :=
  .wrongValue ("Exceeds the limit (4300 digits) for integer string conversion: value has " ++
    toString count ++ " digits; use sys.set_int_max_str_digits() to increase the limit")

/-- What goes wrong when a text is not read, if something is said of what is wrong with it. -/
def ofUnread {ε : Type} (describe : ε → Failure) : Unread ε → Failure
  | .malformed what => describe what
  | .tooManyDigits count => .tooManyDigitsRead count

/-- A fault whose message quotes values, if these can be written out. -/
def quoting (values : List Datum) (fault : Fault) : Failure :=
  if values.any Datum.isOverlong then .tooManyDigits else .fault fault

end Failure

end FeatureFlags
