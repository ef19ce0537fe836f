import FeatureFlags.Failure
import FeatureFlags.Unicode.Case

/-! The scale on which the importance of records is measured. Some of its numbers have names.
-/

namespace FeatureFlags.Log

/-- The numbers that have names. -/
def namedLevels : List (Nat × String) :=
  [(0, "NOTSET"), (10, "DEBUG"), (20, "INFO"), (30, "WARNING"), (40, "ERROR"), (50, "CRITICAL")]

/-- The name of a number. -/
def levelName (n : Int) : String :=
  match namedLevels.find? fun e => (e.1 : Int) = n with
  | some e => e.2
  | none => "Level " ++ toString n

/-- The number of warnings: where the scale is cut as long as nothing else was asked for. -/
def warningLevel : Nat := 30

/-- What a word stands for where the name of a level is expected. -/
inductive LevelWord where
  | level (n : Nat)
  /-- The word has a meaning, but not as a level. -/
  | other (reason : Failure)

namespace LevelWord

/-- The layout of a line for which a word stands. -/
def basicLayout : String := "%(levelname)s:%(name)s:%(message)s"

/-- The table of layouts for which a word stands. -/
def layoutTable : String :=
  "\x7b'%': (<class 'logging.PercentStyle'>, '%(levelname)s:%(name)s:%(message)s'), " ++
  "'\x7b': (<class 'logging.StrFormatStyle'>, '\x7blevelname\x7d:\x7bname\x7d:\x7bmessage\x7d'), " ++
  "'$': (<class 'logging.StringTemplateStyle'>, " ++
  "'$\x7blevelname\x7d:$\x7bname\x7d:$\x7bmessage\x7d')\x7d"

/-- The meaning of a word in capitals. -/
def ofCapitals? : String → Option LevelWord
  | "NOTSET" => some (.level 0)
  | "DEBUG" => some (.level 10)
  | "INFO" => some (.level 20)
  | "WARN" | "WARNING" => some (.level 30)
  | "ERROR" => some (.level 40)
  | "CRITICAL" | "FATAL" => some (.level 50)
  | "BASIC_FORMAT" => some (.other (.wrongValue ("Unknown level: " ++ Quoted.quote basicLayout)))
  | "_STYLES" =>
    some (.other (.wrongKind ("Level not an integer or a valid string: " ++ layoutTable)))
  | _ => none

/-- The meaning of a word, whatever the case of its letters. -/
def of? (word : String) : Option LevelWord :=
  ofCapitals? (String.ofList (word.toList.flatMap Unicode.asciiUpper))

/-- The level for which a word stands. -/
def level? : LevelWord → Except Failure Nat
  | level n => .ok n
  | other reason => .error reason

end LevelWord

end FeatureFlags.Log
