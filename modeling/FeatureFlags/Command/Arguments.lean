/-! Command lines: options with one or two dashes among operands. An option that takes a value has it
attached or in the next argument; options of one letter can be joined. After two dashes alone there
are only operands.
-/

namespace FeatureFlags.Command

/-- Why a command line cannot be used. -/
inductive Misuse where
  | wrong (message : String)
  | badValue (message : String)
  | missingOperand
  | unknownOption (spelling : String)
  | badOption (message : String)
deriving DecidableEq, Repr

namespace Misuse

/-- What is wrong, in words. -/
def message : Misuse → String
  | wrong m => m
  | badValue m => m
  | missingOperand => ""
  | unknownOption s => "No such option: " ++ s
  | badOption m => m

/-- The misuse that an option has a value which it does not take. -/
def needlessValue (spelling : String) : Misuse :=
  .badOption ("Option '" ++ spelling ++ "' does not take a value.")

/-- The misuse that an option comes without its value. -/
def valueMissing (spelling : String) : Misuse :=
  .badOption ("Option '" ++ spelling ++ "' requires an argument.")

end Misuse

/-- An option. -/
structure Switch where
  /-- The name without dashes. -/
  name : String
  letter : Option Char
  takesValue : Bool
deriving DecidableEq, Repr

/-- What the arguments say. -/
structure Arguments where
  /-- The options with their values, in the order in which they were given. -/
  options : List (String × String)
  operands : List String
deriving DecidableEq, Repr

namespace Arguments

/-- An option without its value, and how it was spelled. -/
structure Waiting where
  switch : Switch
  spelling : String

/-- Options of an argument; the last one may wait for a value. -/
structure Reading where
  options : List (String × String)
  waiting : Option Waiting

/-- Reads letters of joined options. -/
def readLetters (switches : List Switch) : List Char → Except Misuse Reading
  | [] => .ok ⟨[], none⟩
  | c :: rest =>
    let spelling := "-" ++ c.toString
    match switches.find? fun s => s.letter == some c with
    | none => .error (.unknownOption spelling)
    | some switch =>
      if switch.takesValue then
        .ok (if rest.isEmpty then ⟨[], some ⟨switch, spelling⟩⟩
          else ⟨[(switch.name, String.ofList rest)], none⟩)
      else do
        let reading ← readLetters switches rest
        return { reading with options := (switch.name, "") :: reading.options }

/-- Reads an argument that begins with a dash. -/
def readOptions (switches : List Switch) (argument : List Char) : Except Misuse Reading :=
  let name := argument.takeWhile (· ≠ '=')
  let spelling := String.ofList name
  match switches.find? fun s => "--" ++ s.name == spelling with
  | some switch =>
    match argument.dropWhile (· ≠ '='), switch.takesValue with
    | [], true => .ok ⟨[], some ⟨switch, spelling⟩⟩
    | [], false => .ok ⟨[(switch.name, "")], none⟩
    | _ :: value, true => .ok ⟨[(switch.name, String.ofList value)], none⟩
    | _ :: _, false => .error (.needlessValue spelling)
  | none =>
    match argument with
    | '-' :: '-' :: _ => .error (.unknownOption spelling)
    | _ => readLetters switches argument.tail

/-- Whether an argument holds options. -/
def isOption (argument : String) : Bool :=
  argument.startsWith "-" && argument ≠ "-"

/-- Reads arguments. Unless options and operands are `mixed` the first operand ends the options. -/
def read (switches : List Switch) (mixed : Bool) : List String → Except Misuse Arguments
  | [] => .ok ⟨[], []⟩
  | argument :: rest =>
    if argument = "--" then .ok ⟨[], rest⟩
    else if isOption argument then do
      let reading ← readOptions switches argument.toList
      match reading.waiting, rest with
      | none, rest =>
        let others ← read switches mixed rest
        return { others with options := reading.options ++ others.options }
      | some w, [] => throw (.valueMissing w.spelling)
      | some w, value :: rest =>
        let others ← read switches mixed rest
        return { others with
          options := reading.options ++ (w.switch.name, value) :: others.options }
    else if mixed then do
      let others ← read switches mixed rest
      return { others with operands := argument :: others.operands }
    else .ok ⟨[], argument :: rest⟩

/-- The last value of an option. -/
def value? (a : Arguments) (name : String) : Option String := a.options.reverse.lookup name

/-- All values of an option. -/
def values (a : Arguments) (name : String) : List String :=
  (a.options.filter fun e => e.1 == name).map Prod.snd

def has (a : Arguments) (name : String) : Bool := (a.value? name).isSome

end Arguments

end FeatureFlags.Command
