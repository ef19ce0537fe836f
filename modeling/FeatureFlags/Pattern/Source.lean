import FeatureFlags.Pattern.Fault
import FeatureFlags.Pattern.Term

/-! The text of a regular expression while it is read: its characters, in pairs where a backslash
comes first, and what is known so far about its groups and flags.
-/

namespace FeatureFlags.Pattern

/-- A unit of the text. -/
inductive Token where
  | plain (c : Char)
  /-- A backslash and a character. -/
  | escaped (c : Char)
  /-- A backslash at the end. -/
  | dangling
deriving DecidableEq, Repr

namespace Token

def text : Token → List Char
  | plain c => [c]
  | escaped c => ['\\', c]
  | dangling => ['\\']

def length (t : Token) : Nat := t.text.length

/-- The units of a text. -/
def split : List Char → List Token
  | [] => []
  | ['\\'] => [dangling]
  | '\\' :: c :: rest => escaped c :: split rest
  | c :: rest => plain c :: split rest

/-- Whether the unit is a character of a class. -/
def isPlain (p : Char → Bool) : Token → Bool
  | plain c => p c
  | _ => false

end Token

/-- What is left of the text, and what has been read so far. -/
structure Source where
  rest : List Token
  /-- The number of characters before the rest. -/
  position : Nat
  /-- The letters of the flags that hold for the whole expression. -/
  flags : List Char
  /-- The widths of the groups in their order; those still open have none. -/
  widths : Array (Option Width)
  names : List (String × Nat)
  /-- The number that the first group within the outermost open look-behind has or would have. -/
  barrier : Option Nat
  /-- Groups that conditions ask for, and where each was first asked for. -/
  asked : List (Nat × Nat)

/-- A step of reading. -/
abbrev Reading := StateT Source (Except Fault)

namespace Reading

/-- Fails at a given place. -/
def failAt {α : Type} (reason : Reason) (position : Nat) : Reading α :=
  throw (.malformed reason (some position))

/-- Fails so many characters before the place that was reached. -/
def fail {α : Type} (reason : Reason) (back : Nat) : Reading α := do
  failAt reason ((← get).position - back)

/-- The next unit. -/
def peek : Reading (Option Token) := return (← get).rest.head?

/-- Drops the next unit. A backslash at the end of the text is refused as soon as it comes next. -/
def advance : Reading Unit := do
  let source ← get
  match source.rest with
  | [] => return
  | t :: rest =>
    let position := source.position + t.length
    if rest.head? = some .dangling then failAt .trailingBackslash position
    set { source with rest, position }

/-- Takes the next unit. -/
def next : Reading (Option Token) := do
  let t ← peek
  advance
  return t

/-- Takes a character if it comes next. -/
def accept (c : Char) : Reading Bool := do
  if (← peek) = some (.plain c) then
    advance
    return true
  else
    return false

/-- Takes characters of a class, at most a given number of them. -/
def takeWhile (p : Char → Bool) : Nat → Reading (List Char)
  | 0 => return []
  | most + 1 => do
    match ← peek with
    | some (.plain c) =>
      if p c then
        advance
        return c :: (← takeWhile p most)
      else
        return []
    | _ => return []

/-- Takes all characters of a class. -/
def takeAll (p : Char → Bool) : Reading (List Char) := do takeWhile p (← get).rest.length

/-- Takes what stands before a terminator and the terminator; `read` is what was taken so far. -/
def takeUntil (terminator : Char) (what : String) (read : List Char)
    : Nat → Reading (List Char)
  | 0 => return read
  | fuel + 1 => do
    match ← next with
    | none =>
      if read.isEmpty then fail (.missingName what) 0
      else fail (.unterminatedName terminator) read.length
    | some t =>
      if t = .plain terminator then
        if read.isEmpty then fail (.missingName what) 1 else return read
      else
        takeUntil terminator what (read ++ t.text) fuel

/-- Takes a name and its terminator. -/
def name (terminator : Char) (what : String) : Reading String := do
  return String.ofList (← takeUntil terminator what [] ((← get).rest.length + 1))

/-- Drops everything up to a character, and the character; answers whether it was found. -/
def skipPast (c : Char) : Nat → Reading Bool
  | 0 => return false
  | fuel + 1 => do
    match ← next with
    | none => return false
    | some t => if t = .plain c then return true else skipPast c fuel

/-- The number that the next group gets. -/
def nextNumber : Reading Nat := return (← get).widths.size + 1

/-- The width of a group that is closed. -/
def closedWidth? (number : Nat) : Reading (Option Width) := do
  if number = 0 then return none
  return ((← get).widths[number - 1]?).join

/-- Refuses, within a look-behind, references to groups that are open or within it. -/
def checkBarrier (number : Nat) : Reading Unit := do
  match (← get).barrier with
  | none => return
  | some barrier =>
    if (← closedWidth? number).isNone then fail .openGroup 0
    if barrier ≤ number then fail .sameLookBehind 0

/-- Opens a group, which may have a name. -/
def openGroup (name : Option String) : Reading Nat := do
  let number ← nextNumber
  modify fun s => { s with widths := s.widths.push none }
  if let some name := name then
    match (← get).names.lookup name with
    | some former => fail (.redefinedGroup name number former) (name.length + 1)
    | none => modify fun s => { s with names := (name, number) :: s.names }
  return number

/-- Closes a group of a given width. -/
def closeGroup (number : Nat) (width : Width) : Reading Unit :=
  modify fun s => { s with widths := s.widths.setIfInBounds (number - 1) (some width) }

end Reading

end FeatureFlags.Pattern
