import FeatureFlags.Pattern.Source
import FeatureFlags.Unicode.Identifier
import FeatureFlags.Unicode.Names

/-! Reading parts of regular expressions: escapes, sets of characters, flags and repetitions.
-/

namespace FeatureFlags.Pattern

/-- The flags under which terms are read. -/
structure Mode where
  ignoreCase : Bool
  multiLine : Bool
  dotAll : Bool
  /-- White space and comments stand for nothing. -/
  verbose : Bool
  /-- Categories, boundaries and case concern ASCII alone. -/
  ascii : Bool

namespace Mode

/-- The mode with flags turned on and off. -/
def switch (mode : Mode) (on off : List Char) : Mode where
  ignoreCase := (mode.ignoreCase || on.contains 'i') && !off.contains 'i'
  multiLine := (mode.multiLine || on.contains 'm') && !off.contains 'm'
  dotAll := (mode.dotAll || on.contains 's') && !off.contains 's'
  verbose := (mode.verbose || on.contains 'x') && !off.contains 'x'
  ascii := on.contains 'a' || (mode.ascii && !on.contains 'u')

/-- The mode of the flags of a whole expression. -/
def ofFlags (flags : List Char) : Mode := switch ⟨false, false, false, false, false⟩ flags []

def casing (mode : Mode) : Casing :=
  if mode.ignoreCase then (if mode.ascii then .ascii else .any) else .exact

end Mode

namespace Reading

/-! ### Escapes -/

def isOctal (c : Char) : Bool := '0' ≤ c && c ≤ '7'

def isHexadecimal (c : Char) : Bool :=
  c.isDigit || ('a' ≤ c && c ≤ 'f') || ('A' ≤ c && c ≤ 'F')

def digitValue (c : Char) : Nat :=
  if c.isDigit then c.toNat - 48 else c.toLower.toNat - 87

/-- The number of a sequence of digits. -/
def numeral (base : Nat) (digits : List Char) : Nat :=
  digits.foldl (fun n c => n * base + digitValue c) 0

/-- Characters with an escape of one letter. -/
def controlCode? (c : Char) : Option Nat :=
  match c with
  | 'a' => some 7
  | 'b' => some 8
  | 't' => some 9
  | 'n' => some 10
  | 'v' => some 11
  | 'f' => some 12
  | 'r' => some 13
  | '\\' => some 92
  | _ => none

/-- The category of an escape, and whether it is negated. -/
def category? (c : Char) : Option (Category × Bool) :=
  match c with
  | 'd' => some (.digit, false)
  | 'D' => some (.digit, true)
  | 's' => some (.space, false)
  | 'S' => some (.space, true)
  | 'w' => some (.word, false)
  | 'W' => some (.word, true)
  | _ => none

/-- The greatest code point. -/
def greatestCode : Nat := 0x10FFFF

/-- A code point of a fixed number of digits to base sixteen. -/
def hexadecimalEscape (c : Char) (places : Nat) : Reading Nat := do
  let digits ← takeWhile isHexadecimal places
  let text := '\\' :: c :: digits
  if digits.length < places then fail (.incompleteEscape (String.ofList text)) text.length
  let code := numeral 16 digits
  if greatestCode < code then fail (.badEscape (String.ofList text)) text.length
  return code

/-- An escape that stands for one code point, by a number or by a name. -/
def codeEscape (c : Char) : Reading Nat := do
  match c with
  | 'x' => hexadecimalEscape c 2
  | 'u' => hexadecimalEscape c 4
  | 'U' => hexadecimalEscape c 8
  | 'N' =>
    unless ← accept '\x7b' do fail .missingBrace 0
    let name ← name '\x7d' "character name"
    match Unicode.namedCode? name with
    | some code => return code
    | none => fail (.unknownCharacter name) (name.length + 4)
  | c =>
    if c.isAlphanum then fail (.badEscape (String.ofList ['\\', c])) 2
    return c.toNat

/-- The value of an octal escape. -/
def octal (digits : List Char) : Reading Nat := do
  let code := numeral 8 digits
  if 0o377 < code then
    let text := '\\' :: digits
    fail (.hugeOctal (String.ofList text)) text.length
  return code

/-- An escape within a set. -/
def memberEscape (mode : Mode) (c : Char) : Reading Member := do
  match controlCode? c, category? c with
  | some code, _ => return .code code
  | none, some (category, negated) => return .category category negated mode.ascii
  | none, none =>
    if isOctal c then return .code (← octal (c :: (← takeWhile isOctal 2)))
    return .code (← codeEscape c)

/-- A term that matches one code point. -/
def codeTerm (mode : Mode) (code : Nat) : Term := .one (.code code mode.casing false)

/-- A reference to a group by the digits of its number. -/
def numberedReference (mode : Mode) (digits : List Char) : Reading Term := do
  let number := numeral 10 digits
  if number < (← nextNumber) then
    match ← closedWidth? number with
    | none => fail .openGroup (digits.length + 1)
    | some width =>
      checkBarrier number
      return .reference number mode.casing width
  fail (.unknownGroup number) digits.length

/-- An escape that begins with a digit: three octal digits or a reference to a group. -/
def digitEscape (mode : Mode) (c : Char) : Reading Term := do
  if c = '0' then
    return codeTerm mode (numeral 8 (← takeWhile isOctal 2))
  let digits := c :: (← takeWhile Char.isDigit 1)
  -- Three octal digits give a code even where there is a group of that number.
  if digits.length = 2 && digits.all isOctal then
    let more ← takeWhile isOctal 1
    unless more.isEmpty do return codeTerm mode (← octal (digits ++ more))
  numberedReference mode digits

/-- An escape outside of sets. -/
def termEscape (mode : Mode) (c : Char) : Reading Term := do
  match c with
  | 'A' => return .anchor .start
  | 'Z' => return .anchor .textEnd
  | 'b' => return .anchor (.boundary false mode.ascii)
  | 'B' => return .anchor (.boundary true mode.ascii)
  | c =>
    match category? c, controlCode? c with
    | some (category, negated), _ =>
      return .one (.set [.category category negated mode.ascii] .exact false)
    | none, some code => return codeTerm mode code
    | none, none =>
      if c.isDigit then digitEscape mode c else return codeTerm mode (← codeEscape c)

/-! ### Sets -/

/-- A member of a set that does not end a range. -/
def member (mode : Mode) : Token → Reading Member
  | .escaped c => memberEscape mode c
  | .plain c => return .code c.toNat
  | .dangling => return .code 92

/-- The members of a set that begins at `start`, up to the closing bracket. -/
def members (mode : Mode) (start : Nat) (read : List Member) : Nat → Reading (List Member)
  | 0 => return read
  | fuel + 1 => do
    match ← next with
    | none => failAt .unterminatedSet start
    | some first =>
      -- A bracket that comes first is a member.
      if first = .plain ']' && !read.isEmpty then return read
      let left ← member mode first
      unless ← accept '-' do return ← members mode start (read ++ [left]) fuel
      match ← next with
      | none => failAt .unterminatedSet start
      | some last =>
        -- A hyphen in front of the closing bracket is a member.
        if last = .plain ']' then return read ++ [left, .code '-'.toNat]
        let refuse : Reading (List Member) :=
          fail (.badRange (String.ofList first.text) (String.ofList last.text))
            (first.length + 1 + last.length)
        match left, ← member mode last with
        | .code least, .code greatest =>
          if greatest < least then refuse
          else members mode start (read ++ [.range least greatest]) fuel
        | _, _ => refuse

/-- A set whose bracket has been read. -/
def characterSet (mode : Mode) : Reading Term := do
  let start := (← get).position - 1
  let negated ← accept '^'
  match (← members mode start [] ((← get).rest.length + 1)).eraseDups with
  | [.code n] => return .one (.code n mode.casing negated)
  | members => return .one (.set members mode.casing negated)

/-! ### Flags -/

def isFlag (c : Char) : Bool := ['i', 'L', 'm', 's', 'x', 'a', 't', 'u'].contains c

/-- Flags that say which characters are letters. -/
def isCharacterFlag (c : Char) : Bool := c = 'a' || c = 'L' || c = 'u'

def isLetter (t : Token) : Bool :=
  t.isPlain fun c => c.isAlpha || (127 < c.toNat && Unicode.isIdentifier [c])

/-- The flags that follow `flag` and one of the given terminators; `read` are those before it. -/
def flagLetters (check : Char → List Char → Reading Unit) (terminators : List Char)
    (missing : Reason) (flag : Char) (read : List Char) : Nat → Reading (List Char × Char)
  | 0 => return (read, flag)
  | fuel + 1 => do
    let read := if read.contains flag then read else read ++ [flag]
    check flag read
    match ← next with
    | none => fail missing 0
    | some (.plain c) =>
      if terminators.contains c then return (read, c)
      if isFlag c then flagLetters check terminators missing c read fuel
      else fail (if isLetter (.plain c) then .unknownFlag else missing) 1
    | some _ => fail missing 2

def checkFlagOn (flag : Char) (read : List Char) : Reading Unit := do
  if flag = 'L' then fail .byteFlag 0
  if isCharacterFlag flag && read.any (fun c => isCharacterFlag c && c != flag) then
    fail .incompatibleFlags 0

def checkFlagOff (flag : Char) (_ : List Char) : Reading Unit := do
  if isCharacterFlag flag then fail .characterFlagOff 0

/-- The flags that a minus sign turns off. -/
def flagsOff : Reading (List Char) := do
  match ← next with
  | none => fail .missingFlag 0
  | some t =>
    match t with
    | .plain c =>
      if isFlag c then
        return (← flagLetters checkFlagOff [':'] .missingColon c [] ((← get).rest.length + 1)).1
      fail (if isLetter t then .unknownFlag else .missingFlag) 1
    | _ => fail .missingFlag t.length

/-- Flags turned on and off for a group, or none if they hold for the whole expression. -/
def flags (first : Char) : Reading (Option (List Char × List Char)) := do
  let (on, terminator) ←
    if first = '-' then pure ([], '-')
    else
      flagLetters checkFlagOn [')', '-', ':'] .missingFlagEnd first [] ((← get).rest.length + 1)
  if terminator = ')' then
    modify fun s => { s with flags := s.flags ++ on }
    return none
  if on.contains 't' then fail .globalFlagOn 1
  let off ← if terminator = '-' then flagsOff else pure []
  if off.contains 't' then fail .globalFlagOff 1
  if on.any off.contains then fail .flagOnAndOff 1
  return some (on, off)

/-! ### Repetition -/

/-- Counts from this one on are too large. -/
def countless : Nat := 4294967295

def count (digits : List Char) : Reading (Option Nat) := do
  if digits.isEmpty then return none
  let n := numeral 10 digits
  if countless ≤ n then throw .countless
  return some n

/-- The least and the greatest number of repetitions within braces, or nothing if the brace
stands for itself. -/
def bounds : Reading (Option (Nat × Option Nat)) := do
  let before ← get
  if (← peek) = some (.plain '\x7d') then return none
  let low ← takeAll Char.isDigit
  let high ← if ← accept ',' then takeAll Char.isDigit else pure low
  -- Without the closing brace the opening one is a plain character, and all is read again.
  unless ← accept '\x7d' do
    set before
    return none
  let least := (← count low).getD 0
  let most ← count high
  if most.any (· < least) then failAt .reversedRepeat before.position
  return some (least, most)

/-- The numbers of repetitions that a sign asks for, or nothing if it stands for itself. -/
def repetition (sign : Char) : Reading (Option (Nat × Option Nat)) :=
  match sign with
  | '?' => return some (0, some 1)
  | '*' => return some (0, none)
  | '+' => return some (1, none)
  | _ => bounds

/-- Reads the mark that says in which order numbers of repetitions are tried. -/
def strategy : Reading Strategy := do
  if ← accept '?' then return .lazy
  if ← accept '+' then return .possessive
  return .greedy

/-- Repeats the last of some terms, which are given last one first. -/
def repeatLast (read : List Term) (least : Nat) (most : Option Nat) (start : Nat)
    : Reading (List Term) := do
  match read with
  | [] | .anchor _ :: _ => failAt .nothingToRepeat start
  | .repeated _ _ _ _ :: _ => failAt .multipleRepeat start
  | t :: before => return .repeated (← strategy) least most [t] :: before

end Reading

end FeatureFlags.Pattern
