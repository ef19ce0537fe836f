import FeatureFlags.Pattern.Parts

/-! Reading regular expressions. Groups are numbered in the order in which they are opened; flags at
the start hold for the whole expression, flags of a group within it.
-/

namespace FeatureFlags.Pattern

namespace Reading

/-! ### Groups -/

/-- A name of a group. -/
def groupName (terminator : Char) : Reading String := do
  let name ← name terminator "group name"
  unless Unicode.isIdentifier name.toList do fail (.badGroupName name) (name.length + 1)
  return name

/-- A reference to a group by its name. -/
def namedReference (mode : Mode) : Reading Term := do
  let name ← groupName ')'
  match (← get).names.lookup name with
  | none => fail (.unknownGroupName name) (name.length + 1)
  | some number =>
    match ← closedWidth? number with
    | none => fail .openGroup (name.length + 1)
    | some width =>
      checkBarrier number
      return .reference number mode.casing width

/-- Digits of any script, single underscores between them. -/
def groupDigits : List Char → Option (List Nat)
  | [] => none
  | [c] => (decimalValue? c).map fun d => [d]
  | c :: '_' :: rest => do return (← decimalValue? c) :: (← groupDigits rest)
  | c :: rest => do return (← decimalValue? c) :: (← groupDigits rest)
where
  decimalValue? (c : Char) : Option Nat :=
    if Unicode.decimalDigit.contains c then some (Unicode.decimalValue c) else none

/-- The number of a group, with a sign and white space around it. -/
def groupNumber? (name : String) : Option Nat := do
  let text := Unicode.trim Unicode.space.contains name.toList
  let (negative, digits) := match text with
    | '-' :: rest => (true, rest)
    | '+' :: rest => (false, rest)
    | _ => (false, text)
  let n := (← groupDigits digits).foldl (fun n d => n * 10 + d) 0
  if negative && n != 0 then none else some n

/-- No more groups than this can be counted. -/
def mostGroups : Nat := 1073741823

/-- The group that a condition asks for. -/
def askedGroup : Reading Nat := do
  let name ← name ')' "group name"
  let number ←
    if Unicode.isIdentifier name.toList then
      match (← get).names.lookup name with
      | some number => pure number
      | none => fail (.unknownGroupName name) (name.length + 1)
    else
      match groupNumber? name with
      | none => fail (.badGroupName name) (name.length + 1)
      | some 0 => fail .badGroupNumber (name.length + 1)
      | some number =>
        if mostGroups ≤ number then fail (.unknownGroup number) (name.length + 1)
        -- Whether the group exists is known only at the end.
        modify fun s =>
          if s.asked.any (·.1 == number) then s
          else { s with asked := s.asked ++ [(number, s.position - name.length - 1)] }
        pure number
  checkBarrier number
  return number

/-- What the text after an opening parenthesis turned out to be. -/
inductive Opening where
  /-- A term that is complete. -/
  | term (term : Term)
  | comment
  /-- Flags of the whole expression. -/
  | flags
  /-- A group that remembers what it matches. -/
  | numbered (name : Option String)
  | plain (mode : Mode)
  | atomic
  | look (behind negated : Bool)
  | condition

/-- Reads how a group begins that starts at `start`. -/
def opening (mode : Mode) (start : Nat) : Reading Opening := do
  unless ← accept '?' do return .numbered none
  match ← next with
  | none => fail .unexpectedEnd 0
  | some (.plain 'P') =>
    if ← accept '<' then return .numbered (some (← groupName '>'))
    if ← accept '=' then return .term (← namedReference mode)
    match ← next with
    | none => fail .unexpectedEnd 0
    | some t => fail (.unknownExtension (String.ofList (['?', 'P'] ++ t.text))) (t.length + 2)
  | some (.plain ':') => return .plain mode
  | some (.plain '#') =>
    unless ← skipPast ')' ((← get).rest.length + 1) do failAt .unterminatedComment start
    return .comment
  | some (.plain '=') => return .look false false
  | some (.plain '!') => return .look false true
  | some (.plain '<') =>
    match ← next with
    | none => fail .unexpectedEnd 0
    | some (.plain '=') => return .look true false
    | some (.plain '!') => return .look true true
    | some t => fail (.unknownExtension (String.ofList (['?', '<'] ++ t.text))) (t.length + 2)
  | some (.plain '(') => return .condition
  | some (.plain '>') => return .atomic
  | some t =>
    match t with
    | .plain c =>
      if isFlag c || c = '-' then
        match ← flags c with
        | none => return .flags
        | some (on, off) => return .plain (mode.switch on off)
      fail (.unknownExtension (String.ofList ['?', c])) 2
    | _ => fail (.unknownExtension (String.ofList ('?' :: t.text))) (t.length + 1)

/-- Closes a group that starts at `start`. -/
def closing (start : Nat) : Reading Unit := do
  unless ← accept ')' do failAt .unterminatedGroup start

/-! ### Terms -/

def isBlank (c : Char) : Bool := c = ' ' || (9 ≤ c.toNat && c.toNat ≤ 13)

/-- Drops what stands for nothing in verbose mode; answers whether something was dropped. -/
def skipped (mode : Mode) (c : Char) : Reading Bool := do
  if !mode.verbose then return false
  if c = '#' then
    discard (skipPast '\n' ((← get).rest.length + 1))
    return true
  return isBlank c

/-- A character that is neither an opening parenthesis nor a sign of repetition. -/
def simpleTerm (mode : Mode) (c : Char) : Reading Term :=
  match c with
  | '[' => characterSet mode
  | '.' => return .one (.any mode.dotAll)
  | '^' => return .anchor (if mode.multiLine then .lineStart else .start)
  | '$' => return .anchor (if mode.multiLine then .lineEnd else .finish)
  | c => return codeTerm mode c.toNat

mutual

/-- Alternatives up to a closing parenthesis or the end. -/
def alternatives (whole : Bool) (mode : Mode) : Nat → Reading (List (List Term))
  | 0 => throw (.malformed .unexpectedEnd none)
  | fuel + 1 => do
    let body ← terms whole mode [] fuel
    unless ← accept '|' do return [body]
    return body :: (← furtherAlternatives whole mode fuel)

/-- Alternatives after the first one; those of a whole expression have its flags. -/
def furtherAlternatives (whole : Bool) (mode : Mode) : Nat → Reading (List (List Term))
  | 0 => throw (.malformed .unexpectedEnd none)
  | fuel + 1 => do
    -- Flags that the first alternative has turned on hold in all of them.
    let mode ← if whole then pure (Mode.ofFlags (← get).flags) else pure mode
    let body ← terms false mode [] fuel
    unless ← accept '|' do return [body]
    return body :: (← furtherAlternatives whole mode fuel)

/-- Terms one after the other; `read` are those before them, last one first, and `start` says
whether the whole expression starts with them. -/
def terms (start : Bool) (mode : Mode) (read : List Term) : Nat → Reading (List Term)
  | 0 => throw (.malformed .unexpectedEnd none)
  | fuel + 1 => do
    let position := (← get).position
    match ← peek with
    | none => return read.reverse
    | some (.escaped c) =>
      advance
      terms start mode ((← termEscape mode c) :: read) fuel
    | some .dangling => return read.reverse
    | some (.plain c) =>
      if c = '|' || c = ')' then return read.reverse
      advance
      if ← skipped mode c then return ← terms start mode read fuel
      if c = '(' then
        match ← opening mode position with
        | .comment => terms start mode read fuel
        | .flags =>
          unless start && read.isEmpty do failAt .lateFlags position
          -- From here on the flags hold, as if they had stood there from the first.
          terms start (.ofFlags (← get).flags) read fuel
        | opening => terms start mode ((← grouped mode position opening fuel) :: read) fuel
      else if c = '*' || c = '+' || c = '?' || c = '\x7b' then
        match ← repetition c with
        | none => terms start mode (codeTerm mode c.toNat :: read) fuel
        | some (least, most) =>
          terms start mode (← repeatLast read least most position) fuel
      else
        terms start mode ((← simpleTerm mode c) :: read) fuel

/-- The rest of a group that starts at `start`. -/
def grouped (mode : Mode) (start : Nat) (opening : Opening) : Nat → Reading Term
  | 0 => throw (.malformed .unexpectedEnd none)
  | fuel + 1 => do
    match opening with
    | .term t => return t
    | .comment | .flags => return .group none []
    | .numbered name =>
      let number ← openGroup name
      let body ← enclosed mode start fuel
      closeGroup number (bodyWidth body)
      return .group (some number) body
    | .plain mode => return .group none (← enclosed mode start fuel)
    | .atomic => return .atomic (← enclosed mode start fuel)
    | .look false negated => return .ahead negated (← enclosed mode start fuel)
    | .look true negated =>
      let barrier := (← get).barrier
      let number ← nextNumber
      -- A look-behind within another one leaves the outer barrier in place.
      modify fun s => { s with barrier := barrier.or (some number) }
      let body ← enclosed mode start fuel
      modify fun s => { s with barrier }
      return .behind negated (bodyWidth body) body
    | .condition =>
      let number ← askedGroup
      let yes ← terms false mode [] fuel
      let no ← if ← accept '|' then terms false mode [] fuel else pure []
      if (← peek) = some (.plain '|') then fail .extraBranch 0
      closing start
      return .conditional number yes no

/-- Alternatives and the parenthesis that closes them. -/
def enclosed (mode : Mode) (start : Nat) : Nat → Reading (List Term)
  | 0 => throw (.malformed .unexpectedEnd none)
  | fuel + 1 => do
    let all ← alternatives false mode fuel
    closing start
    match all with
    | [body] => return body
    | all => return [.choice all]

end

end Reading

/-! ### Whole expressions -/

/-- The greatest width of a look-behind. -/
def farthest : Nat := 0xFFFFFFFF

def Strategy.text : Strategy → String
  | greedy => "MAX_REPEAT"
  | lazy => "MIN_REPEAT"
  | possessive => "POSSESSIVE_REPEAT"

mutual

/-- What forbids a term that was read: a look-behind of variable or too large width, or any
repetition in a template. -/
def Term.objection? (template : Bool) : Term → Option Reason
  | .one _ | .anchor _ | .reference _ _ _ => none
  | .choice alternatives => choiceObjection? template alternatives
  | .group _ body | .atomic body | .ahead _ body => bodyObjection? template body
  | .repeated strategy _ _ body =>
    if template then some (.templateRepeat strategy.text) else bodyObjection? template body
  | .behind _ width body =>
    if farthest < width.least then some .farLookBehind
    else if width.least ≠ width.greatest then some .variableLookBehind
    else bodyObjection? template body
  | .conditional _ yes no => (bodyObjection? template yes).or (bodyObjection? template no)

def bodyObjection? (template : Bool) : List Term → Option Reason
  | [] => none
  | t :: rest => (t.objection? template).or (bodyObjection? template rest)

def choiceObjection? (template : Bool) : List (List Term) → Option Reason
  | [] => none
  | body :: rest => (bodyObjection? template body).or (choiceObjection? template rest)

end

/-- Reads a whole expression. -/
def Reading.whole : Reading (List Term) := do
  if (← peek) = some .dangling then failAt .trailingBackslash 0
  let all ← alternatives true (.ofFlags []) (8 * (← get).rest.length + 8)
  let source ← get
  if source.flags.contains 'a' && source.flags.contains 'u' then throw .contraryFlags
  if (← peek).isSome then fail .unbalancedParenthesis 0
  for (number, position) in source.asked do
    if source.widths.size < number then failAt (.unknownGroup number) position
  let body := match all with
    | [body] => body
    | all => [.choice all]
  match bodyObjection? (source.flags.contains 't') body with
  | some reason => throw (.malformed reason none)
  | none => return body

end FeatureFlags.Pattern

namespace FeatureFlags

/-- A regular expression. -/
structure Pattern where
  body : List Pattern.Term

namespace Pattern

/-- The regular expression that a text stands for. -/
def read (text : String) : Except Fault Pattern := do
  let source : Source := ⟨Token.split text.toList, 0, [], #[], [], none, []⟩
  let (body, _) ← Reading.whole.run source
  return ⟨body⟩

end Pattern

end FeatureFlags
