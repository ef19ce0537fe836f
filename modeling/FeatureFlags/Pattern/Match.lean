import FeatureFlags.Pattern.Reader

/-! Matching regular expressions by trying one way after the other. A term is matched at a place and
hands each place that it reaches to a continuation; the first way that the continuation accepts is
taken.
-/

namespace FeatureFlags.Pattern

/-- A place in a text, with what the groups have matched on the way to it. -/
structure Place where
  position : Nat
  /-- Number, start and end of groups, the latest first. -/
  groups : List (Nat × Nat × Nat)

namespace Place

/-- The place some characters further on. -/
def skip (p : Place) (n : Nat) : Place := { p with position := p.position + n }

/-- Remembers that a group has matched the text from `start` on. -/
def close (p : Place) (number start : Nat) : Place :=
  { p with groups := (number, start, p.position) :: p.groups }

/-- Start and end of what a group has matched last. -/
def group? (p : Place) (number : Nat) : Option (Nat × Nat) := p.groups.lookup number

end Place

/-- Whether a character in front of or at a place is a word character. -/
def wordAt (text : Array Char) (ascii : Bool) (i : Nat) : Bool :=
  (text[i]?).any (Category.word.contains ascii)

/-- Whether an anchor holds at a position. An empty text has no boundaries and no places between
two characters either. -/
def Anchor.holds (text : Array Char) (i : Nat) : Anchor → Bool
  | start => i == 0
  | lineStart => i == 0 || text[i - 1]? == some '\n'
  | finish => i == text.size || (i + 1 == text.size && text[i]? == some '\n')
  | lineEnd => i == text.size || text[i]? == some '\n'
  | textEnd => i == text.size
  | boundary negated ascii =>
    !text.isEmpty &&
      ((0 < i && wordAt text ascii (i - 1)) != wordAt text ascii i) != negated

/-- Whether the text at `i` repeats the text from `start` to `stop`. -/
def repeats (text : Array Char) (casing : Casing) (start stop i : Nat) : Bool :=
  i + (stop - start) ≤ text.size &&
    (List.range (stop - start)).all fun k =>
      match text[start + k]?, text[i + k]? with
      | some a, some b => casing.fold a == casing.fold b
      | _, _ => false

/-- What may come after a place; it answers where the match ends. -/
abbrev Continuation := Place → Option Place

mutual

/-- Matches a term at a place. -/
def Term.run (text : Array Char) (term : Term) (p : Place) (k : Continuation) : Option Place :=
  match term with
  | .one test =>
    match text[p.position]? with
    | some c => if test.passes c then k (p.skip 1) else none
    | none => none
  | .anchor anchor => if anchor.holds text p.position then k p else none
  | .choice alternatives => runChoice text alternatives p k
  | .group none body => runBody text body p k
  | .group (some number) body => runBody text body p fun q => k (q.close number p.position)
  | .repeated strategy least most body => runLoop text strategy body least most p k
  | .atomic body => (runBody text body p some).bind k
  | .ahead false body =>
    match runBody text body p some with
    | some q => k { q with position := p.position }
    | none => none
  -- What groups match within a negated lookahead is forgotten.
  | .ahead true body => if (runBody text body p some).isSome then none else k p
  | .behind negated width body =>
    let found :=
      if width.least ≤ p.position then
        runBody text body { p with position := p.position - width.least } some
      else
        none
    match found, negated with
    | some q, false => k { q with position := p.position }
    | none, true => k p
    | _, _ => none
  | .reference number casing _ =>
    match p.group? number with
    | some (start, stop) =>
      if repeats text casing start stop p.position then k (p.skip (stop - start)) else none
    | none => none
  | .conditional number yes no =>
    if (p.group? number).isSome then runBody text yes p k else runBody text no p k
termination_by (sizeOf term, 0, 0, 0)

/-- Matches terms one after the other. -/
def runBody (text : Array Char) (body : List Term) (p : Place) (k : Continuation) : Option Place :=
  match body with
  | [] => k p
  | t :: rest => t.run text p fun q => runBody text rest q k
termination_by (sizeOf body, 0, 0, 0)

/-- Matches the first alternative that leads to a match. -/
def runChoice (text : Array Char) (alternatives : List (List Term)) (p : Place) (k : Continuation)
    : Option Place :=
  match alternatives with
  | [] => none
  | body :: rest => (runBody text body p k).or (runChoice text rest p k)
termination_by (sizeOf alternatives, 0, 0, 0)

/-- Matches a body at least `least` and at most `most` times. A repetition beyond the least number
that matches nothing is the last one. -/
def runLoop (text : Array Char) (strategy : Strategy) (body : List Term) (least : Nat)
    (most : Option Nat) (p : Place) (k : Continuation) : Option Place :=
  match least, strategy with
  | least + 1, .possessive =>
    match runBody text body p some with
    | some q => runLoop text .possessive body least (most.map (· - 1)) q k
    | none => none
  | least + 1, strategy =>
    runBody text body p fun q => runLoop text strategy body least (most.map (· - 1)) q k
  | 0, strategy =>
    -- A round that has matched nothing would match nothing forever.
    let again (q : Place) : Option Place :=
      if p.position < q.position ∧ q.position ≤ text.size then
        runLoop text strategy body 0 (most.map (· - 1)) q k
      else
        k q
    if most = some 0 then k p
    else
      match strategy with
      | .greedy => (runBody text body p again).or (k p)
      | .lazy => (k p).or (runBody text body p again)
      | .possessive =>
        match runBody text body p some with
        | some q => again q
        | none => k p
termination_by (sizeOf body, 1, least, text.size - p.position)

end

/-- Whether a regular expression matches somewhere in a text. -/
def occursIn (pattern : Pattern) (text : String) : Bool :=
  let text := text.toList.toArray
  (List.range (text.size + 1)).any fun i => (runBody text pattern.body ⟨i, []⟩ some).isSome

end FeatureFlags.Pattern
