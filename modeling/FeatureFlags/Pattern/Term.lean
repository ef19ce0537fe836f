import FeatureFlags.Unicode.Alphanumeric
import FeatureFlags.Unicode.Case
import FeatureFlags.Unicode.Decimal

/-! Terms of regular expressions: tests of one character, anchors, groups, choices, repetition,
lookaround and references to what a group has matched.
-/

namespace FeatureFlags.Pattern

/-- How letters of two cases are told apart. -/
inductive Casing where
  | exact
  /-- ASCII letters match in both cases. -/
  | ascii
  /-- Letters of all scripts match in both cases. -/
  | any
deriving DecidableEq, Repr

namespace Casing

/-- The form of a character by which it is compared. -/
def fold : Casing → Char → Char
  | exact, c => c
  | ascii, c => c.toLower
  | any, c => Unicode.lower c

/-- The code points that a character matches. -/
def variants : Casing → Char → List Nat
  | exact, c => [c.toNat]
  | ascii, c => [c.toNat, c.toLower.toNat, c.toUpper.toNat]
  | any, c => Unicode.caseVariants c

end Casing

/-- Named sets of characters. -/
inductive Category where
  | digit
  | space
  | word
deriving DecidableEq, Repr

/-- Whether a character belongs to a named set, of all scripts or of ASCII alone. -/
def Category.contains (ascii : Bool) (category : Category) (c : Char) : Bool :=
  match category with
  | digit => if ascii then c.isDigit else Unicode.decimalDigit.contains c
  | space =>
    if ascii then c == ' ' || (9 ≤ c.toNat && c.toNat ≤ 13) else Unicode.space.contains c
  | word => if ascii then c.isAlphanum || c == '_' else Unicode.isWord c

/-- A member of a set of characters. -/
inductive Member where
  | code (code : Nat)
  | range (least greatest : Nat)
  | category (category : Category) (negated ascii : Bool)
deriving DecidableEq, Repr

/-- The last code point of the basic plane. -/
def basicPlane : Nat := 0xFFFF

/-- Whether a character belongs to a member of a set. Within the basic plane a character belongs to
it when one of its variants does; beyond, when its folded form does. -/
def Member.contains (casing : Casing) (c : Char) : Member → Bool
  | code n =>
    if n ≤ basicPlane then (casing.variants c).contains n else (casing.fold c).toNat == n
  | range least greatest =>
    let within (n : Nat) : Bool := least ≤ n && n ≤ greatest
    if casing = .exact then within c.toNat
    else
      (casing.variants c).any (fun n => n ≤ basicPlane && within n) ||
        (basicPlane < greatest &&
          (within (casing.fold c).toNat || within (Unicode.upper (casing.fold c)).toNat))
  | category k negated ascii => k.contains ascii c != negated

/-- A test of one character. -/
inductive Test where
  /-- All characters, or all except the line feed. -/
  | any (lineFeed : Bool)
  | code (code : Nat) (casing : Casing) (negated : Bool)
  | set (members : List Member) (casing : Casing) (negated : Bool)
deriving DecidableEq, Repr

/-- Whether a character passes a test. -/
def Test.passes (c : Char) : Test → Bool
  | any lineFeed => lineFeed || c != '\n'
  | code n casing negated => (casing.variants c).contains n != negated
  | set members casing negated => (members.any fun m => m.contains casing c) != negated

/-- A condition on a place between characters. -/
inductive Anchor where
  | start
  | lineStart
  /-- The end, or the place in front of a line feed at the end. -/
  | finish
  | lineEnd
  | textEnd
  /-- A place with a word character on exactly one side. -/
  | boundary (negated ascii : Bool)
deriving DecidableEq, Repr

/-- How many characters something matches, at least and at most. -/
structure Width where
  least : Nat
  greatest : Nat
deriving DecidableEq, Repr

/-- In which order the numbers of repetitions are tried. -/
inductive Strategy where
  | greedy
  | lazy
  /-- As often as possible, and never fewer times afterwards. -/
  | possessive
deriving DecidableEq, Repr

/-- A term of a regular expression. -/
inductive Term where
  | one (test : Test)
  | anchor (anchor : Anchor)
  /-- The first alternative that leads to a match. -/
  | choice (alternatives : List (List Term))
  /-- A group; one with a number remembers what it has matched. -/
  | group (number : Option Nat) (body : List Term)
  | repeated (strategy : Strategy) (least : Nat) (most : Option Nat) (body : List Term)
  /-- A group that is never matched in another way once it has matched. -/
  | atomic (body : List Term)
  | ahead (negated : Bool) (body : List Term)
  /-- A body that matches in front of the place, with its width. -/
  | behind (negated : Bool) (width : Width) (body : List Term)
  /-- What a group of a given width has matched. -/
  | reference (number : Nat) (casing : Casing) (width : Width)
  /-- One of two continuations, depending on whether a group has matched. -/
  | conditional (number : Nat) (yes no : List Term)

namespace Width

/-- Widths beyond this one are not told apart. -/
def limit : Nat := Nat.pow 2 64

def zero : Width := ⟨0, 0⟩

/-- The width of one after the other. -/
def add (a b : Width) : Width :=
  ⟨min (a.least + b.least) limit, min (a.greatest + b.greatest) limit⟩

/-- The width of one of both. -/
def either (a b : Width) : Width := ⟨min a.least b.least, max a.greatest b.greatest⟩

/-- The width of a repetition. -/
def times (a : Width) (least : Nat) (most : Option Nat) : Width :=
  ⟨a.least * least,
    match most with
    | some m => a.greatest * m
    | none => if a.greatest = 0 then 0 else limit⟩

end Width

mutual

/-- The width of a term. -/
def Term.width : Term → Width
  | .one _ => ⟨1, 1⟩
  | .anchor _ | .ahead _ _ | .behind _ _ _ => .zero
  | .choice alternatives => choiceWidth alternatives
  | .group _ body | .atomic body => bodyWidth body
  | .repeated _ least most body => (bodyWidth body).times least most
  | .reference _ _ width => width
  | .conditional _ yes no => (bodyWidth yes).either (bodyWidth no)

/-- The width of terms one after the other. -/
def bodyWidth : List Term → Width
  | [] => .zero
  | t :: rest => t.width.add (bodyWidth rest)

/-- The width of one of several alternatives. -/
def choiceWidth : List (List Term) → Width
  | [] => .zero
  | [body] => bodyWidth body
  | body :: rest => (bodyWidth body).either (choiceWidth rest)

end

end FeatureFlags.Pattern
