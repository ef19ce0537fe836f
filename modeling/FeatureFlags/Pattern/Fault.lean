import FeatureFlags.Text.Quoted

/-! What can be wrong with the text of a regular expression, and where.
-/

namespace FeatureFlags.Pattern

/-- Why a text is no regular expression. -/
inductive Reason where
  | trailingBackslash
  | badEscape (text : String)
  | incompleteEscape (text : String)
  | hugeOctal (text : String)
  | missingBrace
  /-- Something in front of a terminator is empty. -/
  | missingName (what : String)
  | unterminatedName (terminator : Char)
  | unknownCharacter (name : String)
  | openGroup
  /-- A reference within a look-behind to a group of the same look-behind. -/
  | sameLookBehind
  | unknownGroup (number : Nat)
  | unknownGroupName (name : String)
  | badGroupName (name : String)
  | badGroupNumber
  | redefinedGroup (name : String) (number former : Nat)
  | unterminatedSet
  | badRange (first last : String)
  | reversedRepeat
  | nothingToRepeat
  | multipleRepeat
  | unexpectedEnd
  | unknownExtension (text : String)
  | unterminatedComment
  | unterminatedGroup
  | unbalancedParenthesis
  | extraBranch
  | lateFlags
  | byteFlag
  | incompatibleFlags
  | unknownFlag
  | missingFlag
  | missingFlagEnd
  | missingColon
  | globalFlagOn
  | globalFlagOff
  | characterFlagOff
  | flagOnAndOff
  | variableLookBehind
  | farLookBehind
  | templateRepeat (strategy : String)
deriving DecidableEq, Repr

/-- A reason in words. -/
def Reason.text : Reason → String
  | trailingBackslash => "bad escape (end of pattern)"
  | badEscape text => "bad escape " ++ text
  | incompleteEscape text => "incomplete escape " ++ text
  | hugeOctal text => "octal escape value " ++ text ++ " outside of range 0-0o377"
  | missingBrace => "missing \x7b"
  | missingName what => "missing " ++ what
  | unterminatedName terminator =>
    "missing " ++ String.singleton terminator ++ ", unterminated name"
  | unknownCharacter name => "undefined character name " ++ Quoted.quote name
  | openGroup => "cannot refer to an open group"
  | sameLookBehind => "cannot refer to group defined in the same lookbehind subpattern"
  | unknownGroup number => "invalid group reference " ++ toString number
  | unknownGroupName name => "unknown group name " ++ Quoted.quote name
  | badGroupName name => "bad character in group name " ++ Quoted.quote name
  | badGroupNumber => "bad group number"
  | redefinedGroup name number former =>
    "redefinition of group name " ++ Quoted.quote name ++ " as group " ++ toString number ++
      "; was group " ++ toString former
  | unterminatedSet => "unterminated character set"
  | badRange first last => "bad character range " ++ first ++ "-" ++ last
  | reversedRepeat => "min repeat greater than max repeat"
  | nothingToRepeat => "nothing to repeat"
  | multipleRepeat => "multiple repeat"
  | unexpectedEnd => "unexpected end of pattern"
  | unknownExtension text => "unknown extension " ++ text
  | unterminatedComment => "missing ), unterminated comment"
  | unterminatedGroup => "missing ), unterminated subpattern"
  | unbalancedParenthesis => "unbalanced parenthesis"
  | extraBranch => "conditional backref with more than two branches"
  | lateFlags => "global flags not at the start of the expression"
  | byteFlag => "bad inline flags: cannot use 'L' flag with a str pattern"
  | incompatibleFlags => "bad inline flags: flags 'a', 'u' and 'L' are incompatible"
  | unknownFlag => "unknown flag"
  | missingFlag => "missing flag"
  | missingFlagEnd => "missing -, : or )"
  | missingColon => "missing :"
  | globalFlagOn => "bad inline flags: cannot turn on global flag"
  | globalFlagOff => "bad inline flags: cannot turn off global flag"
  | characterFlagOff => "bad inline flags: cannot turn off flags 'a', 'u' and 'L'"
  | flagOnAndOff => "bad inline flags: flag turned on and off"
  | variableLookBehind => "look-behind requires fixed-width pattern"
  | farLookBehind => "looks too much behind"
  | templateRepeat strategy => "internal: unsupported template operator " ++ strategy

/-- What is wrong with a text as a regular expression. -/
inductive Fault where
  /-- The text is malformed, if it is known where, after the given number of characters. -/
  | malformed (reason : Reason) (position : Option Nat)
  /-- Something is to be repeated more often than can be counted. -/
  | countless
  /-- Flags at the start ask for characters of ASCII and of all scripts. -/
  | contraryFlags
deriving DecidableEq, Repr

/-- Where in a text a fault lies: after how many characters, and, in a text of several lines, in
which line and column. -/
def placeText (text : List Char) (position : Nat) : String :=
  let before := text.take position
  " at position " ++ toString position ++
    (if text.contains '\n' then
      " (line " ++ toString (before.count '\n' + 1) ++ ", column " ++
        toString ((before.reverse.takeWhile (· != '\n')).length + 1) ++ ")"
    else "")

/-- A fault of a text in words. -/
def Fault.message (text : List Char) : Fault → String
  | malformed reason position =>
    reason.text ++ (position.map (placeText text)).getD ""
  | countless => "the repetition number is too large"
  | contraryFlags => "ASCII and UNICODE flags are incompatible"

end FeatureFlags.Pattern
