-- What can be wrong with a regular expression. A malformed one is reported with the place where
-- reading stopped. A few are refused for other reasons, and those are no matter of their form.
import DesktopPolicy.Text.Quoted

namespace DesktopPolicy.Pattern

inductive Cause where
  | trailingBackslash
  | badEscape (text : String)
  | incompleteEscape (text : String)
  | octalRange (text : String)
  /-- Something that has to stand here does not. -/
  | missing (what : String)
  | unterminatedName (terminator : Char)
  | unknownCharacter (name : String)
  | openGroup
  | sameLookbehind
  | invalidReference (group : Nat)
  | unterminatedSet
  | badRange (first last : String)
  | nothingToRepeat
  | multipleRepeat
  | repeatBounds
  | unexpectedEnd
  | badGroupName (name : String)
  | unknownGroup (name : String)
  | redefinedGroup (name : String) (new old : Nat)
  | badGroupNumber
  | unknownExtension (text : String)
  | unterminatedComment
  | unterminatedGroup
  | thirdBranch
  | lateFlags
  | localeFlag
  | clashingFlags
  | unknownFlag
  | globalFlagOn
  | globalFlagOff
  | fixedFlagOff
  | flagOnAndOff
  | unbalanced
  | unfixedLookbehind
  /-- An operator that templates do not have. -/
  | templateOperator (name : String)
  deriving DecidableEq, Repr

def Cause.text : Cause → String
  | trailingBackslash => "bad escape (end of pattern)"
  | badEscape text => "bad escape " ++ text
  | incompleteEscape text => "incomplete escape " ++ text
  | octalRange text => "octal escape value " ++ text ++ " outside of range 0-0o377"
  | missing what => "missing " ++ what
  | unterminatedName terminator => "missing " ++ terminator.toString ++ ", unterminated name"
  | unknownCharacter name => "undefined character name " ++ Text.quoted name
  | openGroup => "cannot refer to an open group"
  | sameLookbehind => "cannot refer to group defined in the same lookbehind subpattern"
  | invalidReference group => "invalid group reference " ++ toString group
  | unterminatedSet => "unterminated character set"
  | badRange first last => "bad character range " ++ first ++ "-" ++ last
  | nothingToRepeat => "nothing to repeat"
  | multipleRepeat => "multiple repeat"
  | repeatBounds => "min repeat greater than max repeat"
  | unexpectedEnd => "unexpected end of pattern"
  | badGroupName name => "bad character in group name " ++ Text.quoted name
  | unknownGroup name => "unknown group name " ++ Text.quoted name
  | redefinedGroup name new old =>
    "redefinition of group name " ++ Text.quoted name ++ " as group " ++ toString new ++
      "; was group " ++ toString old
  | badGroupNumber => "bad group number"
  | unknownExtension text => "unknown extension " ++ text
  | unterminatedComment => "missing ), unterminated comment"
  | unterminatedGroup => "missing ), unterminated subpattern"
  | thirdBranch => "conditional backref with more than two branches"
  | lateFlags => "global flags not at the start of the expression"
  | localeFlag => "bad inline flags: cannot use 'L' flag with a str pattern"
  | clashingFlags => "bad inline flags: flags 'a', 'u' and 'L' are incompatible"
  | unknownFlag => "unknown flag"
  | globalFlagOn => "bad inline flags: cannot turn on global flag"
  | globalFlagOff => "bad inline flags: cannot turn off global flag"
  | fixedFlagOff => "bad inline flags: cannot turn off flags 'a', 'u' and 'L'"
  | flagOnAndOff => "bad inline flags: flag turned on and off"
  | unbalanced => "unbalanced parenthesis"
  | unfixedLookbehind => "look-behind requires fixed-width pattern"
  | templateOperator name => "internal: unsupported template operator " ++ name

/-- A malformed regular expression: the cause, and the place in the pattern if there is one. -/
structure Malformed where
  cause : Cause
  position : Option Nat
  deriving DecidableEq, Repr

/-- The line and the column of a place, both counted from one. -/
def lineColumn (pattern : List Char) (position : Nat) : Nat × Nat :=
  let before := pattern.take position
  (before.count '\n' + 1, (before.reverse.takeWhile (· != '\n')).length + 1)

/-- What is wrong with the pattern, in words. Line and column are told when it has several lines. -/
def Malformed.message (fault : Malformed) (pattern : String) : String :=
  match fault.position with
  | none => fault.cause.text
  | some position =>
    let text := fault.cause.text ++ " at position " ++ toString position
    if pattern.toList.contains '\n' then
      let (line, column) := lineColumn pattern.toList position
      text ++ " (line " ++ toString line ++ ", column " ++ toString column ++ ")"
    else text

/-- Why a regular expression is refused although it is not malformed. -/
inductive Refusal where
  /-- Something is repeated more often than can be counted. -/
  | repetition
  | tooManyDigits (count : Nat)
  | codePoint
  | clashingModes
  | width
  | span
  deriving DecidableEq, Repr

def Refusal.message : Refusal → String
  | repetition => "the repetition number is too large"
  | tooManyDigits count =>
    "Exceeds the limit (4300 digits) for integer string conversion: value has " ++ toString count ++
      " digits; use sys.set_int_max_str_digits() to increase the limit"
  | codePoint => "Python int too large to convert to C int"
  | clashingModes => "ASCII and UNICODE flags are incompatible"
  | width => "invalid SRE code"
  | span => "The span of capturing group is wrong, please report a bug for the re module."

/-- Why a pattern does not become a regular expression. -/
inductive Fault where
  | malformed (fault : Malformed)
  | refused (refusal : Refusal)
  deriving DecidableEq, Repr

end DesktopPolicy.Pattern
