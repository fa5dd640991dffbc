import Headline.Text.Numeral
import Headline.Text.Quoted

/-!
# Faults of patterns

What can be wrong with a pattern. Most faults have a place; for a pattern of several
lines the message adds line and column.
-/

namespace Headline.Pattern

open Text

/-- The reason why a pattern is refused. -/
inductive Problem where
  | escapeAtEnd
  | badEscape (escape : String)
  | incompleteEscape (escape : String)
  | octalTooLarge (escape : String)
  | missingBrace
  | undefinedName (name : String)
  | openGroup
  | groupInLookbehind
  | noSuchGroup (group : Nat)
  | missingName (what : String)
  | unterminatedName (terminator what : String)
  | badGroupName (name : String)
  | unknownGroupName (name : String)
  | duplicateGroupName (name : String) (group earlier : Nat)
  | badGroupNumber
  | unterminatedSet
  | badRange (lo hi : String)
  | badRepeatBounds
  | nothingToRepeat
  | multipleRepeat
  | patternEnds
  | unknownExtension (text : String)
  | unterminatedComment
  | unterminatedGroup
  | tooManyBranches
  | lateFlags
  | localeFlag
  | incompatibleFlags
  | unknownFlag
  | missingFlag
  | missingColon
  | missingFlagEnd
  | globalFlagOn
  | globalFlagOff
  | typeFlagOff
  | flagOnAndOff
  | unbalanced
  /-- these two have no place -/
  | lookbehindWidth
  | lookbehindTooWide
  | templateRepeat (what : String)
deriving Repr, DecidableEq

namespace Problem

def message : Problem → String
  | escapeAtEnd => "bad escape (end of pattern)"
  | badEscape e => s!"bad escape {e}"
  | incompleteEscape e => s!"incomplete escape {e}"
  | octalTooLarge e => s!"octal escape value {e} outside of range 0-0o377"
  | missingBrace => "missing \x7b"
  | undefinedName n => s!"undefined character name {quoted n}"
  | openGroup => "cannot refer to an open group"
  | groupInLookbehind => "cannot refer to group defined in the same lookbehind subpattern"
  | noSuchGroup g => s!"invalid group reference {g}"
  | missingName what => s!"missing {what}"
  | unterminatedName terminator _ => s!"missing {terminator}, unterminated name"
  | badGroupName n => s!"bad character in group name {quoted n}"
  | unknownGroupName n => s!"unknown group name {quoted n}"
  | duplicateGroupName n g earlier =>
    s!"redefinition of group name {quoted n} as group {g}; was group {earlier}"
  | badGroupNumber => "bad group number"
  | unterminatedSet => "unterminated character set"
  | badRange lo hi => s!"bad character range {lo}-{hi}"
  | badRepeatBounds => "min repeat greater than max repeat"
  | nothingToRepeat => "nothing to repeat"
  | multipleRepeat => "multiple repeat"
  | patternEnds => "unexpected end of pattern"
  | unknownExtension t => s!"unknown extension ?{t}"
  | unterminatedComment => "missing ), unterminated comment"
  | unterminatedGroup => "missing ), unterminated subpattern"
  | tooManyBranches => "conditional backref with more than two branches"
  | lateFlags => "global flags not at the start of the expression"
  | localeFlag => "bad inline flags: cannot use 'L' flag with a str pattern"
  | incompatibleFlags => "bad inline flags: flags 'a', 'u' and 'L' are incompatible"
  | unknownFlag => "unknown flag"
  | missingFlag => "missing flag"
  | missingColon => "missing :"
  | missingFlagEnd => "missing -, : or )"
  | globalFlagOn => "bad inline flags: cannot turn on global flag"
  | globalFlagOff => "bad inline flags: cannot turn off global flag"
  | typeFlagOff => "bad inline flags: cannot turn off flags 'a', 'u' and 'L'"
  | flagOnAndOff => "bad inline flags: flag turned on and off"
  | unbalanced => "unbalanced parenthesis"
  | lookbehindWidth => "look-behind requires fixed-width pattern"
  | lookbehindTooWide => "looks too much behind"
  | templateRepeat what => s!"internal: unsupported template operator {what}"

end Problem

/-- How a pattern fails to be one. -/
inductive Fault where
  /-- a reason with its place, counted in characters -/
  | located (problem : Problem) (pos : Nat)
  /-- a reason without a place -/
  | whole (problem : Problem)
  /-- a repetition with a bound of 2³² - 1 or more -/
  | tooManyRounds
  /-- an escaped code point of 2³¹ or more -/
  | escapeTooLarge
  /-- the flags for ASCII and for Unicode, both for the whole pattern -/
  | clashingFlags
  /-- a bound with more digits than are read -/
  | longBound (fault : NumeralFault)
deriving Repr, DecidableEq

namespace Fault

/-- The line and column of a place, both counted from one. -/
def lineAndColumn (pattern : List Char) (pos : Nat) : Nat × Nat :=
  let before := pattern.take pos
  (before.count '\n' + 1, (before.reverse.takeWhile (· != '\n')).length + 1)

/-- Whether a fault is a defect of the pattern, as opposed to a limit or a contradiction that
is met while it is read. -/
def isDefect : Fault → Bool
  | located _ _ => true
  | whole _ => true
  | _ => false

def message (pattern : String) : Fault → String
  | located problem pos =>
    let base := s!"{problem.message} at position {pos}"
    if pattern.toList.contains '\n' then
      let (line, column) := lineAndColumn pattern.toList pos
      s!"{base} (line {line}, column {column})"
    else base
  | whole problem => problem.message
  | tooManyRounds => "the repetition number is too large"
  | escapeTooLarge => "Python int too large to convert to C int"
  | clashingFlags => "ASCII and UNICODE flags are incompatible"
  | longBound fault => fault.message

end Fault

end Headline.Pattern
