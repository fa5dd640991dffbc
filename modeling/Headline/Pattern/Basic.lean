import Headline.Pattern.Match
import Headline.Pattern.Parser

/-!
# Ignore patterns

An ignore pattern is a regular expression whose matches are removed from a heading
before the heading is judged. It remembers the text it was written as.
-/

namespace Headline

open Pattern

structure Pattern where
  source : String
  regex : Regex
deriving Repr, DecidableEq

namespace Pattern

/-- The pattern written as a text, which may give characters by their names. -/
def compile (characters : CharacterNames) (source : String) : Except Fault Pattern :=
  (Regex.parse characters source.toList).map (⟨source, ·⟩)

/-- The text without the matches of the pattern. -/
def strip (p : Pattern) (text : String) : String :=
  String.ofList (p.regex.removeAll text.toList)

/-- The text after each pattern in turn has been applied to the result of the one before. -/
def stripAll (ps : List Pattern) (text : String) : String :=
  ps.foldl (fun text p => p.strip text) text

end Pattern

end Headline
