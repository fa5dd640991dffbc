import Headline.Text.Casing

/-!
# Words that stay lower case

A title keeps its function words in lower case after the first word. The words that
are always kept so are the defaults; a caller may add words of its own. The two are
remembered apart, because only a caller's word may open a title in lower case.
-/

namespace Headline

open Text

/-- The words that stay lower case inside a title, each held in lower case. -/
structure WordSet where
  /-- words that are active in every title -/
  defaults : List String
  /-- words added by the caller -/
  custom : List String
deriving Repr, DecidableEq

namespace WordSet

/-- The set of the given words; letter case and repetitions do not matter. -/
def ofWords (defaults custom : List String) : WordSet where
  defaults := (defaults.map lower).eraseDups
  custom := (custom.map lower).eraseDups

/-- Every word once: the defaults, then the caller's words that are no defaults. -/
def words (s : WordSet) : List String :=
  s.defaults ++ s.custom.filter (!s.defaults.contains ·)

def size (s : WordSet) : Nat := s.words.length

/-- Whether a word is in the set, in any letter case. -/
def contains (s : WordSet) (word : String) : Bool :=
  s.defaults.contains (lower word) || s.custom.contains (lower word)

/-- Whether a word was added by the caller, in any letter case. -/
def isCustom (s : WordSet) (word : String) : Bool :=
  s.custom.contains (lower word)

end WordSet

/-- The words kept lower case in every title: articles, coordinating conjunctions and
short prepositions. -/
def defaultWords : List String :=
  ["a", "an", "the",
   "and", "but", "for", "nor", "or", "so", "yet",
   "as", "at", "by", "in", "of", "off", "on", "per", "to", "up", "via", "vs", "with"]

end Headline
