import Headline.Markdown.Reader
import Headline.RuleOptions

/-!
# What a run finds installed

A run leaves some things to others: Markdown and YAML are read by packages, the characters have
names in a standard, and the default words stand in a file beside the program. It takes each of
these as it finds it.
-/

namespace Headline

/-- What the program is installed with. -/
structure Installation where
  tokenize : Markdown.Tokenizer
  loader : Yaml.Loader
  characters : Pattern.CharacterNames
  wordFile : WordFile

namespace Installation

/-- What options are built on in a run, given the files at that time. -/
def basis (i : Installation) (files : Files) : Basis :=
  ⟨i.characters, i.wordFile.asked i.loader files⟩

/-- The installation with the readers of this library, which knows no names of characters, and a
file of default words that gives the built-in ones. -/
def standard : Installation where
  tokenize := Markdown.tokens
  loader := Yaml.loadBytes
  characters := fun _ => none
  wordFile := .ofWords "config" defaultWords

end Installation

end Headline
