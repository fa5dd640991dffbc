import Headline.Yaml.Fault

/-!
# Tokens of YAML

Indentation is expressed by tokens too: what starts further to the right than what is around
it opens a block sequence or a block mapping, and the block ends where the indentation does.
A fault is the last token of a text that has one, so that it comes up only when the reading
gets there.
-/

namespace Headline.Yaml

/-- The tag of a node as it is written: the handle, if there is one, and the rest. -/
structure WrittenTag where
  handle : Option String
  suffix : String
deriving Repr, DecidableEq

inductive Token where
  | versionDirective (major minor : Nat)
  | tagDirective (handle tagPrefix : String)
  | otherDirective
  | documentStart
  | documentEnd
  | blockSequenceStart
  | blockMappingStart
  | blockEnd
  | flowSequenceStart
  | flowSequenceEnd
  | flowMappingStart
  | flowMappingEnd
  | flowEntry
  | blockEntry
  | key
  | value
  | anchor (name : String)
  | alias (name : String)
  | tag (t : WrittenTag)
  | scalar (text : String) (isPlain : Bool)
  | streamEnd
  | fault (f : Fault)
deriving Repr, DecidableEq

end Headline.Yaml
