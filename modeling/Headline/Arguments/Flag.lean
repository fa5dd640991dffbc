/-!
# Flags of the command line

A flag has one long spelling, and the flag for help a short one besides. Some flags take a
value.
-/

namespace Headline

inductive Flag where
  | help
  | config
  | lowerCaseWord
  | allowFirst
  | ignorePattern
  | logLevel
deriving Repr, DecidableEq

namespace Flag

/-- All flags, in the order in which help shows them. -/
def all : List Flag := [help, config, lowerCaseWord, allowFirst, ignorePattern, logLevel]

def spelling : Flag → String
  | help => "--help"
  | config => "--config"
  | lowerCaseWord => "--lower-case-word"
  | allowFirst => "--allow-first-word-lower-case"
  | ignorePattern => "--ignore-pattern"
  | logLevel => "--log-level"

/-- Every spelling of a flag, as messages show it. -/
def title : Flag → String
  | help => "-h/--help"
  | f => f.spelling

def takesValue : Flag → Bool
  | help => false
  | allowFirst => false
  | _ => true

def ofSpelling? (text : String) : Option Flag := all.find? (·.spelling == text)

def startingWith (text : String) : List Flag :=
  all.filter fun f => text.toList.isPrefixOf f.spelling.toList

end Flag

namespace Arguments

def usage : String :=
"usage: heading-capitalization [-h] [--config CONFIG_FILE]
                              [--lower-case-word WORD]
                              [--allow-first-word-lower-case]
                              [--ignore-pattern REGEX] [--log-level LOG_LEVEL]
                              paths [paths ...]
"

def help : String := usage ++ "
Check that Markdown headings use title case.

positional arguments:
  paths                 Markdown files or directories to check

options:
  -h, --help            show this help message and exit
  --config CONFIG_FILE  YAML file with rule options (default:
                        $HEADING_RULE_CONFIG)
  --lower-case-word WORD
                        Word to keep lower case; may be repeated
  --allow-first-word-lower-case
                        Let --lower-case-word entries open a heading in lower
                        case
  --ignore-pattern REGEX
                        Pattern removed from headings before checking; may be
                        repeated
  --log-level LOG_LEVEL
                        Logging level (default: $LOG_LEVEL or WARNING)
"

end Arguments

end Headline
