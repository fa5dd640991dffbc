import Headline.Text.Blank
import Headline.Title.WordSet

/-!
# Title case

A word is a maximal run of characters that are neither white space nor hyphens. Each
word is judged by itself: an acronym stays as it is, a kept word goes to lower case,
and any other word gets a capital first letter. Separators are copied.

The position of a word matters in one way only. The word at the very start of a title
is lowered only if the caller listed it and allowed that.
-/

namespace Headline

open Text

/-! ## One word -/

/-- Whether a list of characters is its own upper-case form and not its own lower-case
form. The second half excludes words without letters. -/
def isAcronymChars (cs : List Char) : Bool :=
  upperChars cs == cs && lowerChars cs != cs

/-- Whether a text is fully upper case: unchanged by upper case, changed by lower case. -/
def isFullyUpperCase (s : String) : Bool := isAcronymChars s.toList

/-- The word with its first character in upper case. -/
def capitalizeChars : List Char → List Char
  | [] => []
  | c :: cs => upperChar c ++ cs

/-- The word with its first character in upper case and the others untouched. -/
def capitalizeWord (s : String) : String := String.ofList (capitalizeChars s.toList)

/-- What decides the case of words: the words to keep, and whether a caller's word may
open a title in lower case. -/
structure Casing where
  words : WordSet
  allowFirst : Bool
deriving Repr, DecidableEq

namespace Casing

/-- Whether a word is kept in lower case; `opens` says that it starts the title. -/
def keepsLower (g : Casing) (opens : Bool) (word : List Char) : Bool :=
  let w := String.ofList (lowerChars word)
  g.words.contains w && (!opens || (g.allowFirst && g.words.isCustom w))

/-- The right form of a word. -/
def caseWord (g : Casing) (opens : Bool) (word : List Char) : List Char :=
  if isAcronymChars word then word
  else if g.keepsLower opens word then lowerChars word
  else if isAcronymChars (word.take 1) then word
  else capitalizeChars word

end Casing

/-! ## Titles as words and separators -/

def isSeparator (c : Char) : Bool := isBlank c || c == '-'

/-- A title cut into words and separator characters, in order. -/
inductive Piece where
  | gap (c : Char)
  /-- a word: a run of characters that are no separators, with both neighbours
  separators or ends of the title -/
  | word (cs : List Char)
deriving Repr, DecidableEq

namespace Piece

def chars : Piece → List Char
  | gap c => [c]
  | word cs => cs

end Piece

/-- The pieces of a title. Adding a character in front starts a piece or extends the
first word. -/
def pieces : List Char → List Piece
  | [] => []
  | c :: cs =>
    if isSeparator c then .gap c :: pieces cs
    else match pieces cs with
      | .word w :: rest => .word (c :: w) :: rest
      | rest => .word [c] :: rest

namespace Casing

def casePiece (g : Casing) (opens : Bool) : Piece → Piece
  | .gap c => .gap c
  | .word w => .word (g.caseWord opens w)

/-- The right forms of all pieces; only the first stands at the start of the title. -/
def casePieces (g : Casing) : List Piece → List Piece
  | [] => []
  | p :: ps => g.casePiece true p :: ps.map (g.casePiece false)

def caseChars (g : Casing) (title : List Char) : List Char :=
  (g.casePieces (pieces title)).flatMap Piece.chars

end Casing

/-- The title-cased form of a title, equal to it when nothing needs to be mended. -/
def caseTitle (words : WordSet) (allowFirst : Bool) (title : String) : String :=
  String.ofList (Casing.caseChars ⟨words, allowFirst⟩ title.toList)

end Headline
