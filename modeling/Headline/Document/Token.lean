/-!
# Tokens

A Markdown text is first read as a flat run of tokens. A token opens something (nesting
one), closes what was opened (nesting minus one), or stands for itself. Inline tokens
hold the tokens of their text.
-/

namespace Headline

structure Token where
  /-- what the token is: `heading_open`, `inline`, `text` and so on -/
  name : String
  nesting : Int
  /-- the element that the token stands for, such as `h2` -/
  tag : String
  /-- the first line and the line after the last, counted from zero -/
  span : Option (Int × Int)
  content : String
  markup : String
  children : List Token
deriving Repr

namespace Token

/-- A token with the name and nesting given, and nothing else. -/
def plain (name : String) (nesting : Int) : Token := ⟨name, nesting, "", none, "", "", []⟩

instance : Inhabited Token := ⟨plain "" 0⟩

/-- A token that opens something on the given lines. -/
def opening (name tag : String) (first last : Nat) : Token :=
  ⟨name, 1, tag, some (first, last), "", "", []⟩

/-- A token that closes something. -/
def closing (name tag : String) : Token := ⟨name, -1, tag, none, "", "", []⟩

/-- A token without parts. -/
def leaf (name content : String) (first last : Nat) : Token :=
  ⟨name, 0, "", some (first, last), content, "", []⟩

def text (content : String) : Token := ⟨"text", 0, "", none, content, "", []⟩

end Token

/-- How a text is cut into the tokens of a document. What uses tokens takes any way of doing
that, so that nothing depends on how Markdown is read. -/
abbrev Markdown.Tokenizer := String → List Token

end Headline
