import Headline.Document.Block
import Headline.Document.Token

/-!
# The spans of a heading

The tokens of a heading are reduced to spans of text and of code. Marks of emphasis and of
links disappear and their text stays, an image gives its label, a line break a line feed.
Neighbouring texts are one span, and no span of text is empty.
-/

namespace Headline

def Token.isText (t : Token) : Bool :=
  t.name == "text" || t.name == "text_special" || t.name == "html_inline"

def Token.isBreak (t : Token) : Bool := t.name == "softbreak" || t.name == "hardbreak"

mutual

/-- The text that a token gives to the label of an image. -/
def Token.labelText : Token → String
  | ⟨name, _, _, _, content, _, children⟩ =>
    if name == "text" || name == "text_special" || name == "code_inline" ||
        name == "html_inline" then
      content
    else if name == "image" then labelTexts children
    else if name == "softbreak" || name == "hardbreak" then "\n"
    else ""

/-- The plain text of the label of an image, without marks of emphasis and of code. -/
def Token.labelTexts : List Token → String
  | [] => ""
  | t :: ts => t.labelText ++ Token.labelTexts ts

end

namespace Block

/-- Spans with a text put in front. -/
def prependText (line : Int) (text : String) (spans : List Block) : List Block :=
  if text.isEmpty then spans
  else match spans with
    | [] => [textSpan line text]
    | s :: rest =>
      if s.kind = .text then
        { s with content := text ++ s.content, raw := text ++ s.raw } :: rest
      else textSpan line text :: s :: rest

/-- The spans of a run of tokens. -/
def spans (line : Int) : List Token → List Block
  | [] => []
  | t :: ts =>
    if t.name == "code_inline" then codeSpan line t.markup t.content :: spans line ts
    else if t.isText then prependText line t.content (spans line ts)
    else if t.name == "image" then prependText line (Token.labelTexts t.children) (spans line ts)
    else if t.isBreak then prependText line "\n" (spans line ts)
    else spans line ts

end Block

end Headline
