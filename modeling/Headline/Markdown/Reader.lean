import Headline.Markdown.Blocks
import Headline.Markdown.Inline

/-!
# Markdown as tokens

A document is read in two passes: first its blocks, then the texts inside of them, for which
all labels have to be known.
-/

namespace Headline.Markdown

def readText (labels : Labels) (t : Token) : Token :=
  if t.name == "inline" then { t with children := readInline labels t.content } else t

def tokens (text : String) : List Token :=
  let p := blocksOf text
  p.tokens.map (readText p.labels)

end Headline.Markdown
