import Headline.Pattern.Build

/-!
# HTML in Markdown

HTML is not read, only recognised. A line starts a block of HTML in one of seven ways, each
with its own end; the last way does not interrupt a paragraph. Inside a line, a tag, comment,
instruction, declaration or section of character data stands for itself.
-/

namespace Headline.Markdown.Html

open Pattern Pattern.Regex

/-! ## Tags -/

def letters : List SetItem := rangeItems [('a', 'z'), ('A', 'Z')]

def digits : List SetItem := rangeItems [('0', '9')]

def tagName : Regex := .seq (oneOf letters) (many (oneOf (letters ++ digits ++ pointItems "-")))

/-- The value of an attribute: bare or between quotes. -/
def attributeValue : Regex :=
  altAll
    [manyOne (noneOf (pointItems "\"'=<>`" ++ [.range 0 0x20])),
     seqAll [exactly "'", many (noneOf (pointItems "'")), exactly "'"],
     seqAll [exactly "\"", many (noneOf (pointItems "\"")), exactly "\""]]

/-- An attribute with the white space before it. -/
def attr : Regex :=
  seqAll
    [manyOne blank, oneOf (letters ++ pointItems "_:"),
     many (oneOf (letters ++ digits ++ pointItems ":._-")),
     opt (seqAll [many blank, exactly "=", many blank, attributeValue])]

def openTag : Regex :=
  seqAll [exactly "<", tagName, many attr, many blank, opt (exactly "/"), exactly ">"]

def closeTag : Regex := seqAll [exactly "</", tagName, many blank, exactly ">"]

/-! ## Inside a line -/

def comment : Regex :=
  .alt (seqAll [exactly "<!--", opt (exactly "-"), exactly ">"])
    (seqAll
      [exactly "<!--",
       many (altAll
        [noneOf (pointItems "-"), .seq (exactly "-") (noneOf (pointItems "-")),
         .seq (exactly "--") (noneOf (pointItems ">"))]),
       exactly "-->"])

def instruction : Regex := seqAll [exactly "<?", fewest anyChar, exactly "?>"]

def declaration : Regex :=
  seqAll [exactly "<!", oneOf letters, many (noneOf (pointItems ">")), exactly ">"]

def characterData : Regex := seqAll [exactly "<![CDATA[", fewest anyChar, exactly "]]>"]

/-- Whatever of HTML may stand inside a line. -/
def inline : Regex :=
  altAll [openTag, closeTag, comment, instruction, declaration, characterData]

/-! ## Blocks -/

/-- The elements whose content is kept as it is. -/
def verbatimNames : List String := ["script", "pre", "style", "textarea"]

/-- The elements that make blocks. -/
def blockNames : List String :=
  ["address", "article", "aside", "base", "basefont", "blockquote", "body", "caption", "center",
   "col", "colgroup", "dd", "details", "dialog", "dir", "div", "dl", "dt", "fieldset",
   "figcaption", "figure", "footer", "form", "frame", "frameset", "h1", "h2", "h3", "h4", "h5",
   "h6", "head", "header", "hr", "html", "iframe", "legend", "li", "link", "main", "menu",
   "menuitem", "nav", "noframes", "ol", "optgroup", "option", "p", "param", "search", "section",
   "summary", "table", "tbody", "td", "tfoot", "th", "thead", "title", "tr", "track", "ul"]

/-- How a block of HTML ends. -/
inductive BlockEnd where
  /-- with the line that holds a match -/
  | after (r : Regex)
  /-- before a blank line -/
  | beforeBlank

/-- A way in which a block of HTML may start. -/
structure BlockStart where
  start : Regex
  stop : BlockEnd
  /-- whether it ends a paragraph before it -/
  interrupts : Bool

/-- The seven ways, in the order in which they are tried. -/
def blockStarts : List BlockStart :=
  [⟨seqAll [exactly "<", anyCase verbatimNames,
      .ahead false (altAll [blank, exactly ">", .anchor .lastLineEnd])],
    .after (seqAll [exactly "</", anyCase verbatimNames, exactly ">"]), true⟩,
   ⟨exactly "<!--", .after (exactly "-->"), true⟩,
   ⟨exactly "<?", .after (exactly "?>"), true⟩,
   ⟨.seq (exactly "<!") (oneOf (rangeItems [('A', 'Z')])), .after (exactly ">"), true⟩,
   ⟨exactly "<![CDATA[", .after (exactly "]]>"), true⟩,
   ⟨seqAll [exactly "<", opt (exactly "/"), anyCase blockNames,
      .ahead false
        (altAll [blank, .seq (opt (exactly "/")) (exactly ">"), .anchor .lastLineEnd])],
    .beforeBlank, true⟩,
   ⟨seqAll [.alt openTag closeTag, many blank, .anchor .lastLineEnd], .beforeBlank, false⟩]

/-- How a line starts a block of HTML, if it does. -/
def blockStart? (content : List Char) : Option BlockStart :=
  if content.head? = some '<' then blockStarts.find? fun s => s.start.opens content else none

/-- Whether a line holds the end of a block. A blank line is the end that stands alone. -/
def BlockEnd.isOn (content : List Char) : BlockEnd → Bool
  | after r => r.occursIn content
  | beforeBlank => content.isEmpty

end Headline.Markdown.Html
