import SourceEdit.Markup.Builder.Basic

/-!
# Scopes and implied ends

Whether an element can be seen from the current one depends on what is open between them: each kind
of scope has its own elements that hide what is outside.  Some elements are closed without an end
tag.
-/

namespace SourceEdit.Markup.Builder

/-! ### Integration points -/

/-- A formula element whose text is ordinary text. -/
def isTextPoint (e : ElementName) : Bool :=
  e.space == .math && ["mi", "mo", "mn", "ms", "mtext"].contains e.localName

/-- A graphics element whose content is ordinary markup. -/
def isMarkupPoint (e : ElementName) : Bool :=
  e.space == .svg && ["foreignObject", "desc", "title"].contains e.localName

/-! ### Scopes -/

/-- What hides the outside for most elements. -/
def hidesOutside (e : ElementName) : Bool :=
  isOneOf ["applet", "caption", "html", "table", "td", "th", "marquee", "object", "template"] e
    || isTextPoint e || isMarkupPoint e

/-- What hides the outside for items of lists. -/
def hidesItem (e : ElementName) : Bool := hidesOutside e || isOneOf ["ol", "ul"] e

/-- What hides the outside for paragraphs. -/
def hidesParagraph (e : ElementName) : Bool := hidesOutside e || isNamed "button" e

/-- What hides the outside for parts of tables. -/
def hidesTablePart (e : ElementName) : Bool := isOneOf ["html", "table", "template"] e

/-- What hides the outside for selections. -/
def hidesSelect (e : ElementName) : Bool := !isOneOf ["optgroup", "option"] e

/-- Whether an element for which `p` holds is met before one that hides the outside. -/
def seen (hides : ElementName → Bool) (p : OpenElement → Bool) : List OpenElement → Bool
  | [] => false
  | e :: rest => p e || (!hides e.name && seen hides p rest)

/-- Whether an element of a name is in scope. -/
def inScope (hides : ElementName → Bool) (name : String) : Construction Bool :=
  return seen hides (isNamed name ·.name) (← get).stack

/-- Whether an element of one of the names is in scope. -/
def anyInScope (hides : ElementName → Bool) (names : List String) : Construction Bool :=
  return seen hides (isOneOf names ·.name) (← get).stack

/-! ### Special elements -/

/-- The elements that end the search for the element of an end tag. -/
def isSpecial : ElementName → Bool := isOneOf [
  "address", "applet", "area", "article", "aside", "base", "basefont", "bgsound", "blockquote",
  "body", "br", "button", "caption", "center", "col", "colgroup", "dd", "details", "dir", "div",
  "dl", "dt", "embed", "fieldset", "figcaption", "figure", "footer", "form", "frame", "frameset",
  "h1", "h2", "h3", "h4", "h5", "h6", "head", "header", "hgroup", "hr", "html", "iframe", "img",
  "input", "isindex", "li", "link", "listing", "main", "marquee", "menu", "meta", "nav", "noembed",
  "noframes", "noscript", "object", "ol", "p", "param", "plaintext", "pre", "script", "section",
  "select", "source", "style", "summary", "table", "tbody", "td", "template", "textarea", "tfoot",
  "th", "thead", "title", "tr", "track", "ul", "wbr", "xmp"]

/-- The headings. -/
def isHeading : ElementName → Bool := isOneOf ["h1", "h2", "h3", "h4", "h5", "h6"]

/-! ### Implied ends -/

/-- The elements that may be closed without an end tag. -/
def endsImplied : ElementName → Bool :=
  isOneOf ["dd", "dt", "li", "option", "optgroup", "p", "rb", "rp", "rt", "rtc"]

/-- The elements that are closed at the end of a template without an end tag. -/
def endsImpliedInTemplate (e : ElementName) : Bool :=
  endsImplied e
    || isOneOf ["caption", "colgroup", "tbody", "td", "tfoot", "th", "thead", "tr"] e

/-- Closes the elements that need no end tag. -/
def implyEnds : Construction Unit := popWhile endsImplied

/-- Closes the elements that need no end tag, except those of a name. -/
def implyEndsExcept (name : String) : Construction Unit :=
  popWhile fun e => endsImplied e && !isNamed name e

/-- Closes an element of a name and all inside it. -/
def close (name : String) : Construction Unit := popThrough (isNamed name)

/-- Closes the paragraph. -/
def closeParagraph : Construction Unit := do
  implyEndsExcept "p"
  close "p"

/-- Closes the paragraph that is in scope, if there is one. -/
def endParagraph : Construction Unit := do
  if ← inScope hidesParagraph "p" then closeParagraph

end SourceEdit.Markup.Builder
