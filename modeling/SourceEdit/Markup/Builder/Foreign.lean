import SourceEdit.Markup.Builder.Scope
import SourceEdit.Text.Characters

/-!
# Graphics and formulas

Names inside `svg` and `math` are read in small letters like all others and then get the spelling
that their vocabularies have.  Attributes with a well-known prefix get a namespace.
-/

namespace SourceEdit.Markup.Builder

/-! ### Spellings -/

/-- The graphics elements whose names have capitals. -/
def graphicsElements : List String := [
  "altGlyph", "altGlyphDef", "altGlyphItem", "animateColor", "animateMotion", "animateTransform",
  "clipPath", "feBlend", "feColorMatrix", "feComponentTransfer", "feComposite", "feConvolveMatrix",
  "feDiffuseLighting", "feDisplacementMap", "feDistantLight", "feDropShadow", "feFlood", "feFuncA",
  "feFuncB", "feFuncG", "feFuncR", "feGaussianBlur", "feImage", "feMerge", "feMergeNode",
  "feMorphology", "feOffset", "fePointLight", "feSpecularLighting", "feSpotLight", "feTile",
  "feTurbulence", "foreignObject", "glyphRef", "linearGradient", "radialGradient", "textPath"]

/-- The graphics attributes whose names have capitals. -/
def graphicsAttributes : List String := [
  "attributeName", "attributeType", "baseFrequency", "baseProfile", "calcMode", "clipPathUnits",
  "diffuseConstant", "edgeMode", "filterUnits", "glyphRef", "gradientTransform", "gradientUnits",
  "kernelMatrix", "kernelUnitLength", "keyPoints", "keySplines", "keyTimes", "lengthAdjust",
  "limitingConeAngle", "markerHeight", "markerUnits", "markerWidth", "maskContentUnits",
  "maskUnits", "numOctaves", "pathLength", "patternContentUnits", "patternTransform",
  "patternUnits", "pointsAtX", "pointsAtY", "pointsAtZ", "preserveAlpha", "preserveAspectRatio",
  "primitiveUnits", "refX", "refY", "repeatCount", "repeatDur", "requiredExtensions",
  "requiredFeatures", "specularConstant", "specularExponent", "spreadMethod", "startOffset",
  "stdDeviation", "stitchTiles", "surfaceScale", "systemLanguage", "tableValues", "targetX",
  "targetY", "textLength", "viewBox", "viewTarget", "xChannelSelector", "yChannelSelector",
  "zoomAndPan"]

/-- The formula attributes whose names have capitals. -/
def formulaAttributes : List String := ["definitionURL"]

/-- The spelling that a name in small letters has. -/
def respelled (spellings : List String) (name : String) : String :=
  (spellings.find? fun s => asciiLower s.toList == name.toList).getD name

/-- The attributes with a prefix that have a namespace. -/
def prefixedAttributes : List (String × AttributeSpace × String) := [
  ("xlink:actuate", .xlink, "actuate"), ("xlink:arcrole", .xlink, "arcrole"),
  ("xlink:href", .xlink, "href"), ("xlink:role", .xlink, "role"), ("xlink:show", .xlink, "show"),
  ("xlink:title", .xlink, "title"), ("xlink:type", .xlink, "type"), ("xml:lang", .xml, "lang"),
  ("xml:space", .xml, "space"), ("xmlns", .xmlns, "xmlns"), ("xmlns:xlink", .xmlns, "xlink")]

/-- The attribute of a foreign element. -/
def foreignAttribute (space : Namespace) (name value : String) : Attribute :=
  let name := match space with
    | .svg => respelled graphicsAttributes name
    | .math => respelled formulaAttributes name
    | .html => name
  match prefixedAttributes.lookup name with
  | some (space, localName) => { space, localName, value }
  | none => { localName := name, value }

/-- Puts a foreign element into the current one; it is opened unless it closes itself. -/
def insertForeign (space : Namespace) (t : Tag) : Construction Next := do
  let attributes := t.attributes.map fun (name, value) => foreignAttribute space name value
  let name : ElementName := { space, localName := t.name }
  if t.selfCloses then
    let _ ← insertNode name attributes
  else
    let _ ← insertOpen name attributes
  done

/-! ### Where foreign rules are in force -/

/-- Whether the content of a formula element with the attributes is ordinary markup. -/
def holdsMarkup (attributes : List Attribute) : Bool :=
  attributes.any fun a => a.space == .none && a.localName == "encoding"
    && (eqIgnoringCase a.value.toList "text/html".toList
      || eqIgnoringCase a.value.toList "application/xhtml+xml".toList)

/-- Whether the current element is graphics or a formula. -/
def isInForeign (b : Builder) : Bool :=
  match b.stack with
  | e :: _ => e.name.space != .html
  | [] => false

/-- Whether a token is text. -/
def isText : Token → Bool
  | .text _ | .nul => true
  | _ => false

/-- Whether a token is a start tag. -/
def isStartTag : Token → Bool
  | .tag t => !t.isEnd
  | _ => false

/-- Whether a token is a start tag of one of the names. -/
def isStartTagOf (names : List String) : Token → Bool
  | .tag t => !t.isEnd && names.contains t.name
  | _ => false

/-- Whether the rules for foreign content apply to a token. -/
def isForeign (b : Builder) (t : Token) : Bool :=
  match b.stack with
  | [] => false
  | e :: _ =>
    if t == .endOfText || e.name.space == .html then false
    else if isTextPoint e.name
        && (isText t || (isStartTag t && !isStartTagOf ["mglyph", "malignmark"] t)) then false
    else if isMarkupPoint e.name && (isText t || isStartTag t) then false
    else if e.name == { space := .math, localName := "annotation-xml" } then
      if isStartTagOf ["svg"] t then false
      else if isText t || isStartTag t then
        !(((b.tree.get? e.id).map fun n => holdsMarkup n.attributes).getD false)
      else true
    else true

/-! ### Foreign rules -/

/-- The tags that end foreign content. -/
def ordinaryTags : List String := [
  "b", "big", "blockquote", "body", "br", "center", "code", "dd", "div", "dl", "dt", "em", "embed",
  "h1", "h2", "h3", "h4", "h5", "h6", "head", "hr", "i", "img", "li", "listing", "menu", "meta",
  "nobr", "ol", "p", "pre", "ruby", "s", "small", "span", "strong", "strike", "sub", "sup", "table",
  "tt", "u", "ul", "var"]

/-- Whether a tag ends foreign content. -/
def leavesForeign (t : Tag) : Bool :=
  if t.isEnd then ["br", "p"].contains t.name
  else ordinaryTags.contains t.name
    || (t.name == "font"
      && t.attributes.any fun (name, _) => ["color", "face", "size"].contains name)

/-- The open elements after a foreign end tag; `none` if the ordinary rules apply to it. -/
def afterForeignEnd? (name : List Char) (isFirst : Bool) (all : List OpenElement) :
    List OpenElement → Option (List OpenElement)
  | [] => some all
  | [_] => some all
  | e :: rest =>
    if !isFirst && e.name.space == .html then none
    else if eqIgnoringCase e.name.localName.toList name then some rest
    else afterForeignEnd? name false all rest

/-- The rules for foreign content. `ordinary` are the rules in force around it. -/
def foreign (ordinary : Token → Construction Next) (t : Token) : Construction Next := do
  match t with
  | .nul =>
    appendText ['\uFFFD']
    done
  | .text cs =>
    if !isBlankText cs then forbidFrameset
    appendText cs
    done
  | .comment cs =>
    appendComment cs
    done
  | .tag tag =>
    if leavesForeign tag then
      popTo fun e => e.space == .html || isTextPoint e || isMarkupPoint e
      ordinary t
    else if tag.isEnd then
      let stack := (← get).stack
      match afterForeignEnd? tag.name.toList true stack stack with
      | some stack =>
        modify fun b => { b with stack }
        done
      | none => ordinary t
    else
      let space := match ← current? with
        | some e => e.name.space
        | none => .html
      let name := if space == .svg then respelled graphicsElements tag.name else tag.name
      insertForeign space { tag with name }
  | _ => done

end SourceEdit.Markup.Builder
