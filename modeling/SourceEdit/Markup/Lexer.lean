import SourceEdit.Markup.Reference
import SourceEdit.Markup.Token

/-!
# Reading tokens of markup

`Lexer.next` reads the tokens at the head of a text, in one of the ways of reading.  Every text can
be read: what is no tag, comment or declaration is text, and a tag that is not ended is dropped.
-/

namespace SourceEdit.Markup.Lexer

/-! ### Characters -/

/-- A blank between the words of a tag. -/
def isSpace (c : Char) : Bool := c == ' ' || c == '\t' || c == '\n' || c == '\x0C'

/-- The character that is put for a zero. -/
def visible (c : Char) : Char := if c == '\x00' then Reference.replacement else c

/-- The text with visible characters only. -/
def visibles (cs : List Char) : List Char := cs.map visible

/-- The name that characters spell, in small letters. -/
def nameOf (cs : List Char) : String := String.ofList (asciiLower (visibles cs))

/-- The head of a text up to a character that satisfies `p`, and the rest. -/
def upTo (p : Char → Bool) (cs : List Char) : List Char × List Char :=
  (cs.takeWhile fun c => !p c, cs.dropWhile fun c => !p c)

/-- The text after the blanks at its head. -/
def skipSpace (cs : List Char) : List Char := cs.dropWhile isSpace

/-- The text as it is. -/
def plainText (cs : List Char) : List Token := [.text cs]

/-- The text with its references replaced. A reference by number at its head that is not ended is a
fault. -/
def referenceText (cs : List Char) : List Token :=
  let text := Token.text (Reference.decode false cs)
  match cs with
  | '&' :: rest => if Reference.isOpenNumber rest then [.fault, text] else [text]
  | _ => [text]

/-! ### Tags -/

/-- The value of an attribute and the rest of the text, after the equals sign; `none` if the text
ends before it. -/
def attributeValue? (cs : List Char) : Option (String × List Char) :=
  let ofRaw (raw : List Char) : String := String.ofList (Reference.decode true (visibles raw))
  let quoted (quote : Char) (cs : List Char) : Option (String × List Char) :=
    match upTo (· == quote) cs with
    | (_, []) => none
    | (raw, _ :: rest) => some (ofRaw raw, rest)
  match skipSpace cs with
  | [] => none
  | '"' :: rest => quoted '"' rest
  | '\'' :: rest => quoted '\'' rest
  | '>' :: rest => some ("", '>' :: rest)
  | cs =>
    let (raw, rest) := upTo (fun c => isSpace c || c == '>') cs
    some (ofRaw raw, rest)

/-- The attribute at the head of a text, whose first character belongs to its name. -/
def attribute? (first : Char) (cs : List Char) :
    Option ((String × String) × List Char) := do
  let (name, rest) := upTo (fun c => isSpace c || c == '/' || c == '=' || c == '>') cs
  let name := nameOf (first :: name)
  match skipSpace rest with
  | '=' :: rest =>
    let (value, rest) ← attributeValue? rest
    return ((name, value), rest)
  | rest => return ((name, ""), rest)

/-- The attributes without those whose name has occurred before. -/
def withoutRepeats (attributes : List (String × String)) : List (String × String) :=
  attributes.foldl (fun kept a => if kept.any (·.1 == a.1) then kept else kept ++ [a]) []

/-- The attributes of a tag, whether it closes itself, and the text after it; `none` if the tag is
not ended. `n` bounds the number of attributes. -/
def tagRest? : Nat → List (String × String) → List Char →
    Option (List (String × String) × Bool × List Char)
  | 0, _, _ => none
  | n + 1, attributes, cs =>
    match skipSpace cs with
    | [] => none
    | '>' :: rest => some (withoutRepeats attributes.reverse, false, rest)
    | '/' :: '>' :: rest => some (withoutRepeats attributes.reverse, true, rest)
    | '/' :: rest => tagRest? n attributes rest
    | c :: rest =>
      match attribute? c rest with
      | some (a, rest) => tagRest? n (a :: attributes) rest
      | none => none

/-- The tag whose name stands at the head of a text. -/
def tag (isEnd : Bool) (cs : List Char) : List Token × List Char :=
  let (name, rest) := upTo (fun c => isSpace c || c == '/' || c == '>') cs
  match tagRest? (rest.length + 1) [] rest with
  | some (attributes, selfCloses, rest) =>
    ([.tag { isEnd, name := nameOf name, attributes, selfCloses }], rest)
  | none => ([], [])

/-! ### Comments -/

/-- The part of a comment that is being read. -/
inductive CommentPart where
  | start
  | startDash
  | body
  | dash
  | dashDash
  | dashDashBang

/-- The text of a comment and the text after it. -/
def comment : CommentPart → List Char → List Char × List Char
  | _, [] => ([], [])
  | part, c :: cs =>
    let go (before : List Char) (next : CommentPart) : List Char × List Char :=
      let (text, rest) := comment next cs
      (before ++ text, rest)
    match part, c with
    | .start, '-' => comment .startDash cs
    | .start, '>' => ([], cs)
    | .startDash, '-' => comment .dashDash cs
    | .startDash, '>' => ([], cs)
    | .startDash, c => go ['-', visible c] .body
    | .dash, '-' => comment .dashDash cs
    | .dash, c => go ['-', visible c] .body
    | .dashDash, '>' => ([], cs)
    | .dashDash, '!' => comment .dashDashBang cs
    | .dashDash, '-' => go ['-'] .dashDash
    | .dashDash, c => go ['-', '-', visible c] .body
    | .dashDashBang, '-' => go ['-', '-', '!'] .dash
    | .dashDashBang, '>' => ([], cs)
    | .dashDashBang, c => go ['-', '-', '!', visible c] .body
    | .body, '-' => comment .dash cs
    | _, c => go [visible c] .body

/-- What is read as a comment although it is none: the text up to a closing angle bracket. -/
def bogusComment (cs : List Char) : List Token × List Char :=
  let (text, rest) := upTo (· == '>') cs
  ([.comment (visibles text)], rest.drop 1)

/-! ### Document types -/

/-- Whether a text starts with a word, the case of letters ignored. -/
def startsWith (word : String) (cs : List Char) : Bool :=
  asciiLower (cs.take word.length) == word.toList

/-- The text after the declaration. -/
def afterDeclaration (cs : List Char) : List Char := (cs.dropWhile (· != '>')).drop 1

/-- Ends a declaration that is not well formed. -/
def broken (d : Doctype) (cs : List Char) : Doctype × List Char :=
  ({ d with isBroken := true }, afterDeclaration cs)

/-- The identifier between quotes at the head of a text: whether it is ended by the quote, the
identifier and the rest; `none` if there is no quote. -/
def identifier? (cs : List Char) : Option (Bool × String × List Char) :=
  match cs with
  | quote :: cs =>
    if quote == '"' || quote == '\'' then
      let (text, rest) := upTo (fun c => c == quote || c == '>') cs
      let text := String.ofList (visibles text)
      match rest with
      | c :: after => some (c == quote, text, if c == quote then after else c :: after)
      | [] => some (false, text, [])
    else none
  | [] => none

/-- The end of a declaration after its system identifier. -/
def afterSystem (d : Doctype) (cs : List Char) : Doctype × List Char :=
  match skipSpace cs with
  | [] => broken d []
  | rest => (d, afterDeclaration rest)

/-- The system identifier of a declaration and what follows. -/
def systemPart (d : Doctype) (isNeeded : Bool) (cs : List Char) : Doctype × List Char :=
  match skipSpace cs with
  | '>' :: rest => ({ d with isBroken := isNeeded }, rest)
  | cs =>
    match identifier? cs with
    | some (true, text, rest) => afterSystem { d with systemId := some text } rest
    | some (false, text, rest) => broken { d with systemId := some text } rest
    | none => broken d cs

/-- The public identifier of a declaration and what follows. -/
def publicPart (d : Doctype) (cs : List Char) : Doctype × List Char :=
  match identifier? (skipSpace cs) with
  | some (true, text, rest) => systemPart { d with publicId := some text } false rest
  | some (false, text, rest) => broken { d with publicId := some text } rest
  | none => broken d cs

/-- A declaration, after its first word. -/
def doctype (cs : List Char) : Doctype × List Char :=
  match skipSpace cs with
  | [] => broken {} []
  | '>' :: rest => broken {} ('>' :: rest)
  | cs =>
    let (name, rest) := upTo (fun c => isSpace c || c == '>') cs
    let d : Doctype := { name := some (nameOf name) }
    match skipSpace rest with
    | [] => broken d []
    | '>' :: rest => (d, rest)
    | rest =>
      if startsWith "public" rest then publicPart d (rest.drop 6)
      else if startsWith "system" rest then systemPart d true (rest.drop 6)
      else broken d rest

/-! ### Markup -/

/-- The pieces of a text between zeros. -/
def pieces (read : List Char → List Token) (cs : List Char) : List Token :=
  ((splitAt '\x00' cs).map fun part => if part.isEmpty then [] else read part)
    |>.intersperse [.nul] |>.flatten

/-- The text up to a mark, and the text after the mark. -/
def splitAtMark (mark : List Char) : List Char → List Char × List Char
  | [] => ([], [])
  | c :: cs =>
    if mark.isPrefixOf (c :: cs) then ([], (c :: cs).drop mark.length)
    else
      let (text, rest) := splitAtMark mark cs
      (c :: text, rest)

/-- The construct after `<!`. -/
def declaration (allowsCdata : Bool) (cs : List Char) : List Token × List Char :=
  if ['-', '-'].isPrefixOf cs then
    let (text, rest) := comment .start (cs.drop 2)
    ([.comment text], rest)
  else if startsWith "doctype" cs then
    let (d, rest) := doctype (cs.drop 7)
    ([.doctype d], rest)
  else if allowsCdata && "[CDATA[".toList.isPrefixOf cs then
    let (text, rest) := splitAtMark "]]>".toList (cs.drop 7)
    (pieces plainText text, rest)
  else bogusComment cs

/-- The construct after an opening angle bracket. -/
def construct (allowsCdata : Bool) (cs : List Char) : List Token × List Char :=
  match cs with
  | '!' :: rest => declaration allowsCdata rest
  | '?' :: _ => bogusComment cs
  | '/' :: '>' :: rest => ([.fault], rest)
  | '/' :: c :: rest => if isAsciiLetter c then tag true (c :: rest) else bogusComment (c :: rest)
  | ['/'] => ([.text ['<', '/']], [])
  | c :: _ => if isAsciiLetter c then tag false cs else ([.text ['<']], cs)
  | [] => ([.text ['<']], [])

/-- The tokens at the head of markup. -/
def markup (allowsCdata : Bool) (cs : List Char) : List Token × List Char :=
  match cs with
  | '<' :: rest => construct allowsCdata rest
  | cs =>
    let (text, rest) := upTo (· == '<') cs
    (pieces referenceText text, rest)

/-! ### Texts up to an end tag -/

/-- Whether an end tag of a name follows an opening angle bracket. -/
def endsWith (name cs : List Char) : Bool :=
  match cs with
  | '/' :: cs =>
    asciiLower (cs.take name.length) == name &&
      match cs.drop name.length with
      | c :: _ => isSpace c || c == '/' || c == '>'
      | [] => false
  | _ => false

/-- The text up to an end tag, and the rest, which starts with the end tag. -/
def untilEndTag (name : List Char) : List Char → List Char × List Char
  | [] => ([], [])
  | c :: cs =>
    if c == '<' && endsWith name cs then ([], c :: cs)
    else
      let (text, rest) := untilEndTag name cs
      (visible c :: text, rest)

/-- The part of a script that is being read. -/
inductive ScriptPart where
  | code
  /-- After `<!` and some dashes. -/
  | opening (dashes : Nat)
  /-- In a comment, after some dashes. -/
  | comment (dashes : Nat)
  /-- In a comment, in a word after an opening angle bracket. -/
  | opensWord (word : List Char)
  /-- In a script inside a comment, after some dashes. -/
  | inner (dashes : Nat)
  /-- In a script inside a comment, after an opening angle bracket. -/
  | innerMark
  /-- In a script inside a comment, in a word after an opening angle bracket and a slash. -/
  | closesWord (word : List Char)

/-- The name of script elements. -/
def scriptName : List Char := "script".toList

/-- The part of a script after a character, given the part before it and the text after it; `none`
at an end tag. -/
def scriptStep (part : ScriptPart) (c : Char) (cs : List Char) : Option ScriptPart :=
  let inCode (c : Char) : Option ScriptPart :=
    if c == '<' then
      if endsWith scriptName cs then none
      else if cs.head? == some '!' then some (.opening 0)
      else some .code
    else some .code
  let inComment (dashes : Nat) (c : Char) : Option ScriptPart :=
    if c == '-' then some (.comment (min 2 (dashes + 1)))
    else if c == '<' then
      if endsWith scriptName cs then none
      else if (cs.head?.map isAsciiLetter).getD false then some (.opensWord [])
      else some (.comment 0)
    else if c == '>' && dashes == 2 then some .code
    else some (.comment 0)
  let inInner (dashes : Nat) (c : Char) : Option ScriptPart :=
    if c == '-' then some (.inner (min 2 (dashes + 1)))
    else if c == '<' then some .innerMark
    else if c == '>' && dashes == 2 then some .code
    else some (.inner 0)
  let endsWord : Bool := isSpace c || c == '/' || c == '>'
  match part with
  | .code => inCode c
  | .opening 0 => some (.opening 1)
  | .opening 1 => if c == '-' then some (.opening 2) else inCode c
  | .opening _ => if c == '-' then some (.comment 2) else inCode c
  | .comment dashes => inComment dashes c
  | .opensWord word =>
    if endsWord then some (if word == scriptName then .inner 0 else .comment 0)
    else if isAsciiLetter c then some (.opensWord (word ++ [c.toLower]))
    else inComment 0 c
  | .inner dashes => inInner dashes c
  | .innerMark => if c == '/' then some (.closesWord []) else inInner 0 c
  | .closesWord word =>
    if endsWord then some (if word == scriptName then .comment 0 else .inner 0)
    else if isAsciiLetter c then some (.closesWord (word ++ [c.toLower]))
    else inInner 0 c

/-- The text of a script up to its end tag, and the rest, which starts with the end tag. -/
def script : ScriptPart → List Char → List Char × List Char
  | _, [] => ([], [])
  | part, c :: cs =>
    match scriptStep part c cs with
    | some next =>
      let (text, rest) := script next cs
      (visible c :: text, rest)
    | none => ([], c :: cs)

/-- The text up to an end tag or, where there is none, the end tag itself. -/
def textOrEndTag (result : List Char × List Char) (read : List Char → List Token) :
    List Token × List Char :=
  match result with
  | ([], '<' :: '/' :: rest) => tag true rest
  | (text, rest) => (read text, rest)

/-- The text without a mark of its encoding at its head. -/
def withoutMark : List Char → List Char
  | '\uFEFF' :: cs => cs
  | cs => cs

/-- The text of a script or its end tag. The text goes on as a new one behind the end tag, so that a
mark of its encoding is left out there. -/
def scriptOrEndTag (cs : List Char) : List Token × List Char :=
  match textOrEndTag (script .code cs) plainText with
  | ([.tag t], rest) => ([.tag t], withoutMark rest)
  | result => result

/-! ### All ways of reading -/

/-- The tokens at the head of a text that is not empty, and the rest. -/
def next (allowsCdata : Bool) (reading : Reading) (cs : List Char) : List Token × List Char :=
  match reading with
  | .markup => markup allowsCdata cs
  | .referenceText name => textOrEndTag (untilEndTag name cs) referenceText
  | .rawText name => textOrEndTag (untilEndTag name cs) plainText
  | .script => scriptOrEndTag cs
  | .plain => ([.text (visibles cs)], [])

/-- A text is taken in blocks of so many bytes. -/
def blockSize : Nat := 4096

/-- The text without the marks of its encoding that stand at the head of a block. A character that
reaches into the next block is a block of its own. `start` is the number of bytes before the text,
and `afterSplit` says whether the character before it was such a character. -/
def withoutMarks (start : Nat) (afterSplit : Bool) : List Char → List Char
  | [] => []
  | c :: cs =>
    let stop := start + c.utf8Size
    let isSplit := start / blockSize != (stop - 1) / blockSize
    let rest := withoutMarks stop isSplit cs
    if c == '\uFEFF' && (start % blockSize == 0 || isSplit || afterSplit) then rest else c :: rest

/-- The text with a line feed for each end of a line. -/
def withLineFeeds : List Char → List Char
  | [] => []
  | '\r' :: '\n' :: cs => '\n' :: withLineFeeds cs
  | c :: cs => (if c == '\r' then '\n' else c) :: withLineFeeds cs

/-- The text with a line feed for each end of a line, and without marks of its encoding. -/
def prepare (cs : List Char) : List Char := withLineFeeds (withoutMarks 0 false cs)

end SourceEdit.Markup.Lexer
