import SourceEdit.Script.Token
import SourceEdit.Text.Characters
import SourceEdit.Unicode.Identifier

/-!
# Reading tokens

`Lexer.next` skips white space and comments and reads one token.  Comments are gathered on the way:
a comment leads the next token unless it ends the line that it stands on, after a token of that
line.

Each scanner takes the text from some place on and gives what it read together with the text that is
left.  `fuel` bounds the number of characters that may be read; the length of the source is enough.
-/

namespace SourceEdit.Script.Lexer

/-! ### Characters -/

/-- The number of bytes that encode a text. -/
def byteLength (cs : List Char) : Nat := cs.foldl (fun n c => n + c.utf8Size) 0

/-- A character that ends a line. -/
def isLineEnd (c : Char) : Bool := c == '\n' || c == '\r' || c == '\u2028' || c == '\u2029'

/-- White space that does not end a line. The mark for the next line and the space without width
are among it. -/
def isSpace (c : Char) : Bool :=
  let n := c.toNat
  n == 0x20 || n == 0x09 || n == 0x0B || n == 0x0C || n == 0x85 || n == 0xA0 || n == 0xFEFF
    || n == 0x1680 || (0x2000 ≤ n && n ≤ 0x200B) || n == 0x202F || n == 0x205F || n == 0x3000

/-- A character that may start a name. -/
def isNameStart (c : Char) : Bool :=
  isAsciiLetter c || c == '$' || c == '_'
    || (c.toNat ≥ 0x80 && Unicode.identifierStart.containsChar c)

/-- A character that may continue a name. -/
def isNamePart (c : Char) : Bool :=
  isAsciiLetter c || isAsciiDigit c || c == '$' || c == '_'
    || (c.toNat ≥ 0x80
      && (Unicode.identifierContinue.containsChar c || c == '\u200c' || c == '\u200d'))

/-! ### Escapes -/

/-- The code point of hexadecimal digits in braces, after the opening brace. -/
private def bracedCode? (cs : List Char) : Option (Nat × List Char) :=
  let digits := cs.takeWhile isHexDigit
  match cs.drop digits.length with
  | '\x7d' :: rest => do
    let n ← numberInBase? 16 digits
    if n ≤ 0x10FFFF then some (n, rest) else none
  | _ => none

/-- The code of exactly `width` hexadecimal digits. -/
private def fixedCode? (width : Nat) (cs : List Char) : Option (Nat × List Char) :=
  let digits := cs.take width
  if digits.length = width then (numberInBase? 16 digits).map (·, cs.drop width) else none

/-- The code of a Unicode escape after its letter. -/
def unicodeCode? : List Char → Option (Nat × List Char)
  | '\x7b' :: cs => bracedCode? cs
  | cs => fixedCode? 4 cs

/-- The character of an escape in a name, after its backslash. -/
private def nameEscape? : List Char → Option (Char × List Char)
  | 'u' :: cs => do
    let (n, rest) ← unicodeCode? cs
    if 0xD800 ≤ n && n ≤ 0xDFFF then none else some (Char.ofNat n, rest)
  | _ => none

/-- A name: its characters, whether it has escapes, whether these are well formed, and the rest. -/
structure NameScan where
  name : List Char
  escaped : Bool
  valid : Bool
  rest : List Char

/-- Scans the rest of a name; `first` says that no character of it has been read. -/
def scanName : Nat → Bool → List Char → NameScan
  | 0, _, cs => ⟨[], false, true, cs⟩
  | _ + 1, _, [] => ⟨[], false, true, []⟩
  | n + 1, first, c :: cs =>
    let allowed (d : Char) : Bool := if first then isNameStart d else isNamePart d
    if allowed c then
      let r := scanName n false cs
      { r with name := c :: r.name }
    else if c == '\\' then
      match nameEscape? cs with
      | some (d, rest) =>
        let r := scanName n false rest
        { r with name := d :: r.name, escaped := true, valid := r.valid && allowed d }
      | none => ⟨[], true, false, cs⟩
    else ⟨[], false, true, c :: cs⟩

/-! ### Strings and templates -/

/-- What an escape in a string stands for, after its backslash: the units it adds, the rest, and
whether it is allowed in a template. -/
private def stringEscape? (cs : List Char) : Option (List Nat × List Char × Bool) :=
  match cs with
  | [] => none
  | c :: r =>
    match c with
    | 'n' => some ([0x0A], r, true)
    | 't' => some ([0x09], r, true)
    | 'r' => some ([0x0D], r, true)
    | 'b' => some ([0x08], r, true)
    | 'f' => some ([0x0C], r, true)
    | 'v' => some ([0x0B], r, true)
    | '\r' => match r with
      | '\n' :: r => some ([], r, true)
      | _ => some ([], r, true)
    | 'x' => (fixedCode? 2 r).map fun (n, r) => ([n], r, true)
    | 'u' => (unicodeCode? r).map fun (n, r) => ([n], r, true)
    | _ =>
      if isLineEnd c then some ([], r, true)
      else if '0' ≤ c && c ≤ '7' then
        let limit := if c ≤ '3' then 3 else 2
        let digits := (cs.take limit).takeWhile fun d => '0' ≤ d && d ≤ '7'
        let rest := cs.drop digits.length
        let followedByDigit := match rest with
          | d :: _ => isAsciiDigit d
          | [] => false
        some ([(numberInBase? 8 digits).getD 0], rest,
          digits.length = 1 && c == '0' && !followedByDigit)
      else some ([c.toNat], r, c != '8' && c != '9')

/-- Joins pairs of surrogates that escapes spelled one by one. -/
def joinSurrogates : List Nat → List Nat
  | high :: low :: rest =>
    if 0xD800 ≤ high && high < 0xDC00 && 0xDC00 ≤ low && low < 0xE000 then
      (0x10000 + (high - 0xD800) * 0x400 + (low - 0xDC00)) :: joinSurrogates rest
    else high :: joinSurrogates (low :: rest)
  | units => units

/-- Scans a string after its opening quote: its value and the text after the closing quote. -/
def scanString (quote : Char) : Nat → List Char → Option (List Nat × List Char)
  | 0, _ => none
  | _ + 1, [] => none
  | n + 1, c :: cs =>
    if c == quote then some ([], cs)
    else if c == '\n' || c == '\r' then none
    else if c == '\\' then do
      let (units, rest, _) ← stringEscape? cs
      let (more, rest) ← scanString quote n rest
      some (units ++ more, rest)
    else do
      let (more, rest) ← scanString quote n cs
      some (c.toNat :: more, rest)

/-- A piece of a template: its raw text, whether it holds an invalid escape, whether it ends the
template, and the text after it. -/
structure TemplateScan where
  raw : List Char
  invalid : Bool
  complete : Bool
  rest : List Char

/-- Scans a template up to its end or to its next substitution, its line ends normalised. -/
private def scanPiece : Nat → List Char → Option TemplateScan
  | 0, _ => none
  | _ + 1, [] => none
  | n + 1, c :: cs =>
    let more (units : List Char) (invalid : Bool) (rest : List Char) : Option TemplateScan :=
      (scanPiece n rest).map fun r =>
        { r with raw := units ++ r.raw, invalid := invalid || r.invalid }
    match c, cs with
    | '\x60', _ => some ⟨[], false, true, cs⟩
    | '$', '\x7b' :: rest => some ⟨[], false, false, rest⟩
    | '\r', '\n' :: rest => more ['\n'] false rest
    | '\r', _ => more ['\n'] false cs
    | '\\', d :: rest =>
      let invalid := match stringEscape? cs with
        | some (_, _, allowed) => !allowed
        | none => true
      match d, rest with
      | '\r', '\n' :: rest => more ['\\', '\n'] false rest
      | '\r', _ => more ['\\', '\n'] false rest
      | _, _ => more ['\\', d] invalid rest
    | _, _ => more [c] false cs

/-- Scans a template up to its end or to its next substitution. Its line ends are normalised unless
it holds an invalid escape. -/
def scanTemplate (fuel : Nat) (cs : List Char) : Option TemplateScan :=
  (scanPiece fuel cs).map fun scan =>
    if scan.invalid then
      let mark := if scan.complete then 1 else 2
      { scan with raw := cs.take (cs.length - scan.rest.length - mark) }
    else scan

/-! ### Numbers -/

/-- Digits with separators: the digits, the rest, and whether the separators stand between
digits. -/
private def scanDigits (isDigit : Char → Bool) (cs : List Char) : List Char × List Char × Bool :=
  let taken := cs.takeWhile fun c => isDigit c || c == '_'
  let rest := cs.drop taken.length
  let rec separated : Bool → List Char → Bool
    | last, [] => last
    | last, c :: cs => if c == '_' then last && separated false cs else separated true cs
  (taken.filter (· != '_'), rest, taken.isEmpty || separated false taken)

/-- A number: its spelling without separators, and the text after it. -/
structure NumberScan where
  text : List Char
  isBigint : Bool
  rest : List Char

/-- A number in another base than ten, after the letter of its base. -/
private def scanBased (letter : Char) (isDigit : Char → Bool) (cs : List Char) :
    Option NumberScan :=
  let (digits, rest, separated) := scanDigits isDigit cs
  if digits.isEmpty || !separated then none
  else match rest with
    | 'n' :: rest => some ⟨'0' :: letter :: digits, true, rest⟩
    | _ => some ⟨'0' :: letter :: digits, false, rest⟩

/-- The exponent of a number. -/
private def scanExponent (cs : List Char) : Option (List Char × List Char) :=
  match cs with
  | e :: r =>
    if e == 'e' || e == 'E' then
      let (sign, r) := match r with
        | '+' :: r => ([], r)
        | '-' :: r => (['-'], r)
        | r => ([], r)
      let (digits, rest, separated) := scanDigits isAsciiDigit r
      if digits.isEmpty || !separated then none else some ('e' :: sign ++ digits, rest)
    else some ([], cs)
  | [] => some ([], cs)

/-- The fraction and the exponent of a number, after its whole digits. -/
private def scanFraction (whole cs : List Char) : Option NumberScan :=
  match cs with
  | '.' :: r => do
    let (digits, rest, separated) := scanDigits isAsciiDigit r
    if !separated then none
    else
      let (exponent, rest) ← scanExponent rest
      some ⟨whole ++ '.' :: digits ++ exponent, false, rest⟩
  | _ => do
    let (exponent, rest) ← scanExponent cs
    some ⟨whole ++ exponent, false, rest⟩

/-- A number that starts with a zero and another digit. -/
private def scanLeadingZero (cs : List Char) : Option NumberScan :=
  let digits := cs.takeWhile isAsciiDigit
  let rest := cs.drop digits.length
  if digits.all fun c => '0' ≤ c && c ≤ '7' then
    match rest with
    | 'n' :: _ | '_' :: _ => none
    | _ => some ⟨'0' :: 'o' :: digits, false, rest⟩
  else match rest with
    | 'n' :: _ | '_' :: _ => none
    | _ => scanFraction digits rest

/-- A decimal number. -/
private def scanDecimal (cs : List Char) : Option NumberScan :=
  let (digits, rest, separated) := scanDigits isAsciiDigit cs
  if !separated then none
  else match rest with
    | 'n' :: rest => some ⟨digits, true, rest⟩
    | _ => scanFraction digits rest

/-- A number; no name may follow it directly. -/
def scanNumber (cs : List Char) : Option NumberScan := do
  let scan ← match cs with
    | '0' :: 'x' :: r | '0' :: 'X' :: r => scanBased 'x' isHexDigit r
    | '0' :: 'o' :: r | '0' :: 'O' :: r => scanBased 'o' (fun c => '0' ≤ c && c ≤ '7') r
    | '0' :: 'b' :: r | '0' :: 'B' :: r => scanBased 'b' (fun c => c == '0' || c == '1') r
    | '0' :: d :: _ =>
      if d == '_' then none else if isAsciiDigit d then scanLeadingZero cs else scanDecimal cs
    | _ => scanDecimal cs
  match scan.rest with
  | c :: _ => if isNameStart c || isAsciiDigit c || c == '\\' then none else some scan
  | [] => some scan

/-! ### Regular expressions -/

/-- Scans the body of a regular expression up to its closing slash. -/
private def scanRegexBody : Bool → List Char → Option (List Char × List Char)
  | _, [] => none
  | inClass, '\\' :: c :: cs =>
    if isLineEnd c then none
    else (scanRegexBody inClass cs).map fun (body, rest) => ('\\' :: c :: body, rest)
  | inClass, c :: cs =>
    if isLineEnd c then none
    else if c == '/' && !inClass then some ([], cs)
    else
      let inClass := if c == '[' then true else if c == ']' then false else inClass
      (scanRegexBody inClass cs).map fun (body, rest) => (c :: body, rest)

/-- Whether the flags of a regular expression are known and not repeated. -/
private def flagsAllowed : List Char → Bool
  | [] => true
  | c :: cs =>
    ['d', 'g', 'i', 'm', 's', 'u', 'v', 'y'].contains c && !cs.contains c && flagsAllowed cs

/-- A regular expression after its opening slash: its body, its flags and the text after it. -/
def scanRegex (cs : List Char) : Option (List Char × List Char × List Char) := do
  let (body, rest) ← scanRegexBody false cs
  let flags := rest.takeWhile isNamePart
  if flagsAllowed flags && !(flags.contains 'u' && flags.contains 'v') then
    some (body, flags, rest.drop flags.length)
  else none

/-! ### Punctuation -/

/-- The punctuation at the head of a text. A greater-than sign is always read alone. -/
def scanPunct? : List Char → Option (Punct × List Char)
  | '\x7b' :: r => some (.braceOpen, r)
  | '\x7d' :: r => some (.braceClose, r)
  | '(' :: r => some (.parenOpen, r)
  | ')' :: r => some (.parenClose, r)
  | '[' :: r => some (.bracketOpen, r)
  | ']' :: r => some (.bracketClose, r)
  | '.' :: '.' :: '.' :: r => some (.ellipsis, r)
  | '.' :: r => some (.dot, r)
  | ';' :: r => some (.semicolon, r)
  | ',' :: r => some (.comma, r)
  | ':' :: r => some (.colon, r)
  | '?' :: '?' :: '=' :: r => some (.coalesceEq, r)
  | '?' :: '?' :: r => some (.coalesce, r)
  | '?' :: '.' :: r =>
    match r with
    | c :: _ => if isAsciiDigit c then some (.question, '.' :: r) else some (.questionDot, r)
    | [] => some (.questionDot, r)
  | '?' :: r => some (.question, r)
  | '=' :: '=' :: '=' :: r => some (.eqEqEq, r)
  | '=' :: '=' :: r => some (.eqEq, r)
  | '=' :: '>' :: r => some (.arrow, r)
  | '=' :: r => some (.eq, r)
  | '@' :: r => some (.at, r)
  | '<' :: '<' :: '=' :: r => some (.shiftLeftEq, r)
  | '<' :: '<' :: r => some (.shiftLeft, r)
  | '<' :: '=' :: r => some (.lessEq, r)
  | '<' :: r => some (.less, r)
  | '>' :: r => some (.greater, r)
  | '!' :: '=' :: '=' :: r => some (.notEqEq, r)
  | '!' :: '=' :: r => some (.notEq, r)
  | '!' :: r => some (.bang, r)
  | '+' :: '+' :: r => some (.plusPlus, r)
  | '+' :: '=' :: r => some (.plusEq, r)
  | '+' :: r => some (.plus, r)
  | '-' :: '-' :: r => some (.minusMinus, r)
  | '-' :: '=' :: r => some (.minusEq, r)
  | '-' :: r => some (.minus, r)
  | '*' :: '*' :: '=' :: r => some (.starStarEq, r)
  | '*' :: '*' :: r => some (.starStar, r)
  | '*' :: '=' :: r => some (.starEq, r)
  | '*' :: r => some (.star, r)
  | '/' :: '=' :: r => some (.slashEq, r)
  | '/' :: r => some (.slash, r)
  | '%' :: '=' :: r => some (.percentEq, r)
  | '%' :: r => some (.percent, r)
  | '&' :: '&' :: '=' :: r => some (.ampAmpEq, r)
  | '&' :: '&' :: r => some (.ampAmp, r)
  | '&' :: '=' :: r => some (.ampEq, r)
  | '&' :: r => some (.amp, r)
  | '|' :: '|' :: '=' :: r => some (.barBarEq, r)
  | '|' :: '|' :: r => some (.barBar, r)
  | '|' :: '=' :: r => some (.barEq, r)
  | '|' :: r => some (.bar, r)
  | '^' :: '=' :: r => some (.caretEq, r)
  | '^' :: r => some (.caret, r)
  | '~' :: r => some (.tilde, r)
  | _ => none

/-- The operator that starts with a greater-than sign, read as far as possible. -/
def scanGreater : List Char → Punct × List Char
  | '>' :: '>' :: '>' :: '=' :: r => (.shiftRightZeroEq, r)
  | '>' :: '>' :: '>' :: r => (.shiftRightZero, r)
  | '>' :: '>' :: '=' :: r => (.shiftRightEq, r)
  | '>' :: '>' :: r => (.shiftRight, r)
  | '>' :: '=' :: r => (.greaterEq, r)
  | r => (.greater, r.drop 1)

/-! ### Comments -/

/-- The comments met so far, in reverse, and what is known about the line under way. -/
structure Trivia where
  /-- Comments whose place is settled. -/
  settled : List Comment := []
  /-- Comments that may lead the next token. -/
  pending : List Comment := []
  /-- Whether a line end was met since the last token. -/
  sawNewLine : Bool := true
  /-- Whether the last token was one after which a line comment leads what follows. -/
  afterOpening : Bool := false
deriving Inhabited

/-- Settles the pending comments where they are. -/
private def Trivia.settle (t : Trivia) : Trivia :=
  { t with settled := t.pending ++ t.settled, pending := [] }

/-- Notes the end of a line. -/
def Trivia.newLine (t : Trivia) : Trivia :=
  match t.pending with
  | [] => { t with sawNewLine := true }
  | c :: cs =>
    let t := { t with pending := { c with beforeNewLine := true } :: cs }
    if t.sawNewLine then t else { t.settle with sawNewLine := true }

/-- Notes a token: the pending comments lead it. -/
def Trivia.token (t : Trivia) (start : Nat) (opens : Bool) : Trivia :=
  { settled := t.pending.map (fun c => { c with attachedTo := some start }) ++ t.settled,
    pending := [], sawNewLine := false, afterOpening := opens }

/-- Notes a comment. -/
def Trivia.comment (t : Trivia) (c : Comment) : Trivia :=
  let c := { c with afterNewLine := t.sawNewLine }
  let added := { t with pending := c :: t.pending }
  if c.form == .line then
    let added := if t.sawNewLine || t.afterOpening then added else added.settle
    { added with sawNewLine := true }
  else added

/-- Every comment, in order. -/
def Trivia.comments (t : Trivia) : List Comment := (t.pending ++ t.settled).reverse

/-- Whether a text holds a phrase. -/
private def holds (phrase : List Char) : List Char → Bool
  | [] => phrase.isEmpty
  | c :: cs => phrase.isPrefixOf (c :: cs) || holds phrase cs

/-- Whether a text asks for a notice to be kept. -/
private def isNotice (text : List Char) : Bool :=
  holds "@license".toList text || holds "@preserve".toList text

/-- What a comment says to tools, by the text between its delimiters. -/
def commentContent (form : Comment.Form) (inner : List Char) : Comment.Content :=
  match inner with
  | [] => .ordinary
  | '!' :: _ => .notice
  | c :: _ =>
    if c == '*' && form != .line then
      if isNotice inner then .notice else .ordinary
    else
      let body := inner.dropWhile fun c =>
        c == ' ' || c == '\t' || c == '\n' || c == '\x0c' || c == '\r'
      match body with
      | m :: r =>
        if m == '@' || m == '#' then
          if "__PURE__".toList.isPrefixOf r then .pure
          else if "__NO_SIDE_EFFECTS__".toList.isPrefixOf r then .noEffects
          else if isNotice inner then .notice
          else .ordinary
        else if isNotice inner then .notice
        else .ordinary
      | [] => .ordinary

/-- The text of a line comment after its slashes. -/
private def lineBody (cs : List Char) : List Char := cs.takeWhile fun c => !isLineEnd c

/-- The text of a block comment after its opening, if it is closed. -/
private def blockBody? : List Char → Option (List Char × List Char)
  | '*' :: '/' :: cs => some ([], cs)
  | c :: cs => (blockBody? cs).map fun (body, rest) => (c :: body, rest)
  | [] => none

/-! ### Tokens -/

/-- A place in the text. -/
structure Place where
  rest : List Char
  offset : Nat

/-- What precedes a token: whether a line ended, and what its comments mark. -/
structure Lead where
  onNewLine : Bool
  marksPure : Bool := false
  marksNoEffects : Bool := false

/-- The mode in which a token is read. -/
inductive Mode where
  /-- Ordinary tokens. -/
  | plain
  /-- The content of a markup element. -/
  | elementContent
  /-- The value of a markup attribute. -/
  | attributeValue
deriving DecidableEq

/-- Skips white space and comments before a token; fails when a comment is not closed. The line and
paragraph separators end the line of a token, but not that of a comment. -/
def skip (htmlComments : Bool) : Nat → Place → Trivia → Lead →
    Option (Place × Trivia × Lead)
  | 0, p, t, lead => some (p, t, lead)
  | n + 1, p, t, lead =>
    let lineComment (opening : List Char) (cs : List Char) : Option (Place × Trivia × Lead) :=
      let body := lineBody cs
      let text := opening ++ body
      let stop := p.offset + byteLength text
      let content := commentContent .line body
      let c : Comment :=
        { form := .line, content, start := p.offset, stop, text,
          afterNewLine := false, beforeNewLine := true }
      skip htmlComments n ⟨cs.drop body.length, stop⟩ (t.comment c)
        { lead with
          marksPure := lead.marksPure || content == .pure,
          marksNoEffects := lead.marksNoEffects || content == .noEffects }
    match p.rest with
    | [] => some (p, t, lead)
    | '/' :: '/' :: cs => lineComment ['/', '/'] cs
    | '/' :: '*' :: cs =>
      match blockBody? cs with
      | none => none
      | some (body, rest) =>
        let text := '/' :: '*' :: body ++ ['*', '/']
        let stop := p.offset + byteLength text
        let lines := body.any isLineEnd
        let form := if lines then Comment.Form.blockOfLines else .block
        let content := commentContent form body
        let c : Comment :=
          { form, content, start := p.offset, stop, text,
            afterNewLine := false, beforeNewLine := false }
        skip htmlComments n ⟨rest, stop⟩ (t.comment c)
          { onNewLine := lead.onNewLine || lines,
            marksPure := lead.marksPure || content == .pure,
            marksNoEffects := lead.marksNoEffects || content == .noEffects }
    | c :: cs =>
      if isLineEnd c then
        let t := if c == '\n' || c == '\r' then t.newLine else t
        skip htmlComments n ⟨cs, p.offset + c.utf8Size⟩ t { lead with onNewLine := true }
      else if isSpace c then skip htmlComments n ⟨cs, p.offset + c.utf8Size⟩ t lead
      else if htmlComments && ['<', '!', '-', '-'].isPrefixOf p.rest then
        lineComment ['<', '!', '-', '-'] (p.rest.drop 4)
      else if htmlComments && lead.onNewLine && ['-', '-', '>'].isPrefixOf p.rest then
        lineComment ['-', '-', '>'] (p.rest.drop 3)
      else some (p, t, lead)

/-- Builds a token that ends where `rest` starts. -/
def build (p : Place) (lead : Lead) (kind : Token.Kind) (text rest : List Char) : Token :=
  let consumed := p.rest.length - rest.length
  { kind, start := p.offset, stop := p.offset + byteLength (p.rest.take consumed),
    onNewLine := lead.onNewLine, text, marksPure := lead.marksPure,
    marksNoEffects := lead.marksNoEffects, source := p.rest, rest }

/-- A token that is not one. -/
def invalid (p : Place) (lead : Lead) : Token :=
  build p lead .invalid [] (p.rest.drop 1)

/-- The token at a place, white space and comments skipped. -/
def read (fuel : Nat) (p : Place) (lead : Lead) : Token :=
  match p.rest with
  | [] => build p lead .endOfText [] []
  | c :: cs =>
    if isNameStart c || c == '\\' then
      let scan := scanName fuel true p.rest
      if !scan.valid then invalid p lead
      else
        let kind := match Word.ofName? scan.name with
          | some w => Token.Kind.word w
          | none => .name
        { build p lead kind scan.name scan.rest with escaped := scan.escaped }
    else if isAsciiDigit c then
      match scanNumber p.rest with
      | some scan => build p lead (if scan.isBigint then .bigint else .number) scan.text scan.rest
      | none => invalid p lead
    else if c == '"' || c == '\'' then
      match scanString c fuel cs with
      | some (units, rest) =>
        let raw := cs.take (cs.length - rest.length - 1)
        { build p lead .string raw rest with units := joinSurrogates units }
      | none => invalid p lead
    else if c == '\x60' then
      match scanTemplate fuel cs with
      | some scan =>
        { build p lead (.template scan.complete) scan.raw scan.rest with escaped := scan.invalid }
      | none => invalid p lead
    else if c == '#' then
      let scan := scanName fuel true cs
      if scan.valid && !scan.name.isEmpty then
        { build p lead .privateName scan.name scan.rest with escaped := scan.escaped }
      else invalid p lead
    else
      let number : Option NumberScan := match c, cs with
        | '.', d :: _ => if isAsciiDigit d then scanNumber p.rest else none
        | _, _ => none
      match number with
      | some scan => build p lead .number scan.text scan.rest
      | none =>
        match c, cs with
        | '.', d :: _ =>
          if isAsciiDigit d then invalid p lead
          else match scanPunct? p.rest with
            | some (punct, rest) => build p lead (.punct punct) [] rest
            | none => invalid p lead
        | _, _ =>
          match scanPunct? p.rest with
          | some (punct, rest) => build p lead (.punct punct) [] rest
          | none => invalid p lead

/-- Whether a token is one after which a line comment leads what follows. -/
def isOpening (t : Token) : Bool :=
  t.kind == .punct .eq || t.kind == .punct .parenOpen

/-- The next token in the given mode. -/
def next (mode : Mode) (htmlComments : Bool) (fuel : Nat) (p : Place) (t : Trivia) :
    Token × Trivia :=
  match mode with
  | .elementContent =>
    let lead : Lead := { onNewLine := false }
    let token := match p.rest with
      | [] => build p lead .endOfText [] []
      | '<' :: r => build p lead (.punct .less) [] r
      | '\x7b' :: r => build p lead (.punct .braceOpen) [] r
      | cs =>
        let text := cs.takeWhile fun c => c != '<' && c != '\x7b'
        build p lead .elementText text (cs.drop text.length)
    (token, t.token token.start (isOpening token))
  | _ =>
    match skip htmlComments fuel p t { onNewLine := false } with
    | none =>
      let token := invalid p { onNewLine := false }
      (token, t.token token.start false)
    | some (p, t, lead) =>
      let token :=
        if mode == .attributeValue then
          match p.rest with
          | c :: cs =>
            if c == '"' || c == '\'' then
              let raw := cs.takeWhile (· != c)
              match cs.drop raw.length with
              | _ :: rest => { build p lead .string raw rest with units := raw.map Char.toNat }
              | [] => invalid p lead
            else read fuel p lead
          | [] => read fuel p lead
        else read fuel p lead
      (token, t.token token.start (isOpening token))

/-! ### Reading a token again -/

/-- Builds a token with the start of another one. -/
private def rebuild (t : Token) (kind : Token.Kind) (text rest : List Char) : Token :=
  let consumed := t.source.length - rest.length
  { t with kind, text, rest, units := [], flags := [], escaped := false,
           stop := t.start + byteLength (t.source.take consumed) }

/-- A slash read as the start of a regular expression. -/
def asRegex (t : Token) : Token :=
  match scanRegex (t.source.drop 1) with
  | some (body, flags, rest) => { rebuild t .regex body rest with flags }
  | none => rebuild t .invalid [] (t.source.drop 1)

/-- A closing brace read as the continuation of a template. -/
def asTemplateTail (fuel : Nat) (t : Token) : Token :=
  match scanTemplate fuel (t.source.drop 1) with
  | some scan => { rebuild t (.template scan.complete) scan.raw scan.rest with
      escaped := scan.invalid }
  | none => rebuild t .invalid [] (t.source.drop 1)

/-- A greater-than sign read as the longest operator that starts with it. -/
def asOperator (t : Token) : Token :=
  let (punct, rest) := scanGreater t.source
  rebuild t (.punct punct) [] rest

/-- An operator that starts with a less-than sign read as that sign alone. -/
def asLess (t : Token) : Token := rebuild t (.punct .less) [] (t.source.drop 1)

/-- A name read as the name of a markup element, which may hold dashes. -/
def asElementName (t : Token) : Token :=
  let more := t.rest.takeWhile fun c => isNamePart c || c == '-'
  let text := t.source.take (t.source.length - t.rest.length + more.length)
  { rebuild t .name text (t.rest.drop more.length) with escaped := t.escaped }

end SourceEdit.Script.Lexer
