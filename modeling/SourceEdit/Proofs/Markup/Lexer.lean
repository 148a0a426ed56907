import Mathlib.Data.List.Nodup
import SourceEdit.Markup.Lexer
import SourceEdit.Proofs.Checked
import SourceEdit.Proofs.Text.Letters
import SourceEdit.Proofs.Text.Trim

/-!
# The tags that are read

A name is read up to a character that ends it and is put in small letters, and an attribute whose
name has occurred before is left out.  So the tags that `Lexer.next` gives are sound: their names are
names in small letters, and their attributes have different names (`isSound_next`).

The end tag that ends a text is sound because the text was opened by one: the way of reading keeps
the name.
-/

namespace SourceEdit.Markup

/-! ### Names -/

/-- A character that can stand in a name. -/
def isNameChar (c : Char) : Bool := !(Lexer.isSpace c || c == '/' || c == '>' || c == '\x00')

/-- Whether a text can be read as the name of a tag. -/
def isTagName (cs : List Char) : Bool := cs.head?.any isAsciiLetter && cs.all isNameChar

/-- Whether a text can be read as the name of an attribute. An equals sign can only stand at its
head. -/
def isAttributeName (cs : List Char) : Bool :=
  !cs.isEmpty && cs.all isNameChar && !cs.tail.contains '='

/-- Whether a text has no capitals. -/
def isSmall (cs : List Char) : Bool := asciiLower cs == cs

/-- The attributes of a tag: names in small letters that differ. -/
structure AreAttributes (attributes : List (String × String)) : Prop where
  isName : ∀ a ∈ attributes, isAttributeName a.1.toList = true ∧ isSmall a.1.toList = true
  nodup : (attributes.map (·.1)).Nodup

@[grind ←]
theorem AreAttributes.nil : AreAttributes [] := ⟨List.forall_mem_nil _, List.nodup_nil⟩

instance Checked.tag : Checked Tag :=
  ⟨fun t => (isTagName t.name.toList = true ∧ isSmall t.name.toList = true) ∧
    AreAttributes t.attributes⟩

/-- The only tokens that carry names are tags. -/
def Token.IsSound : Token → Prop
  | .tag t => SourceEdit.IsSound t
  | _ => True

instance Checked.token : Checked Token := ⟨Token.IsSound⟩

/-- A way of reading that waits for an end tag waits for a name. -/
def Reading.IsSound : Reading → Prop
  | .referenceText name | .rawText name => name.head?.any isAsciiLetter = true
  | _ => True

instance Checked.reading : Checked Reading := ⟨Reading.IsSound⟩

@[simp, grind =]
theorem isSound_tag {t : Tag} : IsSound (Token.tag t) ↔ IsSound t := .rfl

namespace Lexer

/-! ### Characters of names -/

/-- Letters go into names. -/
theorem isNameChar_of_isAsciiLetter {c : Char} (hc : isAsciiLetter c = true) :
    isNameChar c = true := by
  simp only [isAsciiLetter, Bool.or_eq_true, Bool.and_eq_true, decide_eq_true_eq, Char.le_def,
    UInt32.le_iff_toNat_le] at hc
  simp only [isNameChar, isSpace, Bool.not_eq_true', Bool.or_eq_false_iff, beq_eq_false_iff_ne]
  refine ⟨⟨⟨⟨⟨⟨?_, ?_⟩, ?_⟩, ?_⟩, ?_⟩, ?_⟩, ?_⟩ <;> rintro rfl <;> simp at hc

/-- What goes into names neither ends them nor is the zero character. -/
theorem isNameChar_iff {c : Char} : isNameChar c = true ↔
    (isSpace c || c == '/' || c == '>') = false ∧ c ≠ '\x00' := by
  simp only [isNameChar, Bool.not_eq_true', Bool.or_eq_false_iff, beq_eq_false_iff_ne]

/-- Small letters go into names as capitals do. -/
theorem isNameChar_toLower (c : Char) : isNameChar c.toLower = isNameChar c :=
  toLower_congr (fun _ => isNameChar_of_isAsciiLetter) c

/-- What is seen of a character that ends no name goes into names. -/
theorem isNameChar_visible {c : Char} (h : (isSpace c || c == '/' || c == '>') = false) :
    isNameChar (visible c) = true := by
  unfold visible
  split
  · decide
  · next hc => exact isNameChar_iff.mpr ⟨h, fun hnul => hc (beq_iff_eq.mpr hnul)⟩

/-- A name is in small letters, and shows zeros by their replacement. -/
theorem toList_nameOf (cs : List Char) : (nameOf cs).toList = cs.map fun c => (visible c).toLower := by
  simp [nameOf, asciiLower, visibles]

/-- Names that are read have no capitals. -/
theorem isSmall_nameOf (cs : List Char) : isSmall (nameOf cs).toList = true := by
  simp [isSmall, toList_nameOf, asciiLower]

/-- A name is made of characters of names. -/
theorem all_isNameChar_nameOf {cs : List Char}
    (h : ∀ c ∈ cs, (isSpace c || c == '/' || c == '>') = false) :
    (nameOf cs).toList.all isNameChar = true := by
  rw [toList_nameOf, List.all_map, List.all_eq_true]
  intro c hc
  rw [Function.comp_apply, isNameChar_toLower]
  exact isNameChar_visible (h c hc)

/-- No other character is read as an equals sign. -/
theorem eq_equals_of_toLower_visible {c : Char} (h : (visible c).toLower = '=') : c = '=' := by
  have hlower : ((visible c).toLower == '=') = (visible c == '=') := by
    refine toLower_congr (f := (· == '=')) (b := false) (fun c hc => beq_eq_false_iff_ne.mpr ?_) _
    rintro rfl
    simp [isAsciiLetter] at hc
  have h : visible c = '=' := beq_iff_eq.mp (hlower ▸ beq_iff_eq.mpr h)
  unfold visible at h
  split at h
  · simp [Reference.replacement] at h
  · exact h

/-- What stands before the first character of a kind is not of that kind. -/
theorem forall_mem_upTo (p : Char → Bool) (cs : List Char) : ∀ c ∈ (upTo p cs).1, p c = false :=
  fun c hc => by simpa using mem_takeWhile_eq_true c hc

/-! ### Attributes -/

/-- The name of an attribute goes up to a blank, a slash, an equals sign or the end of the tag. -/
theorem fst_attribute? {first : Char} {cs rest : List Char} {a : String × String}
    (h : attribute? first cs = some (a, rest)) :
    a.1 = nameOf (first :: (upTo (fun c => isSpace c || c == '/' || c == '=' || c == '>') cs).1) := by
  unfold attribute? at h
  dsimp only at h
  split at h
  · obtain ⟨x, -, hx⟩ := Option.bind_eq_some_iff.mp h
    obtain ⟨rfl, -⟩ := Prod.mk.inj (Option.some.inj hx)
    rfl
  · obtain ⟨rfl, -⟩ := Prod.mk.inj (Option.some.inj h)
    rfl

/-- The name of an attribute that is read is in small letters. -/
theorem isAttributeName_of_attribute? {first : Char} {cs rest : List Char} {a : String × String}
    (hfirst : (isSpace first || first == '/' || first == '>') = false)
    (h : attribute? first cs = some (a, rest)) :
    isAttributeName a.1.toList = true ∧ isSmall a.1.toList = true := by
  rw [fst_attribute? h]
  have hchars := forall_mem_upTo (fun c => isSpace c || c == '/' || c == '=' || c == '>') cs
  generalize (upTo (fun c => isSpace c || c == '/' || c == '=' || c == '>') cs).1 = name at hchars ⊢
  have hall : (nameOf (first :: name)).toList.all isNameChar = true := by
    refine all_isNameChar_nameOf (List.forall_mem_cons.mpr ⟨hfirst, fun c hc => ?_⟩)
    have h := hchars c hc
    simp only [Bool.or_eq_false_iff] at h ⊢
    exact ⟨h.1.1, h.2⟩
  have hequals : (nameOf (first :: name)).toList.tail.contains '=' = false := by
    rw [toList_nameOf, List.map_cons, List.tail_cons, List.contains_eq_mem,
      decide_eq_false_iff_not, List.mem_map]
    rintro ⟨c, hc, heq⟩
    have h := hchars c hc
    simp only [eq_equals_of_toLower_visible heq, beq_self_eq_true, Bool.or_true, Bool.true_or,
      Bool.true_eq_false] at h
  have hne : (nameOf (first :: name)).toList.isEmpty = false := by rw [toList_nameOf]; rfl
  simp only [isAttributeName, hall, hequals, hne, isSmall_nameOf, Bool.not_false, Bool.and_self,
    and_self]

/-- Of the attributes that are read, the first one of every name is kept. -/
theorem withoutRepeats_spec (attributes : List (String × String)) :
    (∀ a ∈ withoutRepeats attributes, a ∈ attributes) ∧
      ((withoutRepeats attributes).map (·.1)).Nodup := by
  unfold withoutRepeats
  refine List.foldlRecOn attributes _ (b := [])
    (motive := fun kept => (∀ a ∈ kept, a ∈ attributes) ∧ (kept.map (·.1)).Nodup)
    ⟨List.forall_mem_nil _, List.nodup_nil⟩ fun kept hkept a ha => ?_
  split
  · exact hkept
  · next hnew =>
    refine ⟨List.forall_mem_append.mpr ⟨hkept.1, List.forall_mem_singleton.mpr ha⟩, ?_⟩
    rw [List.map_append, List.map_singleton, List.nodup_append]
    refine ⟨hkept.2, List.nodup_singleton _, fun name hname _ hmem heq => hnew ?_⟩
    obtain rfl := List.mem_singleton.mp hmem
    obtain ⟨b, hb, hname⟩ := List.mem_map.mp hname
    exact List.any_eq_true.mpr ⟨b, hb, beq_iff_eq.mpr (hname.trans heq)⟩

/-- Of attributes with one name, the first one is kept. -/
theorem areAttributes_withoutRepeats {attributes : List (String × String)}
    (h : ∀ a ∈ attributes, isAttributeName a.1.toList = true ∧ isSmall a.1.toList = true) :
    AreAttributes (withoutRepeats attributes) where
  isName a ha := h a ((withoutRepeats_spec attributes).1 a ha)
  nodup := (withoutRepeats_spec attributes).2

/-- The attributes of a tag that is read have different names. -/
theorem areAttributes_of_tagRest? {n : Nat} {attributes result : List (String × String)}
    {cs rest : List Char} {selfCloses : Bool}
    (hattributes : ∀ a ∈ attributes, isAttributeName a.1.toList = true ∧ isSmall a.1.toList = true)
    (h : tagRest? n attributes cs = some (result, selfCloses, rest)) : AreAttributes result := by
  induction n generalizing attributes cs with
  | zero => cases h
  | succ n ih =>
    unfold tagRest? at h
    have hreverse : ∀ a ∈ attributes.reverse,
        isAttributeName a.1.toList = true ∧ isSmall a.1.toList = true :=
      fun a ha => hattributes a (List.mem_reverse.mp ha)
    split at h
    · cases h
    · cases h
      exact areAttributes_withoutRepeats hreverse
    · cases h
      exact areAttributes_withoutRepeats hreverse
    · exact ih hattributes h
    · next c more hend hclose hslash hskip =>
      split at h
      · next a after ha =>
        refine ih (List.forall_mem_cons.mpr ⟨isAttributeName_of_attribute? ?_ ha, hattributes⟩) h
        have hspace : isSpace c = false :=
          head_dropWhile_eq_false c (by rw [← skipSpace, hskip]; rfl)
        simp only [hspace, Bool.false_or, Bool.or_eq_false_iff, beq_eq_false_iff_ne]
        exact ⟨hslash, hend⟩
      · cases h

/-! ### Tags -/

/-- What is seen of a character is a letter if the character is one. -/
theorem isAsciiLetter_visible (c : Char) : isAsciiLetter (visible c) = isAsciiLetter c := by
  unfold visible
  split
  · next hc => rw [beq_iff_eq.mp hc]; rfl
  · rfl

/-- A tag whose name starts with a letter is sound. -/
theorem isSound_tag_cons {isEnd : Bool} {c : Char} (hc : isAsciiLetter c = true) (cs : List Char) :
    IsSound (tag isEnd (c :: cs)).1 := by
  have hhead : (upTo (fun c => isSpace c || c == '/' || c == '>') (c :: cs)).1 =
      c :: (upTo (fun c => isSpace c || c == '/' || c == '>') cs).1 := by
    rw [upTo, List.takeWhile_cons, (isNameChar_iff.mp (isNameChar_of_isAsciiLetter hc)).1]
    rfl
  have hchars := forall_mem_upTo (fun c => isSpace c || c == '/' || c == '>') (c :: cs)
  unfold tag
  dsimp only
  split
  · next attributes selfCloses rest hrest =>
    refine isSound_cons.mpr ⟨⟨⟨?_, isSmall_nameOf _⟩, ?_⟩, isSound_nil.mpr trivial⟩
    · rw [isTagName, all_isNameChar_nameOf hchars, hhead, toList_nameOf, List.map_cons,
        List.head?_cons, Option.any_some, isAsciiLetter_toLower, isAsciiLetter_visible, hc]
      rfl
    · exact areAttributes_of_tagRest? (List.forall_mem_nil _) hrest
  · exact isSound_nil.mpr trivial

/-! ### Markup -/

@[simp, grind norm]
theorem isSound_text (cs : List Char) : IsSound (Token.text cs) ↔ True := .rfl

@[simp, grind norm]
theorem isSound_comment (cs : List Char) : IsSound (Token.comment cs) ↔ True := .rfl

@[simp, grind norm]
theorem isSound_doctype (d : Doctype) : IsSound (Token.doctype d) ↔ True := .rfl

@[simp, grind norm]
theorem isSound_nul : IsSound Token.nul ↔ True := .rfl

@[simp, grind norm]
theorem isSound_fault : IsSound Token.fault ↔ True := .rfl

@[simp, grind norm]
theorem isSound_endOfText : IsSound Token.endOfText ↔ True := .rfl

/-- Texts are no tags. -/
theorem isSound_plainText (cs : List Char) : IsSound (plainText cs) := by
  simp [plainText]

/-- Texts with references are no tags. -/
theorem isSound_referenceText (cs : List Char) : IsSound (referenceText cs) := by
  unfold referenceText
  split
  · split_ifs <;> simp
  · simp

/-- A text and what is read piece by piece. -/
theorem isSound_pieces {read : List Char → List Token} (h : ∀ cs, IsSound (read cs))
    (cs : List Char) : IsSound (pieces read cs) := by
  have hmem (sep : List Token) (parts : List (List Token)) :
      ∀ part ∈ parts.intersperse sep, part = sep ∨ part ∈ parts := by
    fun_induction List.intersperse <;> grind
  intro t ht
  obtain ⟨part, hpart, ht⟩ := List.mem_flatten.mp ht
  obtain rfl | hpart := hmem _ _ part hpart
  · obtain rfl := List.mem_singleton.mp ht
    trivial
  · obtain ⟨text, -, rfl⟩ := List.mem_map.mp hpart
    split at ht
    · cases ht
    · exact h text t ht

/-- Comments and doctypes are no tags. -/
theorem isSound_declaration (allowsCdata : Bool) (cs : List Char) :
    IsSound (declaration allowsCdata cs).1 := by
  unfold declaration
  split_ifs
  · simp
  · simp
  · exact isSound_pieces isSound_plainText _
  · simp [bogusComment]

/-- What an angle bracket begins is a sound tag, or no tag. -/
theorem isSound_construct (allowsCdata : Bool) (cs : List Char) :
    IsSound (construct allowsCdata cs).1 := by
  unfold construct
  split
  · exact isSound_declaration allowsCdata _
  · simp [bogusComment]
  · simp
  · split_ifs with hc
    · exact isSound_tag_cons hc _
    · simp [bogusComment]
  · simp
  · split_ifs with hc
    · exact isSound_tag_cons hc _
    · simp
  · simp

/-- What is read of ordinary markup. -/
theorem isSound_markup (allowsCdata : Bool) (cs : List Char) :
    IsSound (markup allowsCdata cs).1 := by
  unfold markup
  split
  · exact isSound_construct allowsCdata _
  · exact isSound_pieces isSound_referenceText _

/-! ### Texts up to an end tag -/

/-- A text is ended by a tag whose name starts with a letter. -/
def EndsAtTag (result : List Char × List Char) : Prop :=
  ∀ rest, result.2 = '<' :: '/' :: rest → rest.head?.any isAsciiLetter = true

/-- A text up to an end tag, or the end tag. -/
theorem isSound_textOrEndTag {result : List Char × List Char} (hresult : EndsAtTag result)
    {read : List Char → List Token} (hread : ∀ cs, IsSound (read cs)) :
    IsSound (textOrEndTag result read).1 := by
  unfold textOrEndTag
  split
  · next rest =>
    have hletter := hresult rest rfl
    cases rest with
    | nil => cases hletter
    | cons c rest => exact isSound_tag_cons hletter rest
  · exact hread _

/-- What ends a text starts with the letter that its name starts with. -/
theorem head_of_endsWith {name cs : List Char} (hname : name.head?.any isAsciiLetter = true)
    (h : endsWith name ('/' :: cs) = true) : cs.head?.any isAsciiLetter = true := by
  have hlower : asciiLower (cs.take name.length) = name :=
    beq_iff_eq.mp (Bool.and_eq_true_iff.mp h).1
  cases name with
  | nil => cases hname
  | cons d name =>
    cases cs with
    | nil => cases hlower
    | cons c cs =>
      obtain ⟨rfl, -⟩ := List.cons.inj hlower
      simpa using hname

/-- A raw text goes up to the end tag of its name. -/
theorem endsAtTag_untilEndTag {name : List Char} (hname : name.head?.any isAsciiLetter = true)
    (cs : List Char) : EndsAtTag (untilEndTag name cs) := by
  induction cs with
  | nil => nofun
  | cons c cs ih =>
    unfold untilEndTag
    split_ifs with hend
    · rintro rest ⟨rfl, rfl⟩
      exact head_of_endsWith hname (Bool.and_eq_true_iff.mp hend).2
    · exact ih

/-- A script ends at its end tag only. -/
theorem endsWith_of_scriptStep {part : ScriptPart} {c : Char} {cs : List Char}
    (h : scriptStep part c cs = none) : endsWith scriptName cs = true := by
  unfold scriptStep at h
  grind

/-- A script goes up to its end tag. -/
theorem endsAtTag_script (part : ScriptPart) (cs : List Char) : EndsAtTag (script part cs) := by
  induction cs generalizing part with
  | nil => nofun
  | cons c cs ih =>
    unfold script
    split
    · next following _ => exact ih following
    · next hstep =>
      rintro rest ⟨rfl, rfl⟩
      exact head_of_endsWith (by decide) (endsWith_of_scriptStep hstep)

/-- Everything that is read is sound. -/
theorem isSound_next {reading : Reading} (h : IsSound reading) (allowsCdata : Bool) (cs : List Char) :
    IsSound (next allowsCdata reading cs).1 := by
  cases reading with
  | markup => exact isSound_markup allowsCdata cs
  | referenceText name => exact isSound_textOrEndTag (endsAtTag_untilEndTag h cs) isSound_referenceText
  | rawText name => exact isSound_textOrEndTag (endsAtTag_untilEndTag h cs) isSound_plainText
  | script => 
    have hsound := isSound_textOrEndTag (endsAtTag_script .code cs) isSound_plainText
    change IsSound (scriptOrEndTag cs).1
    unfold scriptOrEndTag
    split
    · next ht => rw [ht] at hsound; exact hsound
    · exact hsound
  | plain => simp [next]

end Lexer

end SourceEdit.Markup
