import SourceEdit.Proofs.Stylesheet.Word

/-!
# Runs of lexemes

An item is a run of lexemes that the scan goes through.  `Lexes` says which lexemes a text begins
with, and `Passes` which brackets they open and leave open, so that the text of an item and its
structure can be told apart.  `Lexes.cut` cuts a run off where white space or separators begin, and
gives the part before in front of anything else that may follow it.
-/

namespace SourceEdit.Stylesheet

open Lexeme

/-! ### The lexemes of a stretch of text -/

/-- The lexemes that a text begins with; `rest` is what follows them. -/
inductive Lexes : List Char → List Lexeme → List Char → Prop
  | nil (text : List Char) : Lexes text [] text
  | cons {text next rest : List Char} {l : Lexeme} {ls : List Lexeme} :
      Begins text l next → Lexes next ls rest → Lexes text (l :: ls) rest

section Lexes

variable {text next rest mid y g r : List Char} {l : Lexeme} {ls ls' : List Lexeme}

theorem Lexes.eq_append (h : Lexes text ls rest) : text = ls.flatMap Lexeme.text ++ rest := by
  induction h with
  | nil => rfl
  | cons hbegins _ ih => rw [hbegins.eq_append, ih, List.flatMap_cons, List.append_assoc]

theorem Lexes.append (h : Lexes text ls mid) (h' : Lexes mid ls' rest) :
    Lexes text (ls ++ ls') rest := by
  induction h with
  | nil => exact h'
  | cons hbegins _ ih => exact .cons hbegins (ih h')

theorem Begins.lexes (h : Begins text l next) : Lexes text [l] next := .cons h (.nil next)

theorem Lexes.ofText_eq (h : Lexes text ls rest) :
    Lexeme.ofText text = ls ++ Lexeme.ofText rest := by
  induction h with
  | nil => rfl
  | cons hbegins _ ih => rw [hbegins.ofText_eq, ih, List.cons_append]

theorem Lexes.length_le (h : Lexes text ls rest) : rest.length ≤ text.length := by
  rw [h.eq_append, List.length_append]
  omega

/-- The lexemes that a text begins with are the first ones of a longer run. -/
theorem Lexes.of_lexes (h : Lexes text ls rest) (h' : Lexes text ls' mid)
    (hlength : rest.length ≤ mid.length) : ∃ ls'', ls = ls' ++ ls'' ∧ Lexes mid ls'' rest := by
  induction h' generalizing ls with
  | nil => exact ⟨ls, rfl, h⟩
  | cons hbegins hnext ih =>
    cases h with
    | nil =>
      have hlt := hbegins.length_lt
      have hle := hnext.length_le
      omega
    | cons hfirst hrest =>
      obtain ⟨rfl, rfl⟩ := hbegins.unique hfirst
      obtain ⟨ls'', rfl, hls⟩ := ih hrest hlength
      exact ⟨ls'', rfl, hls⟩

/-- Every character of a run of lexemes stands in one of them. -/
theorem Lexes.exists_mem (h : Lexes text ls rest) {a b : List Char} {c : Char}
    (htext : text = a ++ c :: b) (hlength : rest.length ≤ b.length) :
    ∃ l ∈ ls, ∃ a' u v next, a = a' ++ u ∧ l.text = u ++ c :: v ∧ b = v ++ next ∧
      rest <:+ next ∧ Begins (u ++ c :: b) l next := by
  induction h generalizing a with
  | nil text =>
    rw [htext, List.length_append, List.length_cons] at hlength
    omega
  | @cons text next rest l ls hbegins hrest ih =>
    have hlater {a' : List Char} (hnext : next = a' ++ c :: b) (ha : a = l.text ++ a') :
        ∃ l' ∈ l :: ls, ∃ a' u v next, a = a' ++ u ∧ l'.text = u ++ c :: v ∧ b = v ++ next ∧
          rest <:+ next ∧ Begins (u ++ c :: b) l' next := by
      obtain ⟨l', hl', a'', u, v, next', rfl, hl⟩ := ih hnext hlength
      exact ⟨l', List.mem_cons_of_mem _ hl', l.text ++ a'', u, v, next', by rw [ha, List.append_assoc], hl⟩
    obtain ⟨a', ha, hnext⟩ | ⟨v, hl, hv⟩ :=
      List.append_eq_append_iff.mp (hbegins.eq_append.symm.trans htext)
    · exact hlater hnext ha
    · cases v with
      | nil =>
        have hnext : next = [] ++ c :: b := hv.symm
        exact hlater hnext (by rw [hl, List.append_nil, List.append_nil])
      | cons d v =>
        obtain ⟨rfl, hb⟩ := List.cons.inj hv
        exact ⟨l, List.mem_cons_self, [], a, v, next, rfl, hl, hb, ⟨_, hrest.eq_append.symm⟩,
          htext ▸ hbegins⟩

/-! ### Cutting a run off -/

/-- A run of lexemes is cut off at the end of a text in which all lexemes that begin in it end. -/
private theorem Lexes.cut_of_keeps (h : Lexes (y ++ r) ls mid) (hlength : mid.length ≤ r.length)
    (hr : Quiet r) (hkeeps : ∀ y' l ls', y' ≠ [] → y' <:+ y → l :: ls' <:+ ls →
      Lexes (y' ++ r) (l :: ls') mid → Keeps y' l) :
    ∃ ys gs, ls = ys ++ gs ∧ Lexes r gs mid ∧ ∀ r, Quiet r → Lexes (y ++ r) ys r := by
  induction ls generalizing y with
  | nil =>
    have hmid := h.eq_append
    obtain rfl : y = [] := by
      have := congrArg List.length hmid
      simp only [List.length_append, List.flatMap_nil, List.length_nil] at this
      exact List.eq_nil_of_length_eq_zero (by omega)
    exact ⟨[], [], rfl, h, fun r _ => .nil r⟩
  | cons l ls ih =>
    by_cases hy : y = []
    · subst hy
      exact ⟨[], l :: ls, rfl, h, fun r _ => .nil r⟩
    · obtain ⟨v, rfl, hbegins⟩ := hkeeps y l ls hy (List.suffix_refl y) (List.suffix_refl _) h
      obtain ⟨ls', heq, hrest⟩ := h.of_lexes (hbegins r hr).lexes
        (hlength.trans (by rw [List.length_append]; omega))
      obtain rfl : ls = ls' := (List.cons.inj heq).2
      obtain ⟨ys, gs, rfl, hgs, hys⟩ := ih hrest fun y' l' ls' hy' hsuffix hls =>
        hkeeps y' l' ls' hy' (hsuffix.trans (List.suffix_append _ _))
          (hls.trans (List.suffix_cons l _))
      exact ⟨l :: ys, gs, rfl, hgs, fun r hr => .cons (hbegins r hr) (hys r hr)⟩

/-- What is cut off may be white space and separators, if all comments, strings and urls are closed. -/
theorem Lexes.cut (h : Lexes (y ++ (g ++ mid)) ls mid) (hclosed : ∀ l ∈ ls, l.IsClosed)
    (hy : IsFirm y) (hg : ∀ c ∈ g, c ∈ quietChars) (hr : Quiet (g ++ mid)) :
    ∃ ys gs, ls = ys ++ gs ∧ Lexes (g ++ mid) gs mid ∧ ∀ r, Quiet r → Lexes (y ++ r) ys r := by
  refine h.cut_of_keeps (by simp) hr fun y' l ls' hy' hsuffix hls hlexes => ?_
  obtain ⟨w, rfl⟩ := hsuffix
  have hfirm : IsFirm y' := hy.of_append
  have hmem : l ∈ ls := hls.subset List.mem_cons_self
  cases hlexes with
  | cons hbegins hrest =>
    refine hbegins.keeps hy' hfirm hr fun _ hl => ?_
    have hended := (hclosed l hmem).isEnded hl
    refine ⟨hended, ?_⟩
    -- a closed lexeme does not end in what is cut off
    have htext := hbegins.eq_append
    rw [hrest.eq_append, ← List.append_assoc, ← List.append_assoc] at htext
    have hsplit := List.append_cancel_right htext
    obtain ⟨v, hv, hgv⟩ | ⟨v, hv, -⟩ := List.append_eq_append_iff.mp hsplit
    · rcases List.eq_nil_or_concat v with rfl | ⟨v, d, rfl⟩
      · exact ⟨[], by simpa using hv.symm⟩
      · obtain ⟨u, e, he, hlast⟩ := hended.last
        have hd : d = e := by
          have := congrArg List.getLast? (hv.symm.trans hlast)
          simpa using this
        have hquiet := hg d (by simp [hgv])
        rw [hd] at hquiet
        simp only [List.mem_cons, List.not_mem_nil, or_false] at he
        rcases he with rfl | rfl | rfl | rfl <;> simp [quietChars] at hquiet
    · exact ⟨v, hv⟩

/-- A text without a character that opens a comment, a string or a url can be cut off. -/
theorem Lexes.cut_of_plain (h : Lexes (y ++ r) ls mid) (hlength : mid.length ≤ r.length)
    (hplain : ∀ c ∈ y, c ∉ ['"', '\'', '(', '/']) (hy : IsFirm y) (hr : Quiet r) :
    ∃ ys gs, ls = ys ++ gs ∧ Lexes r gs mid ∧ ∀ r, Quiet r → Lexes (y ++ r) ys r := by
  refine h.cut_of_keeps hlength hr fun y' l ls' hy' hsuffix _ hlexes => ?_
  obtain ⟨w, rfl⟩ := hsuffix
  cases hlexes with
  | cons hbegins _ =>
    refine hbegins.keeps hy' hy.of_append hr fun hopens => ?_
    obtain ⟨c, hc, hopens⟩ := hopens
    exact absurd hopens (hplain c (List.mem_append_right w hc))

end Lexes

/-! ### Brackets -/

/-- The brackets that are open after a run of lexemes. -/
def bracketsLeft (open_ : List Bracket) (ls : List Lexeme) : List Bracket :=
  ls.foldl (fun open_ l => bracketsAfter open_ l.kind) open_

/-- The scan of an item goes through lexemes, from some open brackets to others. -/
inductive Passes (nested : Bool) : List Bracket → List Lexeme → List Bracket → Prop
  | nil (open_ : List Bracket) : Passes nested open_ [] open_
  | cons {open_ open' : List Bracket} {l : Lexeme} {ls : List Lexeme} :
      (open_ ≠ [] ∨ ¬l.Stops nested) → Passes nested (bracketsAfter open_ l.kind) ls open' →
      Passes nested open_ (l :: ls) open'

/-- A lexeme that has nothing to do with brackets and separators. -/
def Lexeme.IsInert (l : Lexeme) : Prop := l.kind = .blank ∨ l.kind = .comment ∨ l.kind = .other

section Passes

variable {nested : Bool} {open_ open' : List Bracket} {text mid raw rest : List Char} {l : Lexeme}
  {ls ls' : List Lexeme} {ending : Ending}

theorem passes_append : Passes nested open_ (ls ++ ls') open' ↔
    ∃ between, Passes nested open_ ls between ∧ Passes nested between ls' open' := by
  induction ls generalizing open_ with
  | nil =>
    constructor
    · exact fun h => ⟨open_, .nil open_, h⟩
    · rintro ⟨_, ⟨⟩, h⟩
      exact h
  | cons l ls ih =>
    constructor
    · rintro (_ | ⟨hgoes, h⟩)
      obtain ⟨between, h, h'⟩ := ih.mp h
      exact ⟨between, .cons hgoes h, h'⟩
    · rintro ⟨between, _ | ⟨hgoes, h⟩, h'⟩
      exact .cons hgoes (ih.mpr ⟨between, h, h'⟩)

theorem passes_cons_of_isInert (hl : l.IsInert) :
    Passes nested open_ (l :: ls) open' ↔ Passes nested open_ ls open' := by
  have hgoes : ¬l.Stops nested := by
    obtain hkind | hkind | hkind := hl <;> simp [Lexeme.Stops, hkind]
  have hbrackets : bracketsAfter open_ l.kind = open_ := by
    obtain hkind | hkind | hkind := hl <;> simp [bracketsAfter, hkind]
  constructor
  · rintro (_ | ⟨-, h⟩)
    rwa [hbrackets] at h
  · intro h
    exact .cons (.inr hgoes) (by rwa [hbrackets])

theorem passes_append_of_isInert (hls : ∀ l ∈ ls, l.IsInert) :
    Passes nested open_ (ls ++ ls') open' ↔ Passes nested open_ ls' open' := by
  induction ls with
  | nil => rfl
  | cons l ls ih =>
    obtain ⟨hl, hls⟩ := List.forall_mem_cons.mp hls
    rw [List.cons_append, passes_cons_of_isInert hl, ih hls]

/-- The scan of an item that goes through lexemes goes on behind them. -/
theorem Passes.scans (h : Passes nested open_ ls open') (hls : Lexes text ls mid)
    (hscans : Scans nested open' mid raw ending rest) :
    Scans nested open_ text (ls.flatMap Lexeme.text ++ raw) ending rest := by
  induction h generalizing text with
  | nil =>
    cases hls
    exact hscans
  | cons hgoes _ ih =>
    cases hls with
    | cons hbegins hrest =>
      rw [List.flatMap_cons, List.append_assoc]
      exact .step hbegins hgoes (ih hrest hscans)

/-- The scan of an item goes through lexemes up to its semicolon, to the brace that opens its block, to
the end of the block around it or to the end of the text. -/
theorem Scans.exists_passes (h : Scans nested open_ text raw ending rest) :
    ∃ ls open' mid, Lexes text ls mid ∧ Passes nested open_ ls open' ∧
      (open' = [] ∧ ending = .semicolon ∧ raw = ls.flatMap Lexeme.text ++ [';'] ∧ mid = ';' :: rest ∨
        open' = [] ∧ ending = .block ∧ raw = ls.flatMap Lexeme.text ++ ['\x7b'] ∧ mid = '\x7b' :: rest ∨
        ending = .exhausted ∧ raw = ls.flatMap Lexeme.text ∧ mid = rest ∧
          (rest = [] ∨ open' = [] ∧ nested = true ∧ ∃ after, rest = '\x7d' :: after)) := by
  induction h with
  | nil open_ =>
    exact ⟨[], open_, [], .nil _, .nil _, .inr (.inr ⟨rfl, rfl, rfl, .inl rfl⟩)⟩
  | closing hnested after =>
    exact ⟨[], [], _, .nil _, .nil _, .inr (.inr ⟨rfl, rfl, rfl, .inr ⟨rfl, hnested, after, rfl⟩⟩)⟩
  | semicolon rest => exact ⟨[], [], _, .nil _, .nil _, .inl ⟨rfl, rfl, rfl, rfl⟩⟩
  | block rest => exact ⟨[], [], _, .nil _, .nil _, .inr (.inl ⟨rfl, rfl, rfl, rfl⟩)⟩
  | step hbegins hgoes _ ih =>
    obtain ⟨ls, open', mid, hls, hpasses, hend⟩ := ih
    refine ⟨_ :: ls, open', mid, .cons hbegins hls, .cons hgoes hpasses, ?_⟩
    rw [List.flatMap_cons, List.append_assoc, List.append_assoc, List.append_right_inj,
      List.append_right_inj, List.append_right_inj]
    exact hend

/-- The brackets around an item: a curly one if the item stands in a block, none otherwise. -/
def Surrounds (nested : Bool) (outer : List Bracket) : Prop :=
  nested = true ∧ outer.head? = some .curly ∨ nested = false ∧ outer = []

theorem bracketsAfter_append {outer : List Bracket} (houter : Surrounds nested outer)
    (hgoes : open_ ≠ [] ∨ ¬l.Stops nested) :
    bracketsAfter (open_ ++ outer) l.kind = bracketsAfter open_ l.kind ++ outer := by
  cases open_ with
  | cons b open_ =>
    cases l.kind with
    | closing b' =>
      simp only [List.cons_append, bracketsAfter]
      split_ifs <;> rfl
    | _ => rfl
  | nil =>
    cases hkind : l.kind with
    | closing b =>
      obtain ⟨rfl, hcurly⟩ | ⟨-, rfl⟩ := houter
      · obtain ⟨outer, rfl⟩ := List.head?_eq_some_iff.mp hcurly
        have hb : b ≠ .curly := by
          rintro rfl
          simp [Lexeme.Stops, hkind] at hgoes
        simp [bracketsAfter, hb]
      · rfl
    | _ => rfl

/-- A scan leaves the brackets around an item as they are. -/
theorem Passes.bracketsLeft_append (h : Passes nested open_ ls open') {outer : List Bracket}
    (houter : Surrounds nested outer) : bracketsLeft (open_ ++ outer) ls = open' ++ outer := by
  induction h with
  | nil => rfl
  | cons hgoes _ ih =>
    rw [bracketsLeft, List.foldl_cons, bracketsAfter_append houter hgoes]
    exact ih

end Passes

/-! ### Separators -/

section Separators

variable {nested : Bool} {open_ : List Bracket} {text next mid y g : List Char} {l : Lexeme}
  {ls : List Lexeme}

/-- White space, a semicolon and a brace are told by their first character. -/
theorem Begins.kind_of_separator (h : Begins text l next)
    (hhead : ∀ c ∈ text.head?, isSpace c = true ∨ c = ';' ∨ c = '\x7b') :
    l.kind = .blank ∨ l.kind = .semicolon ∨ l.kind = .opening .curly := by
  obtain ⟨c, cs, rfl, -⟩ := id h
  obtain hspace | rfl | rfl := hhead c rfl
  · obtain ⟨rfl, -⟩ := h.unique (begins_blank hspace cs)
    exact .inl rfl
  · obtain ⟨rfl, -⟩ := h.unique (begins_single .semicolon rfl cs)
    exact .inr (.inl rfl)
  · obtain ⟨rfl, -⟩ := h.unique (begins_single (.opening .curly) rfl cs)
    exact .inr (.inr rfl)

theorem Lexes.kind_of_separators (h : Lexes (g ++ mid) ls mid)
    (hg : ∀ c ∈ g, isSpace c = true ∨ c = ';' ∨ c = '\x7b') :
    ∀ l ∈ ls, l.kind = .blank ∨ l.kind = .semicolon ∨ l.kind = .opening .curly := by
  have hg' : ∀ c ∈ ls.flatMap Lexeme.text, isSpace c = true ∨ c = ';' ∨ c = '\x7b' := by
    rwa [← List.append_cancel_right h.eq_append]
  clear hg
  generalize g ++ mid = text at h
  induction h with
  | nil => simp
  | cons hbegins _ ih =>
    rw [List.flatMap_cons, List.forall_mem_append] at hg'
    refine List.forall_mem_cons.mpr ⟨hbegins.kind_of_separator fun c hc => hg'.1 c ?_, ih hg'.2⟩
    rw [hbegins.eq_append] at hc
    obtain ⟨d, t, ht⟩ := List.exists_cons_of_ne_nil hbegins.text_ne_nil
    rw [ht] at hc ⊢
    obtain rfl := Option.some.inj hc
    exact List.mem_cons_self

/-- No bracket is closed by separators, so if none is open after them, none was before. -/
theorem Passes.eq_nil_of_separators {open' : List Bracket} (h : Passes nested open_ ls open')
    (hls : ∀ l ∈ ls, l.kind = .blank ∨ l.kind = .semicolon ∨ l.kind = .opening .curly)
    (hopen : open' = []) : open_ = [] := by
  induction h with
  | nil => exact hopen
  | @cons open_ _ l _ _ _ ih =>
    obtain ⟨hl, hls⟩ := List.forall_mem_cons.mp hls
    have hnil := ih hls hopen
    obtain hkind | hkind | hkind := hl <;> rw [hkind] at hnil
    · cases open_ <;> exact hnil
    · cases open_ <;> exact hnil
    · cases open_ <;> cases hnil

/-- Separators after white space, or what ends an item, end a word and do not go on with a url. -/
theorem quiet_append (hg : ∀ c ∈ g, isSpace c = true ∨ c = ';' ∨ c = '\x7b')
    (hmid : ∀ c ∈ mid.head?, IsStop c) : Quiet (g ++ mid) := by
  induction g with
  | nil =>
    intro c hc
    cases mid with
    | nil => cases hc
    | cons d mid =>
      have hd : IsStop d := hmid d rfl
      rw [List.nil_append, List.dropWhile_cons_of_neg (by simp [hd.isSpace_eq_false])] at hc
      obtain rfl := Option.some.inj hc
      obtain rfl | rfl | rfl := hd <;> simp
  | cons d g ih =>
    obtain ⟨hd, hg⟩ := List.forall_mem_cons.mp hg
    by_cases hspace : isSpace d = true
    · rw [Quiet, List.cons_append, List.dropWhile_cons_of_pos hspace]
      exact ih hg
    · intro c hc
      rw [List.cons_append, List.dropWhile_cons_of_neg hspace] at hc
      obtain rfl := Option.some.inj hc
      obtain rfl | rfl := hd.resolve_left hspace <;> simp

/-- The last part of an item can be cut off from the separators that follow it. -/
theorem Lexes.cut_separators (h : Lexes (y ++ (g ++ mid)) ls mid) (hclosed : ∀ l ∈ ls, l.IsClosed)
    (hpasses : Passes nested open_ ls []) (hy : IsFirm y)
    (hg : ∀ c ∈ g, isSpace c = true ∨ c = ';' ∨ c = '\x7b') (hmid : ∀ c ∈ mid.head?, IsStop c) :
    ∃ ys gs, ls = ys ++ gs ∧ Passes nested open_ ys [] ∧ ∀ r, Quiet r → Lexes (y ++ r) ys r := by
  have hquiet : Quiet (g ++ mid) := quiet_append hg hmid
  have hg' : ∀ c ∈ g, c ∈ quietChars := by
    intro c hc
    obtain hspace | rfl | rfl := hg c hc
    · exact mem_quietChars_of_isSpace hspace
    · decide
    · decide
  obtain ⟨ys, gs, rfl, hgs, hys⟩ := h.cut hclosed hy hg' hquiet
  obtain ⟨between, hbetween, hrest⟩ := passes_append.mp hpasses
  obtain rfl := hrest.eq_nil_of_separators (hgs.kind_of_separators hg) rfl
  exact ⟨ys, gs, rfl, hbetween, hys⟩

end Separators

end SourceEdit.Stylesheet
