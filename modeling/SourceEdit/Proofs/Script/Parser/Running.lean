import SourceEdit.Proofs.Script.Parser.Tokens
import SourceEdit.Script.Parser.Functions

/-!
# Running parsers

What a parser does in a state, for the parsers that all others are made of.  `Parser.ReadsTo` says
that a parser succeeds before one text and stops before another one; the rules for it follow the ways
in which parsers are put together.
-/

namespace SourceEdit.Script

namespace Lexer.IsMark

variable {punct : Punct} {rest : List Char} {t : Token}

theorem isPunct (h : IsMark punct rest t) : t.isPunct punct = true := by
  rw [Token.isPunct, h.kind]
  exact beq_self_eq_true _

/-- A token is one mark only. -/
theorem isPunct_of_ne (h : IsMark punct rest t) {q : Punct} (hne : punct ≠ q) :
    t.isPunct q = false := by
  rw [Token.isPunct, h.kind, beq_eq_false_iff_ne]
  exact fun heq => hne (Token.Kind.punct.inj heq)

end Lexer.IsMark

namespace Parser

open Lexer (Gives IsMark)

variable {α β : Type} {p : Parser α} {f : α → Parser β} {c : Surroundings} {s s' : ReadState}

/-- A parser that goes on with what another one gives succeeds if both do. -/
theorem bind_eq_some {b : β} : (p >>= f) c s = some (b, s') ↔
    ∃ a t, p c s = some (a, t) ∧ f a c t = some (b, s') := by
  change (p c s).bind (fun r => f r.1 c r.2) = some (b, s') ↔ _
  simp [Option.bind_eq_some_iff]

/-- Looking at the current token changes nothing. -/
theorem current_eq_some {t : Token} : current c s = some (t, s') ↔ s.token = t ∧ s = s' := by
  change some (s.token, s) = _ ↔ _
  simp

theorem here_eq_some {n : Nat} : here c s = some (n, s') ↔ s.token.start = n ∧ s = s' := by
  change some (s.token.start, s) = _ ↔ _
  simp

/-- The token after a mark is read in the mode that is asked for. -/
theorem token_of_advancePast {mode : Lexer.Mode} {mark : Token} {u : Unit}
    (h : advancePast mode mark c s = some (u, s')) : ∃ trivia, s'.token =
      (Lexer.next mode (c.dialect.loading == .script) c.bound ⟨mark.rest, mark.stop⟩ trivia).1 := by
  obtain ⟨_, t, -, hstep⟩ := bind_eq_some.mp h
  cases hstep
  exact ⟨t.trivia, rfl⟩

/-! ### Reading a text -/

/-- A text that is still to be read, and the mode in which its first token is read. -/
structure Spot where
  mode : Lexer.Mode
  text : List Char

variable {spot spot' spot'' : Spot} {mode mode' : Lexer.Mode} {cs rest : List Char}

/-- The current token is the one that a text starts with, and the bound of loops is enough for it. -/
structure At (c : Surroundings) (spot : Spot) (s : ReadState) : Prop where
  token : ∃ offset trivia, s.token = (Lexer.next spot.mode (c.dialect.loading == .script) c.bound
    ⟨spot.text, offset⟩ trivia).1
  bound : spot.text.length < c.bound

/-- The current token is the one that the text starts with. -/
theorem At.gives {Q : Token → Prop} (h : At c spot s) (hgives : Gives spot.mode spot.text Q) :
    Q s.token := by
  obtain ⟨offset, trivia, htoken⟩ := h.token
  rw [htoken]
  exact hgives _ _ _ _ h.bound

/-- Before the one text, a parser succeeds with a result of some kind and stops before the other, and
it finds nothing wrong. -/
def ReadsTo (p : Parser α) (c : Surroundings) (spot spot' : Spot) (P : α → Prop) : Prop :=
  ∀ s, At c spot s → ∃ a s', p c s = some (a, s') ∧ At c spot' s' ∧ s'.failed = s.failed ∧
    s'.failedAsScript = s.failedAsScript ∧ P a

namespace ReadsTo

variable {P : α → Prop} {Q : β → Prop}

/-- What is read has every property that follows from those it has. -/
theorem imp {P' : α → Prop} (h : ReadsTo p c spot spot' P) (himp : ∀ a, P a → P' a) :
    ReadsTo p c spot spot' P' := by
  intro s hs
  obtain ⟨a, s', hrun, hs', hfailed, hscript, ha⟩ := h s hs
  exact ⟨a, s', hrun, hs', hfailed, hscript, himp a ha⟩

/-- What is read by a parser that goes on with what another one gives. -/
theorem bind (hp : ReadsTo p c spot spot' P) (hf : ∀ a, P a → ReadsTo (f a) c spot' spot'' Q) :
    ReadsTo (p >>= f) c spot spot'' Q := by
  intro s hs
  obtain ⟨a, t, hrun, ht, hfailed, hscript, ha⟩ := hp s hs
  obtain ⟨b, s', hrun', hs', hfailed', hscript', hb⟩ := hf a ha t ht
  exact ⟨b, s', bind_eq_some.mpr ⟨a, t, hrun, hrun'⟩, hs', hfailed'.trans hfailed,
    hscript'.trans hscript, hb⟩

theorem pure {a : α} (h : P a) : ReadsTo (Pure.pure a) c spot spot P :=
  fun s hs => ⟨a, s, rfl, hs, rfl, rfl, h⟩

/-! ### Looking at the state -/

theorem current {Q : Token → Prop} (h : Gives spot.mode spot.text Q) :
    ReadsTo current c spot spot Q :=
  fun s hs => ⟨s.token, s, rfl, hs, rfl, rfl, hs.gives h⟩

/-- The kind of the current token. -/
theorem kind {Q : Token.Kind → Prop} (h : Gives spot.mode spot.text fun t => Q t.kind) :
    ReadsTo kind c spot spot Q :=
  fun s hs => ⟨s.token.kind, s, rfl, hs, rfl, rfl, hs.gives h⟩

theorem here : ReadsTo here c spot spot fun _ => True :=
  fun s hs => ⟨s.token.start, s, rfl, hs, rfl, rfl, trivial⟩

theorem before : ReadsTo before c spot spot fun _ => True :=
  fun s hs => ⟨s.previousStop, s, rfl, hs, rfl, rfl, trivial⟩

theorem context : ReadsTo context c spot spot (· = c.context) :=
  fun s hs => ⟨c.context, s, rfl, hs, rfl, rfl, rfl⟩

theorem surroundings : ReadsTo read c spot spot (· = c) :=
  fun s hs => ⟨c, s, rfl, hs, rfl, rfl, rfl⟩

theorem hasElements : ReadsTo hasElements c spot spot (· = c.dialect.elements) :=
  fun s hs => ⟨c.dialect.elements, s, rfl, hs, rfl, rfl, rfl⟩

theorem hasTypes : ReadsTo hasTypes c spot spot (· = c.dialect.types) :=
  fun s hs => ⟨c.dialect.types, s, rfl, hs, rfl, rfl, rfl⟩

/-- Whether a mark is next is decided by the text. -/
theorem isAt {punct : Punct} {b : Bool}
    (h : Gives spot.mode spot.text fun t => t.isPunct punct = b) :
    ReadsTo (isAt punct) c spot spot (· = b) :=
  fun s hs => ⟨s.token.isPunct punct, s, rfl, hs, rfl, rfl, hs.gives h⟩

/-- Whether a word is next is decided by the text. -/
theorem isAtWord {w : Word} {b : Bool} (h : Gives spot.mode spot.text fun t => t.isWord w = b) :
    ReadsTo (isAtWord w) c spot spot (· = b) :=
  fun s hs => ⟨s.token.isWord w, s, rfl, hs, rfl, rfl, hs.gives h⟩

/-! ### Going on -/

/-- A token is passed, and what follows it is read in a mode. -/
theorem advancePast {t : Token} (hrest : t.rest = rest) (hescaped : t.escaped = false)
    (hlength : rest.length ≤ cs.length) :
    ReadsTo (advancePast mode' t) c ⟨mode, cs⟩ ⟨mode', rest⟩ fun _ => True := by
  intro s hs
  have hskip (b : Bool) : reportIf (t.escaped && b) c s = some ((), s) := by
    rw [hescaped]
    rfl
  refine ⟨(), _, bind_eq_some.mpr ⟨(), s, hskip _, rfl⟩, ⟨⟨t.stop, s.trivia, ?_⟩, ?_⟩, rfl, rfl,
    trivial⟩
  · subst hrest
    rfl
  · exact Nat.lt_of_le_of_lt hlength hs.bound

/-- The current token is passed. -/
theorem advance (h : Gives mode cs fun t => t.rest = rest ∧ t.escaped = false)
    (hlength : rest.length ≤ cs.length) :
    ReadsTo advance c ⟨mode, cs⟩ ⟨.plain, rest⟩ fun _ => True :=
  .bind (.current h) fun _ ht => .advancePast ht.1 ht.2 hlength

/-- A mark is gone past. -/
theorem eat {punct : Punct} (h : Gives mode cs (IsMark punct rest))
    (hlength : rest.length ≤ cs.length) :
    ReadsTo (eat punct) c ⟨mode, cs⟩ ⟨.plain, rest⟩ (· = true) := by
  refine .bind (.isAt (h.imp fun _ ht => ht.isPunct)) fun _ hat => ?_
  rw [hat, if_pos rfl]
  exact .bind (.advance (h.imp fun _ ht => ⟨ht.rest, ht.escaped⟩) hlength) fun _ _ => .pure rfl

/-- Another token is left alone. -/
theorem eat_miss {punct : Punct}
    (h : Gives spot.mode spot.text fun t => t.isPunct punct = false) :
    ReadsTo (Parser.eat punct) c spot spot (· = false) := by
  refine .bind (.isAt h) fun _ hat => ?_
  rw [hat, if_neg Bool.false_ne_true]
  exact .pure rfl

/-- A mark that is next is passed. -/
theorem expect {punct : Punct} (h : Gives mode cs (IsMark punct rest))
    (hlength : rest.length ≤ cs.length) :
    ReadsTo (expect punct) c ⟨mode, cs⟩ ⟨.plain, rest⟩ fun _ => True := by
  refine .bind (.eat h hlength) fun b hb => ?_
  subst hb
  exact .pure trivial

/-- A test of the token after the current one. -/
theorem nextIs {b : Bool} {test : Token → Bool}
    (h : Gives mode cs fun t => t.rest = rest ∧ t.escaped = false)
    (hlength : rest.length ≤ cs.length) (hnext : Gives .plain rest fun t => test t = b) :
    ReadsTo (nextIs test) c ⟨mode, cs⟩ ⟨mode, cs⟩ (· = b) := by
  intro s hs
  have hread : ReadsTo (do Parser.advance; return test (← Parser.current)) c ⟨mode, cs⟩
      ⟨.plain, rest⟩ (· = b) :=
    .bind (.advance h hlength) fun _ _ => .bind (.current hnext) fun _ ht => .pure ht
  obtain ⟨_, s', hrun, -, -, -, rfl⟩ := hread s hs
  refine ⟨_, s, ?_, hs, rfl, rfl, rfl⟩
  unfold Parser.nextIs follows
  rw [hrun]

/-- What is looked at ahead is not read. -/
theorem lookAhead {default : α} (ahead : Spot) (h : ReadsTo p c spot ahead P) :
    ReadsTo (lookAhead default p) c spot spot P := by
  intro s hs
  obtain ⟨a, s', hrun, -, -, -, ha⟩ := h s hs
  refine ⟨a, s, ?_, hs, rfl, rfl, ha⟩
  rw [Parser.lookAhead, hrun]

/-- Nothing is wrong. -/
theorem reportIf {wrong : Bool} (h : wrong = false) :
    ReadsTo (reportIf wrong) c spot spot fun _ => True := by
  subst h
  exact fun s hs => ⟨(), s, rfl, hs, rfl, rfl, trivial⟩

/-! ### Combinators -/

/-- The bound of loops is enough for what is read. -/
theorem of_bound (h : spot.text.length < c.bound → ReadsTo p c spot spot' P) :
    ReadsTo p c spot spot' P :=
  fun s hs => h hs.bound s hs

/-- What is read in another context. -/
theorem within {g : Context → Context} (h : ReadsTo p { c with context := g c.context } spot spot' P) :
    ReadsTo (within g p) c spot spot' P := by
  intro s hs
  obtain ⟨a, s', hrun, hs', hflags⟩ := h s ⟨hs.token, hs.bound⟩
  exact ⟨a, s', hrun, ⟨hs'.token, hs'.bound⟩, hflags⟩

theorem finish (shape : Shape) (start : Nat) (parts : List Node) :
    ReadsTo (finish shape start parts) c spot spot
      fun n => ∃ stop, n = Node.ofShape shape start stop parts :=
  .bind .before fun stop _ => .pure ⟨stop, rfl⟩

/-- Nothing more is collected if the first step gives nothing. -/
theorem collectUpTo_nil {step : Parser (Option α)} (h : ReadsTo step c spot spot (· = none))
    (n : Nat) : ReadsTo (collectUpTo step (n + 1)) c spot spot (· = []) := by
  refine .bind h fun a ha => ?_
  subst ha
  exact .pure rfl

/-- What the first step gives is collected, and what the others give after it. -/
theorem collectUpTo_cons {step : Parser (Option α)} {P : α → Prop} {Q : List α → Prop} {n : Nat}
    (h : ReadsTo step c spot spot' fun o => ∃ a, o = some a ∧ P a)
    (hrest : ReadsTo (collectUpTo step n) c spot' spot'' Q) :
    ReadsTo (collectUpTo step (n + 1)) c spot spot'' fun l => ∃ a as, l = a :: as ∧ P a ∧ Q as := by
  refine .bind h fun o ho => ?_
  obtain ⟨a, rfl, ha⟩ := ho
  exact .bind hrest fun as has => .pure ⟨a, as, rfl, ha, has⟩

/-- The text is long enough for as many steps as there may be. -/
theorem collect {step : Parser (Option α)} {P : List α → Prop}
    (h : ReadsTo (collectUpTo step (c.bound + 1)) c spot spot' P) :
    ReadsTo (collect step) c spot spot' P := by
  refine .bind .surroundings fun _ hc => ?_
  subst hc
  exact h

/-- A loop that stops at once. -/
theorem iterate {step : α → Parser (Bool × α)} {a b : α}
    (h : ReadsTo (step a) c spot spot (· = (false, b))) :
    ReadsTo (iterate step a) c spot spot (· = b) := by
  refine .bind .surroundings fun _ hc => ?_
  subst hc
  refine .bind h fun r hr => ?_
  subst hr
  exact .pure rfl

end ReadsTo

end Parser

end SourceEdit.Script
