import SourceEdit.Proofs.Script.Elements.Spelling
import SourceEdit.Script.Printer.Program

/-!
# Writing elements

What is written of markup is what spells it, when no comments are left and no indentation is due.
-/

namespace SourceEdit.Script

/-- Nothing but what is asked for is written: no comments and no indentation. -/
structure Output.Quiet (o : Output) : Prop where
  comments : o.comments = []
  depth : o.depth = 0
  noBlank : o.nextIndentIsBlank = false

namespace Printer

variable {α : Type} {p q : Printer Unit} {cs ds : List Char}

/-- A printer writes a text and leaves nothing else behind. -/
def Writes (p : Printer Unit) (cs : List Char) : Prop :=
  ∀ style (o : Output), o.Quiet → (p style o).2.Quiet ∧ (p style o).2.text = cs.reverse ++ o.text

namespace Writes

theorem none : Writes (pure ()) [] := fun _ _ ho => ⟨ho, rfl⟩

theorem of_eq (h : Writes p cs) (heq : cs = ds) : Writes p ds := heq ▸ h

theorem append (hp : Writes p cs) (hq : Writes q ds) : Writes (do p; q) (cs ++ ds) := by
  intro style o ho
  obtain ⟨hquiet, htext⟩ := hp style o ho
  obtain ⟨hquiet', htext'⟩ := hq style (p style o).2 hquiet
  refine ⟨hquiet', htext'.trans ?_⟩
  rw [htext, List.reverse_append, List.append_assoc]

theorem put (c : Char) : Writes (put c) [c] :=
  fun _ _ ho => ⟨⟨ho.comments, ho.depth, ho.noBlank⟩, rfl⟩

theorem puts (cs : List Char) : Writes (puts cs) cs :=
  fun _ _ ho => ⟨⟨ho.comments, ho.depth, ho.noBlank⟩, rfl⟩

theorem text (s : String) : Writes (text s) s.toList := puts s.toList

theorem indent : Writes indent [] := by
  intro style o ho
  have hindent : Printer.indent style o = Printer.puts [] style o := by
    change (if o.nextIndentIsBlank = true then _ else Printer.puts (List.replicate o.depth '\t'))
      style o = _
    rw [ho.noBlank, ho.depth]
    rfl
  rw [hindent]
  exact puts [] style o ho

theorem commentsAt (offset : Nat) : Writes (commentsAt offset) [] := by
  intro style o ho
  have hcomments : Printer.commentsAt offset style o =
      writeComments (o.comments.filter (·.attachedTo == some offset)) style
        { o with comments := o.comments.filter (·.attachedTo != some offset) } := rfl
  rw [hcomments, ho.comments]
  exact ⟨⟨rfl, ho.depth, ho.noBlank⟩, rfl⟩

theorem each_nil (f : α → Printer Unit) : Writes (each f []) [] := none

theorem each_cons {f : α → Printer Unit} {a : α} {as : List α} (ha : Writes (f a) cs)
    (has : Writes (each f as) ds) : Writes (each f (a :: as)) (cs ++ ds) :=
  ha.append has

theorem ifPresent {n : Node} {f : Node → Printer Unit} (hn : n.isAbsent = false)
    (h : Writes (f n) cs) : Writes (ifPresent n f) cs := by
  rw [Printer.ifPresent, hn]
  exact h

theorem ifPresent_of_absent {head : Head} (h : head.shape = .absent) (f : Node → Printer Unit) :
    Writes (Printer.ifPresent (.node head []) f) [] := by
  have habsent : Node.isAbsent (.node head []) = true := by
    rw [Node.isAbsent, Node.shape, Tree.value, h, beq_self_eq_true]
  rw [Printer.ifPresent, habsent]
  exact none

/-- A text between quotes. -/
theorem attributeText (raw : List Char) : Writes (attributeText raw) (Markup.quoted raw) :=
  (put _).append ((puts raw).append (put _))

end Writes

end Printer

namespace Markup

open Printer (Writes emitTask plain each)

variable {ns : List Node} {cs : List Char}

/-- What is written of a kind of markup is what spells it. -/
def IsWritten : Kind → List Node → List Char → Prop
  | .element, ns, cs => ∀ d above m, Tree.sizeAll ns ≤ d → ∀ n ∈ ns,
      Writes (emitTask d (.node n above m)) ('<' :: cs)
  | .content, ns, cs => ∀ d, Tree.sizeAll ns ≤ d → Writes (each (plain (emitTask d)) ns) cs
  | .attributes, ns, cs => ∀ d, Tree.sizeAll ns ≤ d →
      Writes (each (fun n => do Printer.blank; plain (emitTask d) n) ns) cs

theorem Spells.isAbsent {n : Node} (h : Spells .element [n] cs) : n.isAbsent = false := by
  cases h <;> rfl

theorem Spells.isWritten {kind : Kind} (h : Spells kind ns cs) : IsWritten kind ns cs := by
  -- The writer is run with fuel, and every node takes one of it.
  induction h with
  | @element tag _ _ _ _ _ _ _ cs ds _ _ _ _ _ _ ihattributes ihitems =>
    intro d above m hd n hn
    obtain rfl := List.mem_singleton.mp hn
    simp only [Tree.sizeAll, Tree.size] at hd
    obtain ⟨d, rfl⟩ : ∃ d', d = d' + 1 := ⟨d - 1, by omega⟩
    have hclosing := (Writes.text "</").append ((Writes.puts tag).append (Writes.put '>'))
    have hrest := (Writes.put '>').append ((ihitems d (by omega)).append hclosing)
    have hall := (Writes.put '<').append
      ((Writes.puts tag).append ((ihattributes d (by omega)).append hrest))
    exact Writes.of_eq hall (by simp)
  | @closed tag _ _ _ _ _ _ _ _ _ _ _ _ ih =>
    intro d above m hd n hn
    obtain rfl := List.mem_singleton.mp hn
    simp only [Tree.sizeAll, Tree.size] at hd
    obtain ⟨d, rfl⟩ : ∃ d', d = d' + 1 := ⟨d - 1, by omega⟩
    have hall := (Writes.put '<').append
      ((Writes.puts tag).append ((ih d (by omega)).append (Writes.text " />")))
    exact Writes.of_eq hall (by simp)
  | fragment _ _ ih =>
    intro d above m hd n hn
    obtain rfl := List.mem_singleton.mp hn
    simp only [Tree.sizeAll, Tree.size] at hd
    obtain ⟨d, rfl⟩ : ∃ d', d = d' + 1 := ⟨d - 1, by omega⟩
    exact (Writes.text "<>").append ((ih d (by omega)).append (Writes.text "</>"))
  | noContent => exact fun d hd => .each_nil _
  | text _ _ _ _ ih =>
    intro d hd
    simp only [Tree.sizeAll, Tree.size] at hd
    obtain ⟨d, rfl⟩ : ∃ d', d = d' + 1 := ⟨d - 1, by omega⟩
    exact .each_cons (Writes.puts _) (ih (d + 1) (by omega))
  | child _ _ ihn ihrest =>
    intro d hd
    simp only [Tree.sizeAll] at hd
    have hn := ihn d .lowest {} (by simp only [Tree.sizeAll]; omega) _ List.mem_cons_self
    exact .each_cons hn (ihrest d (by omega))
  | noAttributes => exact fun d hd => .each_nil _
  | @flag name _ _ absent _ _ _ habsent _ ih =>
    intro d hd
    simp only [Tree.sizeAll, Tree.size] at hd
    obtain ⟨d, rfl⟩ : ∃ d', d = d' + 1 := ⟨d - 1, by omega⟩
    have hvalue := Writes.ifPresent_of_absent habsent fun n => do Printer.put '='; plain (emitTask d) n
    have hattribute := (Writes.put ' ').append ((Writes.puts name).append hvalue)
    exact .of_eq (.each_cons hattribute (ih (d + 1) (by omega))) (by simp)
  | @quoted name _ _ _ _ raw _ _ _ _ _ ih =>
    intro d hd
    simp only [Tree.sizeAll, Tree.size] at hd
    obtain ⟨d, rfl⟩ : ∃ d', d = d' + 2 := ⟨d - 2, by omega⟩
    have hattribute := (Writes.put ' ').append ((Writes.puts name).append
      ((Writes.put '=').append (.attributeText raw)))
    exact .of_eq (.each_cons hattribute (ih (d + 2) (by omega))) (by simp)
  | @holding name _ _ n _ cs _ _ hn _ ihn ih =>
    intro d hd
    simp only [Tree.sizeAll, Tree.size] at hd
    obtain ⟨d, rfl⟩ : ∃ d', d = d' + 1 := ⟨d - 1, by omega⟩
    have hvalue := ihn d .lowest {} (by simp only [Tree.sizeAll]; omega) _ List.mem_cons_self
    have hpresent := Writes.ifPresent (f := fun n => do Printer.put '='; plain (emitTask d) n)
      hn.isAbsent ((Writes.put '=').append hvalue)
    have hattribute := (Writes.put ' ').append ((Writes.puts name).append hpresent)
    exact .of_eq (.each_cons hattribute (ih (d + 1) (by omega))) (by simp)

end Markup

end SourceEdit.Script
