import SourceEdit.Proofs.Arena.Runs
import SourceEdit.Proofs.Arena.Traversal
import SourceEdit.Proofs.Reached

/-!
# The shape of a stylesheet

In a stylesheet the root is the only `root`, and only the root, rules and at-rules with a block have
children.  Writing an item goes into its children only if it has a block, so nothing in a tree of
this shape is left out when it is written.

`Suits` is the rule that keeps the shape: an operation is admissible, adds no further root, leaves
blocks what they are, and puts nodes only where children may stand.  Reading a text and every edit
are shown to be runs that obey it (`Leads`), and `shape_of_reached` collects what follows for all
stylesheets that reading and editing lead to.
-/

namespace SourceEdit.Stylesheet

/-! ### The rule -/

/-- A node that may have children. -/
def MayHold (sheet : Stylesheet) (id : NodeId) : Prop :=
  id = sheet.root ∨ ∃ n, sheet.get? id = some n ∧ n.hasBlock = true

/-- The root and no other node is a `root`, and only the root and items with a block have
children. -/
structure Shaped (sheet : Stylesheet) : Prop extends sheet.WellFormed where
  get?_eq_root_iff (id : NodeId) : sheet.get? id = some .root ↔ id = sheet.root
  mayHold (id : NodeId) : sheet.children id ≠ [] → sheet.MayHold id

/-- An operation that keeps the shape of a stylesheet. -/
structure Suits (sheet : Stylesheet) (op : Arena.Operation Node) : Prop
    extends sheet.Admissible op where
  alloc : ∀ v, op = .alloc v → v ≠ .root
  modifyValue : ∀ id f, op = .modifyValue id f → ∀ v,
    (f v = .root ↔ v = .root) ∧ (f v).hasBlock = v.hasBlock
  mayHold : ∀ p c, op.placed? sheet = some (p, c) → sheet.MayHold p

/-- A run that obeys the rule leads from one stylesheet to the other. -/
def Leads (sheet sheet' : Stylesheet) : Prop :=
  ∃ ops, Arena.Obeys Suits sheet ops ∧ sheet.performAll ops = sheet'

variable {sheet sheet' : Stylesheet}

theorem Leads.refl (sheet : Stylesheet) : Leads sheet sheet := ⟨[], trivial, rfl⟩

/-- One edit after another one. -/
theorem Leads.trans {sheet'' : Stylesheet} (h : Leads sheet sheet') (h' : Leads sheet' sheet'') :
    Leads sheet sheet'' := by
  obtain ⟨ops, hops, rfl⟩ := h
  obtain ⟨more, hmore, rfl⟩ := h'
  exact ⟨ops ++ more, Arena.obeys_append.mpr ⟨hops, hmore⟩, Arena.performAll_append ..⟩

/-- A single operation that suits a sheet. -/
theorem Leads.step (op : Arena.Operation Node) (hop : Suits sheet op) :
    Leads sheet (sheet.perform op) :=
  ⟨[op], ⟨hop, trivial⟩, rfl⟩

/-! ### What the rule keeps -/

section Step

variable {op : Arena.Operation Node}

/-- No operation makes a node the root, or the root another node. -/
theorem Suits.get?_perform_eq_root (hop : Suits sheet op) (id : NodeId) :
    (sheet.perform op).get? id = some .root ↔ sheet.get? id = some .root := by
  obtain h | ⟨v, hv, hnone, h⟩ | ⟨f, hf, h⟩ := Arena.get?_perform op id
  · rw [h]
  · simp [h, hnone, hop.alloc v hv]
  · rw [h, Option.map_eq_some_iff]
    constructor
    · rintro ⟨v, hv, hroot⟩
      rw [hv, ((hop.modifyValue id f hf v).1.mp hroot)]
    · exact fun hv => ⟨.root, hv, (hop.modifyValue id f hf .root).1.mpr rfl⟩

/-- What may hold items may still do so after an operation. -/
theorem MayHold.perform {id : NodeId} (h : sheet.MayHold id) (hop : Suits sheet op) :
    MayHold (sheet.perform op) id := by
  obtain hroot | ⟨n, hn, hblock⟩ := h
  · exact .inl hroot
  refine .inr ?_
  obtain h | ⟨v, -, hnone, -⟩ | ⟨f, hf, h⟩ := Arena.get?_perform (a := sheet) op id
  · exact ⟨n, h.trans hn, hblock⟩
  · rw [hnone] at hn
    cases hn
  · exact ⟨f n, by rw [h, hn, Option.map_some], (hop.modifyValue id f hf n).2.trans hblock⟩

/-- An operation that suits keeps the shape. -/
theorem Shaped.perform (h : Shaped sheet) (hop : Suits sheet op) : Shaped (sheet.perform op) where
  toWellFormed := Arena.wellFormed_perform h.toWellFormed hop.toAdmissible
  get?_eq_root_iff id := (hop.get?_perform_eq_root id).trans (h.get?_eq_root_iff id)
  mayHold id hid := by
    obtain hne | ⟨c, hc⟩ := h.toWellFormed.children_perform_ne_nil hop.lt_size hid
    · exact (h.mayHold id hne).perform hop
    · exact (hop.mayHold id c hc).perform hop

end Step

/-- The shape of a sheet is kept by all operations that suit it. -/
theorem Shaped.leads (h : Shaped sheet) (hl : Leads sheet sheet') : Shaped sheet' := by
  obtain ⟨ops, hops, rfl⟩ := hl
  exact hops.invariant (fun _ _ hs hop => hs.perform hop) h

/-- What may hold items may still do so afterwards. -/
theorem MayHold.leads {id : NodeId} (h : sheet.MayHold id) (hl : Leads sheet sheet') :
    sheet'.MayHold id := by
  obtain ⟨ops, hops, rfl⟩ := hl
  exact hops.invariant (I := fun sheet => MayHold sheet id) (fun _ _ hs hop => hs.perform hop) h

/-- A sheet without items. -/
theorem shaped_withRoot : Shaped (Arena.withRoot Node.root) where
  toWellFormed := .withRoot Node.root
  get?_eq_root_iff id := by cases id <;> simp [Arena.withRoot, Arena.get?, Arena.root]
  mayHold id h := by
    cases id with
    | zero => exact .inl rfl
    | succ id => exact absurd rfl h

/-! ### Single operations -/

/-- A new node is not the root. -/
theorem leads_alloc {v : Node} (hv : v ≠ .root) : Leads sheet (sheet.alloc v).1 :=
  .step (.alloc v) ⟨⟨nofun, nofun, nofun⟩, fun _ h => by cases h; exact hv, nofun, nofun⟩

/-- A node may always be taken out. -/
theorem leads_detach {id : NodeId} (hid : id < sheet.size) : Leads sheet (sheet.detach id) :=
  .step (.detach id)
    ⟨⟨by simpa [Arena.Operation.nodes] using hid, nofun, nofun⟩, nofun, nofun, nofun⟩

/-- A value may be changed if neither the root nor a block comes or goes with it. -/
theorem leads_modifyValue {id : NodeId} (hid : id < sheet.size) {f : Node → Node}
    (hf : ∀ v, (f v = .root ↔ v = .root) ∧ (f v).hasBlock = v.hasBlock) :
    Leads sheet (sheet.modifyValue id f) :=
  .step (.modifyValue id f)
    ⟨⟨by simpa [Arena.Operation.nodes] using hid, nofun, nofun⟩, nofun,
      fun _ _ h => by cases h; exact hf, nofun⟩

/-- A newer node goes where children may stand. -/
theorem leads_insertChild {k : Nat} (hclosed : sheet.Closed k) {p c : NodeId} (hp : p < k)
    (hkc : k ≤ c) (hc : c < sheet.size) (hold : sheet.MayHold p) (i : Nat) :
    Leads sheet (sheet.insertChild p i c) := by
  have hne : c ≠ sheet.root := fun h => absurd (hkc.trans_eq h) (Nat.not_le_of_lt (Nat.zero_lt_of_lt hp))
  have hbelow : ¬ sheet.Below p c := fun h =>
    absurd (hclosed.lt_of_below hp h) (Nat.not_lt_of_le hkc)
  refine .step (.insertChild p i c) ⟨⟨?_, ?_, ?_⟩, nofun, nofun, ?_⟩
  · simpa [Arena.Operation.nodes] using ⟨(hp.trans_le hkc).trans hc, hc⟩
  · rintro _ _ ⟨⟩
    exact hne
  · rintro _ _ ⟨⟩
    exact hbelow
  · rintro _ _ ⟨⟩
    exact hold

/-- A new node may be put under an older one that may hold items. -/
theorem leads_appendChild {k : Nat} (hclosed : sheet.Closed k) {p c : NodeId} (hp : p < k)
    (hkc : k ≤ c) (hc : c < sheet.size) (hold : sheet.MayHold p) :
    Leads sheet (sheet.appendChild p c) :=
  leads_insertChild hclosed hp hkc hc hold _

/-- A newer node takes the place of an older one. -/
theorem leads_replace (hs : Shaped sheet) {k : Nat} (hclosed : sheet.Closed k)
    {old new : NodeId} (hold : old < k) (hk : k ≤ new) (hnew : new < sheet.size)
    (h : sheet.replace? old new = some sheet') : Leads sheet sheet' := by
  have hperform : sheet.perform (.replace old new) = sheet' := by simp [Arena.perform, h]
  obtain ⟨p, i, hp, -, -⟩ := Arena.replace?_eq_some h
  have hlt : p < k := hclosed old p hold hp
  have hplaced {q c : NodeId} (hq : (Arena.Operation.replace old new).placed? sheet = some (q, c)) :
      q = p ∧ c = new := by
    simp only [Arena.Operation.placed?, hp, Option.map_some, Option.some.injEq, Prod.mk.injEq] at hq
    exact ⟨hq.1.symm, hq.2.symm⟩
  rw [← hperform]
  refine .step _ ⟨⟨?_, fun q c hq => ?_, fun q c hq => ?_⟩, by simp, by simp, fun q c hq => ?_⟩
  · simpa [Arena.Operation.nodes] using ⟨(hold.trans_le hk).trans hnew, hnew⟩
  · obtain ⟨rfl, rfl⟩ := hplaced hq
    rintro rfl
    exact absurd hk (Nat.not_le_of_lt (Nat.zero_lt_of_lt hlt))
  · obtain ⟨rfl, rfl⟩ := hplaced hq
    exact fun hbelow => absurd (hclosed.lt_of_below hlt hbelow) (Nat.not_lt_of_le hk)
  · obtain ⟨rfl, rfl⟩ := hplaced hq
    exact hs.mayHold q (List.ne_nil_of_mem ((hs.mem_children_iff q old).mpr hp))

/-! ### Trees read from texts -/

/-- A tree that may stand in a stylesheet below its root. -/
inductive ItemTree : Tree Node → Prop
  | node {value : Node} {children : List (Tree Node)} : value ≠ .root →
      (children ≠ [] → value.hasBlock = true) → (∀ t ∈ children, ItemTree t) →
      ItemTree (.node value children)

/-- An item without a block. -/
theorem itemTree_leaf {value : Node} (h : value ≠ .root) : ItemTree (.leaf value) :=
  .node h (absurd rfl) (by simp)

/-- What is read before a block is not the root. -/
theorem Node.ofPrelude_ne_root (prelude : List Char) : Node.ofPrelude prelude ≠ .root := by
  unfold Node.ofPrelude
  split <;> simp

/-- What is read before a block has a block. -/
theorem Node.hasBlock_ofPrelude (prelude : List Char) : (Node.ofPrelude prelude).hasBlock = true := by
  unfold Node.ofPrelude
  split <;> rfl

/-- What is read before a semicolon is not the root. -/
theorem Node.ofLeaf?_ne_root {text : List Char} {n : Node} (h : Node.ofLeaf? text = some n) :
    n ≠ .root := by
  unfold Node.ofLeaf? at h
  dsimp only at h
  split at h
  · cases h
  · cases h
    simp
  · split at h
    · cases h
    · split at h
      · cases h
      · cases h
        simp

/-- Only items with a block have items in them, by induction on what is read. -/
theorem itemTree_of_mem_items {fuel : Nat} {nested : Bool} {ls : List Lexeme} :
    ∀ t ∈ (items fuel nested ls).1, ItemTree t := by
  induction fuel generalizing nested ls with
  | zero => simp [items]
  | succ fuel ih =>
    cases ls with
    | nil => simp [items]
    | cons l ls =>
      rw [items]
      split
      · simp
      split
      · exact ih
      · exact ih
      · exact ih
      · exact List.forall_mem_cons.mpr ⟨itemTree_leaf (by simp), ih⟩
      · dsimp only
        split
        · refine List.forall_mem_cons.mpr ⟨.node ?_ (fun _ => ?_) ih, ih⟩
          · exact Node.ofPrelude_ne_root _
          · exact Node.hasBlock_ofPrelude _
        · split
          · next hnode => exact List.forall_mem_cons.mpr ⟨itemTree_leaf (Node.ofLeaf?_ne_root hnode), ih⟩
          · exact ih

/-- The items of a text. -/
theorem itemTree_of_mem_itemsOfText (text : String) : ∀ t ∈ itemsOfText text, ItemTree t :=
  itemTree_of_mem_items

/-- The trees in a stylesheet below its root are items. -/
theorem Shaped.itemTree_of_mem_children_view (h : Shaped sheet) :
    ∀ t ∈ (sheet.view sheet.root).children, ItemTree t := by
  have hchild {p c : NodeId} (hc : c ∈ sheet.children p) : c < sheet.size ∧ c ≠ sheet.root := by
    have hparent := (h.mem_children_iff p c).mp hc
    refine ⟨Arena.lt_size_of_parent? hparent, ?_⟩
    rintro rfl
    rw [h.parent?_root] at hparent
    cases hparent
  have hitem (id : NodeId) (hid : id < sheet.size ∧ id ≠ sheet.root) : ItemTree (sheet.view id) := by
    induction id using h.toWellFormed.induction_children with
    | step id ih =>
      obtain ⟨n, hn⟩ := Arena.exists_get?_eq_some hid.1
      rw [h.toWellFormed.view_eq, hn, Option.getD_some]
      refine .node ?_ (fun hchildren => ?_) (List.forall_mem_map.mpr fun c hc => ih c hc (hchild hc))
      · rintro rfl
        exact hid.2 ((h.get?_eq_root_iff id).mp hn)
      · obtain hroot | ⟨n', hn', hblock⟩ := h.mayHold id (by simpa using hchildren)
        · exact absurd hroot hid.2
        · rwa [Option.some.inj (hn.symm.trans hn')]
  rw [h.toWellFormed.view_eq]
  exact List.forall_mem_map.mpr fun c hc => hitem c (hchild hc)

mutual

/-- Copying an item into a stylesheet is a run that obeys the rule. -/
theorem leads_graft {sheet : Stylesheet} (hs : Shaped sheet) : (t : Tree Node) → ItemTree t →
    Leads sheet (sheet.graft t).1
  | .node v cs, .node hv hblock hcs => by
    have hnew : Leads sheet (sheet.alloc v).1 := leads_alloc hv
    have hid : sheet.size < (sheet.alloc v).1.size := by simp
    refine hnew.trans (leads_graftChildren (hs.leads hnew) hid cs (fun hne => .inr ?_) hcs)
    exact ⟨v, by simp [Arena.get?_alloc], hblock hne⟩

/-- Copying items under a node that may have children is a run that obeys the rule. -/
theorem leads_graftChildren {sheet : Stylesheet} (hs : Shaped sheet) {p : NodeId} (hp : p < sheet.size) :
    (ts : List (Tree Node)) → (ts ≠ [] → sheet.MayHold p) → (∀ t ∈ ts, ItemTree t) →
    Leads sheet (sheet.graftChildren p ts)
  | [], _, _ => .refl sheet
  | t :: ts, hold, hts => by
    rw [List.forall_mem_cons] at hts
    have hgraft : Leads sheet (sheet.graft t).1 := leads_graft hs t hts.1
    have h := Arena.graft_spec hs.toWellFormed t
    have happend : Leads (sheet.graft t).1 ((sheet.graft t).1.appendChild p (sheet.graft t).2) :=
      leads_appendChild (h.extends_.closed hs.toLinked) hp h.id_eq.ge h.id_lt
        ((hold (by simp)).leads hgraft)
    have hfirst := hgraft.trans happend
    refine hfirst.trans (leads_graftChildren (hs.leads hfirst) ?_ ts (fun _ => ?_) hts.2)
    · simpa using hp.trans_le h.extends_.size_le
    · exact (hold (by simp)).leads hfirst

end

/-- Items that have been read are grafted node by node. -/
theorem leads_graftAll (hs : Shaped sheet) {ts : List (Tree Node)} (hts : ∀ t ∈ ts, ItemTree t) :
    Leads sheet (sheet.graftAll ts).1 := by
  induction ts generalizing sheet with
  | nil => exact .refl sheet
  | cons t ts ih =>
    rw [List.forall_mem_cons] at hts
    have hgraft := leads_graft hs t hts.1
    exact hgraft.trans (ih (hs.leads hgraft) hts.2)

/-- A sheet that is read has been built from an empty one. -/
theorem leads_ofText (source : String) : Leads (Arena.withRoot .root) (ofText source) :=
  leads_graftChildren shaped_withRoot Nat.one_pos _ (fun _ => .inl rfl)
    (itemTree_of_mem_itemsOfText source)

/-! ### Edits -/

/-- A loop of which every step is a run is a run. -/
theorem leads_foldl {σ ι : Type} (view : σ → Stylesheet) (P : σ → Prop) {step : σ → ι → σ}
    {l : List ι} (hstep : ∀ s, P s → ∀ i ∈ l, Leads (view s) (view (step s i)) ∧ P (step s i))
    {s : σ} (hs : P s) : Leads (view s) (view (l.foldl step s)) := by
  induction l generalizing s with
  | nil => exact .refl _
  | cons i l ih =>
    obtain ⟨hfirst, hi⟩ := hstep s hs i List.mem_cons_self
    exact hfirst.trans (ih (fun s hs j hj => hstep s hs j (List.mem_cons_of_mem _ hj)) hi)

/-- The declarations that are edited are nodes of the sheet. -/
theorem lt_size_of_mem_declarationsNamed (hs : Shaped sheet) {rule : NodeId} {property : String} :
    ∀ id ∈ declarationsNamed sheet rule property, id < sheet.size := fun id hid =>
  Arena.lt_size_of_parent? ((hs.mem_children_iff rule id).mp (List.mem_of_mem_filter hid))

/-- A loop over rules that works on the declarations of a property without adding nodes. -/
private theorem leads_foldl_declarations (hs : Shaped sheet) {property : String}
    {work : Stylesheet → NodeId → Stylesheet} (hsize : ∀ s id, (work s id).size = s.size)
    (hwork : ∀ (s : Stylesheet) (id : NodeId), id < s.size → Leads s (work s id))
    (rules : List NodeId) :
    Leads sheet (rules.foldl (fun (sheet, count) rule =>
      let ids := declarationsNamed sheet rule property
      (ids.foldl work sheet, count + ids.length)) (sheet, 0)).1 := by
  refine leads_foldl Prod.fst (fun s : Stylesheet × Nat => Shaped s.1)
    (fun s hs rule _ => ?_) (s := (sheet, 0)) hs
  have hinner : Leads s.1 ((declarationsNamed s.1 rule property).foldl work s.1) := by
    refine leads_foldl id (fun t => t.size = s.1.size) (fun t ht id hid => ?_) rfl
    have hlt : id < t.size := ht ▸ lt_size_of_mem_declarationsNamed hs id hid
    exact ⟨hwork t id hlt, (hsize t id).trans ht⟩
  exact ⟨hinner, hs.leads hinner⟩

/-- An update changes the values of declarations, or appends new ones to their rules. -/
theorem leads_updateDeclarations (hs : Shaped sheet) (rules : List NodeId)
    (property value : String) : Leads sheet (sheet.updateDeclarations rules property value).tree := by
  refine leads_foldl_declarations hs (fun _ id => Arena.size_modifyValue id _)
    (fun _ _ hid => leads_modifyValue hid fun v => ?_) rules
  cases v <;> simp [Node.withValue, Node.hasBlock]

/-- A deletion takes declarations out. -/
theorem leads_deleteDeclarations (hs : Shaped sheet) (rules : List NodeId) (property : String) :
    Leads sheet (sheet.deleteDeclarations rules property).tree :=
  leads_foldl_declarations hs (fun _ id => Arena.size_detach id) (fun _ _ hid => leads_detach hid)
    rules

/-- A deletion takes rules out. -/
theorem leads_deleteRules {rules : List NodeId} (hrules : ∀ rule ∈ rules, rule < sheet.size) :
    Leads sheet (sheet.deleteRules rules).tree := by
  refine leads_foldl id (fun s => s.size = sheet.size) (fun s hs rule hrule => ?_) rfl
  exact ⟨leads_detach (hs ▸ hrules rule hrule), (Arena.size_detach rule).trans hs⟩

/-- The rules that are located may have children. -/
theorem mayHold_of_mem_locate {target : Target} {rules : List NodeId}
    (h : sheet.locate target = .ok rules) : ∀ rule ∈ rules, sheet.MayHold rule := by
  obtain ⟨p, rfl⟩ := exists_rulesMatching_of_locate h
  intro rule hrule
  have hmatch := (List.mem_filter.mp hrule).2
  cases hn : sheet.get? rule with
  | none => simp [hn] at hmatch
  | some n =>
    refine .inr ⟨n, hn, ?_⟩
    cases n <;> simp_all [Node.isMatch, Node.hasBlock]

/-- A new declaration goes into a rule, or beside its items. -/
theorem leads_insertDeclaration {k : Nat} (hgrown : sheet.Grown k)
    (declaration : Node) (hd : declaration ≠ .root) (position : Option Position) {rule : NodeId}
    (hrule : rule < k) (hold : sheet.MayHold rule) :
    Leads sheet (insertDeclaration declaration position sheet rule) := by
  have halloc : Leads sheet (sheet.alloc declaration).1 := leads_alloc hd
  have hclosed := (hgrown.alloc declaration).closed
  have hnew : sheet.size < (sheet.alloc declaration).1.size := by simp
  have hold' := hold.leads halloc
  simp only [insertDeclaration]
  split
  · exact halloc.trans (leads_insertChild hclosed hrule hgrown.le_size hnew hold' 0)
  · exact halloc.trans (leads_insertChild hclosed hrule hgrown.le_size hnew hold' 0)
  · exact halloc.trans (leads_appendChild hclosed hrule hgrown.le_size hnew hold')

/-- Each rule gets a declaration of its own. -/
theorem leads_insertDeclarations (hs : Shaped sheet) {rules : List NodeId}
    (hlt : ∀ rule ∈ rules, rule < sheet.size) (hold : ∀ rule ∈ rules, sheet.MayHold rule)
    (property value : String) (position : Option Position) :
    Leads sheet (sheet.insertDeclarations rules property value position).tree := by
  refine leads_foldl id
    (fun s => Leads sheet s ∧ Arena.Grown s sheet.size) (fun s ⟨hl, hg⟩ rule hrule => ?_)
    ⟨.refl sheet, hs.toWellFormed.grown⟩
  have hstep := leads_insertDeclaration hg (insertedDeclaration property value)
    (by simp [insertedDeclaration]) position (hlt rule hrule) ((hold rule hrule).leads hl)
  exact ⟨hstep, hl.trans hstep, insertDeclaration_grown hg _ position (hlt rule hrule)⟩

/-- The items of a value are appended to the root. -/
theorem leads_insertItems (hs : Shaped sheet) (value : String) :
    Leads sheet (sheet.insertItems value).tree := by
  have hgraft := leads_graftAll hs (itemTree_of_mem_itemsOfText value)
  obtain ⟨hgrown, -, hnew⟩ := hs.toWellFormed.grown.graftAll (itemsOfText value)
  simp only [insertItems]
  split
  · exact hgraft
  · refine hgraft.trans (leads_foldl id
      (fun s => Arena.Grown s sheet.size ∧ s.size = (sheet.graftAll (itemsOfText value)).1.size)
      (fun s hs c hc => ?_) ⟨hgrown, rfl⟩)
    obtain ⟨hg, hsize⟩ := hs
    obtain ⟨hk, hlt⟩ := hnew c hc
    rw [← hsize] at hlt
    exact ⟨leads_appendChild hg.closed hs.root_lt_size hk hlt (.inl rfl),
      hg.appendChild hs.root_lt_size hk hlt, (Arena.size_appendChild _ c).trans hsize⟩

/-- The first rule gives way to the items of a value. -/
theorem leads_replaceRule (hs : Shaped sheet) {rules : List NodeId}
    (hrules : ∀ rule ∈ rules, rule < sheet.size) (value : String) :
    Leads sheet (sheet.replaceRule rules value).tree := by
  have hgraft := leads_graftAll hs (itemTree_of_mem_itemsOfText value)
  obtain ⟨hgrown, -, hnew⟩ := hs.toWellFormed.grown.graftAll (itemsOfText value)
  cases rules with
  | nil => exact .refl sheet
  | cons first rest =>
    simp only [replaceRule]
    split
    · exact hgraft
    · next id hid =>
      obtain ⟨hk, hlt⟩ := hnew id (mem_of_replacement?_eq_some hid)
      split
      · next replaced hreplace =>
        have hfirst : first < sheet.size := hrules first List.mem_cons_self
        exact hgraft.trans (leads_replace (hs.leads hgraft) hgrown.closed hfirst hk hlt hreplace)
      · exact hgraft

/-- Every edit is a run that obeys the rule, those that fail included. -/
theorem leads_edit (hs : Shaped sheet) (m : Modification) : Leads sheet (sheet.edit m).tree := by
  have hneeding {β : Type} {needed : Except EditError β} {next : β → Edited Stylesheet}
      (h : ∀ x, needed = .ok x → Leads sheet (next x).tree) :
      Leads sheet (Edited.needing sheet needed next).tree := by
    cases needed with
    | ok x => exact h x rfl
    | error err => exact .refl sheet
  unfold edit
  split
  · exact hneeding fun value _ => leads_insertItems hs value
  · refine hneeding fun rules hlocate => ?_
    have hlt := lt_size_of_mem_locate hs.toWellFormed hlocate
    unfold editRules
    split
    · exact .refl sheet
    · exact hneeding fun value _ => leads_updateDeclarations hs rules _ value
    · exact .refl sheet
    · exact hneeding fun value _ =>
        leads_insertDeclarations hs hlt (mayHold_of_mem_locate hlocate) _ value m.position
    · exact leads_deleteRules hlt
    · exact leads_deleteDeclarations hs rules _
    · exact hneeding fun value _ => leads_replaceRule hs hlt value

/-! ### Writing -/

/-- What is written for an item stands in what is written for its list. -/
theorem writeItem_infix_writeItems (indent : String) (depth : Nat) {ts : List (Tree Node)}
    {t : Tree Node} (ht : t ∈ ts) :
    (writeItem indent depth t).toList <:+: (writeItems indent depth ts).toList := by
  induction ts with
  | nil => cases ht
  | cons u ts ih =>
    rw [writeItems, String.toList_append, String.toList_append]
    obtain rfl | ht := List.mem_cons.mp ht
    · exact List.infix_append_of_infix_left List.infix_append_left
    · exact List.infix_append_of_infix_right (ih ht)

/-- The text of a block holds the text of every item in it. -/
theorem writeItem_infix_writeBlock (indent : String) (depth : Nat) {ts : List (Tree Node)}
    {t : Tree Node} (ht : t ∈ ts) :
    (writeItem indent (depth + 1) t).toList <:+: (writeBlock indent depth ts).toList := by
  cases ts with
  | nil => cases ht
  | cons u ts =>
    rw [writeBlock]
    simp only [String.toList_append]
    obtain rfl | ht := List.mem_cons.mp ht
    · exact List.infix_append_of_infix_left (List.infix_append_of_infix_left
        (List.infix_append_of_infix_left (List.infix_append_of_infix_left
          List.infix_append_right)))
    · exact List.infix_append_of_infix_left (List.infix_append_of_infix_left
        (List.infix_append_of_infix_right (writeItem_infix_writeItems indent _ ht)))

/-- The text of an item that has a block holds the text of every item in the block. -/
theorem writeItem_infix_writeItem (indent : String) (depth : Nat) {value : Node}
    {ts : List (Tree Node)} (hblock : value.hasBlock = true) {t : Tree Node} (ht : t ∈ ts) :
    (writeItem indent (depth + 1) t).toList <:+:
      (writeItem indent depth (.node value ts)).toList := by
  have hinner := writeItem_infix_writeBlock indent depth ht
  cases value with
  | root => cases hblock
  | rule selector =>
    rw [writeItem, String.toList_append, String.toList_append]
    exact List.infix_append_of_infix_right (List.infix_append_of_infix_right hinner)
  | atRule name params block =>
    obtain rfl : block = true := hblock
    rw [writeItem, if_pos rfl, String.toList_append, String.toList_append]
    exact List.infix_append_of_infix_right (List.infix_append_of_infix_right hinner)
  | declaration property value => cases hblock
  | comment text => cases hblock

/-- Each of several texts stands in the text that they are joined to. -/
private theorem infix_intercalate (sep : List Char) {ls : List (List Char)} {l : List Char}
    (hl : l ∈ ls) : l <:+: sep.intercalate ls := by
  induction ls with
  | nil => cases hl
  | cons k ls ih =>
    cases ls with
    | nil =>
      obtain rfl := List.mem_singleton.mp hl
      simp
    | cons j ls =>
      rw [List.intercalate_cons_cons]
      obtain rfl | hl := List.mem_cons.mp hl
      · exact List.infix_append_of_infix_left List.infix_append_left
      · exact List.infix_append_of_infix_right (ih hl)

/-- The text of a stylesheet holds the text of every top-level item. -/
theorem writeItem_infix_writeForest (options : StylesheetOptions) {ts : List (Tree Node)}
    {t : Tree Node} (ht : t ∈ ts) :
    (writeItem options.indent 0 t).toList <:+: (writeForest options ts).toList := by
  rw [writeForest, if_neg (by simpa using List.ne_nil_of_mem ht), String.toList_append,
    String.toList_intercalate]
  refine List.infix_append_of_infix_left (infix_intercalate _ ?_)
  exact List.mem_map_of_mem (List.mem_map_of_mem ht)

/-- Every node that can be reached from the root is written. -/
theorem writeItem_infix_write (hs : Shaped sheet) (options : StylesheetOptions) {id : NodeId}
    (hbelow : sheet.Below id sheet.root) (hid : id ≠ sheet.root) :
    ∃ depth, (writeItem options.indent depth (sheet.view id)).toList <:+:
      (write options sheet).toList := by
  have hchild {c p : NodeId} (hp : sheet.parent? c = some p) :
      sheet.view c ∈ (sheet.children p).map sheet.view :=
    List.mem_map_of_mem ((hs.mem_children_iff p c).mpr hp)
  -- along the chain of parents, beginning at the root
  induction hbelow using Relation.ReflTransGen.head_induction_on with
  | refl => exact absurd rfl hid
  | @head c p hp _ ih =>
    by_cases hroot : p = sheet.root
    · subst hroot
      refine ⟨0, writeItem_infix_writeForest options ?_⟩
      rw [hs.toWellFormed.view_eq]
      exact hchild hp
    · obtain ⟨depth, hdepth⟩ := ih hroot
      obtain ⟨n, hn, hblock⟩ := (hs.mayHold p (List.ne_nil_of_mem
        ((hs.mem_children_iff p c).mpr hp))).resolve_left hroot
      refine ⟨depth + 1, List.IsInfix.trans ?_ hdepth⟩
      rw [hs.toWellFormed.view_eq p, hn]
      exact writeItem_infix_writeItem options.indent depth hblock (hchild hp)

/-! ### Stylesheets that are reached -/

/-- Every sheet that is reached has been built from an empty one. -/
theorem leads_of_reached {options : StylesheetOptions} (h : options.editor.Reached sheet) :
    Leads (Arena.withRoot .root) sheet := by
  refine Editor.Reached.invariant (e := options.editor) (I := Leads (Arena.withRoot .root))
    (R := fun _ _ => True) ?_ (fun sheet m hl => ⟨?_, fun _ => trivial⟩) h
  · intro _ source sheet hread
    obtain rfl : ofText source = sheet := Except.ok.inj hread
    exact leads_ofText source
  · exact hl.trans (leads_edit (shaped_withRoot.leads hl) m)

/-- Reading a text and every edit of what has come of it, whether it succeeds or not, are runs of
operations that put no node under itself or below itself and do not move the root.  So child lists
and parent links agree and no node has two parents; the root is the only `root`; only the root, rules
and at-rules with a block have children; and whatever is in the tree is written. -/
theorem shape_of_reached {options : StylesheetOptions} (h : options.editor.Reached sheet) :
    ((∃ ops, Arena.Obeys Arena.Admissible (Arena.withRoot .root) ops ∧
        (Arena.withRoot .root).performAll ops = sheet) ∧
      ∀ m : Modification, ∃ ops, Arena.Obeys Arena.Admissible sheet ops ∧
        sheet.performAll ops = (sheet.edit m).tree) ∧
    ((∀ p c, c ∈ sheet.children p ↔ sheet.parent? c = some p) ∧
      (∀ p, (sheet.children p).Nodup) ∧
      ∀ p q c, c ∈ sheet.children p → c ∈ sheet.children q → p = q) ∧
    (∀ id, sheet.get? id = some .root ↔ id = sheet.root) ∧
    (∀ id, sheet.children id ≠ [] → id = sheet.root ∨ (∃ s, sheet.get? id = some (.rule s)) ∨
      ∃ name params, sheet.get? id = some (.atRule name params true)) ∧
    ∀ id, sheet.Below id sheet.root → id ≠ sheet.root → ∃ depth,
      (writeItem options.indent depth (sheet.view id)).toList <:+: (write options sheet).toList := by
  have hl := leads_of_reached h
  have hs : Shaped sheet := shaped_withRoot.leads hl
  have hadmissible {s t : Stylesheet} (hst : Leads s t) :
      ∃ ops, Arena.Obeys Arena.Admissible s ops ∧ s.performAll ops = t := by
    obtain ⟨ops, hops, hend⟩ := hst
    exact ⟨ops, hops.mono fun _ _ hop => hop.toAdmissible, hend⟩
  refine ⟨⟨hadmissible hl, fun m => hadmissible (leads_edit hs m)⟩,
    ⟨hs.mem_children_iff, hs.nodup_children, fun p q c hp hq => ?_⟩, hs.get?_eq_root_iff,
    fun id hid => (hs.mayHold id hid).imp_right ?_, fun id => writeItem_infix_write hs options⟩
  · rw [hs.mem_children_iff] at hp hq
    exact Option.some.inj (hp.symm.trans hq)
  · rintro ⟨n, hn, hblock⟩
    cases n with
    | rule s => exact .inl ⟨s, hn⟩
    | atRule name params block =>
      obtain rfl : block = true := hblock
      exact .inr ⟨name, params, hn⟩
    | _ => cases hblock

/-- A rule gets a declaration, and then an edit that needs a value fails. -/
theorem shape_of_reached_declaration :
    let target : Target := { selector := some "a", property := some "b" }
    let add (value : Option Payload) : Modification :=
      { path := "a", operation := .insert, target, value }
    let sheet := (((ofText "a{}d{}").edit (add (some (.text "c")))).tree.edit (add none)).tree
    (StylesheetOptions.editor {}).Reached sheet ∧
      (∀ p c, c ∈ sheet.children p ↔ sheet.parent? c = some p) ∧
      (∀ id, sheet.get? id = some .root ↔ id = sheet.root) ∧
      ∀ id, sheet.Below id sheet.root → id ≠ sheet.root → ∃ depth,
        (writeItem "  " depth (sheet.view id)).toList <:+: (write {} sheet).toList := by
  intro target add sheet
  have hreached : (StylesheetOptions.editor {}).Reached sheet :=
    .edited (add none) (.edited (add (some (.text "c"))) (.parsed "a" "a{}d{}" rfl))
  obtain ⟨-, ⟨hlinks, -⟩, hroot, -, hwritten⟩ := shape_of_reached hreached
  exact ⟨hreached, hlinks, hroot, hwritten⟩

end SourceEdit.Stylesheet
