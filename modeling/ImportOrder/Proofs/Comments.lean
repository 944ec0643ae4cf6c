import ImportOrder.Proofs.SyntaxErrors

/-!
# Comments in a syntax tree

A grammar puts a comment wherever it stands in the text, as one more child of the node
around it. A tree is *commented* from another one if it is that tree with comments put
among the children of its nodes; the nodes may have moved in the text, but those that
are read for their text still show the same.

Reading looks for the children of a node by role or by kind, and then a comment is in
nobody's way: the statements, their paths and the names that they bind stay what they
are. One thing is looked for by its place, the keyword after `import`. A comment right
after `import` takes that place, and the import loses the kind that the keyword gives
it.
-/

namespace ImportOrder

/-! ## What is read -/

/-- A specifier without its place. -/
def Specifier.bare (s : Specifier) : Specifier := { s with span := ⟨0, 0⟩ }

/-- A declaration without its place. -/
def ImportDecl.bare (d : ImportDecl) : ImportDecl :=
  { d with
    span := ⟨0, 0⟩, startLine := 0, endLine := 0, specifiers := d.specifiers.map Specifier.bare }

namespace Statement

/-- A statement without its place. An import keeps its kind, its path, and the kinds and
names of its specifiers. -/
def bare : Statement → Statement
  | .importDecl d => .importDecl d.bare
  | .other form _ _ _ => .other form ⟨0, 0⟩ 0 0

/-- A statement without its place and, if it is an import, without its kind. -/
def kindless : Statement → Statement
  | .importDecl d => .importDecl { d.bare with kind := none }
  | .other form _ _ _ => .other form ⟨0, 0⟩ 0 0

end Statement

/-! ## Steps that agree -/

/-- If both steps end well, their results are related. -/
def Agree {α β : Type} (Q : α → β → Prop) (x : Except Fault α) (y : Except Fault β) : Prop :=
  ∀ a b, x = .ok a → y = .ok b → Q a b

namespace Agree

variable {α β γ δ : Type} {P : α → β → Prop} {Q : γ → δ → Prop}

theorem ok {a : α} {b : β} (h : P a b) : Agree P (.ok a) (.ok b) := by
  rintro _ _ ⟨⟩ ⟨⟩
  exact h

/-- Steps that agree can be followed by steps that agree on all related values. -/
theorem bind {x : Except Fault α} {y : Except Fault β} {f : α → Except Fault γ}
    {g : β → Except Fault δ} (h : Agree P x y) (hstep : ∀ a b, P a b → Agree Q (f a) (g b)) :
    Agree Q (x >>= f) (y >>= g) := by
  intro c d hc hd
  obtain ⟨a, ha, hc⟩ := ok_of_bind hc
  obtain ⟨b, hb, hd⟩ := ok_of_bind hd
  exact hstep a b (h a b ha hb) c d hc hd

/-- The same is read on both sides, and then a place each, of which nothing is asked. -/
theorem placed {x y : Except Fault α} {u v : Except Fault β} {f : α → β → Except Fault γ}
    {g : α → β → Except Fault δ} (h : y = x) (hstep : ∀ a b b', Agree Q (f a b) (g a b')) :
    Agree Q (x >>= fun a => u >>= f a) (y >>= fun a => v >>= g a) := by
  intro c d hc hd
  obtain ⟨a, ha, hc⟩ := ok_of_bind hc
  obtain ⟨a', ha', hd⟩ := ok_of_bind hd
  obtain rfl : a' = a := Except.ok.inj (ha'.symm.trans (h.trans ha))
  obtain ⟨b, -, hc⟩ := ok_of_bind hc
  obtain ⟨b', -, hd⟩ := ok_of_bind hd
  exact hstep a' b b' c d hc hd

/-- Doing related things to the members of two related lists gives related lists, or the
same fault. -/
theorem mapM {xs : List α} {ys : List β} {f : α → Except Fault γ} {g : β → Except Fault δ}
    (h : List.Forall₂ P xs ys) (hstep : ∀ a b, P a b → Agree Q (f a) (g b)) :
    Agree (List.Forall₂ Q) (xs.mapM f) (ys.mapM g) := by
  induction h with
  | nil => exact ok .nil
  | cons hab _ ih =>
    rw [List.mapM_cons, List.mapM_cons]
    exact (hstep _ _ hab).bind fun c d hcd => ih.bind fun cs ds hall => ok (.cons hcd hall)

end Agree

/-- Either nothing is on both sides, or something on both. -/
theorem rel_cases {α β : Type} {R : α → β → Prop} {x : Option α} {y : Option β}
    (h : Option.Rel R x y) :
    (x = none ∧ y = none) ∨ ∃ a b, x = some a ∧ y = some b ∧ R a b := by
  cases h with
  | none => exact .inl ⟨rfl, rfl⟩
  | some hab => exact .inr ⟨_, _, rfl, rfl, hab⟩

theorem rel_imp {α β : Type} {R S : α → β → Prop} {x : Option α} {y : Option β}
    (h : Option.Rel R x y) (himp : ∀ a b, R a b → S a b) : Option.Rel S x y := by
  cases h with
  | none => exact .none
  | some hab => exact .some (himp _ _ hab)

theorem isSome_of_rel {α β : Type} {R : α → β → Prop} {x : Option α} {y : Option β}
    (h : Option.Rel R x y) :
    y.isSome = x.isSome := by
  cases h <;> rfl

/-- The last of some things and of those that answer to them. -/
theorem rel_getLast? {α β : Type} {R : α → β → Prop} {xs : List α} {ys : List β}
    (h : List.Forall₂ R xs ys) :
    Option.Rel R xs.getLast? ys.getLast? := by
  induction h with
  | nil => exact .none
  | cons hab rest ih =>
    cases rest with
    | nil => exact .some hab
    | cons => rwa [List.getLast?_cons_cons, List.getLast?_cons_cons]

/-! ## Declarations and their keywords -/

namespace SyntaxNode

/-- What the keyword right after `import` says. -/
def keyword? (n : SyntaxNode) : Option ImportKind :=
  match (n.children[1]?).map (·.kind) with
  | some "type" => some .type
  | some "typeof" => some .typeof
  | _ => none

/-- A keyword is only there to say that an import is not an ordinary one. -/
theorem keyword?_ne_value (n : SyntaxNode) : n.keyword? ≠ some .value := by
  unfold keyword?
  split <;> exact nofun

/-- The node is read as an import declaration. -/
def isDeclaration (n : SyntaxNode) : Bool :=
  n.kind == "import_statement" && (importSource? n).isSome

/-- The nodes that are read as import declarations. -/
def declarations (root : SyntaxNode) : List SyntaxNode := root.namedChildren.filter isDeclaration

/-- The kind of an import is given by its keyword, and without one by whether it has a
clause. -/
theorem importKind_eq (n : SyntaxNode) :
    importKind n = n.keyword?.or (if (importClause? n).isSome then some .value else none) := by
  unfold importKind keyword?
  grind

/-- Two imports that both have a clause, or both have none, are of one kind just if
their keywords agree. -/
theorem importKind_eq_iff {n m : SyntaxNode}
    (h : (importClause? m).isSome = (importClause? n).isSome) :
    importKind m = importKind n ↔ m.keyword? = n.keyword? := by
  rw [importKind_eq, importKind_eq, h]
  have hn := n.keyword?_ne_value
  have hm := m.keyword?_ne_value
  generalize n.keyword? = a at hn
  generalize m.keyword? = b at hm
  cases (importClause? n).isSome <;> rcases a with _ | _ | _ | _ <;> rcases b with _ | _ | _ | _ <;>
    simp at hn hm ⊢

/-! ## Trees with more comments -/

/-- The node is a comment. -/
structure IsComment (c : SyntaxNode) : Prop where
  /-- its kind says so -/
  kind : c.kind = "comment"
  /-- it plays no role for its parent -/
  role : c.role = none
  /-- nothing is wrong with it -/
  whole : c.isBroken = false
  /-- nothing lies below it -/
  leaf : c.children = []

/-- The second list is the first one with comments put in; all else in it answers to the
first list, in order. -/
inductive WithComments (R : SyntaxNode → SyntaxNode → Prop) :
    List SyntaxNode → List SyntaxNode → Prop
  /-- nothing is left of either list -/
  | nil : WithComments R [] []
  /-- a comment is put in -/
  | comment {c : SyntaxNode} {ns ms : List SyntaxNode} (hc : c.IsComment)
      (rest : WithComments R ns ms) :
      WithComments R ns (c :: ms)
  /-- a node answers to a node -/
  | node {n m : SyntaxNode} {ns ms : List SyntaxNode} (hnm : R n m) (rest : WithComments R ns ms) :
      WithComments R (n :: ns) (m :: ms)

/-- The text under the node may be asked for: it is an identifier or plays a role. -/
def isRead (n : SyntaxNode) : Bool := n.kind == "identifier" || n.role.isSome

/-- The second tree, over the second text, is the first one with comments put in
anywhere. -/
inductive Commented (code code' : String) : SyntaxNode → SyntaxNode → Prop
  | intro {n m : SyntaxNode} (kind : m.kind = n.kind) (named : m.named = n.named)
      (role : m.role = n.role) (broken : m.isBroken = n.isBroken)
      (text : n.isRead = true → m.text code' = n.text code)
      (children : WithComments (Commented code code') n.children m.children) :
      Commented code code' n m

namespace WithComments

variable {R : SyntaxNode → SyntaxNode → Prop} {ns ms : List SyntaxNode} {p : SyntaxNode → Bool}

/-- Whatever stands in the longer list is a comment or answers to something in the
shorter one. -/
theorem isComment_or (h : WithComments R ns ms) {m : SyntaxNode} (hm : m ∈ ms) :
    m.IsComment ∨ ∃ n ∈ ns, R n m := by
  induction h with
  | nil => cases hm
  | comment hc _ ih =>
    rcases List.mem_cons.1 hm with rfl | hm
    · exact .inl hc
    · exact ih hm
  | node hnm _ ih =>
    rcases List.mem_cons.1 hm with rfl | hm
    · exact .inr ⟨_, List.mem_cons_self, hnm⟩
    · exact (ih hm).imp_right fun ⟨n, hn, hr⟩ => ⟨n, List.mem_cons_of_mem _ hn, hr⟩

/-- **Comments are in nobody's way.** What a test picks that no comment passes answers
one to one. -/
theorem filter (h : WithComments R ns ms) (hcomment : ∀ c, IsComment c → p c = false)
    (hnode : ∀ n m, R n m → p m = p n) :
    List.Forall₂ (fun n m => R n m ∧ p n = true) (ns.filter p) (ms.filter p) := by
  induction h with
  | nil => exact .nil
  | comment hc _ ih => rwa [List.filter_cons_of_neg (ne_true_of_eq_false (hcomment _ hc))]
  | @node n m ns ms hnm _ ih =>
    have hp := hnode n m hnm
    cases hpn : p n with
    | true =>
      rw [List.filter_cons_of_pos hpn, List.filter_cons_of_pos (hp.trans hpn)]
      exact .cons ⟨hnm, hpn⟩ ih
    | false =>
      rwa [List.filter_cons_of_neg (ne_true_of_eq_false hpn),
        List.filter_cons_of_neg (ne_true_of_eq_false (hp.trans hpn))]

/-- Looking for a node of a certain form finds the same one among more comments, if no
comment is of that form. -/
theorem find? (h : WithComments R ns ms) (hcomment : ∀ c, IsComment c → p c = false)
    (hnode : ∀ n m, R n m → p m = p n) :
    Option.Rel (fun n m => R n m ∧ p n = true) (ns.find? p) (ms.find? p) := by
  have hpicked := h.filter hcomment hnode
  rw [← List.head?_filter, ← List.head?_filter]
  generalize ns.filter p = ns, ms.filter p = ms at hpicked
  cases hpicked with
  | nil => exact .none
  | cons hnm _ => exact .some hnm

/-- The children of a node that one reader goes through, where it makes nothing of a
comment. -/
theorem mapM_flatten {α β : Type} {view : α → β} {f g : SyntaxNode → Except Fault (List α)}
    (h : WithComments R ns ms) (hcomment : ∀ c, IsComment c → g c = .ok [])
    (hnode : ∀ n m, R n m → Agree (fun s t => t.map view = s.map view) (f n) (g m)) :
    Agree (fun s t => t.flatten.map view = s.flatten.map view) (ns.mapM f) (ms.mapM g) := by
  induction h with
  | nil => exact .ok rfl
  | @comment c ns ms hc _ ih =>
    intro ss ts hss hts
    rw [List.mapM_cons, bind_ok (hcomment c hc)] at hts
    obtain ⟨rest, hrest, hts⟩ := ok_of_bind hts
    obtain rfl := Except.ok.inj hts
    exact ih ss rest hss hrest
  | node hnm _ ih =>
    rw [List.mapM_cons, List.mapM_cons]
    refine (hnode _ _ hnm).bind fun s t hst => ih.bind fun ss ts hall => .ok ?_
    rw [List.flatten_cons, List.flatten_cons, List.map_append, List.map_append, hst, hall]

/-- The second place is kept where no comment comes first. -/
theorem second (h : WithComments R ns ms) (hkind : ∀ n m, R n m → m.kind = n.kind)
    (hfirst : ∀ c ∈ ms.take 2, c.kind ≠ "comment") :
    (ms[1]?).map (·.kind) = (ns[1]?).map (·.kind) := by
  cases h with
  | nil => rfl
  | comment hc _ => exact absurd hc.kind (hfirst _ List.mem_cons_self)
  | node _ rest =>
    cases rest with
    | nil => rfl
    | comment hc _ => exact absurd hc.kind (hfirst _ (List.mem_cons_of_mem _ List.mem_cons_self))
    | node hnm _ => exact congrArg some (hkind _ _ hnm)

end WithComments

namespace Commented

variable {code code' : String} {n m : SyntaxNode}

theorem kind (h : Commented code code' n m) : m.kind = n.kind := by
  cases h with
  | intro kind => exact kind

theorem named (h : Commented code code' n m) : m.named = n.named := by
  cases h with
  | intro _ named => exact named

theorem role (h : Commented code code' n m) : m.role = n.role := by
  cases h with
  | intro _ _ role => exact role

theorem broken (h : Commented code code' n m) : m.isBroken = n.isBroken := by
  cases h with
  | intro _ _ _ broken => exact broken

theorem text (h : Commented code code' n m) (hread : n.isRead = true) :
    m.text code' = n.text code := by
  cases h with
  | intro _ _ _ _ text => exact text hread

theorem children (h : Commented code code' n m) :
    WithComments (Commented code code') n.children m.children := by
  cases h with
  | intro _ _ _ _ _ children => exact children

/-- Comments break nothing. -/
theorem unbroken (h : Commented code code' n m) (hclean : ∀ x ∈ n.preorder, x.isBroken = false) :
    ∀ y ∈ m.preorder, y.isBroken = false := by
  induction n using induction generalizing m with
  | node n ih =>
    intro y hy
    rw [preorder_eq] at hy
    rcases List.mem_cons.1 hy with rfl | hbelow
    · exact h.broken.trans (hclean n n.mem_preorder_self)
    · obtain ⟨c, hc, hy⟩ := List.mem_flatMap.1 hbelow
      rcases h.children.isComment_or hc with hcomment | ⟨x, hx, hxc⟩
      · rw [preorder_eq, hcomment.leaf] at hy
        obtain rfl := List.mem_singleton.1 hy
        exact hcomment.whole
      · exact ih x hx hxc (fun z hz => hclean z (mem_preorder_of_mem hx hz)) y hy

/-! ## Looking for children -/

/-- The children that play a role answer to each other. -/
theorem child? (h : Commented code code' n m) (role : String) :
    Option.Rel (fun a b => Commented code code' a b ∧ a.isRead = true) (n.child? role)
      (m.child? role) := by
  have hfound := h.children.find? (p := (·.role == some role)) (fun c hc => by rw [hc.role]; rfl)
    fun a b hab => by rw [hab.role]
  refine rel_imp hfound fun a b hab => ⟨hab.1, ?_⟩
  rw [isRead, eq_of_beq hab.2, Option.isSome_some, Bool.or_true]

/-- The first children of some kinds answer to each other. -/
theorem childOfKind? (h : Commented code code' n m) (kinds : List String)
    (hkinds : kinds.contains "comment" = false) :
    Option.Rel (Commented code code') (n.childOfKind? kinds) (m.childOfKind? kinds) := by
  have hfound :=
    h.children.find? (p := (kinds.contains ·.kind)) (fun c hc => by rw [hc.kind, hkinds])
    fun a b hab => by rw [hab.kind]
  exact rel_imp hfound fun a b hab => hab.1

theorem importClause? (h : Commented code code' n m) :
    Option.Rel (Commented code code') (importClause? n) (importClause? m) := h.childOfKind? _ rfl

theorem importSource? (h : Commented code code' n m) :
    Option.Rel (fun a b => Commented code code' a b ∧ a.isRead = true) (importSource? n)
      (importSource? m) := by
  unfold ImportOrder.importSource?
  rcases rel_cases (h.child? "source") with ⟨hn, hm⟩ | ⟨a, b, hn, hm, hab⟩
  · rw [hn, hm]
    rcases rel_cases (h.childOfKind? ["import_require_clause"] rfl) with ⟨hn, hm⟩ |
        ⟨a, b, hn, hm, hab⟩
    · rw [hn, hm]
      exact .none
    · rw [hn, hm]
      exact hab.child? "source"
  · rw [hn, hm]
    exact .some hab

theorem isDeclaration (h : Commented code code' n m) : m.isDeclaration = n.isDeclaration := by
  rw [SyntaxNode.isDeclaration, SyntaxNode.isDeclaration, h.kind, isSome_of_rel h.importSource?]

/-- The keyword is looked for at the second place only, so it is found if no comment
comes before it. -/
theorem keyword? (h : Commented code code' n m)
    (hafter : ∀ c ∈ m.children.take 2, c.kind ≠ "comment") :
    m.keyword? = n.keyword? := by
  rw [SyntaxNode.keyword?, SyntaxNode.keyword?, h.children.second (fun a b hab => hab.kind) hafter]

/-! ## Specifiers -/

theorem stringValue (h : Commented code code' n m) (hread : n.isRead = true) :
    stringValue m code' = stringValue n code := by
  rw [ImportOrder.stringValue, ImportOrder.stringValue, h.text hread, h.kind]

/-- An entry between braces imports the same name under the same alias. -/
theorem readNamed (h : Commented code code' n m) :
    Agree (fun s t => t.map Specifier.bare = s.map Specifier.bare) (readNamed code n)
      (readNamed code' m) := by
  have hname : Option.Rel (fun a b => Commented code code' a b ∧ a.isRead = true)
      ((n.child? "alias").or (n.child? "name")) ((m.child? "alias").or (m.child? "name")) := by
    rcases rel_cases (h.child? "alias") with ⟨hn, hm⟩ | ⟨a, b, hn, hm, hab⟩
    · rw [hn, hm]
      exact h.child? "name"
    · rw [hn, hm]
      exact .some hab
  unfold ImportOrder.readNamed
  rcases rel_cases hname with ⟨hn, hm⟩ | ⟨a, b, hn, hm, hab, hread⟩
  · rw [hn, hm]
    exact .ok rfl
  · rw [hn, hm]
    exact .placed (hab.stringValue hread) fun _ _ _ => .ok rfl

/-- Entries that are related one by one give the same specifiers, once those that import
nothing are left out. -/
theorem map_bare_filterMap {ss ts : List (Option Specifier)}
    (h : List.Forall₂ (fun s t => t.map Specifier.bare = s.map Specifier.bare) ss ts) :
    (ts.filterMap id).map Specifier.bare = (ss.filterMap id).map Specifier.bare := by
  have hmap : ts.map (Option.map Specifier.bare) = ss.map (Option.map Specifier.bare) := by
    refine List.forall₂_eq_eq_eq ▸ ?_
    rw [List.forall₂_map_left_iff, List.forall₂_map_right_iff]
    exact h.flip
  have hpicked (us : List (Option Specifier)) :
      (us.filterMap id).map Specifier.bare = (us.map (Option.map Specifier.bare)).filterMap id := by
    rw [List.map_filterMap, List.filterMap_map]
    rfl
  rw [hpicked, hpicked, hmap]

/-- A part of a clause gives the same specifiers, apart from where they stand. -/
theorem readClausePart (h : Commented code code' n m) :
    Agree (fun s t => t.map Specifier.bare = s.map Specifier.bare) (readClausePart code n)
      (readClausePart code' m) := by
  unfold ImportOrder.readClausePart
  rw [h.kind]
  split
  · -- a default import
    next hkind =>
    exact .placed (h.text (by rw [isRead, hkind]; rfl)) fun _ _ _ => .ok rfl
  · -- a namespace
    have hlast :=
      rel_getLast?
        (h.children.filter (p := (·.kind == "identifier")) (fun c hc => by rw [hc.kind]; rfl)
      fun a b hab => by rw [hab.kind])
    rcases rel_cases hlast with ⟨hn, hm⟩ | ⟨a, b, hn, hm, hab, hkind⟩
    · rw [hn, hm]
      exact .ok rfl
    · rw [hn, hm]
      exact .placed (hab.text (by rw [isRead, hkind]; rfl)) fun _ _ _ => .ok rfl
  · -- a braced list
    have hentries := h.children.filter (p := fun c => c.kind == "import_specifier" && c.named)
      (fun c hc => by rw [hc.kind]; rfl) fun a b hab => by rw [hab.kind, hab.named]
    rw [namedChildren, namedChildren, List.filter_filter, List.filter_filter]
    exact (Agree.mapM hentries fun a b hab => hab.1.readNamed).bind fun s t hst =>
      .ok (map_bare_filterMap hst)
  · exact .ok rfl

theorem readClause (h : Commented code code' n m) :
    Agree (fun s t => t.map Specifier.bare = s.map Specifier.bare) (readClause code n)
      (readClause code' m) := by
  have hcomment : ∀ c : SyntaxNode, c.IsComment → ImportOrder.readClausePart code' c = .ok [] := by
    intro c hc
    rw [ImportOrder.readClausePart, hc.kind]
    rfl
  exact (h.children.mapM_flatten hcomment fun a b hab => hab.readClausePart).bind fun s t hst =>
    .ok hst

/-- The specifiers of an import are those of its clause. -/
theorem specifiers (h : Commented code code' n m) :
    Agree (fun s t => t.map Specifier.bare = s.map Specifier.bare)
      ((ImportOrder.importClause? n).elim (.ok []) (ImportOrder.readClause code))
      ((ImportOrder.importClause? m).elim (.ok []) (ImportOrder.readClause code')) := by
  rcases rel_cases h.importClause? with ⟨hn, hm⟩ | ⟨a, b, hn, hm, hab⟩
  · rw [hn, hm]
    exact .ok rfl
  · rw [hn, hm]
    exact hab.readClause

end Commented

end SyntaxNode

/-! ## Statements -/

/-- What a node that is no import is read as. -/
theorem exists_readOther {n : SyntaxNode} {s : Statement} (h : readOther n = .ok s) :
    ∃ span a b, s = .other n.kind span a b := by
  obtain ⟨span, -, h⟩ := ok_of_bind h
  obtain ⟨a, -, h⟩ := ok_of_bind h
  obtain ⟨b, -, h⟩ := ok_of_bind h
  exact ⟨span, a, b, (Except.ok.inj h).symm⟩

/-- What an import with a source is read as. With a clause and without one the steps are
the same, so both are gone through at once. -/
theorem exists_readImport {code : String} {n source : SyntaxNode} {d? : Option ImportDecl}
    (h : readImport code n = .ok d?) (hsource : importSource? n = some source) :
    ∃ d, d? = some d ∧ d.kind = importKind n ∧ stringValue source code = .ok d.path ∧
      (importClause? n).elim (.ok []) (readClause code) = .ok d.specifiers := by
  simp only [readImport, hsource] at h
  cases hclause : importClause? n
  all_goals
    rw [hclause] at h
    obtain ⟨specs, hspecs, h⟩ := ok_of_bind h
    obtain ⟨span, -, h⟩ := ok_of_bind h
    obtain ⟨a, -, h⟩ := ok_of_bind h
    obtain ⟨b, -, h⟩ := ok_of_bind h
    obtain ⟨path, hpath, h⟩ := ok_of_bind h
    exact ⟨_, (Except.ok.inj h).symm, rfl, hpath, hspecs⟩

/-- What is read from a node with comments is what is read without them but for its
place and, if it is a declaration, for what its keyword says. -/
def Statement.Kept (n m : SyntaxNode) (s t : Statement) : Prop :=
  t.kindless = s.kindless ∧ (t.bare = s.bare ↔ (n.isDeclaration = true → m.keyword? = n.keyword?))

namespace SyntaxNode.Commented

variable {code code' : String} {n m : SyntaxNode}

/-- A statement that is no import is kept, since only its place is read. -/
theorem readOther (h : Commented code code' n m) (hdecl : n.isDeclaration = false) :
    Agree (Statement.Kept n m) (readOther n) (readOther m) := by
  intro s t hs ht
  obtain ⟨span, a, b, rfl⟩ := exists_readOther hs
  obtain ⟨span', a', b', rfl⟩ := exists_readOther ht
  rw [h.kind]
  exact ⟨rfl, iff_of_true rfl fun htrue => absurd htrue (ne_true_of_eq_false hdecl)⟩

/-- An import is kept: its kind, its module and its specifiers are read from nodes that
comments leave alone. -/
theorem readDeclaration (h : Commented code code' n m) (hdecl : n.isDeclaration = true) :
    Agree
      (fun d? e? => ∃ d e, d? = some d ∧ e? = some e ∧
        Statement.Kept n m (.importDecl d) (.importDecl e))
      (readImport code n) (readImport code' m) := by
  intro d? e? hd he
  rcases rel_cases h.importSource? with ⟨hn, hm⟩ | ⟨source, source', hn, hm, hab, hread⟩
  · rw [SyntaxNode.isDeclaration, hn, Option.isSome_none, Bool.and_false] at hdecl
    cases hdecl
  · obtain ⟨d, rfl, hdkind, hdpath, hdspecs⟩ := exists_readImport hd hn
    obtain ⟨e, rfl, hekind, hepath, hespecs⟩ := exists_readImport he hm
    have hpath : e.path = d.path :=
      Except.ok.inj (hepath.symm.trans ((hab.stringValue hread).trans hdpath))
    have hspecs := h.specifiers _ _ hdspecs hespecs
    have hkind := importKind_eq_iff (isSome_of_rel h.importClause?)
    rw [← hekind, ← hdkind] at hkind
    refine ⟨d, e, rfl, rfl, ?_, ?_⟩
    · simp only [Statement.kindless, ImportDecl.bare, hpath, hspecs]
    · simp only [Statement.bare, ImportDecl.bare, hpath, hspecs, hdecl, forall_const, ← hkind,
        Statement.importDecl.injEq, ImportDecl.mk.injEq, true_and, and_true]

/-- **One statement.** Comments change nothing of it but its kind, and that only if they
come before the keyword. -/
theorem readStatement (h : Commented code code' n m) :
    Agree (Statement.Kept n m) (readStatement code n) (readStatement code' m) := by
  unfold ImportOrder.readStatement
  rw [h.kind]
  split
  · next himport =>
    cases hdecl : n.isDeclaration with
    | true =>
      refine (h.readDeclaration hdecl).bind ?_
      rintro _ _ ⟨d, e, rfl, rfl, hkept⟩
      exact .ok hkept
    | false =>
      -- there is no source on either side
      have hn : ImportOrder.importSource? n = none := by
        simpa [SyntaxNode.isDeclaration, himport] using hdecl
      have hm : ImportOrder.importSource? m = none := by
        have hdecl' := h.isDeclaration.trans hdecl
        simpa [SyntaxNode.isDeclaration, h.kind, himport] using hdecl'
      rw [readImport, readImport, hn, hm]
      exact h.readOther hdecl
  · next hkind =>
    exact h.readOther (by rw [SyntaxNode.isDeclaration, beq_false_of_ne hkind, Bool.false_and])

/-- **Statement by statement.** -/
theorem readAll {ns ms : List SyntaxNode} (h : List.Forall₂ (Commented code code') ns ms) :
    Agree (fun ss ts => ts.map Statement.kindless = ss.map Statement.kindless ∧
      (ts.map Statement.bare = ss.map Statement.bare ↔
        (ms.filter SyntaxNode.isDeclaration).map SyntaxNode.keyword? =
          (ns.filter SyntaxNode.isDeclaration).map SyntaxNode.keyword?))
      (ns.mapM (ImportOrder.readStatement code)) (ms.mapM (ImportOrder.readStatement code')) := by
  induction h with
  | nil => exact .ok ⟨rfl, iff_of_true rfl rfl⟩
  | @cons n m ns ms hnm _ ih =>
    rw [List.mapM_cons, List.mapM_cons]
    refine hnm.readStatement.bind fun s t hst => ih.bind fun ss ts hall => .ok ⟨?_, ?_⟩
    · rw [List.map_cons, List.map_cons, hst.1, hall.1]
    · rw [List.map_cons, List.map_cons, List.cons_eq_cons, hst.2, hall.2]
      cases hdecl : n.isDeclaration with
      | true =>
        rw [List.filter_cons_of_pos hdecl, List.filter_cons_of_pos (hnm.isDeclaration.trans hdecl),
          List.map_cons, List.map_cons, List.cons_eq_cons]
        simp
      | false =>
        rw [List.filter_cons_of_neg (ne_true_of_eq_false hdecl),
          List.filter_cons_of_neg (ne_true_of_eq_false (hnm.isDeclaration.trans hdecl))]
        simp

/-- The statements of two trees answer to each other. -/
theorem statements (h : Commented code code' n m) :
    List.Forall₂ (Commented code code') (n.namedChildren.filter (!isTrivia ·))
      (m.namedChildren.filter (!isTrivia ·)) := by
  have hpicked :=
    h.children.filter (p := fun c => !isTrivia c && c.named)
      (fun c hc => by rw [isTrivia, hc.kind]; rfl)
    fun a b hab => by rw [isTrivia, isTrivia, hab.kind, hab.named]
  rw [namedChildren, namedChildren, List.filter_filter, List.filter_filter]
  exact hpicked.imp fun a b hab => hab.1

/-- Where no comment comes right after `import`, the keywords are what they were. -/
theorem keywords (h : Commented code code' n m)
    (hafter : ∀ d ∈ m.declarations, ∀ c ∈ d.children.take 2, c.kind ≠ "comment") :
    m.declarations.map SyntaxNode.keyword? = n.declarations.map SyntaxNode.keyword? := by
  have hpicked := h.children.filter (p := fun c => c.isDeclaration && c.named)
    (fun c hc => by
      rw [SyntaxNode.isDeclaration, hc.kind]; rfl) fun a b hab => by rw [hab.isDeclaration,
      hab.named]
  rw [declarations, namedChildren, List.filter_filter] at hafter
  rw [declarations, declarations, namedChildren, namedChildren, List.filter_filter,
    List.filter_filter]
  generalize n.children.filter (fun c => c.isDeclaration && c.named) = ns at hpicked
  generalize m.children.filter (fun c => c.isDeclaration && c.named) = ms at hpicked hafter
  induction hpicked with
  | nil => rfl
  | cons hnm _ ih =>
    obtain ⟨hfirst, hrest⟩ := List.forall_mem_cons.1 hafter
    rw [List.map_cons, List.map_cons, hnm.1.keyword? hfirst, ih hrest]

end SyntaxNode.Commented

/-- The declarations are among the statements. -/
theorem SyntaxNode.declarations_eq (root : SyntaxNode) :
    root.declarations = (root.namedChildren.filter (!isTrivia ·)).filter isDeclaration := by
  rw [declarations, List.filter_filter]
  refine List.filter_congr fun n _ => ?_
  cases hdecl : n.isDeclaration with
  | false => rfl
  | true =>
    rw [isDeclaration, Bool.and_eq_true, beq_iff_eq] at hdecl
    rw [isTrivia, hdecl.1]
    rfl

/-! ## Reading commented trees -/

open SyntaxNode

/-- Where nothing is broken, the statements are read one by one. -/
theorem mapM_of_readStatements {code : String} {root : SyntaxNode} {ss : List Statement}
    (hclean : ∀ n ∈ root.preorder, n.isBroken = false) (h : readStatements code root = .ok ss) :
    (root.namedChildren.filter (!isTrivia ·)).mapM (readStatement code) = .ok ss := by
  rw [readStatements, firstError_eq_none hclean] at h
  exact ok_of_mapError h

/-- **Comments do not change what is read, unless they hide a keyword.** Of a tree
without broken nodes and the same tree with more comments, both are read if they fit
their texts. The statements of the one then answer to those of the other, in order, and
are the same but for their places and for the kinds of imports. The kinds are the same
too just if the keywords right after `import` are, and these are the same where no
comment comes right after `import`. -/
theorem readStatements_comments {code code' : String} {root root' : SyntaxNode}
    (hclean : ∀ n ∈ root.preorder, n.isBroken = false)
    (hcommented : Commented code code' root root') :
    (root.Fits code.toList → ∃ ss, readStatements code root = .ok ss) ∧
    (root'.Fits code'.toList → ∃ ss', readStatements code' root' = .ok ss') ∧
    ∀ ss ss', readStatements code root = .ok ss → readStatements code' root' = .ok ss' →
      ss'.map Statement.kindless = ss.map Statement.kindless ∧
      (ss'.map Statement.bare = ss.map Statement.bare ↔
        root'.declarations.map keyword? = root.declarations.map keyword?) ∧
      ((∀ d ∈ root'.declarations, ∀ c ∈ d.children.take 2, c.kind ≠ "comment") →
        ss'.map Statement.bare = ss.map Statement.bare) := by
  have hclean' := hcommented.unbroken hclean
  refine ⟨fun hfits => exists_readStatements hfits hclean,
    fun hfits' => exists_readStatements hfits' hclean', ?_⟩
  intro ss ss' hss hss'
  obtain ⟨hkindless, hbare⟩ :=
    Commented.readAll hcommented.statements ss ss' (mapM_of_readStatements hclean hss)
    (mapM_of_readStatements hclean' hss')
  rw [← declarations_eq, ← declarations_eq] at hbare
  exact ⟨hkindless, hbare, fun hafter => hbare.2 (hcommented.keywords hafter)⟩

/-- Comments before an import, after its keyword and in its braces. -/
theorem readStatements_comments_in_braces :
    let code := "import type" ++ braced "A" ++ "from\"a\""
    let code' := "/**/import type/**/" ++ braced "/**/A" ++ "from\"a\""
    let node (kind : String) (first last : Nat) (children : List SyntaxNode) : SyntaxNode :=
      { kind := kind, span := ⟨first, last⟩, startRow := 0, startColumn := first, endRow := 0,
        children := children }
    let token (kind : String) (first last : Nat) : SyntaxNode :=
      { node kind first last [] with named := false }
    let name (first last : Nat) : SyntaxNode :=
      { node "identifier" first last [] with role := some "name" }
    let source (first last : Nat) : SyntaxNode :=
      { node "string" first last [] with role := some "source" }
    let root :=
      node "program" 0 21 [
        node "import_statement" 0 21 [
          token "import" 0 6, token "type" 7 11,
          node "import_clause" 11 14 [
            node "named_imports" 11 14 [
              token openBrace 11 12,
              node "import_specifier" 12 13 [name 12 13],
              token closeBrace 13 14]],
          token "from" 14 18, source 18 21]]
    let root' :=
      node "program" 0 33 [
        node "comment" 0 4 [],
        node "import_statement" 4 33 [
          token "import" 4 10, token "type" 11 15,
          node "comment" 15 19 [],
          node "import_clause" 19 26 [
            node "named_imports" 19 26 [
              token openBrace 19 20,
              node "comment" 20 24 [],
              node "import_specifier" 24 25 [name 24 25],
              token closeBrace 25 26]],
          token "from" 26 30, source 30 33]]
    root.Fits code.toList ∧ root'.Fits code'.toList ∧ (∀ n ∈ root.preorder, n.isBroken = false) ∧
      Commented code code' root root' ∧ ∃ ss ss', readStatements code root = .ok ss ∧
        readStatements code' root' = .ok ss' ∧ ss'.map Statement.bare = ss.map Statement.bare := by
  intro code code' node token name source root root'
  have hfits : root.Fits code.toList := by decide
  have hfits' : root'.Fits code'.toList := by decide
  have hclean : ∀ n ∈ root.preorder, n.isBroken = false := by decide
  have hcomment (first last : Nat) : (node "comment" first last []).IsComment :=
    ⟨rfl, rfl, rfl, rfl⟩
  have htoken (kind : String) (a b c d : Nat) (hkind : (kind == "identifier") = false) :
      Commented code code' (token kind a b) (token kind c d) :=
    .intro rfl rfl rfl rfl (by simp only [isRead, token, node, hkind]; exact nofun) .nil
  have hname : Commented code code' (name 12 13) (name 24 25) :=
    .intro rfl rfl rfl rfl (fun _ => by decide) .nil
  have hsource : Commented code code' (source 18 21) (source 30 33) :=
    .intro rfl rfl rfl rfl (fun _ => by decide) .nil
  have hcommented : Commented code code' root root' := by
    refine .intro rfl rfl rfl rfl nofun (.comment (hcomment 0 4) (.node ?_ .nil))
    refine .intro rfl rfl rfl rfl nofun (.node (htoken _ _ _ _ _ rfl) (.node (htoken _ _ _ _ _ rfl)
      (.comment (hcomment 15 19) (.node ?_ (.node (htoken _ _ _ _ _ rfl) (.node hsource .nil))))))
    refine .intro rfl rfl rfl rfl nofun (.node ?_ .nil)
    refine .intro rfl rfl rfl rfl nofun (.node (htoken _ _ _ _ _ rfl)
      (.comment (hcomment 20 24) (.node ?_ (.node (htoken _ _ _ _ _ rfl) .nil))))
    exact .intro rfl rfl rfl rfl nofun (.node hname .nil)
  obtain ⟨hread, hread', hsame⟩ := readStatements_comments hclean hcommented
  obtain ⟨ss, hss⟩ := hread hfits
  obtain ⟨ss', hss'⟩ := hread' hfits'
  exact ⟨hfits, hfits', hclean, hcommented, ss, ss', hss, hss',
    (hsame ss ss' hss hss').2.2 (by decide)⟩

/-- A comment between `import` and `type` makes an import of types one of values. -/
theorem comment_hides_keyword :
    let code := "import type A from\"a\""
    let code' := "import /**/ type A from\"a\""
    let node (kind : String) (first last : Nat) (children : List SyntaxNode) : SyntaxNode :=
      { kind := kind, span := ⟨first, last⟩, startRow := 0, startColumn := first, endRow := 0,
        children := children }
    let token (kind : String) (first last : Nat) : SyntaxNode :=
      { node kind first last [] with named := false }
    let source (first last : Nat) : SyntaxNode :=
      { node "string" first last [] with role := some "source" }
    let root :=
      node "program" 0 21 [
        node "import_statement" 0 21 [
          token "import" 0 6, token "type" 7 11,
          node "import_clause" 12 13 [node "identifier" 12 13 []],
          token "from" 14 18, source 18 21]]
    let root' :=
      node "program" 0 26 [
        node "import_statement" 0 26 [
          token "import" 0 6,
          node "comment" 7 11 [],
          token "type" 12 16,
          node "import_clause" 17 18 [node "identifier" 17 18 []],
          token "from" 19 23, source 23 26]]
    root.Fits code.toList ∧ root'.Fits code'.toList ∧ (∀ n ∈ root.preorder, n.isBroken = false) ∧
      Commented code code' root root' ∧
      readStatements code root =
        .ok [.importDecl ⟨⟨0, 21⟩, 1, 1, some .type, "a", [⟨.default, "A", ⟨12, 13⟩⟩]⟩] ∧
      readStatements code' root' =
        .ok [.importDecl ⟨⟨0, 26⟩, 1, 1, some .value, "a", [⟨.default, "A", ⟨17, 18⟩⟩]⟩] := by
  intro code code' node token source root root'
  have htoken (kind : String) (a b c d : Nat) (hkind : (kind == "identifier") = false) :
      Commented code code' (token kind a b) (token kind c d) :=
    .intro rfl rfl rfl rfl (by simp only [isRead, token, node, hkind]; exact nofun) .nil
  have hname : Commented code code' (node "identifier" 12 13 []) (node "identifier" 17 18 []) :=
    .intro rfl rfl rfl rfl (fun _ => by decide) .nil
  have hsource : Commented code code' (source 18 21) (source 23 26) :=
    .intro rfl rfl rfl rfl (fun _ => by decide) .nil
  have hcommented : Commented code code' root root' := by
    refine .intro rfl rfl rfl rfl nofun (.node ?_ .nil)
    refine .intro rfl rfl rfl rfl nofun (.node (htoken _ _ _ _ _ rfl) (.comment ⟨rfl, rfl, rfl, rfl⟩
      (.node (htoken _ _ _ _ _ rfl)
        (.node ?_ (.node (htoken _ _ _ _ _ rfl) (.node hsource .nil))))))
    exact .intro rfl rfl rfl rfl nofun (.node hname .nil)
  exact ⟨by decide, by decide, by decide, hcommented, by decide +kernel, by decide +kernel⟩

end ImportOrder
