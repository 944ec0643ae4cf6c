import ImportOrder.Proofs.TreeReading
import ImportOrder.Text.Braces

/-!
# The first syntax error

The nodes of a tree in *preorder*: a parent before its children, and these in order. The
search for the first error does not go through all of them. It skips a node that is not
tainted with everything below it, and stops at the first hit among the children. Where
the taint of every node tells the truth, nothing is lost by that: what is found is the
first broken node in preorder, and reading a tree fails with a syntax error just if
there is one.
-/

namespace ImportOrder

namespace SyntaxNode

/-! ## The nodes of a tree -/

mutual

/-- The nodes of a tree, a parent before its children and these in order. -/
def preorder : SyntaxNode → List SyntaxNode
  | ⟨kind, span, startRow, startColumn, endRow, named, isError, isMissing, tainted, role,
      children⟩ =>
    ⟨kind, span, startRow, startColumn, endRow, named, isError, isMissing, tainted, role,
      children⟩ ::
      preorderAmong children

/-- The nodes of some trees, one tree after another. -/
def preorderAmong : List SyntaxNode → List SyntaxNode
  | [] => []
  | n :: rest => preorder n ++ preorderAmong rest

end

theorem preorderAmong_eq (ns : List SyntaxNode) : preorderAmong ns = ns.flatMap preorder := by
  induction ns with
  | nil => rfl
  | cons n rest ih => rw [preorderAmong, ih, List.flatMap_cons]

/-- A node comes before the nodes under its children. -/
theorem preorder_eq (n : SyntaxNode) : n.preorder = n :: n.children.flatMap preorder := by
  cases n
  rw [preorder, preorderAmong_eq]

theorem mem_preorder_self (n : SyntaxNode) : n ∈ n.preorder := by
  rw [preorder_eq]
  exact List.mem_cons_self

theorem mem_preorder_of_mem {n c m : SyntaxNode} (hc : c ∈ n.children) (hm : m ∈ c.preorder) :
    m ∈ n.preorder := by
  rw [preorder_eq]
  exact List.mem_cons_of_mem _ (List.mem_flatMap_of_mem hc hm)

/-- What holds of a node as soon as it holds of its children holds of every node. -/
@[elab_as_elim]
theorem induction {motive : SyntaxNode → Prop} (node : ∀ n, (∀ c ∈ n.children, motive c) → motive n)
    (n : SyntaxNode) : motive n :=
  node n fun c _ => induction node c
termination_by sizeOf n
decreasing_by
  next hc =>
    have hlt := List.sizeOf_lt_of_mem hc
    cases n
    simp only [mk.sizeOf_spec] at hlt ⊢
    omega

/-- The nodes below a node of a tree are nodes of the tree. -/
theorem mem_preorder_trans {root n m : SyntaxNode} (hn : n ∈ root.preorder) (hm : m ∈ n.preorder) :
    m ∈ root.preorder := by
  induction root using induction with
  | node root ih =>
    rw [preorder_eq root] at hn
    rcases List.mem_cons.1 hn with rfl | hbelow
    · exact hm
    · obtain ⟨c, hc, hn⟩ := List.mem_flatMap.1 hbelow
      exact mem_preorder_of_mem hc (ih c hc hn)

/-- A tree fits a text if its nodes keep to it. -/
theorem fits_iff {code : List Char} {root : SyntaxNode} :
    root.Fits code ↔ ∀ n ∈ root.preorder, n.Sound code := by
  constructor
  · intro h
    induction h with
    | @intro n sound below ih =>
      rw [preorder_eq]
      refine List.forall_mem_cons.2 ⟨sound, fun m hm => ?_⟩
      obtain ⟨c, hc, hm⟩ := List.mem_flatMap.1 hm
      exact ih c hc m hm
  · intro h
    induction root using induction with
    | node n ih =>
      exact .intro (h n n.mem_preorder_self) fun c hc => ih c hc fun m hm =>
        h m (mem_preorder_of_mem hc hm)

instance (code : List Char) (root : SyntaxNode) : Decidable (root.Fits code) :=
  decidable_of_iff _ fits_iff.symm

/-! ## Broken nodes -/

/-- The text is wrong at the node: it fits nowhere, or a token is missing there. -/
def isBroken (n : SyntaxNode) : Bool := n.isError || n.isMissing

/-- Every node is tainted just if it or a node below it is broken. -/
def TaintTold (root : SyntaxNode) : Prop := ∀ n ∈ root.preorder, n.tainted = n.preorder.any isBroken

instance (root : SyntaxNode) : Decidable root.TaintTold :=
  inferInstanceAs (Decidable (∀ n ∈ root.preorder, n.tainted = n.preorder.any isBroken))

/-- Nothing broken lies at or below a node that is not tainted. The search needs no more
than this. -/
def NoneHidden (root : SyntaxNode) : Prop :=
  ∀ n ∈ root.preorder, n.tainted = false → ∀ m ∈ n.preorder, m.isBroken = false

/-- If taint is told truly, no broken node is hidden. -/
theorem TaintTold.noneHidden {root : SyntaxNode} (h : root.TaintTold) : root.NoneHidden := by
  intro n hn htainted m hm
  rw [h n hn, List.any_eq_false] at htainted
  exact eq_false_of_ne_true (htainted m hm)

theorem NoneHidden.of_mem {n c : SyntaxNode} (h : n.NoneHidden) (hc : c ∈ n.children) :
    c.NoneHidden :=
  fun m hm => h m (mem_preorder_of_mem hc hm)

/-- If the search is right under each of some nodes, it is right under all of them. -/
theorem firstErrorAmong_eq_find? {ns : List SyntaxNode}
    (h : ∀ c ∈ ns, c.firstError = c.preorder.find? isBroken) :
    firstErrorAmong ns = (ns.flatMap preorder).find? isBroken := by
  induction ns with
  | nil => rfl
  | cons c rest ih =>
    obtain ⟨hc, hrest⟩ := List.forall_mem_cons.1 h
    rw [firstErrorAmong, List.flatMap_cons, List.find?_append, ← hc, ih hrest]
    cases c.firstError <;> rfl

/-- **The search finds the first broken node.** -/
theorem firstError_eq_find? {root : SyntaxNode} (h : root.NoneHidden) :
    root.firstError = root.preorder.find? isBroken := by
  induction root using induction with
  | node n ih =>
    have hbelow := firstErrorAmong_eq_find? fun c hc => ih c hc (h.of_mem hc)
    rw [firstError_eq]
    split
    · -- the node is broken itself
      next hbroken => rw [preorder_eq, List.find?_cons_of_pos (p := isBroken) hbroken]
    · next hbroken =>
      split
      · -- it is passed over, and nothing is lost
        next htainted =>
        have hclean := h n n.mem_preorder_self (Bool.not_eq_true' _ ▸ htainted)
        rw [eq_comm, List.find?_eq_none]
        exact fun m hm => ne_true_of_eq_false (hclean m hm)
      · rw [preorder_eq, List.find?_cons_of_neg (p := isBroken) hbroken, hbelow]

/-- Whatever the taints say, nothing is found where nothing is broken. -/
theorem firstError_eq_none {root : SyntaxNode} (h : ∀ n ∈ root.preorder, n.isBroken = false) :
    root.firstError = none := by
  have hhidden : root.NoneHidden := fun n hn _ m hm => h m (mem_preorder_trans hn hm)
  rw [firstError_eq_find? hhidden, List.find?_eq_none]
  exact fun m hm => ne_true_of_eq_false (h m hm)

end SyntaxNode

/-! ## What reading makes of it -/

open SyntaxNode

variable {code : String} {root : SyntaxNode}

/-- The message points at the first broken node. -/
theorem readStatements_of_find? (htaint : root.TaintTold)
    (hcounted : ∀ n ∈ root.preorder, n.startRow < 2 ^ 32 - 1 ∧ n.startColumn < 2 ^ 32 - 1)
    {e : SyntaxNode} (he : root.preorder.find? isBroken = some e) :
    readStatements code root = .error (.error (.syntaxError (e.startRow + 1) (e.startColumn + 1)
      (if e.isMissing then s!"missing '{e.kind}'" else "unexpected input"))) := by
  obtain ⟨hrow, hcolumn⟩ := hcounted e (List.mem_of_find?_eq_some he)
  rw [← firstError_eq_find? htaint.noneHidden] at he
  simp only [readStatements, he, syntaxErrorAt, bind_ok (ordinal_eq hrow),
    bind_ok (ordinal_eq hcolumn)]

/-- Where nothing is broken there is no complaint. -/
theorem readStatements_ne_error (h : ∀ n ∈ root.preorder, n.isBroken = false) (e : ParseError) :
    readStatements code root ≠ .error (.error e) := by
  rw [readStatements, firstError_eq_none h]
  cases (root.namedChildren.filter (!isTrivia ·)).mapM (readStatement code) with
  | ok statements =>
    intro h
    cases h
  | error fault =>
    intro h
    cases h

/-- A tree without broken nodes can be read. -/
theorem exists_readStatements (hfits : root.Fits code.toList)
    (h : ∀ n ∈ root.preorder, n.isBroken = false) :
    ∃ ss, readStatements code root = .ok ss := by
  rcases readStatements_cases hfits with ⟨e, herror⟩ | ⟨ss, hss, -⟩
  · exact absurd herror (readStatements_ne_error h e)
  · exact ⟨ss, hss⟩

/-- **Reading fails with a syntax error just if a node of the tree is broken**, at
whatever depth. The error then stands where the first broken node in preorder starts and
says whether something is missing there, and no statements come out of such a tree. They
do come out of a tree without broken nodes that fits its text. -/
theorem readStatements_syntaxError_iff (htaint : root.TaintTold)
    (hcounted : ∀ n ∈ root.preorder, n.startRow < 2 ^ 32 - 1 ∧ n.startColumn < 2 ^ 32 - 1) :
    ((∃ line column reason, readStatements code root =
      .error (.error (.syntaxError line column reason))) ↔
      ∃ n ∈ root.preorder, n.isBroken = true) ∧
    (∀ e, root.preorder.find? isBroken = some e →
      readStatements code root = .error (.error (.syntaxError (e.startRow + 1) (e.startColumn + 1)
        (if e.isMissing then s!"missing '{e.kind}'" else "unexpected input")))) ∧
    (∀ ss, readStatements code root = .ok ss → ∀ n ∈ root.preorder, n.isBroken = false) ∧
    (root.Fits code.toList → (∀ n ∈ root.preorder, n.isBroken = false) →
      ∃ ss, readStatements code root = .ok ss) := by
  have hfirst := @readStatements_of_find? code root htaint hcounted
  refine ⟨⟨?_, ?_⟩, fun e he => hfirst he, ?_, exists_readStatements⟩
  · rintro ⟨line, column, reason, herror⟩
    by_contra hclean
    refine readStatements_ne_error (fun n hn => ?_) _ herror
    exact eq_false_of_ne_true fun hbroken => hclean ⟨n, hn, hbroken⟩
  · rintro ⟨n, hn, hbroken⟩
    obtain ⟨e, he⟩ := Option.isSome_iff_exists.1 (List.find?_isSome.2 ⟨n, hn, hbroken⟩)
    exact ⟨_, _, _, hfirst he⟩
  · intro ss hss n hn
    by_contra hbroken
    obtain ⟨e, he⟩ := Option.isSome_iff_exists.1
      (List.find?_isSome.2 ⟨n, hn, eq_true_of_ne_false hbroken⟩)
    cases (hfirst he).symm.trans hss

/-- A closing brace is missing inside the first statement, and what follows it fits
nowhere. -/
theorem readStatements_syntaxError_iff_missing_brace :
    let code := "import " ++ openBrace ++ "a from;="
    let word : SyntaxNode :=
      { kind := "import", span := ⟨0, 6⟩, startRow := 0, startColumn := 0, endRow := 0 }
    let brace : SyntaxNode :=
      { word with
        kind := closeBrace, span := ⟨9, 9⟩, startColumn := 9, isMissing := true, tainted := true }
    let list : SyntaxNode :=
      { word with
        kind := "named_imports", span := ⟨7, 9⟩, startColumn := 7, tainted := true,
        children := [brace] }
    let statement : SyntaxNode :=
      { word with
        kind := "import_statement", span := ⟨0, 15⟩, tainted := true, children := [word, list] }
    let stray : SyntaxNode :=
      { word with
        kind := "ERROR", span := ⟨15, 16⟩, startColumn := 15, isError := true, tainted := true }
    let root : SyntaxNode :=
      { word with
        kind := "program", span := ⟨0, 16⟩, tainted := true, children := [statement, stray] }
    root.TaintTold ∧ (∀ n ∈ root.preorder, n.startRow < 2 ^ 32 - 1 ∧ n.startColumn < 2 ^ 32 - 1) ∧
      readStatements code root =
        .error (.error (.syntaxError 1 10 ("missing '" ++ closeBrace ++ "'"))) := by
  intro code word brace list statement stray root
  have htaint : root.TaintTold := by decide
  have hcounted : ∀ n ∈ root.preorder, n.startRow < 2 ^ 32 - 1 ∧ n.startColumn < 2 ^ 32 - 1 := by
    decide
  exact ⟨htaint, hcounted, (readStatements_syntaxError_iff htaint hcounted).2.1 brace rfl⟩

end ImportOrder
