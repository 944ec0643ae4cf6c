import ImportOrder.SourceModule
import ImportOrder.Proofs.Arrangement
import ImportOrder.Proofs.Repairing

/-!
# Reading a tree that fits its text

What the program takes from a grammar is a tree over the text. A tree *fits* a text if
every node lies in the text and can be cut out of it, the children of a node stand one
after another inside it, a string begins and ends with a quote, and rows and columns can
be counted.

Reading goes down such a tree and cuts the text at its nodes only. One lemma for each
reader says that it ends well and where the spans that it gives stand; together they say
that the statements of the text are arranged (`readStatements_cases`). So neither
reading nor the check after it meets a fault, and the fixes of the check can be applied.
-/

namespace ImportOrder

/-! ## Trees and texts -/

/-- The text begins with a character of one byte, as a quote is, and ends with one. -/
def isQuoted (cs : List Char) : Bool :=
  cs.head?.all (·.utf8Size == 1) && cs.getLast?.all (·.utf8Size == 1)

/-- The node keeps to the text. -/
@[mk_iff]
structure SyntaxNode.Sound (code : List Char) (n : SyntaxNode) : Prop where
  /-- it ends where it starts or later -/
  ordered : n.span.start ≤ n.span.stop
  /-- the text can be cut at its ends -/
  cuts : IsBoundary code n.span.start ∧ IsBoundary code n.span.stop
  /-- its children stand one after another inside it -/
  children : LaidOut code n.span (n.children.map SyntaxNode.span)
  /-- a string of two bytes or more stands in quotes -/
  quoted : n.kind = "string" → n.span.start + 2 ≤ n.span.stop →
    isQuoted (sliceOf code n.span.start n.span.stop) = true
  /-- its rows and its column can be counted -/
  counted : n.startRow < 2 ^ 32 - 2 ∧ n.startColumn < 2 ^ 32 - 2 ∧ n.endRow < 2 ^ 32 - 2

instance (code : List Char) (n : SyntaxNode) : Decidable (n.Sound code) :=
  decidable_of_iff _ (SyntaxNode.sound_iff code n).symm

/-- The node and all nodes below it keep to the text. -/
inductive SyntaxNode.Fits (code : List Char) : SyntaxNode → Prop
  | intro {n : SyntaxNode} (sound : n.Sound code) (below : ∀ c ∈ n.children, Fits code c) :
      Fits code n

namespace SyntaxNode

theorem Fits.sound {code : List Char} {n : SyntaxNode} (h : n.Fits code) : n.Sound code := by
  cases h with
  | intro sound below => exact sound

theorem Fits.of_mem {code : List Char} {n c : SyntaxNode} (h : n.Fits code) (hc : c ∈ n.children) :
    c.Fits code := by
  cases h with
  | intro sound below => exact below c hc

theorem Fits.child? {code : List Char} {n c : SyntaxNode} {role : String} (h : n.Fits code)
    (hc : n.child? role = some c) : c.Fits code := h.of_mem (List.mem_of_find?_eq_some hc)

/-- The search looks at the node first, and under it only if it is tainted. -/
theorem firstError_eq (n : SyntaxNode) : n.firstError =
    if n.isError || n.isMissing then some n else if !n.tainted then none
      else firstErrorAmong n.children := by
  cases n
  rw [firstError]

/-- The first error of a tree that fits is one of its nodes. -/
theorem Fits.firstError {code : List Char} {n e : SyntaxNode} (h : n.Fits code)
    (he : n.firstError = some e) :
    e.Fits code := by
  induction h with
  | @intro n sound below ih =>
    have hamong : ∀ cs : List SyntaxNode, (∀ c ∈ cs, c ∈ n.children) →
        firstErrorAmong cs = some e → e.Fits code := by
      intro cs hcs hfound
      induction cs with
      | nil => cases hfound
      | cons c rest ihrest =>
        obtain ⟨hc, hrest⟩ := List.forall_mem_cons.1 hcs
        rw [firstErrorAmong] at hfound
        split at hfound
        · next first hfirst => exact ih c hc (hfirst.trans hfound)
        · exact ihrest hrest hfound
    rw [firstError_eq] at he
    split at he
    · obtain rfl := Option.some.inj he
      exact .intro sound below
    · split at he
      · cases he
      · exact hamong n.children (fun c hc => hc) he

end SyntaxNode

/-! ## Rows, places and texts -/

theorem ordinal_eq {index : Nat} (h : index < 2 ^ 32 - 1) : ordinal index = .ok (index + 1) := by
  have hmod : index % lineBound = index := Nat.mod_eq_of_lt (by rw [lineBound]; omega)
  rw [ordinal, hmod, nextLine_eq (by rw [lineBound]; omega)]

theorem utf8ByteSize_ofList (cs : List Char) : (String.ofList cs).utf8ByteSize = byteLength cs := by
  induction cs with
  | nil => rfl
  | cons c rest ih =>
    rw [byteLength, ← ih]
    simp

/-- The quotes can be taken off. -/
theorem slice_quoted {cs : List Char} (hlen : 2 ≤ byteLength cs) (hquoted : isQuoted cs = true) :
    ∃ value, Span.slice ⟨1, byteLength cs - 1⟩ (String.ofList cs) = .ok value := by
  cases cs with
  | nil => simp at hlen
  | cons q rest =>
    rw [isQuoted, List.getLast?_eq_some_getLast (List.cons_ne_nil q rest)] at hquoted
    simp only [List.head?_cons, Option.all_some, Bool.and_eq_true, beq_iff_eq] at hquoted
    obtain ⟨hq, hr⟩ := hquoted
    have hstart : IsBoundary (q :: rest) 1 := ⟨[q], rest, rfl, by simp [byteLength, hq]⟩
    have hstop : IsBoundary (q :: rest) (byteLength (q :: rest) - 1) := by
      have hjoin := List.dropLast_append_getLast (List.cons_ne_nil q rest)
      refine ⟨(q :: rest).dropLast, _, hjoin.symm, ?_⟩
      conv_rhs => rw [← hjoin, byteLength_append]
      simp [byteLength, hr]
    refine ⟨_, slice_eq_sliceOf (by simpa using hstart) (by simpa using hstop) ?_⟩
    simp only
    omega

namespace SyntaxNode.Sound

variable {code : String} {n : SyntaxNode}

theorem place_eq (h : n.Sound code.toList) : n.place = .ok n.span := Span.make_eq_ok h.ordered

theorem startRow_eq (h : n.Sound code.toList) : ordinal n.startRow = .ok (n.startRow + 1) :=
  ordinal_eq (h.counted.1.trans (by decide))

theorem startColumn_eq (h : n.Sound code.toList) :
    ordinal n.startColumn = .ok (n.startColumn + 1) :=
  ordinal_eq (h.counted.2.1.trans (by decide))

theorem endRow_eq (h : n.Sound code.toList) : ordinal n.endRow = .ok (n.endRow + 1) :=
  ordinal_eq (h.counted.2.2.trans (by decide))

/-- The text of a sound node is the one under its span. -/
theorem text_eq (h : n.Sound code.toList) :
    n.text code = .ok (String.ofList (sliceOf code.toList n.span.start n.span.stop)) :=
  slice_eq_sliceOf h.cuts.1 h.cuts.2 h.ordered

theorem byteLength_text (h : n.Sound code.toList) :
    n.span.start + byteLength (sliceOf code.toList n.span.start n.span.stop) = n.span.stop := by
  obtain ⟨m, hm⟩ := exists_between? h.cuts.1 h.cuts.2 h.ordered
  obtain ⟨a, b, -, -, hlen⟩ := between?_eq_some_iff.1 hm
  rw [sliceOf, hm]
  exact hlen

theorem stringValue_ok (h : n.Sound code.toList) : ∃ value, stringValue n code = .ok value := by
  rw [stringValue, bind_ok h.text_eq, utf8ByteSize_ofList]
  split
  · next hstring =>
    have hlen := h.byteLength_text
    exact slice_quoted hstring.2 (h.quoted hstring.1 (by omega))
  · exact ⟨_, rfl⟩

end SyntaxNode.Sound

/-! ## Lists of nodes -/

/-- A list whose steps all end well is gone through to its end, and each result belongs
to its step. -/
theorem exists_mapM {ε α β : Type} {f : α → Except ε β} {P : α → β → Prop} {xs : List α}
    (h : ∀ x ∈ xs, ∃ y, f x = .ok y ∧ P x y) : ∃ ys, xs.mapM f = .ok ys ∧ List.Forall₂ P xs ys := by
  induction xs with
  | nil => exact ⟨[], rfl, .nil⟩
  | cons x rest ih =>
    obtain ⟨⟨y, hy, hxy⟩, hrest⟩ := List.forall_mem_cons.1 h
    obtain ⟨ys, hys, hall⟩ := ih hrest
    rw [List.mapM_cons, bind_ok hy, bind_ok hys]
    exact ⟨y :: ys, rfl, .cons hxy hall⟩

namespace LaidOut

variable {text : List Char}

/-- **Spans inside spans.** Where spans stand one after another, so do the spans that
stand inside them, because what is inside a later one stands after all of the first. -/
theorem flatten {outer : Span} {spans : List Span} {inner : List (List Span)}
    (h : LaidOut text outer spans) (hinner : List.Forall₂ (LaidOut text) spans inner) :
    LaidOut text outer inner.flatten := by
  induction hinner generalizing outer with
  | nil => exact nil outer
  | @cons s ts spans inner hs hrest ih =>
    have hinside := h.inside s List.mem_cons_self
    have hordered := h.ordered s List.mem_cons_self
    have hlater : LaidOut text ⟨s.stop, outer.stop⟩ inner.flatten := by
      refine ih ⟨h.tail.ordered, ?_, h.tail.cuts, h.tail.apart⟩
      intro t ht
      exact ⟨List.rel_of_pairwise_cons h.apart ht, (h.tail.inside t ht).2⟩
    have hhere : LaidOut text ⟨outer.start, s.stop⟩ ts := hs.within hinside.1 (Nat.le_refl _)
    rw [List.flatten_cons]
    exact hhere.append hlater (Nat.le_trans hinside.1 hordered) hinside.2

end LaidOut

/-! ## Specifiers -/

section

variable {code : String} {n : SyntaxNode}

/-- Reading an entry between braces meets no fault, and the entry has the span of its
node. -/
theorem readNamed_ok (h : n.Fits code.toList) :
    ∃ entry, readNamed code n = .ok entry ∧ ∀ s ∈ entry, s.span = n.span := by
  unfold readNamed
  cases hname : (n.child? "alias").or (n.child? "name") with
  | none => exact ⟨none, rfl, nofun⟩
  | some c =>
    have hc : c.Fits code.toList := by
      rcases Option.or_eq_some_iff.1 hname with halias | ⟨-, hname⟩
      · exact h.child? halias
      · exact h.child? hname
    obtain ⟨name, hvalue⟩ := hc.sound.stringValue_ok
    simp only [bind_ok hvalue, bind_ok h.sound.place_eq]
    refine ⟨_, rfl, ?_⟩
    rintro s ⟨⟩
    rfl

/-- The entries that are there stand where their nodes do. -/
theorem spans_sublist {ns : List SyntaxNode} {entries : List (Option Specifier)}
    (h : List.Forall₂ (fun n entry => ∀ s ∈ entry, s.span = n.span) ns entries) :
    ((entries.filterMap id).map Specifier.span).Sublist (ns.map SyntaxNode.span) := by
  induction h with
  | nil => exact List.Sublist.refl _
  | @cons n entry ns entries hentry _ ih =>
    cases entry with
    | none => exact ih.cons _
    | some s =>
      simp only [List.filterMap_cons_some (f := id) rfl, List.map_cons, hentry s rfl]
      exact ih.cons_cons _

/-- **The specifiers of one part of a clause** stand one after another inside it. -/
theorem readClausePart_ok (h : n.Fits code.toList) :
    ∃ specs, readClausePart code n = .ok specs ∧
      LaidOut code.toList n.span (specs.map Specifier.span) := by
  have hsingle := LaidOut.single h.sound.ordered h.sound.cuts
  unfold readClausePart
  split
  · -- a default import
    rw [bind_ok h.sound.text_eq, bind_ok h.sound.place_eq]
    exact ⟨_, rfl, hsingle⟩
  · -- a namespace
    split
    · next c hc =>
      have hmem := (List.mem_filter.1 (List.mem_of_getLast? hc)).1
      rw [bind_ok (h.of_mem hmem).sound.text_eq, bind_ok h.sound.place_eq]
      exact ⟨_, rfl, hsingle⟩
    · exact ⟨[], rfl, LaidOut.nil _⟩
  · -- a braced list
    have hsub : (n.namedChildren.filter (·.kind == "import_specifier")).Sublist n.children :=
      List.filter_sublist.trans List.filter_sublist
    obtain ⟨entries, hentries, hspans⟩ :=
      exists_mapM fun c hc => readNamed_ok (h.of_mem (hsub.mem hc))
    rw [bind_ok hentries]
    exact ⟨_, rfl, h.sound.children.sublist ((spans_sublist hspans).trans (hsub.map _))⟩
  · exact ⟨[], rfl, LaidOut.nil _⟩

/-- Reading a clause meets no fault, and its specifiers are laid out in it. -/
theorem readClause_ok (h : n.Fits code.toList) :
    ∃ specs, readClause code n = .ok specs ∧
      LaidOut code.toList n.span (specs.map Specifier.span) := by
  obtain ⟨parts, hparts, hlaid⟩ := exists_mapM fun c hc => readClausePart_ok (h.of_mem hc)
  rw [readClause, bind_ok hparts]
  refine ⟨_, rfl, ?_⟩
  rw [List.map_flatten]
  refine h.sound.children.flatten ?_
  rw [List.forall₂_map_left_iff, List.forall₂_map_right_iff]
  exact hlaid

/-! ## Statements -/

/-- The statement stands where the node does, on lines that can be counted on from, and
its specifiers stand one after another inside it. -/
structure Statement.ReadFrom (code : List Char) (n : SyntaxNode) (s : Statement) : Prop where
  /-- the place is that of the node -/
  span : s.span = n.span
  /-- the lines are in range -/
  lines : s.startLine < 2 ^ 32 - 1 ∧ s.endLine < 2 ^ 32 - 1
  /-- the specifiers stand in the import -/
  specifiers : ∀ d, s = .importDecl d → LaidOut code d.span (d.specifiers.map Specifier.span)

theorem readOther_ok (h : n.Fits code.toList) :
    ∃ s, readOther n = .ok s ∧ s.ReadFrom code.toList n := by
  obtain ⟨hstart, -, hend⟩ := h.sound.counted
  rw [readOther, bind_ok h.sound.place_eq, bind_ok h.sound.startRow_eq, bind_ok h.sound.endRow_eq]
  refine ⟨_, rfl, rfl, ?_, nofun⟩
  simp only [Statement.startLine, Statement.endLine]
  omega

/-- The node that names the module fits, since it is a child. -/
theorem importSource?_fits (h : n.Fits code.toList) {source : SyntaxNode}
    (hsource : importSource? n = some source) :
    source.Fits code.toList := by
  rcases Option.or_eq_some_iff.1 hsource with hdirect | ⟨-, hrequire⟩
  · exact h.child? hdirect
  · obtain ⟨clause, hclause, hsource⟩ := Option.bind_eq_some_iff.1 hrequire
    exact (h.of_mem (List.mem_of_find?_eq_some hclause)).child? hsource

/-- Reading an import meets no fault, whether or not it turns out to be one. -/
theorem readImport_ok (h : n.Fits code.toList) :
    ∃ d?, readImport code n = .ok d? ∧
      ∀ d ∈ d?, (Statement.importDecl d).ReadFrom code.toList n := by
  unfold readImport
  cases hsource : importSource? n with
  | none => exact ⟨none, rfl, nofun⟩
  | some source =>
    obtain ⟨path, hpath⟩ := (importSource?_fits h hsource).sound.stringValue_ok
    obtain ⟨hstart, -, hend⟩ := h.sound.counted
    have hreads : ∀ specs, LaidOut code.toList n.span (specs.map Specifier.span) →
        (Statement.importDecl
          ⟨n.span, n.startRow + 1, n.endRow + 1, importKind n, path, specs⟩).ReadFrom
            code.toList n := by
      intro specs hlaid
      refine ⟨rfl, ?_, ?_⟩
      · simp only [Statement.startLine, Statement.endLine]
        omega
      · rintro d ⟨⟩
        exact hlaid
    simp only [bind_ok h.sound.place_eq, bind_ok h.sound.startRow_eq, bind_ok h.sound.endRow_eq,
      bind_ok hpath]
    cases hclause : importClause? n with
    | none =>
      refine ⟨_, rfl, ?_⟩
      rintro d ⟨⟩
      exact hreads [] (LaidOut.nil _)
    | some clause =>
      have hmem : clause ∈ n.children := List.mem_of_find?_eq_some hclause
      have hinside := h.sound.children.inside clause.span (List.mem_map_of_mem hmem)
      obtain ⟨specs, hspecs, hlaid⟩ := readClause_ok (h.of_mem hmem)
      simp only [bind_ok hspecs]
      refine ⟨_, rfl, ?_⟩
      rintro d ⟨⟩
      exact hreads specs (hlaid.within hinside.1 hinside.2)

/-- Reading a statement meets no fault, and the statement is one that is read from its
node. -/
theorem readStatement_ok (h : n.Fits code.toList) :
    ∃ s, readStatement code n = .ok s ∧ s.ReadFrom code.toList n := by
  unfold readStatement
  split
  · obtain ⟨d?, hread, hd⟩ := readImport_ok h
    rw [bind_ok hread]
    cases d? with
    | none => exact readOther_ok h
    | some d => exact ⟨_, rfl, hd d rfl⟩
  · exact readOther_ok h

end

/-! ## Modules -/

/-- Statements that are read one by one stand where the nodes do. -/
theorem spans_reads {code : List Char} {ns : List SyntaxNode} {ss : List Statement}
    (h : List.Forall₂ (fun n s => s.ReadFrom code n) ns ss) :
    ss.map Statement.span = ns.map SyntaxNode.span ∧ ∀ s ∈ ss, ∃ n, s.ReadFrom code n := by
  induction h with
  | nil => exact ⟨rfl, nofun⟩
  | @cons n s ns ss hs _ ih =>
    exact ⟨congrArg₂ List.cons hs.span ih.1, List.forall_mem_cons.2 ⟨⟨n, hs⟩, ih.2⟩⟩

/-- **Reading a tree that fits** ends with a syntax error, or with statements that are
arranged in the text. -/
theorem readStatements_cases {code : String} {root : SyntaxNode} (h : root.Fits code.toList) :
    (∃ e, readStatements code root = .error (.error e)) ∨
      ∃ ss, readStatements code root = .ok ss ∧ Arranged code ss ∧
        ∀ s ∈ ss, s.startLine < 2 ^ 32 - 1 ∧ s.endLine < 2 ^ 32 - 1 := by
  unfold readStatements
  cases herror : root.firstError with
  | some n =>
    have hsound := (h.firstError herror).sound
    simp only [syntaxErrorAt, bind_ok hsound.startRow_eq, bind_ok hsound.startColumn_eq]
    exact .inl ⟨_, rfl⟩
  | none =>
    have hsub : (root.namedChildren.filter (!isTrivia ·)).Sublist root.children :=
      List.filter_sublist.trans List.filter_sublist
    obtain ⟨ss, hss, hreads⟩ := exists_mapM fun c hc => readStatement_ok (h.of_mem (hsub.mem hc))
    obtain ⟨hspans, hreads⟩ := spans_reads hreads
    refine .inr ⟨ss, by simp only [hss]; rfl, ⟨?_, ?_⟩, ?_⟩
    · rw [hspans]
      exact (h.sound.children.sublist (hsub.map _)).within (Nat.zero_le _) h.sound.cuts.2.le
    · intro d hd
      obtain ⟨n, hn⟩ := hreads _ hd
      exact hn.specifiers d rfl
    · intro s hs
      obtain ⟨n, hn⟩ := hreads s hs
      exact hn.lines

/-- **A tree that fits its text is safe.** Reading it never meets a fault. If it has no
syntax error, its statements and their specifiers stand in the text one after another,
whatever the rule is its check ends well, and the fixes of the check can be applied. -/
theorem readStatements_safe {code : String} {root : SyntaxNode} (h : root.Fits code.toList) :
    (∀ fault, readStatements code root ≠ .error (.fault fault)) ∧
      ∀ ss, readStatements code root = .ok ss → Arranged code ss ∧
        ∀ rule, ∃ ds out, check code rule ss = .ok ds ∧
          Fix.applyAll code (fixesOf ds) = .ok out := by
  rcases readStatements_cases h with ⟨e, herror⟩ | ⟨ss, hss, harranged, hlines⟩
  · rw [herror]
    exact ⟨fun _ => nofun, fun _ => nofun⟩
  · rw [hss]
    refine ⟨fun _ => nofun, ?_⟩
    rintro ss ⟨⟩
    refine ⟨harranged, fun rule => ?_⟩
    obtain ⟨ds, hcheck⟩ := check_ok harranged hlines rule
    obtain ⟨out, hout⟩ := exists_applyAll hcheck
    exact ⟨ds, out, hcheck, hout⟩

/-- An import with a letter of two bytes. -/
theorem readStatements_safe_accent :
    let code := "import é from\"x\""
    let name : SyntaxNode :=
      { kind := "identifier", span := ⟨7, 9⟩, startRow := 0, startColumn := 7, endRow := 0 }
    let clause : SyntaxNode := { name with kind := "import_clause", children := [name] }
    let source : SyntaxNode :=
      { name with kind := "string", span := ⟨14, 17⟩, startColumn := 14, role := some "source" }
    let statement : SyntaxNode :=
      { name with
        kind := "import_statement", span := ⟨0, 17⟩, startColumn := 0,
        children := [clause, source] }
    let root : SyntaxNode := { statement with kind := "program", children := [statement] }
    let ss : List Statement :=
      [.importDecl ⟨⟨0, 17⟩, 1, 1, some .value, "x", [⟨.default, "é", ⟨7, 9⟩⟩]⟩]
    root.Fits code.toList ∧ readStatements code root = .ok ss ∧ Arranged code ss ∧
      ∀ rule, ∃ ds out, check code rule ss = .ok ds ∧ Fix.applyAll code (fixesOf ds) = .ok out := by
  intro code name clause source statement root ss
  have hname : name.Fits code.toList := .intro (by decide) nofun
  have hclause : clause.Fits code.toList := .intro (by decide) (List.forall_mem_singleton.2 hname)
  have hsource : source.Fits code.toList := .intro (by decide) nofun
  have hstatement : statement.Fits code.toList :=
    .intro (by decide) (List.forall_mem_cons.2 ⟨hclause, List.forall_mem_singleton.2 hsource⟩)
  have hroot : root.Fits code.toList := .intro (by decide) (List.forall_mem_singleton.2 hstatement)
  have hread : readStatements code root = .ok ss := by decide +kernel
  exact ⟨hroot, hread, (readStatements_safe hroot).2 ss hread⟩

end ImportOrder
