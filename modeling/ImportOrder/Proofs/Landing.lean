import ImportOrder.Proofs.Approach
import ImportOrder.Proofs.Preservation

/-!
# Where statements land

A pass moves statements about in their text. `landing` lists them as they are then: each
of them at the place where its text has come to lie, with the lines counted there and
the entries of a sorted list in the order of the text. `landing_spec` says why this is
the module that the text now holds: cut along these statements, the text falls into the
pieces that the statements had before.
-/

namespace ImportOrder

/-- The statements of the text that a pass over a module makes. -/
def landing (text : String) (rule : Rule) (ss : List Statement) : List Statement :=
  ((Page.cut text ss).pass rule).settled.statements

/-! ## Settled pages -/

/-- The lines on which a part of a text starts and ends. -/
theorem lineAt_part (pre body post : List Char) :
    1 + lineBreaks pre = lineAt (pre ++ (body ++ post)) (byteLength pre) ∧
      1 + lineBreaks pre + lineBreaks body =
        lineAt (pre ++ (body ++ post)) (byteLength pre + byteLength body) := by
  refine ⟨(lineAt_append pre _).symm, ?_⟩
  have hstop := lineAt_append (pre ++ body) post
  rw [List.append_assoc, byteLength_append, lineBreaks_append, ← Nat.add_assoc] at hstop
  exact hstop.symm

/-- The lines of a settled sheet are counted. -/
theorem counted_settle {p : Sheet} (h : p.Proper) (pre : List Char) {s : Statement}
    (hs : s ∈ (p.settle (byteLength pre) (1 + lineBreaks pre)).place (byteLength pre)) :
    s.startLine = lineAt (pre ++ p.chars) s.span.start ∧
      s.endLine = lineAt (pre ++ p.chars) s.span.stop := by
  induction p using Sheet.blockInduction generalizing pre with
  | empty => cases hs
  | consImport b p ih =>
    obtain ⟨hb, hp⟩ := Sheet.proper_consImport.1 h
    have hb' : (b.settle (byteLength pre) (1 + lineBreaks pre)).Proper :=
      ⟨hb.span, hb.body, hb.specifiers⟩
    rw [Sheet.settle_consImport, Sheet.place_consImport] at hs
    rw [Sheet.chars_consImport]
    rcases List.mem_cons.1 hs with rfl | hs
    · rw [Statement.span, hb'.span_shift, ImportBlock.chars, List.append_assoc]
      exact lineAt_part pre b.body (b.gap ++ p.chars)
    · have hlater := ih hp (pre ++ b.chars)
      rw [byteLength_append, lineBreaks_append, List.append_assoc, ← Nat.add_assoc] at hlater
      exact hlater hs
  | consOther o p ih =>
    obtain ⟨-, hp⟩ := Sheet.proper_consOther.1 h
    rw [Sheet.settle_consOther, Sheet.place_consOther] at hs
    rw [Sheet.chars_consOther]
    rcases List.mem_cons.1 hs with rfl | hs
    · rw [OtherBlock.span_place, OtherBlock.chars, List.append_assoc]
      exact lineAt_part pre o.body (o.gap ++ p.chars)
    · have hlater := ih hp (pre ++ o.chars)
      rw [byteLength_append, lineBreaks_append, List.append_assoc, ← Nat.add_assoc] at hlater
      exact hlater hs

/-- Settling makes the lines of all statements those of the text. -/
theorem Page.counted_settled {p : Page} (h : p.Proper) :
    Counted p.settled.text p.settled.statements := by
  intro s hs
  rw [Page.text_settled, Page.toList_text]
  exact counted_settle h p.lead hs

/-! ## What a statement is -/

/-- What a statement is, wherever it stands: its form, and of an import its kind and its
path. -/
def Statement.gist (s : Statement) : String × Option (Option ImportKind × String) :=
  (s.form, s.decl?.map fun d => (d.kind, d.path))

/-- What a block is. -/
def Block.gist (x : Block) : String × Option (Option ImportKind × String) := (x.place 0).gist

theorem gist_place (n : Nat) (x : Block) : (x.place n).gist = x.gist := by cases x <;> rfl

/-- The block is what it was read as. -/
def Block.Kept (x : Block) : Prop := x.origin.gist = x.gist

theorem kept_tidyRun {rule : Rule} {next : Option OtherBlock} {bs : List ImportBlock}
    (h : ∀ b ∈ bs, (Block.imported b).Kept) :
    ∀ x ∈ tidyRun rule next bs, (Block.imported x).Kept := by
  intro x hx
  have hgist :
      ∀ {c : ImportBlock}, c.bare = x.bare → (Block.imported c).Kept → (Block.imported x).Kept := by
    intro c hbare hkept
    obtain ⟨hstatement, hdecl, -⟩ := ImportBlock.eq_of_bare hbare
    simp only [Block.Kept, Block.gist, Block.origin, Block.place] at hkept ⊢
    rw [← hstatement, ← hdecl]
    exact hkept
  cases hcause : violation? rule bs with
  | some cause =>
    obtain ⟨b, hb, hbare⟩ := exists_bare_of_some hcause hx
    exact hgist hbare (h b hb)
  | none =>
    obtain ⟨b, hb, hbare⟩ := exists_bare_of_none hcause hx
    obtain ⟨specifiers, body, hmended⟩ := b.mended_eq rule
    refine hgist hbare ?_
    rw [hmended]
    exact h b hb

/-- What tidying any run keeps of all its imports, tidying a sheet keeps of all
blocks. -/
theorem forall_mem_tidy {P : Block → Prop} {rule : Rule}
    (htidy : ∀ next bs, (∀ b ∈ bs, P (.imported b)) →
    ∀ x ∈ tidyRun rule next bs, P (.imported x)) {p : Sheet} (h : ∀ x ∈ p.blocks, P x) :
    ∀ x ∈ (p.tidy rule).blocks, P x := by
  obtain ⟨stanzas, final⟩ := p
  induction stanzas with
  | nil =>
    rw [Sheet.blocks_nil] at h
    rw [Sheet.blocks_tidy_nil]
    exact List.forall_mem_map.2 (htidy none final (List.forall_mem_map.1 h))
  | cons s rest ih =>
    rw [Sheet.blocks_cons] at h
    rw [Sheet.blocks_tidy_cons]
    obtain ⟨himports, hlater⟩ := List.forall_mem_append.1 h
    obtain ⟨hother, hrest⟩ := List.forall_mem_cons.1 hlater
    exact List.forall_mem_append.2
      ⟨List.forall_mem_map.2 (htidy _ s.imports (List.forall_mem_map.1 himports)),
        List.forall_mem_cons.2 ⟨hother, ih hrest⟩⟩

/-- **A pass keeps the gist of every block**, whether it lifts an import or tidies the
runs. -/
theorem kept_pass {p : Page} (h : ∀ x ∈ p.sheet.blocks, x.Kept) (rule : Rule) :
    ∀ x ∈ (p.pass rule).sheet.blocks, x.Kept := by
  unfold Page.pass
  split
  · next hlate =>
    rw [Page.lifted, Sheet.blocks_ofBlocks]
    refine forall_mem_liftBlocks (fun x more hx => ?_) (fun b gap hb => hb) h hlate.2
    cases x <;> exact hx
  · exact forall_mem_tidy (fun _ _ => kept_tidyRun) h

/-- The blocks of a module that was cut say what its statements say. -/
theorem kept_cut {text : String} {ss : List Statement} (h : DocumentOrdered text ss) :
    ∀ x ∈ (Page.cut text ss).sheet.blocks, x.Kept := by
  obtain ⟨-, hstatements, -⟩ := Page.cut_spec h
  have hplaced := (origins_cut text ss).trans hstatements.symm
  rw [Page.statements, Sheet.place_eq] at hplaced
  intro x hx
  obtain ⟨m, hm⟩ := exists_place hplaced x hx
  rw [Block.Kept, hm, gist_place]

/-- A settled block is what it was read as, since settling makes its origin the
statement that stands in its place. -/
theorem kept_settle (n line : Nat) (p : Sheet) : ∀ x ∈ (p.settle n line).blocks, x.Kept := by
  induction p using Sheet.blockInduction generalizing n line with
  | empty => exact fun x hx => (List.not_mem_nil hx).elim
  | consImport b p ih =>
    rw [Sheet.settle_consImport, Sheet.blocks_consImport]
    exact List.forall_mem_cons.2 ⟨rfl, ih _ _⟩
  | consOther o p ih =>
    rw [Sheet.settle_consOther, Sheet.blocks_consOther]
    exact List.forall_mem_cons.2 ⟨rfl, ih _ _⟩

/-! ## The module that a pass leaves -/

/-- What a piece is, and its texts. -/
def Piece.gist (q : Piece) :
    (String × Option (Option ImportKind × String)) × List Char × List Char :=
  (q.statement.gist, q.body, q.gap)

/-- Blocks that keep their gists are compared by gist and text alone. -/
theorem gists_of_kept {xs : List Block} (h : ∀ x ∈ xs, x.Kept) :
    (xs.map Block.piece).map Piece.gist = xs.map fun x => (x.gist, x.body, x.gap) := by
  rw [List.map_map]
  refine List.map_congr_left fun x hx => ?_
  rw [← h x hx]
  rfl

/-- **Where statements land.** The text that a pass leaves holds the statements of
`landing` in document order and with counted lines, and along them it falls into the
pieces that the module had before, each of them the same statement with the same
text. -/
theorem landing_spec {text : String} {ss : List Statement} (hordered : DocumentOrdered text ss)
    (htogether : ∀ d ∈ ss.filterMap Statement.decl?, NamedTogether d)
    (hlines : ∀ s ∈ ss, s.startLine < 2 ^ 32 - 1 ∧ s.endLine < 2 ^ 32 - 1) (rule : Rule) :
    ∃ ds next pieces, check text rule ss = .ok ds ∧ Fix.applyAll text (fixesOf ds) = .ok next ∧
      Preserved rule ds text ss next pieces ∧ DocumentOrdered next (landing text rule ss) ∧
      Counted next (landing text rule ss) ∧
      (piecesOf next (landing text rule ss)).map Piece.gist = pieces.map Piece.gist := by
  obtain ⟨ds, hcheck, happly, hpreserved⟩ := preserved_pass hordered hlines rule
  have hsound := sound_pass (Page.sound_cut hordered htogether) rule
  have hread := Page.read_settled hsound
  refine ⟨ds, _, _, hcheck, happly, hpreserved, ?_, ?_, ?_⟩
  · rw [← Page.text_settled]
    exact Page.documentOrdered hread.proper
  · rw [← Page.text_settled]
    exact Page.counted_settled hsound.proper
  · -- cutting a settled page gives it back, and settling changes no text
    rw [← Page.text_settled, landing, ← pieces_cut, hread.cut_eq, Page.settled,
      gists_of_kept (kept_settle _ _ _), gists_of_kept (kept_pass (kept_cut hordered) rule)]
    exact map_settle (fun _ _ _ => rfl) (fun _ _ _ => rfl) ..

end ImportOrder
