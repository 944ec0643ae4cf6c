import ImportOrder.Proofs.PageCut
import ImportOrder.Proofs.BracedLists

/-!
# The blocks of a sheet in a row

Stanzas show the runs of a sheet. Where runs do not matter, a sheet is a row of blocks:
`Sheet.blocks` lists them and `Sheet.ofBlocks` groups them again. What a sheet says can
be read off the row, and so a page is document-ordered (`Page.documentOrdered`).
-/

namespace ImportOrder

/-- An import or another statement, with its text and the text after it. -/
inductive Block where
  /-- an import -/
  | imported (b : ImportBlock)
  /-- another statement -/
  | other (o : OtherBlock)
deriving DecidableEq

namespace Block

/-- The block is an import. -/
def isImport : Block → Bool
  | .imported _ => true
  | .other _ => false

/-- The block is another statement. -/
def isOther : Block → Bool
  | .imported _ => false
  | .other _ => true

/-- The statement as it was read. -/
def origin : Block → Statement
  | .imported b => b.origin
  | .other o => o.origin

/-- The text of the statement. -/
def body : Block → List Char
  | .imported b => b.body
  | .other o => o.body

/-- The text up to the next statement. -/
def gap : Block → List Char
  | .imported b => b.gap
  | .other o => o.gap

/-- The text of the block. -/
def chars (x : Block) : List Char := x.body ++ x.gap

/-- The statement of a block that stands at an offset. -/
def place (n : Nat) : Block → Statement
  | .imported b => .importDecl (b.decl.shift n)
  | .other o => o.place n

/-- The block describes its body. -/
def Proper : Block → Prop
  | .imported b => b.Proper
  | .other o => o.body ≠ []

/-- The block with more text after it. -/
def extend (more : List Char) : Block → Block
  | .imported b => .imported { b with gap := b.gap ++ more }
  | .other o => .other { o with gap := o.gap ++ more }

theorem isImport_eq (x : Block) : x.isImport = !x.isOther := by cases x <;> rfl

theorem isImport_place (n : Nat) (x : Block) : (x.place n).isImport = x.isImport := by
  cases x <;> rfl

/-- A block that is put at an offset spans the bytes of its body from there on. -/
theorem span_place {x : Block} (h : x.Proper) (n : Nat) :
    (x.place n).span = ⟨n, n + byteLength x.body⟩ := by
  cases x with
  | imported b => exact ImportBlock.Proper.span_shift h n
  | other o => rfl

theorem body_ne_nil {x : Block} (h : x.Proper) : x.body ≠ [] := by
  cases x with
  | imported b => exact ImportBlock.Proper.body h
  | other o => exact h

end Block

/-- The text of blocks. -/
def blockChars (xs : List Block) : List Char := xs.flatMap Block.chars

@[simp] theorem blockChars_nil : blockChars [] = [] := rfl

@[simp] theorem blockChars_cons (x : Block) (xs : List Block) :
    blockChars (x :: xs) = x.chars ++ blockChars xs := rfl

@[simp] theorem blockChars_append (xs ys : List Block) :
    blockChars (xs ++ ys) = blockChars xs ++ blockChars ys := List.flatMap_append

/-- The statements of blocks that stand at an offset. -/
def placeBlocks (n : Nat) : List Block → List Statement
  | [] => []
  | x :: xs => x.place n :: placeBlocks (n + byteLength x.chars) xs

theorem length_placeBlocks (n : Nat) (xs : List Block) : (placeBlocks n xs).length = xs.length := by
  induction xs generalizing n with
  | nil => rfl
  | cons x xs ih => rw [placeBlocks, List.length_cons, ih, List.length_cons]

/-- Blocks in a row are placed one part after another: the second part starts where the
text of the first ends. -/
theorem placeBlocks_append (n : Nat) (xs ys : List Block) :
    placeBlocks n (xs ++ ys) =
      placeBlocks n xs ++ placeBlocks (n + byteLength (blockChars xs)) ys := by
  induction xs generalizing n with
  | nil => rfl
  | cons x xs ih =>
    rw [List.cons_append, placeBlocks, placeBlocks, ih, List.cons_append, blockChars_cons,
      byteLength_append, Nat.add_assoc]

namespace Sheet

/-- The blocks of a sheet in a row. -/
def blocks (p : Sheet) : List Block :=
  p.stanzas.flatMap (fun s => s.imports.map .imported ++ [.other s.other]) ++ p.final.map .imported

theorem blocks_nil (final : List ImportBlock) :
    Sheet.blocks ⟨[], final⟩ = final.map .imported := rfl

theorem blocks_cons (s : Stanza) (rest : List Stanza) (final : List ImportBlock) :
    Sheet.blocks ⟨s :: rest, final⟩ =
    s.imports.map .imported ++ .other s.other :: Sheet.blocks ⟨rest, final⟩ := by
  simp only [Sheet.blocks, List.flatMap_cons, List.append_assoc, List.cons_append, List.nil_append]

/-- Group blocks into stanzas. -/
def ofBlocks : List Block → Sheet
  | [] => .empty
  | .imported b :: rest => (ofBlocks rest).consImport b
  | .other o :: rest => (ofBlocks rest).consOther o

theorem blocks_consImport (b : ImportBlock) (p : Sheet) :
    (p.consImport b).blocks = .imported b :: p.blocks := by
  obtain ⟨_ | ⟨s, rest⟩, final⟩ := p <;> rfl

theorem blocks_consOther (o : OtherBlock) (p : Sheet) :
    (p.consOther o).blocks = .other o :: p.blocks := rfl

/-- Grouping blocks into stanzas loses none of them and keeps their order. -/
@[simp] theorem blocks_ofBlocks (xs : List Block) : (ofBlocks xs).blocks = xs := by
  induction xs with
  | nil => rfl
  | cons x xs ih =>
    cases x with
    | imported b => rw [ofBlocks, blocks_consImport, ih]
    | other o => rw [ofBlocks, blocks_consOther, ih]

/-- The text of a sheet is that of its blocks. -/
theorem chars_eq (p : Sheet) : p.chars = blockChars p.blocks := by
  induction p using Sheet.blockInduction with
  | empty => rfl
  | consImport b p ih =>
    rw [blocks_consImport, chars_consImport, blockChars_cons, ih]
    rfl
  | consOther o p ih =>
    rw [blocks_consOther, chars_consOther, blockChars_cons, ih]
    rfl

/-- The statements of a sheet are those of its blocks, so what is proved of lists of
blocks holds of sheets. -/
theorem place_eq (n : Nat) (p : Sheet) : p.place n = placeBlocks n p.blocks := by
  induction p using Sheet.blockInduction generalizing n with
  | empty => rfl
  | consImport b p ih =>
    rw [blocks_consImport, place_consImport, placeBlocks, ih]
    rfl
  | consOther o p ih =>
    rw [blocks_consOther, place_consOther, placeBlocks, ih]
    rfl

/-- A sheet is proper exactly if its blocks are. -/
theorem proper_iff {p : Sheet} : p.Proper ↔ ∀ x ∈ p.blocks, x.Proper := by
  induction p using Sheet.blockInduction with
  | empty => exact ⟨fun _ => nofun, fun _ => ⟨nofun, nofun⟩⟩
  | consImport b p ih =>
    rw [blocks_consImport, proper_consImport, List.forall_mem_cons, ih]
    rfl
  | consOther o p ih =>
    rw [blocks_consOther, proper_consOther, List.forall_mem_cons, ih]
    rfl

end Sheet

/-! ## Document order -/

/-- Blocks in a row stand in line. -/
theorem placeBlocks_inLine {xs : List Block} (h : ∀ x ∈ xs, x.Proper) (pre : List Char) :
    InLine (pre ++ blockChars xs) ⟨byteLength pre, byteLength pre + byteLength (blockChars xs)⟩
      ((placeBlocks (byteLength pre) xs).map Statement.span) := by
  induction xs generalizing pre with
  | nil => exact ⟨nofun, nofun, nofun, List.Pairwise.nil⟩
  | cons x xs ih =>
    obtain ⟨hx, hxs⟩ := List.forall_mem_cons.1 h
    have hpos := byteLength_pos (Block.body_ne_nil hx)
    have hrow := ih hxs (pre ++ x.chars)
    have hfirst :
        InLine (pre ++ x.chars ++ blockChars xs)
          ⟨byteLength pre, byteLength pre + byteLength x.chars⟩
        [(x.place (byteLength pre)).span] := by
      rw [Block.span_place hx, Block.chars, byteLength_append]
      refine InLine.single (by simp only; omega) ⟨pre, _, List.append_assoc .., rfl⟩
        ⟨pre ++ x.body, x.gap ++ blockChars xs, ?_, byteLength_append ..⟩ (Nat.le_refl _)
          (by simp only; omega)
      simp only [List.append_assoc]
    rw [byteLength_append] at hrow
    have hall := hfirst.append hrow (Nat.le_add_right ..) (Nat.le_add_right ..)
    simpa only [placeBlocks, List.map_cons, List.singleton_append, blockChars_cons,
      byteLength_append, List.append_assoc, Nat.add_assoc] using hall

/-- An import in a row of blocks stands in the text where it is placed. -/
theorem exists_of_mem_placeBlocks {xs : List Block} {pre : List Char} {d : ImportDecl}
    (h : d ∈ (placeBlocks (byteLength pre) xs).filterMap Statement.decl?) :
    ∃ b a z, .imported b ∈ xs ∧ pre ++ blockChars xs = a ++ b.body ++ z ∧
      d = b.decl.shift (byteLength a) := by
  induction xs generalizing pre with
  | nil => cases h
  | cons x xs ih =>
    have hlater : d ∈ (placeBlocks (byteLength (pre ++ x.chars)) xs).filterMap Statement.decl? →
        ∃ b a z, .imported b ∈ x :: xs ∧ pre ++ blockChars (x :: xs) = a ++ b.body ++ z ∧
          d = b.decl.shift (byteLength a) := by
      intro h
      obtain ⟨b, a, z, hmem, htext, hd⟩ := ih h
      exact ⟨b, a, z, List.mem_cons_of_mem x hmem,
        by rw [← htext, blockChars_cons, List.append_assoc], hd⟩
    rw [byteLength_append] at hlater
    cases x with
    | imported b =>
      rcases List.mem_cons.1 h with rfl | h
      · refine ⟨b, pre, b.gap ++ blockChars xs, List.mem_cons_self, ?_, rfl⟩
        simp only [blockChars_cons, Block.chars, Block.body, Block.gap, List.append_assoc]
      · exact hlater h
    | other o => exact hlater h

/-- Spans that lie in a row inside a span do so inside any wider one. -/
theorem InLine.widen {text : List Char} {inner outer : Span} {spans : List Span}
    (h : InLine text inner spans) (hstart : outer.start ≤ inner.start)
    (hstop : inner.stop ≤ outer.stop) : InLine text outer spans :=
  ⟨h.proper,
    fun s hs => ⟨Nat.le_trans hstart (h.inside s hs).1, Nat.le_trans (h.inside s hs).2 hstop⟩,
    h.cuts, h.apart⟩

/-- **A page is document-ordered**, if its blocks describe their bodies. -/
theorem Page.documentOrdered {p : Page} (h : p.Proper) : DocumentOrdered p.text p.statements := by
  have hblocks := Sheet.proper_iff.1 h
  have htext : p.text.toList = p.lead ++ blockChars p.sheet.blocks := by
    rw [Page.toList_text, Sheet.chars_eq]
  constructor
  · rw [htext, Page.statements, Sheet.place_eq]
    refine (placeBlocks_inLine hblocks p.lead).widen (Nat.zero_le _) ?_
    rw [wholeSpan, byteLength_append]
  · intro d hd
    rw [Page.statements, Sheet.place_eq] at hd
    obtain ⟨b, a, z, hmem, hjoin, rfl⟩ := exists_of_mem_placeBlocks hd
    have hproper : b.Proper := hblocks _ hmem
    have hin := hproper.specifiers.shift a z
    rw [List.map_map] at hin
    rw [htext, hjoin]
    simp only [ImportDecl.shift, ImportDecl.mapSpans, List.map_map]
    exact hin

end ImportOrder
