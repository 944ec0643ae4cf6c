import ImportOrder.Proofs.Document

/-!
# Pages

A page is a text cut up along its statements, without offsets. It begins with a lead,
and then blocks follow: each is a statement with the text under it, its *body*, and the
text after it up to the next statement, its *gap*. The blocks are grouped into stanzas,
so that the runs of imports are in plain view: a stanza is a run, which may be empty,
with the other statement that ends it.

`Page.text` is the text of a page, and `Page.statements` are its statements at the
places where they stand. An import block describes its declaration with places counted
from the start of the body, so that moving the block does not change it.
-/

namespace ImportOrder

/-! ## Moving spans -/

/-- The span moved on by some bytes. -/
def Span.shift (n : Nat) (s : Span) : Span := ⟨n + s.start, n + s.stop⟩

/-- The span as it looks from an offset before it. -/
def Span.lower (n : Nat) (s : Span) : Span := ⟨s.start - n, s.stop - n⟩

/-- Change the places in a declaration. -/
def ImportDecl.mapSpans (f : Span → Span) (d : ImportDecl) : ImportDecl :=
  { d with span := f d.span, specifiers := d.specifiers.map fun s => { s with span := f s.span } }

/-- The declaration moved on by some bytes. -/
def ImportDecl.shift (n : Nat) (d : ImportDecl) : ImportDecl := d.mapSpans (Span.shift n)

/-- The declaration as it looks from an offset before it. -/
def ImportDecl.lower (n : Nat) (d : ImportDecl) : ImportDecl := d.mapSpans (Span.lower n)

@[simp] theorem ImportDecl.endLine_shift (n : Nat) (d : ImportDecl) :
    (d.shift n).endLine = d.endLine := rfl

theorem Span.lower_shift (n : Nat) (s : Span) : (s.shift n).lower n = s := by
  simp only [Span.shift, Span.lower, Nat.add_sub_cancel_left]

theorem Span.shift_lower {n : Nat} {s : Span} (hstart : n ≤ s.start) (hstop : n ≤ s.stop) :
    (s.lower n).shift n = s := by
  simp only [Span.shift, Span.lower, Nat.add_sub_cancel' hstart, Nat.add_sub_cancel' hstop]

theorem ImportDecl.lower_shift (n : Nat) (d : ImportDecl) : (d.shift n).lower n = d := by
  simp only [shift, lower, mapSpans, Span.lower_shift, List.map_map, Function.comp_def,
    List.map_id']

/-- An import that is moved back and on again is the same, if there is room before it
and before its specifiers. -/
theorem ImportDecl.shift_lower {n : Nat} {d : ImportDecl}
    (hspan : n ≤ d.span.start ∧ n ≤ d.span.stop)
    (hspecifiers : ∀ s ∈ d.specifiers, n ≤ s.span.start ∧ n ≤ s.span.stop) :
    (d.lower n).shift n = d := by
  have hmap : d.specifiers.map (fun s => { s with span := (s.span.lower n).shift n }) =
      d.specifiers := by
    refine (List.map_congr_left fun s hs => ?_).trans (List.map_id _)
    rw [Span.shift_lower (hspecifiers s hs).1 (hspecifiers s hs).2]
    rfl
  simp only [shift, lower, mapSpans, List.map_map, Function.comp_def, hmap,
    Span.shift_lower hspan.1 hspan.2]

/-! ## Blocks, stanzas, sheets -/

/-- An import with its text and the text after it. -/
structure ImportBlock where
  /-- the statement as it was read -/
  origin : Statement
  /-- the declaration, with places counted from the start of the body -/
  decl : ImportDecl
  /-- the text of the import -/
  body : List Char
  /-- the text up to the next statement -/
  gap : List Char
deriving DecidableEq

/-- Another statement with its text and the text after it. -/
structure OtherBlock where
  /-- the statement as it was read -/
  origin : Statement
  /-- the name of its syntactic form -/
  form : String
  /-- the line on which it starts -/
  startLine : Nat
  /-- the line on which it ends -/
  endLine : Nat
  /-- the text of the statement -/
  body : List Char
  /-- the text up to the next statement -/
  gap : List Char
deriving DecidableEq

/-- A run of imports, which may be empty, and the other statement after it. -/
structure Stanza where
  /-- the run -/
  imports : List ImportBlock
  /-- the statement that ends it -/
  other : OtherBlock
deriving DecidableEq

/-- The statements of a page: stanzas, and imports after the last other statement. -/
structure Sheet where
  /-- the stanzas -/
  stanzas : List Stanza
  /-- the last run -/
  final : List ImportBlock
deriving DecidableEq

/-- A text cut up along its statements. -/
structure Page where
  /-- the text before the first statement -/
  lead : List Char
  /-- the statements and all text after them -/
  sheet : Sheet
deriving DecidableEq

namespace ImportBlock

/-- The text of a block. -/
def chars (b : ImportBlock) : List Char := b.body ++ b.gap

/-- The block describes its body: the declaration spans it, and its specifiers stand in
line in it. -/
structure Proper (b : ImportBlock) : Prop where
  /-- the declaration is all of the body -/
  span : b.decl.span = wholeSpan b.body
  /-- there is something to declare -/
  body : b.body ≠ []
  /-- the specifiers stand one after another -/
  specifiers : InLine b.body b.decl.span (b.decl.specifiers.map Specifier.span)

end ImportBlock

/-- The text of a block. -/
def OtherBlock.chars (o : OtherBlock) : List Char := o.body ++ o.gap

/-- The statement of a block that stands at an offset. -/
def OtherBlock.place (n : Nat) (o : OtherBlock) : Statement :=
  .other o.form ⟨n, n + byteLength o.body⟩ o.startLine o.endLine

@[simp] theorem OtherBlock.span_place (n : Nat) (o : OtherBlock) :
    (o.place n).span = ⟨n, n + byteLength o.body⟩ := rfl

@[simp] theorem OtherBlock.startLine_place (n : Nat) (o : OtherBlock) :
    (o.place n).startLine = o.startLine := rfl

/-- The text of a run. -/
def importChars (bs : List ImportBlock) : List Char := bs.flatMap ImportBlock.chars

@[simp] theorem importChars_nil : importChars [] = [] := rfl

@[simp] theorem importChars_cons (b : ImportBlock) (bs : List ImportBlock) :
    importChars (b :: bs) = b.chars ++ importChars bs := rfl

/-- The declarations of a run that stands at an offset. -/
def placeImports (n : Nat) : List ImportBlock → List ImportDecl
  | [] => []
  | b :: rest => b.decl.shift n :: placeImports (n + byteLength b.chars) rest

theorem placeImports_length (n : Nat) (bs : List ImportBlock) :
    (placeImports n bs).length = bs.length := by
  induction bs generalizing n with
  | nil => rfl
  | cons b bs ih => rw [placeImports, List.length_cons, List.length_cons, ih]

namespace Stanza

/-- The text of a stanza. -/
def chars (s : Stanza) : List Char := importChars s.imports ++ s.other.chars

/-- The statements of a stanza that stands at an offset. -/
def place (n : Nat) (s : Stanza) : List Statement :=
  (placeImports n s.imports).map .importDecl ++
    [s.other.place (n + byteLength (importChars s.imports))]

/-- Every block describes its body. -/
structure Proper (s : Stanza) : Prop where
  /-- every import does -/
  imports : ∀ b ∈ s.imports, b.Proper
  /-- the other statement is not empty -/
  other : s.other.body ≠ []

end Stanza

/-- The text of stanzas. -/
def stanzaChars (ss : List Stanza) : List Char := ss.flatMap Stanza.chars

@[simp] theorem stanzaChars_cons (s : Stanza) (ss : List Stanza) :
    stanzaChars (s :: ss) = s.chars ++ stanzaChars ss := rfl

/-- The statements of stanzas that stand at an offset. -/
def placeStanzas (n : Nat) : List Stanza → List Statement
  | [] => []
  | s :: rest => s.place n ++ placeStanzas (n + byteLength s.chars) rest

namespace Sheet

/-- The text of a sheet. -/
def chars (p : Sheet) : List Char := stanzaChars p.stanzas ++ importChars p.final

/-- The statements of a sheet that stands at an offset. -/
def place (n : Nat) (p : Sheet) : List Statement :=
  placeStanzas n p.stanzas ++
    (placeImports (n + byteLength (stanzaChars p.stanzas)) p.final).map .importDecl

/-- Every block describes its body. -/
structure Proper (p : Sheet) : Prop where
  /-- in every stanza -/
  stanzas : ∀ s ∈ p.stanzas, s.Proper
  /-- and in the last run -/
  final : ∀ b ∈ p.final, b.Proper

/-! ## Building a sheet from its end -/

/-- Put an import in front. -/
def consImport (b : ImportBlock) : Sheet → Sheet
  | ⟨[], final⟩ => ⟨[], b :: final⟩
  | ⟨s :: rest, final⟩ => ⟨{ s with imports := b :: s.imports } :: rest, final⟩

/-- Put another statement in front. -/
def consOther (o : OtherBlock) (p : Sheet) : Sheet := { p with stanzas := ⟨[], o⟩ :: p.stanzas }

/-- The sheet without statements. -/
def empty : Sheet := ⟨[], []⟩

/-- **Block by block.** Every sheet is built from the empty one by putting blocks in
front. -/
@[elab_as_elim]
theorem blockInduction {motive : Sheet → Prop} (empty : motive empty)
    (consImport : ∀ b p, motive p → motive (p.consImport b))
    (consOther : ∀ o p, motive p → motive (p.consOther o)) (p : Sheet) : motive p := by
  obtain ⟨stanzas, final⟩ := p
  induction stanzas with
  | nil =>
    induction final with
    | nil => exact empty
    | cons b final ih => exact consImport b _ ih
  | cons s stanzas ih =>
    obtain ⟨imports, other⟩ := s
    induction imports with
    | nil => exact consOther other _ ih
    | cons b imports ih' => exact consImport b _ ih'

theorem chars_consImport (b : ImportBlock) (p : Sheet) :
    (p.consImport b).chars = b.chars ++ p.chars := by
  obtain ⟨_ | ⟨s, rest⟩, final⟩ := p
  · rfl
  · simp only [consImport, chars, stanzaChars_cons, Stanza.chars, importChars_cons,
      List.append_assoc]

theorem chars_consOther (o : OtherBlock) (p : Sheet) :
    (p.consOther o).chars = o.chars ++ p.chars := by
  simp only [consOther, chars, stanzaChars_cons, Stanza.chars, importChars_nil, List.nil_append,
    List.append_assoc]

/-- An import in front of a sheet is its first statement, and the others move on by the
length of its text. -/
theorem place_consImport (n : Nat) (b : ImportBlock) (p : Sheet) :
    (p.consImport b).place n =
      .importDecl (b.decl.shift n) :: p.place (n + byteLength b.chars) := by
  obtain ⟨_ | ⟨s, rest⟩, final⟩ := p
  · rfl
  · simp only [consImport, place, placeStanzas, stanzaChars_cons, Stanza.place, Stanza.chars,
      placeImports, importChars_cons, byteLength_append, List.map_cons, List.cons_append,
      Nat.add_assoc]

theorem place_consOther (n : Nat) (o : OtherBlock) (p : Sheet) :
    (p.consOther o).place n = o.place n :: p.place (n + byteLength o.chars) := by
  simp only [consOther, place, placeStanzas, stanzaChars_cons, Stanza.place, Stanza.chars,
    placeImports, importChars_nil, byteLength_append, byteLength_nil, List.map_nil, List.nil_append,
    List.cons_append, Nat.add_zero, Nat.add_assoc]

theorem proper_consImport {b : ImportBlock} {p : Sheet} :
    (p.consImport b).Proper ↔ b.Proper ∧ p.Proper := by
  obtain ⟨_ | ⟨s, rest⟩, final⟩ := p
  · constructor
    · rintro ⟨h₁, h₂⟩
      exact ⟨h₂ b List.mem_cons_self, h₁, fun x hx => h₂ x (List.mem_cons_of_mem _ hx)⟩
    · rintro ⟨hb, h₁, h₂⟩
      exact ⟨h₁, List.forall_mem_cons.2 ⟨hb, h₂⟩⟩
  · constructor
    · rintro ⟨h₁, h₂⟩
      obtain ⟨hs, hrest⟩ := List.forall_mem_cons.1 h₁
      obtain ⟨hb, himports⟩ := List.forall_mem_cons.1 hs.imports
      exact ⟨hb, List.forall_mem_cons.2 ⟨⟨himports, hs.other⟩, hrest⟩, h₂⟩
    · rintro ⟨hb, h₁, h₂⟩
      obtain ⟨hs, hrest⟩ := List.forall_mem_cons.1 h₁
      exact ⟨List.forall_mem_cons.2 ⟨⟨List.forall_mem_cons.2 ⟨hb, hs.imports⟩, hs.other⟩, hrest⟩,
        h₂⟩

theorem proper_consOther {o : OtherBlock} {p : Sheet} :
    (p.consOther o).Proper ↔ o.body ≠ [] ∧ p.Proper := by
  constructor
  · rintro ⟨h₁, h₂⟩
    obtain ⟨hs, hrest⟩ := List.forall_mem_cons.1 h₁
    exact ⟨hs.other, hrest, h₂⟩
  · rintro ⟨ho, h₁, h₂⟩
    exact ⟨List.forall_mem_cons.2 ⟨⟨fun b hb => (List.not_mem_nil hb).elim, ho⟩, h₁⟩, h₂⟩

end Sheet

namespace Page

/-- The characters of a page. -/
def chars (p : Page) : List Char := p.lead ++ p.sheet.chars

/-- The text of a page. -/
def text (p : Page) : String := String.ofList p.chars

/-- The statements of a page at the places where they stand. -/
def statements (p : Page) : List Statement := p.sheet.place (byteLength p.lead)

/-- Every block describes its body. -/
def Proper (p : Page) : Prop := p.sheet.Proper

/-- The text of a page is the lead and then the sheet. -/
theorem toList_text (p : Page) : p.text.toList = p.lead ++ p.sheet.chars := String.toList_ofList

end Page

end ImportOrder
