import ImportOrder.Proofs.Page

/-!
# Cutting a text into a page

`Page.cut` finds the page of a text and its statements by slicing. For a
document-ordered module nothing is lost (`cut_spec`): the page has that text and those
statements.

`Page.settled` goes the other way. It says how a page is read once it has been written
down: every statement stands where its body has come to lie, and its lines are counted
from the line breaks before it. Cutting what was so written gives the same page
(`cut_settled`), and a module whose lines are counted is settled to begin with
(`settled_cut`).
-/

namespace ImportOrder

/-! ## Cutting -/

/-- The offset at which the next statement starts, or the end of the text. -/
def nextStart (text : List Char) : List Statement → Nat
  | [] => byteLength text
  | s :: _ => s.span.start

/-- The blocks of statements in a text. -/
def cutBlocks (text : List Char) : List Statement → Sheet
  | [] => .empty
  | .importDecl d :: rest =>
    (cutBlocks text rest).consImport {
      origin := .importDecl d
      decl := d.lower d.span.start
      body := sliceOf text d.span.start d.span.stop
      gap := sliceOf text d.span.stop (nextStart text rest) }
  | .other form span startLine endLine :: rest =>
    (cutBlocks text rest).consOther {
      origin := .other form span startLine endLine
      form := form
      startLine := startLine
      endLine := endLine
      body := sliceOf text span.start span.stop
      gap := sliceOf text span.stop (nextStart text rest) }

/-- The page of a text and its statements. -/
def Page.cut (text : String) (ss : List Statement) : Page :=
  ⟨sliceOf text.toList 0 (nextStart text.toList ss), cutBlocks text.toList ss⟩

/-- A boundary inside a part of a text is a boundary of that part. -/
theorem IsBoundary.inner {pre body post : List Char} {n : Nat}
    (h : IsBoundary (pre ++ body ++ post) n) (hlo : byteLength pre ≤ n)
    (hhi : n ≤ byteLength pre + byteLength body) :
    IsBoundary body (n - byteLength pre) := by
  obtain ⟨c, d, hcd, hc⟩ := h.split rfl (by rw [byteLength_append]; exact hhi)
  have hpre : IsBoundary (c ++ d) (byteLength pre) := ⟨pre, body, hcd.symm, rfl⟩
  obtain ⟨e, f, rfl, he⟩ := hpre.split rfl (by omega)
  rw [List.append_assoc] at hcd
  obtain ⟨rfl, rfl⟩ := append_inj_of_byteLength hcd he.symm
  refine ⟨f, d, rfl, ?_⟩
  rw [byteLength_append] at hc
  omega

/-- A boundary of a part of a text is a boundary further on. -/
theorem IsBoundary.outer {body : List Char} {n : Nat} (h : IsBoundary body n)
    (pre post : List Char) :
    IsBoundary (pre ++ body ++ post) (byteLength pre + n) := by
  obtain ⟨a, b, rfl, rfl⟩ := h
  exact ⟨pre ++ a, b ++ post, by simp only [List.append_assoc], byteLength_append pre a⟩

/-- Spans that stand in line in a part of a text, seen from that part. -/
theorem InLine.lower {pre body post : List Char} {spans : List Span}
    (h : InLine (pre ++ body ++ post) ⟨byteLength pre, byteLength pre + byteLength body⟩ spans) :
    InLine body (wholeSpan body) (spans.map (Span.lower (byteLength pre))) := by
  refine ⟨?_, ?_, ?_, ?_⟩
  · intro t ht
    obtain ⟨s, hs, rfl⟩ := List.mem_map.1 ht
    have := h.proper s hs
    have := h.inside s hs
    simp only [Span.lower] at *
    omega
  · intro t ht
    obtain ⟨s, hs, rfl⟩ := List.mem_map.1 ht
    have := h.inside s hs
    simp only [Span.lower, wholeSpan] at *
    omega
  · intro t ht
    obtain ⟨s, hs, rfl⟩ := List.mem_map.1 ht
    have hproper := h.proper s hs
    obtain ⟨hlo, hhi⟩ := h.inside s hs
    obtain ⟨hstart, hstop⟩ := h.cuts s hs
    simp only at hlo hhi
    exact ⟨hstart.inner hlo (by omega), hstop.inner (by omega) hhi⟩
  · refine List.pairwise_map.2 (h.apart.imp_of_mem fun {a b} _ _ hab => ?_)
    simp only [Span.lower]
    omega

/-- A text falls into what stands before a span, what stands under it, what follows up
to an offset, and the rest. -/
structure Parts (text : List Char) (span : Span) (next : Nat)
    (pre body gap post : List Char) : Prop where
  /-- the parts make up the text -/
  text_eq : text = pre ++ body ++ gap ++ post
  /-- the first part ends where the span starts -/
  start_eq : byteLength pre = span.start
  /-- the second one is under the span -/
  stop_eq : byteLength pre + byteLength body = span.stop
  /-- the third one ends at the offset -/
  next_eq : byteLength pre + byteLength body + byteLength gap = next
  /-- there is something under the span -/
  nonempty : body ≠ []

theorem Parts.body_eq {text pre body gap post : List Char} {span : Span} {next : Nat}
    (h : Parts text span next pre body gap post) : sliceOf text span.start span.stop = body := by
  rw [h.text_eq, ← h.start_eq, ← h.stop_eq, List.append_assoc _ gap, sliceOf_append]

theorem Parts.gap_eq {text pre body gap post : List Char} {span : Span} {next : Nat}
    (h : Parts text span next pre body gap post) : sliceOf text span.stop next = gap := by
  rw [h.text_eq, ← h.next_eq, ← h.stop_eq, ← byteLength_append, sliceOf_append]

theorem Parts.next_start {text pre body gap post : List Char} {span : Span} {next : Nat}
    (h : Parts text span next pre body gap post) :
    next = span.start + byteLength (body ++ gap) := by
  rw [byteLength_append, ← h.start_eq, ← Nat.add_assoc, h.next_eq]

theorem Parts.lineAt_start {text pre body gap post : List Char} {span : Span} {next : Nat}
    (h : Parts text span next pre body gap post) : lineAt text span.start = 1 + lineBreaks pre := by
  rw [← h.start_eq, h.text_eq, List.append_assoc, List.append_assoc, lineAt_append]

/-- A span ends as many lines below its start as its body has line breaks. -/
theorem Parts.lineAt_stop {text pre body gap post : List Char} {span : Span} {next : Nat}
    (h : Parts text span next pre body gap post) :
    lineAt text span.stop = lineAt text span.start + lineBreaks body := by
  rw [h.lineAt_start, ← h.stop_eq, h.text_eq, List.append_assoc, ← byteLength_append, lineAt_append,
    lineBreaks_append, Nat.add_assoc]

theorem Parts.lineAt_next {text pre body gap post : List Char} {span : Span} {next : Nat}
    (h : Parts text span next pre body gap post) :
    lineAt text next = lineAt text span.start + lineBreaks (body ++ gap) := by
  rw [h.lineAt_start, ← h.next_eq, h.text_eq, ← byteLength_append, ← byteLength_append,
    lineAt_append, List.append_assoc, lineBreaks_append, Nat.add_assoc]

/-- A text falls into parts at boundaries in order. It is cut at the last offset first,
then at the end of the span, and then at its start. -/
theorem exists_parts {text : List Char} {span : Span} {next : Nat}
    (hproper : span.start < span.stop) (hstart : IsBoundary text span.start)
    (hstop : IsBoundary text span.stop) (hnext : IsBoundary text next) (hafter : span.stop ≤ next) :
    ∃ pre body gap post, Parts text span next pre body gap post := by
  obtain ⟨front, post, rfl, hfront⟩ := hnext
  obtain ⟨p, gap, rfl, hp⟩ := hstop.split rfl (by omega)
  obtain ⟨pre, body, rfl, hpre⟩ :=
    (hstart.split (List.append_assoc p gap post) (by omega) : ∃ c d, p = c ++ d ∧ byteLength c = _)
  simp only [byteLength_append] at hp hfront
  refine ⟨pre, body, gap, post, rfl, hpre, by omega, by omega, ?_⟩
  rintro rfl
  simp only [byteLength_nil] at hp
  omega

/-- The start of some statements in line is a boundary. -/
theorem isBoundary_nextStart {text : List Char} {ss : List Statement}
    (hline : InLine text (wholeSpan text) (ss.map Statement.span)) :
    IsBoundary text (nextStart text ss) := by
  cases ss with
  | nil => exact isBoundary_end text
  | cons s rest => exact (hline.cuts s.span List.mem_cons_self).1

/-- The parts at the first of some statements in line. -/
theorem exists_first_parts {text : List Char} {s : Statement} {rest : List Statement}
    (hline : InLine text (wholeSpan text) ((s :: rest).map Statement.span)) :
    ∃ pre body gap post, Parts text s.span (nextStart text rest) pre body gap post := by
  obtain ⟨hstart, hstop⟩ := hline.cuts s.span List.mem_cons_self
  refine exists_parts (hline.proper s.span List.mem_cons_self) hstart hstop
    (isBoundary_nextStart hline.tail) ?_
  cases rest with
  | nil => exact (hline.inside s.span List.mem_cons_self).2
  | cons t rest => exact List.rel_of_pairwise_cons hline.apart List.mem_cons_self

/-- An import whose specifiers stand in line describes the text under it. -/
theorem lower_proper {origin : Statement} {pre body post gap : List Char} {d : ImportDecl}
    (hin : InLine (pre ++ body ++ post) d.span (d.specifiers.map Specifier.span))
    (hpre : byteLength pre = d.span.start) (hbody : byteLength pre + byteLength body = d.span.stop)
    (hne : body ≠ []) : (ImportBlock.mk origin (d.lower (byteLength pre)) body gap).Proper := by
  have hspan : (d.lower (byteLength pre)).span = wholeSpan body := by
    simp only [ImportDecl.lower, ImportDecl.mapSpans, Span.lower, wholeSpan, ← hbody, ← hpre,
      Nat.sub_self, Nat.add_sub_cancel_left]
  refine ⟨hspan, hne, ?_⟩
  rw [show d.span = ⟨byteLength pre, byteLength pre + byteLength body⟩ by
    rw [hpre, ← hpre, hbody, hpre]]
    at hin
  have hlower := hin.lower
  rw [List.map_map] at hlower
  rw [hspan, ImportDecl.lower, ImportDecl.mapSpans, List.map_map]
  exact hlower

/-- Seen from its start and moved back, an import stands where it stood. -/
theorem shift_lower_start {text : List Char} {d : ImportDecl} (hproper : d.span.start ≤ d.span.stop)
    (hin : InLine text d.span (d.specifiers.map Specifier.span)) :
    (d.lower d.span.start).shift d.span.start = d := by
  refine ImportDecl.shift_lower ⟨Nat.le_refl _, hproper⟩ fun s hs => ?_
  have := hin.inside s.span (List.mem_map_of_mem hs)
  have := hin.proper s.span (List.mem_map_of_mem hs)
  omega

/-- **Nothing is lost in cutting**: the blocks of some statements in line hold the text
from the first of them on, and those statements. -/
theorem cutBlocks_spec {text : List Char} {ss : List Statement}
    (hline : InLine text (wholeSpan text) (ss.map Statement.span))
    (hspecifiers : ∀ d ∈ ss.filterMap Statement.decl?,
      InLine text d.span (d.specifiers.map Specifier.span)) :
    (∃ pre, text = pre ++ (cutBlocks text ss).chars ∧ byteLength pre = nextStart text ss) ∧
      (cutBlocks text ss).place (nextStart text ss) = ss ∧ (cutBlocks text ss).Proper := by
  induction ss with
  | nil =>
    exact ⟨⟨text, (List.append_nil text).symm, rfl⟩, rfl,
      fun s hs => (List.not_mem_nil hs).elim, fun b hb => (List.not_mem_nil hb).elim⟩
  | cons s rest ih =>
    have hline' : InLine text (wholeSpan text) (rest.map Statement.span) := hline.tail
    obtain ⟨pre, body, gap, post, hparts⟩ := exists_first_parts hline
    have hbody' := hparts.body_eq
    have hgap' := hparts.gap_eq
    obtain ⟨htext, hpre, hbody, hgap, hne⟩ := hparts
    have hrest : ∀ d ∈ rest.filterMap Statement.decl?,
        InLine text d.span (d.specifiers.map Specifier.span) :=
      fun d hd => hspecifiers d (((List.sublist_cons_self s rest).filterMap _).mem hd)
    obtain ⟨⟨pre', hpre', hlen'⟩, hplace, hproper⟩ := ih hline' hrest
    obtain rfl : post = (cutBlocks text rest).chars := by
      refine (append_inj_of_byteLength (htext.symm.trans hpre') ?_).2
      simp only [byteLength_append]
      omega
    cases s with
    | importDecl d =>
      simp only [Statement.span] at hpre hbody hbody' hgap'
      have hin := hspecifiers d List.mem_cons_self
      rw [cutBlocks, hbody', hgap', Sheet.chars_consImport, Sheet.place_consImport,
        Sheet.proper_consImport]
      refine ⟨⟨pre, ?_, hpre⟩, ?_, ?_, hproper⟩
      · simpa only [ImportBlock.chars, List.append_assoc] using htext
      · simp only [nextStart, Statement.span, shift_lower_start (by omega) hin, ImportBlock.chars,
          byteLength_append]
        rw [← Nat.add_assoc, ← hpre, hgap, hplace]
      · rw [htext, List.append_assoc _ gap] at hin
        rw [← hpre]
        exact lower_proper hin hpre hbody hne
    | other form span startLine endLine =>
      simp only [Statement.span] at hpre hbody hbody' hgap'
      rw [cutBlocks, hbody', hgap', Sheet.chars_consOther, Sheet.place_consOther,
        Sheet.proper_consOther]
      refine ⟨⟨pre, ?_, hpre⟩, ?_, hne, hproper⟩
      · simpa only [OtherBlock.chars, List.append_assoc] using htext
      · simp only [nextStart, Statement.span, OtherBlock.chars, OtherBlock.place,
          byteLength_append, ← hpre]
        rw [← Nat.add_assoc, hgap, hplace, hbody, hpre]

/-- A text begins with the lead of its page, and the blocks follow. -/
theorem lead_cut {text : String} {ss : List Statement} (h : DocumentOrdered text ss) :
    text.toList = (Page.cut text ss).lead ++ (Page.cut text ss).sheet.chars ∧
      byteLength (Page.cut text ss).lead = nextStart text.toList ss := by
  obtain ⟨⟨pre, htext, hpre⟩, -, -⟩ := cutBlocks_spec h.statements h.specifiers
  have hlead : (Page.cut text ss).lead = pre := by
    have hslice := sliceOf_append [] pre (cutBlocks text.toList ss).chars
    rwa [List.nil_append, ← htext, byteLength_nil, Nat.zero_add, hpre] at hslice
  rw [hlead]
  exact ⟨htext, hpre⟩

/-- **The page of a module.** Cutting a document-ordered module loses nothing: the page
has the text and the statements of the module, and its blocks describe their bodies. -/
theorem Page.cut_spec {text : String} {ss : List Statement} (h : DocumentOrdered text ss) :
    (Page.cut text ss).text = text ∧ (Page.cut text ss).statements = ss ∧
      (Page.cut text ss).Proper := by
  obtain ⟨-, hplace, hproper⟩ := cutBlocks_spec h.statements h.specifiers
  obtain ⟨htext, hlead⟩ := lead_cut h
  refine ⟨?_, ?_, hproper⟩
  · rw [Page.text, Page.chars, ← htext, String.ofList_toList]
  · rw [Page.statements, hlead]
    exact hplace

/-! ## Settling -/

/-- The block as it is read at an offset and a line. -/
def ImportBlock.settle (n line : Nat) (b : ImportBlock) : ImportBlock :=
  let decl := { b.decl with startLine := line, endLine := line + lineBreaks b.body }
  { b with decl := decl, origin := .importDecl (decl.shift n) }

/-- The block as it is read at an offset and a line. -/
def OtherBlock.settle (n line : Nat) (o : OtherBlock) : OtherBlock :=
  let read := { o with startLine := line, endLine := line + lineBreaks o.body }
  { read with origin := read.place n }

/-- The run as it is read at an offset and a line. -/
def settleImports (n line : Nat) : List ImportBlock → List ImportBlock
  | [] => []
  | b :: rest =>
    b.settle n line :: settleImports (n + byteLength b.chars) (line + lineBreaks b.chars) rest

/-- The stanza as it is read at an offset and a line. -/
def Stanza.settle (n line : Nat) (s : Stanza) : Stanza where
  imports := settleImports n line s.imports
  other :=
    s.other.settle (n + byteLength (importChars s.imports))
      (line + lineBreaks (importChars s.imports))

/-- The stanzas as they are read at an offset and a line. -/
def settleStanzas (n line : Nat) : List Stanza → List Stanza
  | [] => []
  | s :: rest =>
    s.settle n line :: settleStanzas (n + byteLength s.chars) (line + lineBreaks s.chars) rest

/-- The sheet as it is read at an offset and a line. -/
def Sheet.settle (n line : Nat) (p : Sheet) : Sheet where
  stanzas := settleStanzas n line p.stanzas
  final :=
    settleImports (n + byteLength (stanzaChars p.stanzas))
      (line + lineBreaks (stanzaChars p.stanzas))
    p.final

/-- The page as it is read: each statement at the place and the lines where its body has
come to lie. -/
def Page.settled (p : Page) : Page :=
  { p with sheet := p.sheet.settle (byteLength p.lead) (1 + lineBreaks p.lead) }

/-- Settling a sheet with an import in front settles the import, and goes on behind its
text. -/
theorem Sheet.settle_consImport (n line : Nat) (b : ImportBlock) (p : Sheet) :
    (p.consImport b).settle n line =
      (p.settle (n + byteLength b.chars) (line + lineBreaks b.chars)).consImport
        (b.settle n line) := by
  obtain ⟨_ | ⟨s, rest⟩, final⟩ := p
  · rfl
  · simp only [consImport, settle, settleStanzas, stanzaChars_cons, Stanza.settle, Stanza.chars,
      settleImports, importChars_cons, byteLength_append, lineBreaks_append, Nat.add_assoc]

/-- Settling a sheet with a statement in front settles this one, and goes on behind its
text. -/
theorem Sheet.settle_consOther (n line : Nat) (o : OtherBlock) (p : Sheet) :
    (p.consOther o).settle n line =
      (p.settle (n + byteLength o.chars) (line + lineBreaks o.chars)).consOther
        (o.settle n line) := by
  simp only [consOther, settle, settleStanzas, stanzaChars_cons, Stanza.settle, Stanza.chars,
    settleImports, importChars_nil, byteLength_append, lineBreaks_append, byteLength_nil,
    lineBreaks_nil, List.nil_append, Nat.add_zero, Nat.add_assoc]

/-- Settling a sheet does not touch its text. -/
theorem Sheet.chars_settle (n line : Nat) (p : Sheet) : (p.settle n line).chars = p.chars := by
  induction p using Sheet.blockInduction generalizing n line with
  | empty => rfl
  | consImport b p ih =>
    rw [settle_consImport, chars_consImport, chars_consImport, ih]
    rfl
  | consOther o p ih =>
    rw [settle_consOther, chars_consOther, chars_consOther, ih]
    rfl

/-- Blocks still describe their bodies when they are settled. -/
theorem Sheet.Proper.settle {p : Sheet} (h : p.Proper) (n line : Nat) :
    (p.settle n line).Proper := by
  induction p using Sheet.blockInduction generalizing n line with
  | empty => exact h
  | consImport b p ih =>
    obtain ⟨hb, hp⟩ := proper_consImport.1 h
    rw [settle_consImport]
    exact proper_consImport.2 ⟨⟨hb.span, hb.body, hb.specifiers⟩, ih hp ..⟩
  | consOther o p ih =>
    obtain ⟨ho, hp⟩ := proper_consOther.1 h
    rw [settle_consOther]
    exact proper_consOther.2 ⟨ho, ih hp ..⟩

/-- A block that stands at an offset spans its body. -/
theorem ImportBlock.Proper.span_shift {b : ImportBlock} (h : b.Proper) (n : Nat) :
    (b.decl.shift n).span = ⟨n, n + byteLength b.body⟩ := by
  simp only [ImportDecl.shift, ImportDecl.mapSpans, h.span, wholeSpan, Span.shift, Nat.add_zero]

/-- The statements of a sheet begin where the sheet does. -/
theorem nextStart_place (pre : List Char) {p : Sheet} (h : p.Proper) :
    nextStart (pre ++ p.chars) (p.place (byteLength pre)) = byteLength pre := by
  induction p using Sheet.blockInduction with
  | empty => exact congrArg byteLength (List.append_nil pre)
  | consImport b p _ =>
    obtain ⟨hb, _⟩ := Sheet.proper_consImport.1 h
    rw [Sheet.place_consImport]
    simp only [nextStart, Statement.span, hb.span_shift]
  | consOther o p _ =>
    rw [Sheet.place_consOther]
    rfl

/-- Cutting along the statements of a settled sheet gives the sheet back. The induction
is on the sheet, and each step moves the text of a block over to what stands before the
rest. -/
theorem cutBlocks_settle {pre : List Char} {p : Sheet} {line : Nat} (h : p.Proper) :
    cutBlocks (pre ++ p.chars) ((p.settle (byteLength pre) line).place (byteLength pre)) =
      p.settle (byteLength pre) line := by
  induction p using Sheet.blockInduction generalizing pre line with
  | empty => rfl
  | consImport b p ih =>
    obtain ⟨hb, hp⟩ := Sheet.proper_consImport.1 h
    have hb' : (b.settle (byteLength pre) line).Proper := ⟨hb.span, hb.body, hb.specifiers⟩
    have htext : pre ++ (b.chars ++ p.chars) = (pre ++ b.chars) ++ p.chars :=
      (List.append_assoc ..).symm
    have hchars : (b.settle (byteLength pre) line).chars = b.chars := rfl
    have hnext := nextStart_place (pre ++ b.chars)
      (hp.settle (byteLength (pre ++ b.chars)) (line + lineBreaks b.chars))
    rw [Sheet.chars_settle] at hnext
    rw [Sheet.settle_consImport, Sheet.place_consImport, Sheet.chars_consImport, hchars, htext,
      ← byteLength_append, cutBlocks, ih hp, hnext, hb'.span_shift, ImportDecl.lower_shift]
    have hbody := sliceOf_append pre b.body (b.gap ++ p.chars)
    have hgap := sliceOf_append (pre ++ b.body) b.gap p.chars
    simp only [byteLength_append, ImportBlock.chars, List.append_assoc,
      Nat.add_assoc] at hbody hgap ⊢
    simp only [ImportBlock.settle, hbody, hgap]
  | consOther o p ih =>
    obtain ⟨ho, hp⟩ := Sheet.proper_consOther.1 h
    have htext : pre ++ (o.chars ++ p.chars) = (pre ++ o.chars) ++ p.chars :=
      (List.append_assoc ..).symm
    have hchars : (o.settle (byteLength pre) line).chars = o.chars := rfl
    have hnext := nextStart_place (pre ++ o.chars)
      (hp.settle (byteLength (pre ++ o.chars)) (line + lineBreaks o.chars))
    rw [Sheet.chars_settle] at hnext
    rw [Sheet.settle_consOther, Sheet.place_consOther, Sheet.chars_consOther, hchars, htext,
      ← byteLength_append, OtherBlock.place, cutBlocks, ih hp, hnext]
    have hbody := sliceOf_append pre o.body (o.gap ++ p.chars)
    have hgap := sliceOf_append (pre ++ o.body) o.gap p.chars
    simp only [byteLength_append, OtherBlock.chars, List.append_assoc,
      Nat.add_assoc] at hbody hgap ⊢
    simp only [OtherBlock.settle, OtherBlock.place, hbody, hgap]

/-- Settling a page does not touch its text. -/
theorem Page.text_settled (p : Page) : p.settled.text = p.text := by
  rw [Page.text, Page.text, Page.chars, Page.chars, Page.settled, Sheet.chars_settle]

/-- **Reading a settled page** gives the page. -/
theorem Page.cut_settled {p : Page} (h : p.Proper) :
    Page.cut p.settled.text p.settled.statements = p.settled := by
  have hnext :=
    nextStart_place p.lead (Sheet.Proper.settle h (byteLength p.lead) (1 + lineBreaks p.lead))
  rw [Sheet.chars_settle] at hnext
  have hlead := sliceOf_append [] p.lead p.sheet.chars
  rw [List.nil_append, byteLength_nil, Nat.zero_add] at hlead
  rw [Page.text_settled, Page.cut, Page.text, Page.chars, String.toList_ofList, Page.statements,
    Page.settled, hnext, hlead, cutBlocks_settle h]

/-- An import whose lines and origin are right is settled already. -/
theorem ImportBlock.settle_eq {n line : Nat} {b : ImportBlock} (hstart : b.decl.startLine = line)
    (hend : b.decl.endLine = line + lineBreaks b.body)
    (horigin : b.origin = .importDecl (b.decl.shift n)) :
    b.settle n line = b := by
  obtain ⟨origin, ⟨span, startLine, endLine, kind, path, specifiers⟩, body, gap⟩ := b
  simp only at hstart hend horigin
  subst hstart hend horigin
  rfl

theorem OtherBlock.settle_eq {n line : Nat} {o : OtherBlock} (hstart : o.startLine = line)
    (hend : o.endLine = line + lineBreaks o.body) (horigin : o.origin = o.place n) :
    o.settle n line = o := by
  obtain ⟨origin, form, startLine, endLine, body, gap⟩ := o
  simp only [OtherBlock.place] at hstart hend horigin
  subst hstart hend horigin
  rfl

/-- The blocks of counted statements are settled. -/
theorem settle_cutBlocks {text : List Char} {ss : List Statement}
    (hline : InLine text (wholeSpan text) (ss.map Statement.span))
    (hspecifiers : ∀ d ∈ ss.filterMap Statement.decl?,
      InLine text d.span (d.specifiers.map Specifier.span))
    (hcounted : ∀ s ∈ ss, s.startLine = lineAt text s.span.start ∧
      s.endLine = lineAt text s.span.stop) :
    (cutBlocks text ss).settle (nextStart text ss) (lineAt text (nextStart text ss)) =
      cutBlocks text ss := by
  induction ss with
  | nil => rfl
  | cons s rest ih =>
    have hline' : InLine text (wholeSpan text) (rest.map Statement.span) := hline.tail
    obtain ⟨pre, body, gap, post, hparts⟩ := exists_first_parts hline
    have hrest := ih hline'
      (fun d hd => hspecifiers d (((List.sublist_cons_self s rest).filterMap _).mem hd))
      (fun t ht => hcounted t (List.mem_cons_of_mem s ht))
    rw [hparts.lineAt_next, hparts.next_start] at hrest
    obtain ⟨hstartLine, hendLine⟩ := hcounted s List.mem_cons_self
    rw [hparts.lineAt_stop] at hendLine
    cases s with
    | importDecl d =>
      have hproper := hline.proper d.span List.mem_cons_self
      have hin := hspecifiers d List.mem_cons_self
      simp only [Statement.startLine, Statement.endLine,
        Statement.span] at hstartLine hendLine hparts hrest
      rw [cutBlocks, hparts.body_eq, hparts.gap_eq, Sheet.settle_consImport]
      simp only [nextStart, Statement.span, ImportBlock.chars, hrest]
      rw [ImportBlock.settle_eq hstartLine hendLine
        (by rw [shift_lower_start (Nat.le_of_lt hproper) hin])]
    | other form span startLine endLine =>
      simp only [Statement.startLine, Statement.endLine,
        Statement.span] at hstartLine hendLine hparts hrest
      rw [cutBlocks, hparts.body_eq, hparts.gap_eq, Sheet.settle_consOther]
      simp only [nextStart, Statement.span, OtherBlock.chars, hrest]
      rw [OtherBlock.settle_eq hstartLine hendLine
        (by rw [OtherBlock.place, ← hparts.start_eq, hparts.stop_eq, hparts.start_eq])]

/-- **A module with counted lines is settled**: its page says of each statement where it
stands. -/
theorem Page.settled_cut {text : String} {ss : List Statement} (h : DocumentOrdered text ss)
    (hcounted : Counted text ss) : (Page.cut text ss).settled = Page.cut text ss := by
  have hline :
      1 + lineBreaks (Page.cut text ss).lead = lineAt text.toList (nextStart text.toList ss) := rfl
  have hsheet : (Page.cut text ss).sheet = cutBlocks text.toList ss := rfl
  rw [Page.settled, (lead_cut h).2, hline, hsheet,
    settle_cutBlocks h.statements h.specifiers hcounted]
  rfl

end ImportOrder
