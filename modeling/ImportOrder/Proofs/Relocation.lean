import ImportOrder.Proofs.Blocks

/-!
# Parts of a text that move

An edit takes a part of a text to another place, and the statements in it come along. A
statement is *carried* from one offset to another: its span and those of its specifiers
move by the same distance, and its lines are counted anew. `StandIn` says of statements
in a new text what has to be known of them to go on: they stand one after another, each
over the text that it had, and their lines are counted.

* `standIn_carry` — the statements of a part of a text, carried to where the part is
  now, stand in the new text;
* `StandIn.append`, `StandIn.skip` — so the new text is gone through part by part.

Nothing is assumed of specifiers.
-/

namespace ImportOrder

/-! ## Carrying statements -/

/-- The span in a thing that started at the offset `old` and starts at the offset `new`
now. -/
def Span.carry (old new : Nat) (s : Span) : Span := ⟨s.start + new - old, s.stop + new - old⟩

/-- An import of a part that started at `old` and starts at `new` now, as it is read in
the text `out`. -/
def ImportDecl.carry (out : List Char) (old new : Nat) (d : ImportDecl) : ImportDecl :=
  { d.mapSpans (Span.carry old new) with
    startLine := lineAt out (d.span.carry old new).start
    endLine := lineAt out (d.span.carry old new).stop }

/-- A statement of a part that started at `old` and starts at `new` now, as it is read
in the text `out`. -/
def Statement.carry (out : List Char) (old new : Nat) : Statement → Statement
  | .importDecl d => .importDecl (d.carry out old new)
  | .other form s _ _ =>
    .other form (s.carry old new) (lineAt out (s.carry old new).start)
      (lineAt out (s.carry old new).stop)

/-- The text under a statement. -/
def Statement.textIn (text : List Char) (s : Statement) : List Char :=
  sliceOf text s.span.start s.span.stop

theorem Span.carry_self (n : Nat) (s : Span) : s.carry n n = s := by
  simp only [carry, Nat.add_sub_cancel]

/-- Carrying a span of a part is looking at it from the start of the part, and then
moving it on. -/
theorem Span.carry_eq {old new : Nat} {s : Span} (hstart : old ≤ s.start) (hstop : old ≤ s.stop) :
    s.carry old new = (s.lower old).shift new := by
  have h₁ : s.start + new - old = new + (s.start - old) := by omega
  have h₂ : s.stop + new - old = new + (s.stop - old) := by omega
  rw [carry, lower, shift, h₁, h₂]

namespace Statement

variable (out : List Char) (old new : Nat) (s : Statement)

@[simp] theorem span_carry : (s.carry out old new).span = s.span.carry old new := by cases s <;> rfl

@[simp] theorem startLine_carry :
    (s.carry out old new).startLine = lineAt out (s.span.carry old new).start := by
  cases s <;> rfl

@[simp] theorem endLine_carry :
    (s.carry out old new).endLine = lineAt out (s.span.carry old new).stop := by
  cases s <;> rfl

@[simp] theorem decl?_carry :
    (s.carry out old new).decl? = s.decl?.map (ImportDecl.carry out old new) := by
  cases s <;> rfl

@[simp] theorem isImport_carry : (s.carry out old new).isImport = s.isImport := by cases s <;> rfl

/-- A statement whose lines are counted already is not changed where it stays. -/
theorem carry_self {s : Statement} (hstart : s.startLine = lineAt out s.span.start)
    (hend : s.endLine = lineAt out s.span.stop) (n : Nat) : s.carry out n n = s := by
  cases s with
  | importDecl d =>
    simp only [Statement.startLine, Statement.endLine, Statement.span] at hstart hend
    simp only [carry, ImportDecl.carry, ImportDecl.mapSpans, Span.carry_self, List.map_id',
      ← hstart, ← hend]
  | other form span a b =>
    simp only [Statement.startLine, Statement.endLine, Statement.span] at hstart hend
    rw [carry, Span.carry_self, ← hstart, ← hend]

end Statement

/-- The imports among carried statements are the carried imports. -/
theorem filterMap_carry (out : List Char) (old new : Nat) (ss : List Statement) :
    (ss.map (Statement.carry out old new)).filterMap Statement.decl? =
      (ss.filterMap Statement.decl?).map (ImportDecl.carry out old new) := by
  rw [List.filterMap_map, List.map_filterMap]
  exact congrArg (List.filterMap · ss) (funext fun s => Statement.decl?_carry out old new s)

/-! ## Spans in parts -/

section

variable {text : List Char} {i j : Nat} {s : Span} {xs ys : List Span}

/-- Spans in line before one of them, and from it on. -/
theorem InLine.split (h : InLine text ⟨i, j⟩ (xs ++ s :: ys)) :
    InLine text ⟨i, s.start⟩ xs ∧ InLine text ⟨s.start, j⟩ (s :: ys) := by
  have hxs := h.sublist (List.sublist_append_left xs (s :: ys))
  have hys := h.sublist (List.sublist_append_right xs (s :: ys))
  obtain ⟨-, hapart, hbefore⟩ := List.pairwise_append.1 h.apart
  refine ⟨⟨hxs.proper, ?_, hxs.cuts, hxs.apart⟩, ⟨hys.proper, ?_, hys.cuts, hys.apart⟩⟩
  · intro t ht
    exact ⟨(hxs.inside t ht).1, hbefore t ht s List.mem_cons_self⟩
  · refine List.forall_mem_cons.2 ⟨⟨Nat.le_refl _, (hys.inside s List.mem_cons_self).2⟩, ?_⟩
    intro t ht
    have hproper := hys.proper s List.mem_cons_self
    have hafter : s.stop ≤ t.start := List.rel_of_pairwise_cons hapart ht
    exact ⟨by simp only; omega, (hys.inside t (List.mem_cons_of_mem s ht)).2⟩

/-- Spans in line after the first of them. -/
theorem InLine.uncons (h : InLine text ⟨i, j⟩ (s :: xs)) :
    InLine text s [s] ∧ InLine text ⟨s.stop, j⟩ xs := by
  obtain ⟨hstart, hstop⟩ := h.cuts s List.mem_cons_self
  refine ⟨.single (h.proper s List.mem_cons_self) hstart hstop (Nat.le_refl _) (Nat.le_refl _),
    h.tail.proper, ?_, h.tail.cuts, h.tail.apart⟩
  intro t ht
  exact ⟨List.rel_of_pairwise_cons h.apart ht, (h.tail.inside t ht).2⟩

/-- Spans in line reach no further than the last of them. -/
theorem InLine.upTo (h : InLine text ⟨i, j⟩ (xs ++ [s])) : InLine text ⟨i, s.stop⟩ (xs ++ [s]) := by
  have hbefore := (List.pairwise_append.1 h.apart).2.2
  refine ⟨h.proper, fun t ht => ⟨(h.inside t ht).1, ?_⟩, h.cuts, h.apart⟩
  rcases List.mem_append.1 ht with hxs | hs
  · have hproper := h.proper s (List.mem_append_right _ List.mem_cons_self)
    have hle : t.stop ≤ s.start := hbefore t hxs s List.mem_cons_self
    exact Nat.le_trans hle (Nat.le_of_lt hproper)
  · rw [List.mem_singleton.1 hs]

end

/-! ## Rows of statements in a new text -/

/-- Statements of one text, as they stand in another text inside a span: one after
another, each over the text that it had, and with the lines on which this text is
now. -/
structure StandIn (text out : List Char) (outer : Span) (ss ts : List Statement) : Prop where
  /-- they stand one after another -/
  inLine : InLine out outer (ts.map Statement.span)
  /-- their texts are the same -/
  texts : ts.map (Statement.textIn out) = ss.map (Statement.textIn text)
  /-- their lines are counted -/
  counted : ∀ t ∈ ts, t.startLine = lineAt out t.span.start ∧ t.endLine = lineAt out t.span.stop

namespace StandIn

variable {text out : List Char} {ss ts ss' ts' : List Statement}

/-- Text after the statements. -/
theorem skip {a : List Char} (h : StandIn text out (wholeSpan a) ss ts) (b : List Char) :
    StandIn text out (wholeSpan (a ++ b)) ss ts := by
  refine ⟨h.inLine.widen (Nat.le_refl _) ?_, h.texts, h.counted⟩
  simp [wholeSpan]

/-- **More statements**, in the next part of the new text. -/
theorem append {a b : List Char} (h : StandIn text out (wholeSpan a) ss ts)
    (h' : StandIn text out ⟨byteLength a, byteLength (a ++ b)⟩ ss' ts') :
    StandIn text out (wholeSpan (a ++ b)) (ss ++ ss') (ts ++ ts') := by
  refine ⟨?_, ?_, List.forall_mem_append.2 ⟨h.counted, h'.counted⟩⟩
  · rw [List.map_append]
    exact h.inLine.append h'.inLine (Nat.zero_le _) (by simp)
  · rw [List.map_append, List.map_append, h.texts, h'.texts]

end StandIn

/-- **A part of a text moves with its statements.** Seen from the start of the part
nothing moves, so what is under a statement stays under it. -/
theorem standIn_carry {text out pre part post pre' post' : List Char} {i j : Nat}
    {ss : List Statement} (htext : text = pre ++ part ++ post) (hout : out = pre' ++ part ++ post')
    (hi : byteLength pre = i) (hj : byteLength (pre ++ part) = j)
    (h : InLine text ⟨i, j⟩ (ss.map Statement.span)) :
    StandIn text out ⟨byteLength pre', byteLength (pre' ++ part)⟩ ss
      (ss.map (Statement.carry out i (byteLength pre'))) := by
  subst htext hi hj
  rw [byteLength_append] at h ⊢
  have hpart := h.lower
  have hends : ∀ s ∈ ss, byteLength pre ≤ s.span.start ∧ byteLength pre ≤ s.span.stop := by
    intro s hs
    have hinside := h.inside s.span (List.mem_map_of_mem hs)
    have hproper := h.proper s.span (List.mem_map_of_mem hs)
    exact ⟨hinside.1, Nat.le_trans hinside.1 (Nat.le_of_lt hproper)⟩
  refine ⟨?_, ?_, ?_⟩
  · have hspans :
        (ss.map (Statement.carry out (byteLength pre) (byteLength pre'))).map Statement.span =
        ((ss.map Statement.span).map (Span.lower (byteLength pre))).map
          (Span.shift (byteLength pre')) := by
      simp only [List.map_map]
      refine List.map_congr_left fun s hs => ?_
      simp only [Function.comp_apply, Statement.span_carry,
        Span.carry_eq (hends s hs).1 (hends s hs).2]
    rw [hspans, hout]
    exact hpart.shift pre' post'
  · rw [List.map_map]
    refine List.map_congr_left fun s hs => ?_
    have hmem :
        s.span.lower (byteLength pre) ∈ (ss.map Statement.span).map (Span.lower (byteLength pre)) :=
      List.mem_map_of_mem (List.mem_map_of_mem hs)
    obtain ⟨hstart, hstop⟩ := hpart.cuts _ hmem
    have hle := Nat.le_of_lt (hpart.proper _ hmem)
    have hback := Span.shift_lower (hends s hs).1 (hends s hs).2
    calc ((s.carry out (byteLength pre) (byteLength pre')).textIn out)
        = sliceOf part (s.span.lower (byteLength pre)).start
          (s.span.lower (byteLength pre)).stop := by
          rw [Statement.textIn, Statement.span_carry, Span.carry_eq (hends s hs).1 (hends s hs).2,
            hout]
          exact sliceOf_shift hstart hstop hle pre' post'
      _ = s.textIn (pre ++ part ++ post) := by
          rw [Statement.textIn, ← sliceOf_shift hstart hstop hle pre post]
          exact congrArg₂ (sliceOf _) (congrArg Span.start hback) (congrArg Span.stop hback)
  · intro t ht
    obtain ⟨s, -, rfl⟩ := List.mem_map.1 ht
    simp

end ImportOrder
