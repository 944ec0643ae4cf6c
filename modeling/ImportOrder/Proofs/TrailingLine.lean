import ImportOrder.Proofs.Compliance
import ImportOrder.Proofs.OrderedRuns
import ImportOrder.Proofs.Relocation

/-!
# The blank line after a run, in the text

Whether the blank line after a run is missing is decided by lines, but the fix is an
edit of the text. `RunEnd` puts the two together: it says where a run that another
statement follows ends in the text. `front` is the text up to the end of the
last import, `padding` the blanks right after it, `gap` what else there is before the next
statement, and `back` the rest. The fix puts line breaks into the place of the padding,
as many as the gap lacks.

* `RunEnd.trailingFix_eq` — there is a fix if and only if the gap has less than two line
  breaks;
* `RunEnd.applyAll_fix` — what it makes of the text;
* `RunEnd.standIn_moved` — the statements up to the run stay, and those after it stand
  in the new text;
* `RunEnd.trailingFix_moved` — nothing is missing any more.
-/

namespace ImportOrder

/-! ## Where a run ends -/

/-- A run that another statement follows, what comes before its end and what comes after
it. -/
structure RunEnd (text : List Char) (ss : List Statement) (r : Run) where
  /-- the text up to the end of the last import -/
  front : List Char
  /-- the blanks right after it -/
  padding : List Char
  /-- what else there is before the next statement -/
  gap : List Char
  /-- the text from the next statement on -/
  back : List Char
  /-- the statements before the run -/
  before : List Statement
  /-- the statement after the run -/
  next : Statement
  /-- the statements after that -/
  rest : List Statement
  /-- the parts make up the text -/
  text_eq : text = front ++ padding ++ gap ++ back
  /-- the run stands between the statements before it and those after it -/
  fills : r.Fills 0 ss before (next :: rest)
  /-- the first part ends where the last import ends -/
  stop_eq : byteLength front = r.last.span.stop
  /-- the last part starts where the next statement starts -/
  start_eq : byteLength (front ++ padding ++ gap) = next.span.start
  /-- the padding is made of blanks -/
  padding_blank : ∀ c ∈ padding, isPadding c = true
  /-- and all the blanks after the import are in it -/
  gap_head : ∀ c ∈ gap.head?, isPadding c = false

namespace RunEnd

variable {text : List Char} {ss : List Statement} {r : Run} (e : RunEnd text ss r)

/-- The line breaks that are missing. -/
def breaks : List Char := List.replicate (2 - lineBreaks e.gap) '\n'

/-- The fix that puts them into the place of the padding. -/
def fix : Fix :=
  ⟨⟨byteLength e.front, byteLength e.front + byteLength e.padding⟩, String.ofList e.breaks⟩

/-- The text with the missing line breaks. -/
def out : List Char := e.front ++ e.breaks ++ e.gap ++ e.back

/-- A statement after the run, in the new text. -/
def follow (s : Statement) : Statement :=
  s.carry e.out (byteLength (e.front ++ e.padding)) (byteLength (e.front ++ e.breaks))

/-- The statements up to the end of the run. -/
def above : List Statement := e.before ++ r.imports.map .importDecl

/-- The statements at their new places. Those up to the end of the run stay where they
are. -/
def moved : List Statement := e.above ++ (e.next :: e.rest).map e.follow

end RunEnd

/-- **A run that another statement follows has an end in the text.** -/
theorem exists_runEnd {text : List Char} {ss before rest : List Statement} {r : Run}
    {next : Statement} (h : InLine text (wholeSpan text) (ss.map Statement.span))
    (hfills : r.Fills 0 ss before (next :: rest)) :
    ∃ e : RunEnd text ss r, e.next = next := by
  have hpair : InLine text (wholeSpan text) [r.last.span, next.span] :=
    h.sublist (hfills.last_infix.sublist.map Statement.span)
  have hstop := (hpair.cuts _ List.mem_cons_self).2
  have hstart := (hpair.cuts _ (List.mem_cons_of_mem _ List.mem_cons_self)).1
  have hle : r.last.span.stop ≤ next.span.start :=
    List.rel_of_pairwise_cons hpair.apart List.mem_cons_self
  obtain ⟨between, hbetween⟩ := exists_between? hstop hstart hle
  obtain ⟨front, back, htext, hfront, hend⟩ := between?_eq_some_iff.1 hbetween
  refine ⟨⟨front, between.takeWhile isPadding, between.dropWhile isPadding, back, before, next,
    rest, ?_, hfills, hfront, ?_, fun c hc => List.mem_takeWhile_imp hc, ?_⟩, rfl⟩
  · rw [htext, List.append_assoc front (between.takeWhile isPadding),
      List.takeWhile_append_dropWhile]
  · rw [List.append_assoc, List.takeWhile_append_dropWhile, byteLength_append, hfront, hend]
  · intro c hc
    have hhead := List.head?_dropWhile_not isPadding between
    rw [Option.mem_def.1 hc] at hhead
    exact hhead

/-! ## What the fix does -/

theorem lineBreaks_replicate (n : Nat) : lineBreaks (List.replicate n '\n') = n :=
  List.count_replicate_self

/-- What comes after a part of a text does not matter for the lines in it. -/
theorem lineAt_front {pre x : List Char} {n : Nat} (h : IsBoundary (pre ++ x) n)
    (hle : n ≤ byteLength pre) (y : List Char) : lineAt (pre ++ x) n = lineAt (pre ++ y) n := by
  obtain ⟨c, d, rfl, rfl⟩ := h.split rfl hle
  rw [List.append_assoc, List.append_assoc, lineAt_append, lineAt_append]

namespace RunEnd

variable {ss : List Statement} {r : Run}

section

variable {text : String} (e : RunEnd text.toList ss r)

/-- What stands between the last import and the next statement. -/
theorem between?_eq :
    between? r.last.span.stop e.next.span.start text.toList = some (e.padding ++ e.gap) := by
  refine between?_eq_some_iff.2 ⟨e.front, e.back, ?_, e.stop_eq, ?_⟩
  · rw [← List.append_assoc, ← e.text_eq]
  · rw [← e.stop_eq, ← e.start_eq, List.append_assoc, byteLength_append e.front]

/-- Between the run and the next statement there are the line breaks of the gap. -/
theorem lineBreaks_between :
    lineBreaks (sliceOf text.toList r.last.span.stop e.next.span.start) = lineBreaks e.gap := by
  rw [sliceOf, e.between?_eq, Option.getD_some, lineBreaks_append,
    lineBreaks_padding e.padding_blank, Nat.zero_add]

/-- The padding is what the fix swallows. -/
theorem takeWhile_between : (e.padding ++ e.gap).takeWhile isPadding = e.padding := by
  have hgap : e.gap.takeWhile isPadding = [] := by
    cases hgap : e.gap with
    | nil => rfl
    | cons c cs =>
      have hc : isPadding c = false := e.gap_head c (by rw [hgap]; rfl)
      exact List.takeWhile_cons_of_neg (by simp [hc])
  rw [List.takeWhile_append_of_pos e.padding_blank, hgap, List.append_nil]

theorem endLine_last (hcounted : Counted text ss) : r.last.endLine = 1 + lineBreaks e.front := by
  have hmem : .importDecl r.last ∈ ss := e.fills.last_infix.subset List.mem_cons_self
  have hline := lineAt_append e.front (e.padding ++ (e.gap ++ e.back))
  rw [← List.append_assoc, ← List.append_assoc, ← e.text_eq, e.stop_eq] at hline
  exact (hcounted _ hmem).2.trans hline

/-- The next statement starts as many lines below as the gap has line breaks. -/
theorem startLine_next (hcounted : Counted text ss) :
    e.next.startLine = 1 + lineBreaks e.front + lineBreaks e.gap := by
  have hmem : e.next ∈ ss := e.fills.last_infix.subset (List.mem_cons_of_mem _ List.mem_cons_self)
  have hline := lineAt_append (e.front ++ e.padding ++ e.gap) e.back
  rw [← e.text_eq, e.start_eq, lineBreaks_append, lineBreaks_append,
    lineBreaks_padding e.padding_blank, Nat.add_zero, ← Nat.add_assoc] at hline
  exact (hcounted _ hmem).1.trans hline

/-- **There is a fix if and only if the gap has less than two line breaks.** It puts two
of them there if the statement is on the same line, and one if it is on the next. -/
theorem trailingFix_eq (hcounted : Counted text ss) (hrange : r.last.endLine + 1 < lineBound) :
    trailingFix text ss r = .ok (if lineBreaks e.gap < 2 then some e.fix else none) := by
  have hend := e.endLine_last hcounted
  have hstart := e.startLine_next hcounted
  unfold trailingFix
  rw [e.fills.following, List.head?_cons]
  simp only [bind_ok (nextLine_eq hrange)]
  by_cases hfew : lineBreaks e.gap < 2
  · rw [if_pos hfew, if_neg (by omega), bind_ok (Span.between_eq_ok_iff.2 e.between?_eq),
      e.takeWhile_between, ← byteLength_padding e.padding_blank,
      bind_ok (Span.make_eq_ok (Nat.le_add_right ..)), fix, breaks, e.stop_eq]
    by_cases hsame : lineBreaks e.gap = 0
    · rw [if_pos (by omega), hsame]
      rfl
    · rw [if_neg (by omega), show lineBreaks e.gap = 1 by omega]
      rfl
  · rw [if_neg hfew, if_pos (by omega)]

/-- **What the fix makes of the text.** -/
theorem applyAll_fix : Fix.applyAll text [e.fix] = .ok (String.ofList e.out) := by
  have hswap := applyAll_swap e.front e.padding e.breaks (e.gap ++ e.back)
  rw [← List.append_assoc, ← e.text_eq, String.ofList_toList, ← List.append_assoc] at hswap
  exact hswap

end

variable {text : List Char} (e : RunEnd text ss r)

/-- The run is one of the statements at their new places, too. -/
theorem fills_moved : r.Fills 0 e.moved e.before ((e.next :: e.rest).map e.follow) := by
  refine ⟨(List.append_assoc ..).symm, e.fills.index, e.fills.left, ?_⟩
  rintro s ⟨⟩
  rw [follow, Statement.isImport_carry]
  exact e.fills.right e.next rfl

/-- Where the next statement starts now. -/
theorem start_follow :
    (e.follow e.next).span.start = byteLength (e.front ++ e.breaks ++ e.gap) := by
  rw [follow, Statement.span_carry, Span.carry, ← e.start_eq]
  simp only [byteLength_append]
  omega

/-- What stands now between the last import and the next statement. -/
theorem sliceOf_out :
    sliceOf e.out r.last.span.stop (e.follow e.next).span.start = e.breaks ++ e.gap := by
  have hslice := sliceOf_append e.front (e.breaks ++ e.gap) e.back
  rw [← byteLength_append, ← List.append_assoc, e.stop_eq] at hslice
  rw [e.start_follow]
  exact hslice

/-- The gap has two line breaks now. -/
theorem lineBreaks_breaks_gap (h : lineBreaks e.gap < 2) : lineBreaks (e.breaks ++ e.gap) = 2 := by
  rw [lineBreaks_append, breaks, lineBreaks_replicate]
  omega

theorem statements_eq : ss = e.above ++ e.next :: e.rest := by
  rw [above, List.append_assoc, e.fills.eq]

/-- The statements up to the end of the run reach as far as the last import. -/
theorem inLine_above (h : InLine text (wholeSpan text) (ss.map Statement.span)) :
    InLine text ⟨0, byteLength e.front⟩ (e.above.map Statement.span) := by
  have himports : r.imports = r.imports.dropLast ++ [r.last] :=
    (List.dropLast_append_getLast r.imports_ne_nil).symm
  have hlast : e.above.map Statement.span =
      (e.before ++ r.imports.dropLast.map Statement.importDecl).map Statement.span ++
        [r.last.span] := by
    conv_lhs => rw [above, himports]
    simp [Statement.span]
  rw [e.statements_eq, List.map_append] at h
  have habove := h.sublist (List.sublist_append_left ..)
  rw [hlast] at habove ⊢
  rw [e.stop_eq]
  exact habove.upTo

/-- The statements up to the end of the run stay as they are. -/
theorem carry_above (h : InLine text (wholeSpan text) (ss.map Statement.span))
    (hcounted : ∀ s ∈ ss, s.startLine = lineAt text s.span.start ∧
      s.endLine = lineAt text s.span.stop) :
    e.above.map (Statement.carry e.out 0 0) = e.above := by
  have habove := e.inLine_above h
  have htext : text = e.front ++ (e.padding ++ e.gap ++ e.back) := by simp [e.text_eq]
  have hout : e.out = e.front ++ (e.breaks ++ e.gap ++ e.back) := by simp [out]
  have hline :
      ∀ n, IsBoundary text n → n ≤ byteLength e.front → lineAt text n = lineAt e.out n := by
    intro n hn hle
    rw [htext] at hn
    have hsame := lineAt_front hn hle (e.breaks ++ e.gap ++ e.back)
    rwa [← htext, ← hout] at hsame
  refine (List.map_congr_left fun s hs => ?_).trans (List.map_id _)
  have hspan : s.span ∈ e.above.map Statement.span := List.mem_map_of_mem hs
  obtain ⟨hstart, hstop⟩ := habove.cuts _ hspan
  have hle := (habove.inside _ hspan).2
  have hproper := Nat.le_of_lt (habove.proper _ hspan)
  have hlines := hcounted s (e.statements_eq ▸ List.mem_append_left _ hs)
  exact Statement.carry_self e.out (hlines.1.trans (hline _ hstart (Nat.le_trans hproper hle)))
    (hlines.2.trans (hline _ hstop hle)) 0

/-- **The statements stand in the new text.** Those up to the run stay, those after it
move on, and no statement is over the new line breaks. -/
theorem standIn_moved (h : InLine text (wholeSpan text) (ss.map Statement.span))
    (hcounted : ∀ s ∈ ss, s.startLine = lineAt text s.span.start ∧
      s.endLine = lineAt text s.span.stop) :
    StandIn text e.out (wholeSpan e.out) ss e.moved := by
  have hfront : text = [] ++ e.front ++ (e.padding ++ e.gap ++ e.back) := by simp [e.text_eq]
  have hfront' : e.out = [] ++ e.front ++ (e.breaks ++ e.gap ++ e.back) := by simp [out]
  have hback : text = e.front ++ e.padding ++ (e.gap ++ e.back) ++ [] := by simp [e.text_eq]
  have hback' : e.out = e.front ++ e.breaks ++ (e.gap ++ e.back) ++ [] := by simp [out]
  have hparts := h
  rw [e.statements_eq, List.map_append, List.map_cons] at hparts
  have hbelow : InLine text ⟨byteLength (e.front ++ e.padding), byteLength text⟩
      ((e.next :: e.rest).map Statement.span) := by
    refine hparts.split.2.widen ?_ (Nat.le_refl _)
    rw [← e.start_eq, byteLength_append _ e.gap]
    exact Nat.le_add_right ..
  have hstay :
      StandIn text e.out (wholeSpan e.front) e.above (e.above.map (Statement.carry e.out 0 0)) :=
    standIn_carry hfront hfront' rfl rfl (e.inLine_above h)
  rw [e.carry_above h hcounted] at hstay
  have hall :=
    (hstay.skip e.breaks).append (standIn_carry hback hback' rfl (by simp [e.text_eq]) hbelow)
  rw [← e.statements_eq, ← List.append_assoc] at hall
  exact hall

/-- **Nothing is missing any more.** -/
theorem trailingFix_moved {text : String} (e : RunEnd text.toList ss r) (hcounted : Counted text ss)
    (hrange : r.last.endLine + 1 < lineBound) (hfew : lineBreaks e.gap < 2) :
    trailingFix (String.ofList e.out) e.moved r = .ok none := by
  rw [trailingFix_eq_none _ _ hrange, e.fills_moved.following]
  rintro s ⟨⟩
  have hstart : (e.follow e.next).startLine = 1 + lineBreaks e.front + 2 := by
    calc (e.follow e.next).startLine
        = lineAt e.out (byteLength (e.front ++ e.breaks ++ e.gap)) := by
          rw [← e.start_follow, follow, Statement.startLine_carry, Statement.span_carry]
      _ = 1 + lineBreaks (e.front ++ e.breaks ++ e.gap) := lineAt_append ..
      _ = 1 + lineBreaks e.front + 2 := by
          rw [List.append_assoc, lineBreaks_append, e.lineBreaks_breaks_gap hfew, Nat.add_assoc]
  rw [hstart, e.endLine_last hcounted]

end RunEnd

/-- A text with one line break is what stands before it and what stands after it. -/
theorem exists_of_lineBreaks_eq_one {cs : List Char} (h : lineBreaks cs = 1) :
    ∃ line indent, cs = line ++ '\n' :: indent ∧ ∀ c ∈ line ++ indent, c ≠ '\n' := by
  have hmem : '\n' ∈ cs := List.count_pos_iff.1 (by rw [← lineBreaks, h]; exact Nat.one_pos)
  obtain ⟨line, indent, rfl⟩ := List.append_of_mem hmem
  refine ⟨line, indent, rfl, ?_⟩
  rintro c hc rfl
  have hcount : 0 < lineBreaks (line ++ indent) := List.count_pos_iff.2 hc
  have hbreak : lineBreaks ('\n' :: indent) = lineBreaks indent + 1 := List.count_cons_self
  rw [lineBreaks_append] at h hcount
  omega

/-- **One blank line.** Where there is nothing but blanks and line breaks after a run,
the fix leaves exactly one line between the last import and the next statement, and it
is blank. The first line break ends the line of the import, and one is left. -/
theorem RunEnd.exists_blank_line {text : List Char} {ss : List Statement} {r : Run}
    (e : RunEnd text ss r) (hfew : lineBreaks e.gap < 2)
    (hblank : ∀ c ∈ e.gap, isPadding c = true ∨ c = '\r' ∨ c = '\n') :
    ∃ line indent, e.breaks ++ e.gap = '\n' :: line ++ '\n' :: indent ∧
      ∀ c ∈ line ++ indent, isPadding c = true ∨ c = '\r' := by
  have hbreaks : e.breaks = '\n' :: List.replicate (1 - lineBreaks e.gap) '\n' := by
    rw [RunEnd.breaks, show 2 - lineBreaks e.gap = (1 - lineBreaks e.gap) + 1 by omega,
      List.replicate_succ]
  have hone : lineBreaks (List.replicate (1 - lineBreaks e.gap) '\n' ++ e.gap) = 1 := by
    rw [lineBreaks_append, lineBreaks_replicate]
    omega
  obtain ⟨line, indent, heq, hnone⟩ := exists_of_lineBreaks_eq_one hone
  refine ⟨line, indent, by rw [hbreaks, List.cons_append, heq, List.cons_append], ?_⟩
  intro c hc
  have hne := hnone c hc
  have hmem : c ∈ List.replicate (1 - lineBreaks e.gap) '\n' ++ e.gap := by
    rw [heq]
    simp only [List.mem_append, List.mem_cons] at hc ⊢
    tauto
  rcases List.mem_append.1 hmem with hbreak | hgap
  · exact absurd (List.eq_of_mem_replicate hbreak) hne
  · rcases hblank c hgap with hpad | hreturn | hbreak
    · exact .inl hpad
    · exact .inr hreturn
    · exact absurd hbreak hne

/-- **The blank line after a run is added where it is missing.** In a module whose
statements stand one after another and whose lines are counted, a run gets a fix if and
only if a statement follows it and there are less than two line breaks in between. The
fix takes away the blanks right after the last import and puts line breaks there. Then
there are two of them up to the next statement, and one blank line if there were only
blanks and line breaks before; and for the statements at their new places there is
nothing left to fix. -/
theorem trailingFix_adds_blank_line (text : String) (ss : List Statement) (r : Run)
    (hline : InLine text.toList (wholeSpan text.toList) (ss.map Statement.span))
    (hcounted : Counted text ss) (hlines : ∀ s ∈ ss, s.endLine < 2 ^ 32 - 1)
    (hr : r ∈ collectRuns ss) :
    ∃ fix?, trailingFix text ss r = .ok fix? ∧
      (fix?.isSome ↔ ∃ s, ss[r.lastIndex + 1]? = some s ∧
        lineBreaks (sliceOf text.toList r.last.span.stop s.span.start) < 2) ∧
      ∀ fix, fix? = some fix → ∃ e : RunEnd text.toList ss r,
        Fix.applyAll text [fix] = .ok (String.ofList e.out) ∧
        StandIn text.toList e.out (wholeSpan e.out) ss e.moved ∧
        sliceOf e.out r.last.span.stop (e.follow e.next).span.start = e.breaks ++ e.gap ∧
        lineBreaks (e.breaks ++ e.gap) = 2 ∧
        ((∀ c ∈ e.gap, isPadding c = true ∨ c = '\r' ∨ c = '\n') →
          ∃ line indent, e.breaks ++ e.gap = '\n' :: line ++ '\n' :: indent ∧
            ∀ c ∈ line ++ indent, isPadding c = true ∨ c = '\r') ∧
        r ∈ collectRuns e.moved ∧ trailingFix (String.ofList e.out) e.moved r = .ok none := by
  obtain ⟨before, after, hfills⟩ := exists_fills hr
  cases after with
  | nil =>
    have hnone : ss[r.lastIndex + 1]? = none := hfills.following
    refine ⟨none, by rw [trailingFix, hnone], ?_, nofun⟩
    simp [hnone]
  | cons next rest =>
    obtain ⟨e, rfl⟩ := exists_runEnd hline hfills
    have hrange : r.last.endLine + 1 < lineBound := by
      have hend : r.last.endLine < 2 ^ 32 - 1 :=
        hlines _ (hfills.last_infix.subset List.mem_cons_self)
      rw [lineBound]
      omega
    refine ⟨_, e.trailingFix_eq hcounted hrange, ?_, ?_⟩
    · rw [hfills.following, List.head?_cons, Option.isSome_ite, ← e.lineBreaks_between]
      constructor
      · exact fun h => ⟨_, rfl, h⟩
      · rintro ⟨s, ⟨⟩, h⟩
        exact h
    · intro fix hfix
      obtain ⟨hgap, hfix⟩ := Option.ite_none_right_eq_some.1 hfix
      obtain rfl := Option.some.inj hfix
      exact ⟨e, e.applyAll_fix, e.standIn_moved hline hcounted, e.sliceOf_out,
        e.lineBreaks_breaks_gap hgap, e.exists_blank_line hgap, e.fills_moved.mem,
        e.trailingFix_moved hcounted hrange hgap⟩

/-- The import goes over two lines, with a character of two bytes in the first one, and
after it there are a space, a tab and a line break of two characters. -/
theorem trailingFix_adds_blank_line_return :
    let text := "é(\n) \t\r\nx y"
    let out := "é(\n)\n\r\nx y"
    let d : ImportDecl := ⟨⟨0, 5⟩, 1, 2, some .value, "é", []⟩
    let ss : List Statement := [.importDecl d, .other "x" ⟨9, 10⟩ 3 3, .other "y" ⟨11, 12⟩ 3 3]
    InLine text.toList (wholeSpan text.toList) (ss.map Statement.span) ∧ Counted text ss ∧
      (∀ s ∈ ss, s.endLine < 2 ^ 32 - 1) ∧ ⟨0, d, []⟩ ∈ collectRuns ss ∧
      trailingFix text ss ⟨0, d, []⟩ = .ok (some ⟨⟨5, 7⟩, "\n"⟩) ∧
      Fix.applyAll text [⟨⟨5, 7⟩, "\n"⟩] = .ok out ∧
      ∃ moved, ⟨0, d, []⟩ ∈ collectRuns moved ∧ trailingFix out moved ⟨0, d, []⟩ = .ok none := by
  intro text out d ss
  have hline : InLine text.toList (wholeSpan text.toList) (ss.map Statement.span) := by decide
  have hcounted : Counted text ss := by decide
  have hlines : ∀ s ∈ ss, s.endLine < 2 ^ 32 - 1 := by decide
  have hr : ⟨0, d, []⟩ ∈ collectRuns ss := by simp [ss, collectRuns_eq, runsFrom, leadingImports]
  have hfix' : trailingFix text ss ⟨0, d, []⟩ = .ok (some ⟨⟨5, 7⟩, "\n"⟩) := by decide +kernel
  have hout' : Fix.applyAll text [⟨⟨5, 7⟩, "\n"⟩] = .ok out := by decide +kernel
  obtain ⟨fix?, hfix, -, hmends⟩ :=
    trailingFix_adds_blank_line text ss ⟨0, d, []⟩ hline hcounted hlines hr
  obtain ⟨e, hout, -, -, -, -, hrun, hnone⟩ := hmends _ (Except.ok.inj (hfix.symm.trans hfix'))
  rw [Except.ok.inj (hout.symm.trans hout')] at hnone
  exact ⟨hline, hcounted, hlines, hr, hfix', hout', e.moved, hrun, hnone⟩

end ImportOrder
