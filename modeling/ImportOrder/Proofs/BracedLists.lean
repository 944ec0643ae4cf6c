import ImportOrder.Layout
import ImportOrder.Proofs.Comparing
import ImportOrder.Proofs.PageCut
import Mathlib.Data.List.TakeWhile

/-!
# Sorting a braced list

The entries of a braced list stand in the text with separators between them. Sorting the
list moves the texts of the entries and leaves the separators where they are: it
*weaves* the sorted texts with the old separators.

* `specifierFix_eq` — the fix replaces the list by its entries, sorted and woven with
  its separators;
* `woven_perm` — the replacement has the characters of what it replaces, so its length
  and its lines;
* `ImportBlock.resorted` — the block with its list sorted, and its entries listed where
  they then stand.
-/

namespace ImportOrder

/-! ## Weaving -/

/-- Texts, each followed by its separator as long as there is one. -/
def woven : List (List Char) → List (List Char) → List Char
  | [], _ => []
  | p :: ps, gaps => p ++ gaps.headD [] ++ woven ps gaps.tail

/-- The texts under specifiers. -/
def specifierTexts (text : List Char) (specs : List Specifier) : List (List Char) :=
  specs.map fun s => sliceOf text s.span.start s.span.stop

/-- The texts between neighbouring specifiers. -/
def gapsBetween (text : List Char) : List Specifier → List (List Char)
  | a :: b :: rest => sliceOf text a.span.stop b.span.start :: gapsBetween text (b :: rest)
  | _ => []

/-- The specifiers in sorted order; equals keep their places. -/
def sortSpecifiers (ignoreCase : Bool) (specs : List Specifier) : List Specifier :=
  specs.mergeSort fun a b => compareSpecifiers ignoreCase a b != .gt

theorem sortSpecifiers_perm (ignoreCase : Bool) (specs : List Specifier) :
    (sortSpecifiers ignoreCase specs).Perm specs := List.mergeSort_perm ..

theorem gapsBetween_length (text : List Char) (specs : List Specifier) :
    (gapsBetween text specs).length = specs.length - 1 := by
  induction specs with
  | nil => rfl
  | cons a rest ih =>
    cases rest with
    | nil => rfl
    | cons b rest =>
      rw [gapsBetween, List.length_cons, ih]
      rfl

/-- Weaving only mixes: no character is lost as long as there is a text for every
separator. -/
theorem woven_perm_append {ps gaps : List (List Char)} (h : gaps.length ≤ ps.length) :
    (woven ps gaps).Perm (ps.flatten ++ gaps.flatten) := by
  induction ps generalizing gaps with
  | nil =>
    obtain rfl := List.eq_nil_of_length_eq_zero (Nat.le_zero.1 h)
    exact .refl _
  | cons p ps ih =>
    cases gaps with
    | nil =>
      have hrest : (woven ps []).Perm (ps.flatten ++ [].flatten) := ih (Nat.zero_le _)
      simp only [woven, List.headD_nil, List.append_nil, List.tail_nil, List.flatten_cons,
        List.flatten_nil] at hrest ⊢
      exact hrest.append_left p
    | cons g gaps =>
      have := ih (Nat.le_of_succ_le_succ h)
      simp only [woven, List.headD_cons, List.tail_cons, List.flatten_cons, List.append_assoc]
      refine List.Perm.append_left p ((this.append_left g).trans ?_)
      rw [← List.append_assoc, ← List.append_assoc]
      exact List.perm_append_comm.append_right _

/-- **Weaving other way round.** Texts woven in another order make up the same
characters. -/
theorem woven_perm {ps qs gaps : List (List Char)} (hperm : ps.Perm qs)
    (h : gaps.length ≤ ps.length) :
    (woven ps gaps).Perm (woven qs gaps) :=
  (woven_perm_append h).trans ((hperm.flatten.append_right _).trans
    (woven_perm_append (hperm.length_eq ▸ h)).symm)

theorem byteLength_perm {a b : List Char} (h : a.Perm b) : byteLength a = byteLength b := by
  induction h with
  | nil => rfl
  | cons c _ ih => simp only [byteLength, ih]
  | swap c d cs => simp only [byteLength]; omega
  | trans _ _ ih₁ ih₂ => exact ih₁.trans ih₂

theorem lineBreaks_perm {a b : List Char} (h : a.Perm b) : lineBreaks a = lineBreaks b :=
  h.count_eq _

/-! ## The list in its text -/

/-- A piece between two boundaries can be had. -/
theorem slice_eq_sliceOf {text : String} {s : Span} (hstart : IsBoundary text.toList s.start)
    (hstop : IsBoundary text.toList s.stop) (hle : s.start ≤ s.stop) :
    s.slice text = .ok (String.ofList (sliceOf text.toList s.start s.stop)) := by
  obtain ⟨m, hm⟩ := exists_between? hstart hstop hle
  rw [Span.slice_eq_ok_iff, sliceOf, hm]
  rfl

/-- What lies under one of some spans one after another can be taken out of the text. -/
theorem LaidOut.slice_eq {text : String} {outer s : Span} {spans : List Span}
    (h : LaidOut text.toList outer spans) (hs : s ∈ spans) :
    s.slice text = .ok (String.ofList (sliceOf text.toList s.start s.stop)) :=
  slice_eq_sliceOf (h.cuts s hs).1 (h.cuts s hs).2 (h.ordered s hs)

/-- **The gaps that the program finds** are those between the entries of the list. -/
theorem separators_eq {text : String} {outer : Span} {specs : List Specifier}
    (h : LaidOut text.toList outer (specs.map Specifier.span)) :
    separators text specs = .ok ((gapsBetween text.toList specs).map String.ofList) := by
  induction specs with
  | nil => rfl
  | cons a rest ih =>
    cases rest with
    | nil => rfl
    | cons b rest =>
      have hgap : Span.slice ⟨a.span.stop, b.span.start⟩ text
          = .ok (String.ofList (sliceOf text.toList a.span.stop b.span.start)) :=
        slice_eq_sliceOf (h.cuts a.span List.mem_cons_self).2
          (h.cuts b.span (List.mem_cons_of_mem _ List.mem_cons_self)).1
          (List.rel_of_pairwise_cons h.apart List.mem_cons_self)
      rw [separators, bind_ok hgap, bind_ok (ih h.tail)]
      rfl

theorem interleave_nil (ps : List String) : interleave ps [] = String.join ps := by cases ps <;> rfl

/-- The program writes entries and gaps as they are woven in the theory. -/
theorem interleave_eq (ps gaps : List (List Char)) :
    interleave (ps.map String.ofList) (gaps.map String.ofList) = String.ofList (woven ps gaps) := by
  induction ps generalizing gaps with
  | nil => cases gaps <;> rfl
  | cons p ps ih =>
    cases gaps with
    | nil =>
      have hjoin := ih []
      rw [List.map_nil, interleave_nil] at hjoin
      rw [List.map_nil, interleave_nil, List.map_cons, String.join_cons, hjoin,
        ← String.ofList_append]
      simp only [woven, List.headD_nil, List.append_nil, List.tail_nil]
    | cons g gaps =>
      rw [List.map_cons, List.map_cons, interleave, ih]
      simp only [woven, List.headD_cons, List.tail_cons, String.ofList_append]

/-- The braced list as it stands in the text. -/
def listText (text : List Char) (specs : List Specifier) : List Char :=
  woven (specifierTexts text specs) (gapsBetween text specs)

/-- The braced list with its entries in another order. -/
def relistText (text : List Char) (specs order : List Specifier) : List Char :=
  woven (specifierTexts text order) (gapsBetween text specs)

/-- A list has the same characters in any order of its entries. -/
theorem relistText_perm (text : List Char) {specs order : List Specifier} (h : order.Perm specs) :
    (relistText text specs order).Perm (listText text specs) := by
  refine woven_perm (h.map _) ?_
  rw [gapsBetween_length, specifierTexts, List.length_map, h.length_eq]
  exact Nat.sub_le ..

/-- The part of the text from the first specifier to the last one. -/
def listSpan (first : Specifier) (rest : List Specifier) : Span :=
  ⟨first.span.start, ((first :: rest).getLast (List.cons_ne_nil _ _)).span.stop⟩

/-- Specifiers one after another are woven from their texts and the texts between them.
What stands before the second specifier is cut at both ends of the first one, which
gives the first text and the first gap; the rest is woven in the same way. -/
theorem exists_weave {text : List Char} {outer : Span} {first : Specifier} {rest : List Specifier}
    (h : LaidOut text outer ((first :: rest).map Specifier.span)) :
    ∃ pre post, text = pre ++ listText text (first :: rest) ++ post ∧
      byteLength pre = (listSpan first rest).start ∧
      byteLength pre + byteLength (listText text (first :: rest)) = (listSpan first rest).stop := by
  have hordered : first.span.start ≤ first.span.stop := h.ordered first.span List.mem_cons_self
  obtain ⟨hstart, hstop⟩ := h.cuts first.span List.mem_cons_self
  induction rest generalizing first with
  | nil =>
    obtain ⟨m, hm⟩ := exists_between? hstart hstop hordered
    have hslice : listText text [first] = m := by
      simp only [listText, specifierTexts, List.map_cons, List.map_nil, gapsBetween, woven,
        List.headD_nil, List.append_nil, sliceOf, hm, Option.getD_some]
    obtain ⟨pre, post, htext, hpre, hlen⟩ := between?_eq_some_iff.1 hm
    rw [hslice]
    exact ⟨pre, post, htext, hpre, by rw [hpre, hlen]; rfl⟩
  | cons second rest ih =>
    have hsecond : second.span ∈ (first :: second :: rest).map Specifier.span :=
      List.mem_cons_of_mem _ List.mem_cons_self
    have hbetween : first.span.stop ≤ second.span.start :=
      List.rel_of_pairwise_cons h.apart List.mem_cons_self
    obtain ⟨front, post, htext, hfront, hlen⟩ :=
      ih h.tail (h.ordered _ hsecond) (h.cuts _ hsecond).1 (h.cuts _ hsecond).2
    obtain ⟨upto, gap, rfl, hupto⟩ :=
      hstop.split (htext.trans (List.append_assoc ..)) (by rw [hfront]; exact hbetween)
    obtain ⟨pre, body, rfl, hpre⟩ :=
      hstart.split (htext.trans (by simp only [List.append_assoc]; rfl))
        (by rw [hupto]; exact hordered)
    generalize hlater : listText text (second :: rest) = later at *
    have hbody : sliceOf text first.span.start first.span.stop = body := by
      have hpart := sliceOf_append pre body (gap ++ later ++ post)
      rwa [← List.append_assoc, ← List.append_assoc, ← htext, ← byteLength_append, hpre,
        hupto] at hpart
    have hgap : sliceOf text first.span.stop second.span.start = gap := by
      have hpart := sliceOf_append (pre ++ body) gap (later ++ post)
      rwa [← List.append_assoc, ← htext, ← byteLength_append, hfront, hupto] at hpart
    have hlist : listText text (first :: second :: rest) = body ++ gap ++ later := by
      rw [← hlater]
      simp only [listText, specifierTexts, List.map_cons, gapsBetween, woven, List.headD_cons,
        List.tail_cons, hbody, hgap]
    refine ⟨pre, post, ?_, hpre, ?_⟩
    · rw [hlist]
      exact htext.trans (by simp only [List.append_assoc])
    · rw [hlist]
      simp only [byteLength_append] at hlen ⊢
      rw [← Nat.add_assoc, ← Nat.add_assoc, hlen]
      rfl

/-- **What the fix for a braced list does.** It replaces the list by its entries in
sorted order, woven with the separators that were there. -/
theorem specifierFix_eq {text : String} {outer : Span} {ignoreCase : Bool} {d : ImportDecl}
    {first : Specifier} {rest : List Specifier} (hnamed : d.named = first :: rest)
    (h : LaidOut text.toList outer (d.named.map Specifier.span)) :
    specifierFix text ignoreCase d = .ok (some ⟨listSpan first rest,
      String.ofList (relistText text.toList d.named (sortSpecifiers ignoreCase d.named))⟩) := by
  have hslice : ∀ s ∈ sortSpecifiers ignoreCase d.named, s.span.slice text =
      .ok (String.ofList (sliceOf text.toList s.span.start s.span.stop)) := by
    intro s hs
    exact h.slice_eq (List.mem_map_of_mem ((sortSpecifiers_perm ignoreCase d.named).mem_iff.1 hs))
  have hspan :
      Span.make first.span.start ((first :: rest).getLast (List.cons_ne_nil _ _)).span.stop =
      .ok (listSpan first rest) := by
    rw [hnamed] at h
    exact Span.make_eq_ok (h.start_le_stop (List.mem_map_of_mem (List.getLast_mem _)))
  rw [hnamed] at h hslice ⊢
  unfold specifierFix
  rw [hnamed]
  simp only
  rw [bind_ok (separators_eq h), ← sortSpecifiers, bind_ok (mapM_ok hslice),
    bind_ok hspan, relistText, ← interleave_eq, specifierTexts, List.map_map]
  rfl

/-! ## Lists that move with their import -/

/-- The specifier moved on by some bytes. -/
def Specifier.shift (n : Nat) (s : Specifier) : Specifier := { s with span := s.span.shift n }

/-- The fix moved on by some bytes. -/
def Fix.shift (n : Nat) (f : Fix) : Fix := { f with span := f.span.shift n }

theorem Specifier.span_comp_shift (n : Nat) :
    Specifier.span ∘ Specifier.shift n = Span.shift n ∘ Specifier.span := rfl

theorem ImportDecl.named_shift (n : Nat) (d : ImportDecl) :
    (d.shift n).named = d.named.map (Specifier.shift n) := List.filter_map

/-- A piece of a part of a text is a piece of the text, further on. -/
theorem sliceOf_shift {body : List Char} {i j : Nat} (hi : IsBoundary body i)
    (hj : IsBoundary body j) (hij : i ≤ j) (pre post : List Char) :
    sliceOf (pre ++ body ++ post) (byteLength pre + i) (byteLength pre + j) = sliceOf body i j := by
  obtain ⟨m, hm⟩ := exists_between? hi hj hij
  obtain ⟨a, b, rfl, rfl, rfl⟩ := between?_eq_some_iff.1 hm
  have hlong := sliceOf_append (pre ++ a) m (b ++ post)
  simp only [byteLength_append, List.append_assoc, Nat.add_assoc] at hlong ⊢
  rw [hlong, ← List.append_assoc, sliceOf_append]

/-- The texts of the entries are the same wherever their import is placed in a longer
text. -/
theorem specifierTexts_shift {body : List Char} {outer : Span} {specs : List Specifier}
    (h : InLine body outer (specs.map Specifier.span)) {order : List Specifier}
    (horder : order ⊆ specs) (pre post : List Char) :
    specifierTexts (pre ++ body ++ post) (order.map (Specifier.shift (byteLength pre))) =
      specifierTexts body order := by
  rw [specifierTexts, specifierTexts, List.map_map]
  refine List.map_congr_left fun s hs => ?_
  have hmem : s.span ∈ specs.map Specifier.span := List.mem_map_of_mem (horder hs)
  exact sliceOf_shift (h.cuts _ hmem).1 (h.cuts _ hmem).2 (Nat.le_of_lt (h.proper _ hmem)) pre post

theorem gapsBetween_shift {body : List Char} {outer : Span} {specs : List Specifier}
    (h : InLine body outer (specs.map Specifier.span)) (pre post : List Char) :
    gapsBetween (pre ++ body ++ post) (specs.map (Specifier.shift (byteLength pre))) =
      gapsBetween body specs := by
  induction specs with
  | nil => rfl
  | cons a rest ih =>
    cases rest with
    | nil => rfl
    | cons b rest =>
      have hgap := sliceOf_shift (h.cuts a.span List.mem_cons_self).2
        (h.cuts b.span (List.mem_cons_of_mem _ List.mem_cons_self)).1
        (List.rel_of_pairwise_cons h.apart List.mem_cons_self) pre post
      have hrest := ih h.tail
      rw [List.map_cons] at hrest
      rw [List.map_cons, List.map_cons, gapsBetween, gapsBetween, hrest]
      exact congrArg (· :: gapsBetween body (b :: rest)) hgap

theorem sortSpecifiers_shift (ignoreCase : Bool) (n : Nat) (specs : List Specifier) :
    sortSpecifiers ignoreCase (specs.map (Specifier.shift n)) =
      (sortSpecifiers ignoreCase specs).map (Specifier.shift n) := by
  rw [sortSpecifiers, sortSpecifiers]
  exact (List.map_mergeSort (f := Specifier.shift n) fun _ _ _ _ => rfl).symm

theorem listSpan_shift (n : Nat) (first : Specifier) (rest : List Specifier) :
    listSpan (first.shift n) (rest.map (Specifier.shift n)) = (listSpan first rest).shift n := by
  have hlast : (first.shift n :: rest.map (Specifier.shift n)).getLast (List.cons_ne_nil _ _) =
      ((first :: rest).getLast (List.cons_ne_nil _ _)).shift n :=
    List.getLast_map (f := Specifier.shift n) (l := first :: rest) (List.cons_ne_nil _ _)
  rw [listSpan, hlast]
  rfl

/-- Spans in line in a part of a text are in line in the text, further on. -/
theorem InLine.shift {body : List Char} {outer : Span} {spans : List Span}
    (h : InLine body outer spans) (pre post : List Char) :
    InLine (pre ++ body ++ post) (outer.shift (byteLength pre))
      (spans.map (Span.shift (byteLength pre))) := by
  refine ⟨?_, ?_, ?_, ?_⟩
  · intro t ht
    obtain ⟨s, hs, rfl⟩ := List.mem_map.1 ht
    exact Nat.add_lt_add_left (h.proper s hs) _
  · intro t ht
    obtain ⟨s, hs, rfl⟩ := List.mem_map.1 ht
    exact ⟨Nat.add_le_add_left (h.inside s hs).1 _, Nat.add_le_add_left (h.inside s hs).2 _⟩
  · intro t ht
    obtain ⟨s, hs, rfl⟩ := List.mem_map.1 ht
    exact ⟨(h.cuts s hs).1.outer pre post, (h.cuts s hs).2.outer pre post⟩
  · exact List.pairwise_map.2 (h.apart.imp fun hab => Nat.add_le_add_left hab _)

/-- The fix for the braced list of a block, as it looks from the start of the block. -/
def ImportBlock.listFix (ignoreCase : Bool) (b : ImportBlock) : Option Fix :=
  match b.decl.named with
  | [] => none
  | first :: rest => some ⟨listSpan first rest,
      String.ofList (relistText b.body b.decl.named (sortSpecifiers ignoreCase b.decl.named))⟩

/-- The entries between braces are in a row inside the import, because all its
specifiers are. -/
theorem ImportBlock.Proper.named {b : ImportBlock} (h : b.Proper) :
    InLine b.body b.decl.span (b.decl.named.map Specifier.span) :=
  h.specifiers.sublist ((List.filter_sublist).map _)

/-- **The fix for a braced list moves with its import.** -/
theorem specifierFix_placed {b : ImportBlock} (h : b.Proper) (ignoreCase : Bool)
    (pre post : List Char) :
    specifierFix (String.ofList (pre ++ b.body ++ post)) ignoreCase
      (b.decl.shift (byteLength pre)) =
      .ok ((b.listFix ignoreCase).map (Fix.shift (byteLength pre))) := by
  have hshift := ImportDecl.named_shift (byteLength pre) b.decl
  unfold ImportBlock.listFix
  cases hnamed : b.decl.named with
  | nil =>
    rw [hnamed] at hshift
    unfold specifierFix
    rw [hshift]
    rfl
  | cons first rest =>
    have hin := h.named
    have hlong := hin.shift pre post
    rw [hnamed] at hshift hin
    rw [List.map_map, ← Specifier.span_comp_shift, ← List.map_map,
      ← ImportDecl.named_shift] at hlong
    rw [specifierFix_eq hshift (by rw [String.toList_ofList]; exact hlong.laidOut), hshift,
      String.toList_ofList, sortSpecifiers_shift, relistText, gapsBetween_shift hin,
      specifierTexts_shift hin (sortSpecifiers_perm ..).subset, ← relistText, listSpan_shift]
    rfl

/-! ## The block with its list sorted -/

/-- Specifiers listed where their texts come to lie when they are woven with some
separators. -/
def relaid (text : List Char) (n : Nat) : List Specifier → List (List Char) → List Specifier
  | [], _ => []
  | s :: rest, gaps =>
    let stop := n + byteLength (sliceOf text s.span.start s.span.stop)
    { s with span := ⟨n, stop⟩ } :: relaid text (stop + byteLength (gaps.headD [])) rest gaps.tail

/-- Put new entries in the places of those of the braced list. -/
def putNamed : List Specifier → List Specifier → List Specifier
  | [], _ => []
  | s :: rest, new =>
    if s.kind = .named then new.headD s :: putNamed rest new.tail else s :: putNamed rest new

/-- The block with the braced list sorted. -/
def ImportBlock.resorted (ignoreCase : Bool) (b : ImportBlock) : ImportBlock :=
  match b.decl.named with
  | [] => b
  | first :: rest =>
    let order := sortSpecifiers ignoreCase b.decl.named
    let span := listSpan first rest
    let entries := relaid b.body span.start order (gapsBetween b.body b.decl.named)
    { b with
      decl := { b.decl with specifiers := putNamed b.decl.specifiers entries }
      body := sliceOf b.body 0 span.start ++ relistText b.body b.decl.named order ++
        sliceOf b.body span.stop (byteLength b.body) }

/-- What stands before and after the list is left alone. -/
theorem ImportBlock.resorted_body {b : ImportBlock} (h : b.Proper) (ignoreCase : Bool)
    {first : Specifier} {rest : List Specifier} (hnamed : b.decl.named = first :: rest) :
    ∃ pre post, b.body = pre ++ listText b.body b.decl.named ++ post ∧
      (b.resorted ignoreCase).body =
        pre ++ relistText b.body b.decl.named (sortSpecifiers ignoreCase b.decl.named) ++ post ∧
      byteLength pre = (listSpan first rest).start ∧
      byteLength pre + byteLength (listText b.body b.decl.named) = (listSpan first rest).stop := by
  obtain ⟨pre, post, hbody, hstart, hstop⟩ := exists_weave (hnamed ▸ h.named.laidOut)
  rw [← hnamed] at hbody hstop
  refine ⟨pre, post, hbody, ?_, hstart, hstop⟩
  have hpre : sliceOf b.body 0 (listSpan first rest).start = pre := by
    have := sliceOf_append [] pre (listText b.body b.decl.named ++ post)
    rwa [List.nil_append, ← List.append_assoc, ← hbody, byteLength_nil, Nat.zero_add,
      hstart] at this
  have hpost : sliceOf b.body (listSpan first rest).stop (byteLength b.body) = post := by
    have := sliceOf_append (pre ++ listText b.body b.decl.named) post []
    rwa [List.append_nil, ← hbody, ← byteLength_append, ← hbody, byteLength_append, hstop] at this
  simp only [ImportBlock.resorted, hnamed] at hpre hpost ⊢
  rw [hpre, hpost]

/-- Sorting moves characters around and keeps them all. -/
theorem ImportBlock.resorted_body_perm {b : ImportBlock} (h : b.Proper) (ignoreCase : Bool) :
    (b.resorted ignoreCase).body.Perm b.body := by
  cases hnamed : b.decl.named with
  | nil =>
    simp only [ImportBlock.resorted, hnamed]
    exact .refl _
  | cons first rest =>
    obtain ⟨pre, post, hbody, hresorted, -⟩ := b.resorted_body h ignoreCase hnamed
    have hlist := relistText_perm b.body (sortSpecifiers_perm ignoreCase b.decl.named)
    have hall := (hlist.append_left pre).append_right post
    rwa [← hbody, ← hresorted] at hall

/-! ## Entries in their new places -/

theorem relaid_length (text : List Char) (n : Nat) (order : List Specifier)
    (gaps : List (List Char)) :
    (relaid text n order gaps).length = order.length := by
  induction order generalizing n gaps with
  | nil => rfl
  | cons s rest ih => rw [relaid, List.length_cons, List.length_cons, ih]

/-- Nothing but the places of specifiers changes. -/
theorem relaid_map {α : Type} (f : SpecifierKind → String → α) (text : List Char) (n : Nat)
    (order : List Specifier) (gaps : List (List Char)) :
    (relaid text n order gaps).map (fun s => f s.kind s.name) =
      order.map (fun s => f s.kind s.name) := by
  induction order generalizing n gaps with
  | nil => rfl
  | cons s rest ih => rw [relaid, List.map_cons, List.map_cons, ih]

theorem InLine.single {text : List Char} {outer s : Span} (hproper : s.start < s.stop)
    (hstart : IsBoundary text s.start) (hstop : IsBoundary text s.stop)
    (hlo : outer.start ≤ s.start) (hhi : s.stop ≤ outer.stop) : InLine text outer [s] :=
  ⟨List.forall_mem_singleton.2 hproper, List.forall_mem_singleton.2 ⟨hlo, hhi⟩,
    List.forall_mem_singleton.2 ⟨hstart, hstop⟩, List.pairwise_singleton ..⟩

/-- Two rows of spans, the second where the first ends. -/
theorem InLine.append {text : List Char} {i mid j : Nat} {xs ys : List Span}
    (hx : InLine text ⟨i, mid⟩ xs) (hy : InLine text ⟨mid, j⟩ ys) (hlo : i ≤ mid) (hhi : mid ≤ j) :
    InLine text ⟨i, j⟩ (xs ++ ys) :=
  inLine_iff_laidOut.2 ⟨hx.laidOut.append hy.laidOut hlo hhi,
    List.forall_mem_append.2 ⟨hx.proper, hy.proper⟩⟩

/-- There is something between two boundaries that differ. -/
theorem sliceOf_ne_nil {text : List Char} {i j : Nat} (hi : IsBoundary text i)
    (hj : IsBoundary text j) (hij : i < j) : sliceOf text i j ≠ [] := by
  obtain ⟨m, hm⟩ := exists_between? hi hj (Nat.le_of_lt hij)
  obtain ⟨a, b, -, -, hlen⟩ := between?_eq_some_iff.1 hm
  rw [sliceOf, hm, Option.getD_some]
  rintro rfl
  rw [byteLength_nil] at hlen
  omega

/-- The woven specifiers stand one after another where they are listed. -/
theorem relaid_laidOut (text : List Char) (order : List Specifier) (gaps : List (List Char))
    (pre post : List Char) :
    LaidOut (pre ++ woven (specifierTexts text order) gaps ++ post)
      ⟨byteLength pre, byteLength pre + byteLength (woven (specifierTexts text order) gaps)⟩
      ((relaid text (byteLength pre) order gaps).map Specifier.span) := by
  induction order generalizing pre gaps with
  | nil => exact .nil _
  | cons s rest ih =>
    generalize hpiece : sliceOf text s.span.start s.span.stop = piece at *
    generalize hgap : gaps.headD [] = gap at *
    have hrow := ih gaps.tail (pre ++ piece ++ gap)
    simp only [specifierTexts, List.map_cons, woven, relaid, hpiece, hgap]
    simp only [byteLength_append, List.append_assoc, specifierTexts] at hrow ⊢
    generalize hmore :
      woven (rest.map fun s => sliceOf text s.span.start s.span.stop) gaps.tail = more at *
    have hfirst : LaidOut (pre ++ (piece ++ (gap ++ (more ++ post))))
        ⟨byteLength pre, byteLength pre + (byteLength piece + byteLength gap)⟩
        [⟨byteLength pre, byteLength pre + byteLength piece⟩] := by
      refine (LaidOut.single (Nat.le_add_right ..) ⟨⟨pre, _, rfl, rfl⟩, ?_⟩).within
        (Nat.le_refl _) ?_
      · exact ⟨pre ++ piece, gap ++ (more ++ post), (List.append_assoc ..).symm,
          byteLength_append ..⟩
      · simp only
        omega
    have hall :=
      hfirst.append (j := byteLength pre + (byteLength piece + (byteLength gap + byteLength more)))
      (by simpa only [Nat.add_assoc] using hrow) (by omega) (by omega)
    simpa only [Nat.add_assoc, List.singleton_append] using hall

/-- Specifiers with texts are not empty where they are listed. -/
theorem relaid_proper {text : List Char} {order : List Specifier}
    (hne : ∀ s ∈ order, sliceOf text s.span.start s.span.stop ≠ []) (n : Nat)
    (gaps : List (List Char)) :
    ∀ s ∈ (relaid text n order gaps).map Specifier.span, s.start < s.stop := by
  induction order generalizing n gaps with
  | nil => exact fun s hs => (List.not_mem_nil hs).elim
  | cons s rest ih =>
    obtain ⟨hs, hrest⟩ := List.forall_mem_cons.1 hne
    refine List.forall_mem_cons.2 ⟨?_, ih hrest _ _⟩
    exact Nat.lt_add_of_pos_right (byteLength_pos hs)

/-- What stands before a part of a text stays in line when that part changes. -/
theorem InLine.front {pre x : List Char} {outer : Span} {spans : List Span}
    (h : InLine (pre ++ x) outer spans) (hends : ∀ s ∈ spans, s.stop ≤ byteLength pre)
    (y : List Char) :
    InLine (pre ++ y) ⟨outer.start, byteLength pre⟩ spans := by
  have hcut : ∀ n, IsBoundary (pre ++ x) n → n ≤ byteLength pre → IsBoundary (pre ++ y) n := by
    intro n hn hle
    obtain ⟨c, d, rfl, hc⟩ := hn.split rfl hle
    exact ⟨c, d ++ y, List.append_assoc .., hc⟩
  refine ⟨h.proper, fun s hs => ⟨(h.inside s hs).1, hends s hs⟩, fun s hs => ?_, h.apart⟩
  have hproper := h.proper s hs
  have hend := hends s hs
  exact ⟨hcut _ (h.cuts s hs).1 (by omega), hcut _ (h.cuts s hs).2 hend⟩

/-- What stands after a part of a text stays in line when that part changes and keeps
its length. -/
theorem InLine.back {x y post : List Char} {outer : Span} {spans : List Span}
    (h : InLine (x ++ post) outer spans) (hlen : byteLength x = byteLength y)
    (hstarts : ∀ s ∈ spans, byteLength x ≤ s.start) :
    InLine (y ++ post) ⟨byteLength y, outer.stop⟩ spans := by
  have hcut : ∀ n, IsBoundary (x ++ post) n → byteLength x ≤ n → IsBoundary (y ++ post) n := by
    intro n hn hle
    have hbound := hn.le
    rw [byteLength_append] at hbound
    rw [← List.append_nil (x ++ post)] at hn
    have := (hn.inner hle hbound).outer y []
    rwa [← hlen, Nat.add_sub_cancel' hle, List.append_nil] at this
  refine ⟨h.proper, fun s hs => ⟨hlen ▸ hstarts s hs, (h.inside s hs).2⟩, fun s hs => ?_, h.apart⟩
  have hproper := h.proper s hs
  have hstart := hstarts s hs
  exact ⟨hcut _ (h.cuts s hs).1 hstart, hcut _ (h.cuts s hs).2 (by omega)⟩

/-- A part of a text is replaced by one of the same length, and the spans in it by
others. -/
theorem InLine.replace {pre old new post : List Char} {i j : Nat} {xs ys zs ys' : List Span}
    (h : InLine (pre ++ old ++ post) ⟨i, j⟩ (xs ++ ys ++ zs))
    (hlen : byteLength old = byteLength new) (hx : ∀ s ∈ xs, s.stop ≤ byteLength pre)
    (hz : ∀ s ∈ zs, byteLength pre + byteLength old ≤ s.start)
    (hy : InLine (pre ++ new ++ post) ⟨byteLength pre, byteLength pre + byteLength new⟩ ys')
    (hi : i ≤ byteLength pre) (hj : byteLength pre + byteLength new ≤ j) :
    InLine (pre ++ new ++ post) ⟨i, j⟩ (xs ++ ys' ++ zs) := by
  have hxs := h.sublist ((List.sublist_append_left xs ys).trans (List.sublist_append_left ..))
  have hzs := h.sublist (List.sublist_append_right (xs ++ ys) zs)
  rw [List.append_assoc] at hxs
  have hfront := hxs.front hx (new ++ post)
  have hback := hzs.back (y := pre ++ new) (by simp only [byteLength_append, hlen])
    (by simpa only [byteLength_append] using hz)
  rw [← List.append_assoc] at hfront
  rw [byteLength_append] at hback
  exact (hfront.append hy hi (Nat.le_add_right ..)).append hback
    (Nat.le_trans hi (Nat.le_add_right ..)) hj

/-! ## Braced lists in one piece -/

/-- The specifiers before the braced list, the list, and the specifiers after it. -/
structure Braces (specs before list after : List Specifier) : Prop where
  /-- there is nothing else -/
  eq : specs = before ++ list ++ after
  /-- what comes before is not in the list -/
  before : ∀ s ∈ before, s.kind ≠ .named
  /-- the entries of the list -/
  list : ∀ s ∈ list, s.kind = .named
  /-- what comes after is not in the list -/
  after : ∀ s ∈ after, s.kind ≠ .named

/-- A list is in one piece exactly if the specifiers can be split into those before, in
and after the braces. -/
theorem namedTogether_iff {d : ImportDecl} :
    NamedTogether d ↔ ∃ before list after, Braces d.specifiers before list after := by
  constructor
  · intro h
    refine ⟨d.specifiers.takeWhile (·.kind ≠ .named),
      (d.specifiers.dropWhile (·.kind ≠ .named)).takeWhile (·.kind = .named), _, ?_, ?_, ?_, h⟩
    · rw [List.append_assoc, List.takeWhile_append_dropWhile, List.takeWhile_append_dropWhile]
    · intro s hs
      simpa using List.all_eq_true.1 List.all_takeWhile s hs
    · intro s hs
      simpa using List.all_eq_true.1 List.all_takeWhile s hs
  · rintro ⟨before, list, after, heq, hbefore, hlist, hafter⟩
    intro s hs
    rw [heq, List.append_assoc, List.dropWhile_append_of_pos (by simpa using hbefore)] at hs
    cases list with
    | nil =>
      have hnil : after.dropWhile (·.kind ≠ .named) = [] :=
        List.dropWhile_eq_nil_iff.2 (by simpa using hafter)
      rw [List.nil_append, hnil] at hs
      cases hs
    | cons e list =>
      have he := hlist e List.mem_cons_self
      rw [List.cons_append, List.dropWhile_cons_of_neg (by simpa using he), ← List.cons_append,
        List.dropWhile_append_of_pos (by simpa using hlist)] at hs
      exact hafter s ((List.dropWhile_sublist _).mem hs)

theorem Braces.named {d : ImportDecl} {before list after : List Specifier}
    (h : Braces d.specifiers before list after) : d.named = list := by
  have hbefore : before.filter (·.kind = .named) = [] :=
    List.filter_eq_nil_iff.2 fun s hs => by simpa using h.before s hs
  have hlist : list.filter (·.kind = .named) = list :=
    List.filter_eq_self.2 fun s hs => by simpa using h.list s hs
  have hafter : after.filter (·.kind = .named) = [] :=
    List.filter_eq_nil_iff.2 fun s hs => by simpa using h.after s hs
  rw [ImportDecl.named, h.eq, List.filter_append, List.filter_append, hbefore, hlist, hafter,
    List.nil_append, List.append_nil]

theorem putNamed_of_forall_ne {specs : List Specifier} (h : ∀ s ∈ specs, s.kind ≠ .named)
    (more new : List Specifier) : putNamed (specs ++ more) new = specs ++ putNamed more new := by
  induction specs with
  | nil => rfl
  | cons s specs ih =>
    obtain ⟨hs, hspecs⟩ := List.forall_mem_cons.1 h
    rw [List.cons_append, putNamed, if_neg hs, ih hspecs, List.cons_append]

/-- As many new entries as there are old ones replace them one by one. -/
theorem putNamed_of_forall_eq {specs new : List Specifier} (h : ∀ s ∈ specs, s.kind = .named)
    (hlen : new.length = specs.length) (more : List Specifier) :
    putNamed (specs ++ more) new = new ++ putNamed more [] := by
  induction specs generalizing new with
  | nil =>
    obtain rfl := List.eq_nil_of_length_eq_zero hlen
    rfl
  | cons s specs ih =>
    obtain ⟨hs, hspecs⟩ := List.forall_mem_cons.1 h
    obtain _ | ⟨t, new⟩ := new
    · cases hlen
    · rw [List.cons_append, putNamed, if_pos hs, List.headD_cons, List.tail_cons,
        ih hspecs (Nat.succ.inj hlen), List.cons_append]

/-- The new entries take the place of the old ones. -/
theorem Braces.putNamed {specs before list after new : List Specifier}
    (h : Braces specs before list after) (hlen : new.length = list.length)
    (hnew : ∀ s ∈ new, s.kind = .named) :
    Braces (putNamed specs new) before new after := by
  refine ⟨?_, h.before, hnew, h.after⟩
  have hafter := putNamed_of_forall_ne h.after [] []
  rw [List.append_nil] at hafter
  rw [h.eq, List.append_assoc, putNamed_of_forall_ne h.before, putNamed_of_forall_eq h.list hlen,
    hafter, List.append_assoc]
  rw [ImportOrder.putNamed, List.append_nil]

/-- What comes before the braced list ends before it starts, and what comes after starts
after its end. -/
theorem Braces.around {text : List Char} {outer : Span} {specs before after rest : List Specifier}
    {first : Specifier} (hbraces : Braces specs before (first :: rest) after)
    (h : InLine text outer (specs.map Specifier.span)) :
    (∀ s ∈ before.map Specifier.span, s.stop ≤ (listSpan first rest).start) ∧
      ∀ s ∈ after.map Specifier.span, (listSpan first rest).stop ≤ s.start := by
  have hapart := h.apart
  rw [hbraces.eq, List.map_append, List.map_append] at hapart
  obtain ⟨hfront, -, hafter⟩ := List.pairwise_append.1 hapart
  obtain ⟨-, -, hbefore⟩ := List.pairwise_append.1 hfront
  refine ⟨fun s hs => hbefore s hs first.span List.mem_cons_self, fun s hs => ?_⟩
  exact hafter _ (List.mem_append_right _ (List.mem_map_of_mem (List.getLast_mem _))) s hs

/-- A sorted list is not unsorted, so sorting leaves nothing to report. -/
theorem sortSpecifiers_sorted (ignoreCase : Bool) (specs : List Specifier) :
    specifiersUnsorted ignoreCase (sortSpecifiers ignoreCase specs) = false :=
  specifiersUnsorted_eq_false.2 (pairwise_mergeSort_precedes ignoreCase Specifier.name specs)

/-- Listing entries anew leaves them in the order in which they are. -/
theorem relaid_unsorted (ignoreCase : Bool) (text : List Char) (n : Nat) (order : List Specifier)
    (gaps : List (List Char)) :
    specifiersUnsorted ignoreCase (relaid text n order gaps) =
      specifiersUnsorted ignoreCase order := by
  induction order generalizing n gaps with
  | nil => rfl
  | cons s rest ih =>
    cases rest with
    | nil => rfl
    | cons t rest => exact congrArg (compareSpecifiers ignoreCase s t == .gt || ·) (ih _ _)

/-- Entries that are listed anew are still entries. -/
theorem relaid_named {specs : List Specifier} (h : ∀ s ∈ specs, s.kind = .named)
    (text : List Char) (n : Nat) (gaps : List (List Char)) :
    ∀ s ∈ relaid text n specs gaps, s.kind = .named := by
  intro s hs
  have hmem : s.kind ∈ (relaid text n specs gaps).map Specifier.kind := List.mem_map_of_mem hs
  rw [relaid_map (fun kind _ => kind)] at hmem
  obtain ⟨t, ht, hkind⟩ := List.mem_map.1 hmem
  rw [← hkind]
  exact h t ht

/-- The sorted list takes the place of the old one. -/
theorem ImportBlock.resorted_braces {b : ImportBlock} {before list after rest : List Specifier}
    {first : Specifier} (hbraces : Braces b.decl.specifiers before list after)
    (hnamed : b.decl.named = first :: rest) (ignoreCase : Bool) :
    Braces (b.resorted ignoreCase).decl.specifiers before
      (relaid b.body (listSpan first rest).start (sortSpecifiers ignoreCase b.decl.named)
        (gapsBetween b.body b.decl.named)) after := by
  have hperm := sortSpecifiers_perm ignoreCase b.decl.named
  have hsorted : ∀ s ∈ sortSpecifiers ignoreCase b.decl.named, s.kind = .named := fun s hs =>
    hbraces.list s (hbraces.named ▸ hperm.mem_iff.1 hs)
  have hspecifiers : (b.resorted ignoreCase).decl.specifiers = putNamed b.decl.specifiers
      (relaid b.body (listSpan first rest).start (sortSpecifiers ignoreCase b.decl.named)
        (gapsBetween b.body b.decl.named)) := by
    simp only [ImportBlock.resorted, hnamed]
  rw [hspecifiers]
  refine hbraces.putNamed ?_ (relaid_named hsorted _ _ _)
  rw [relaid_length, hperm.length_eq, hbraces.named]

/-- The specifiers of a sorted block stand in line. The list keeps its length, so the
specifiers before and after the braces stay where they are. -/
theorem ImportBlock.resorted_inLine {b : ImportBlock} (h : b.Proper)
    {before list after rest : List Specifier} {first : Specifier}
    (hbraces : Braces b.decl.specifiers before list after) (hnamed : b.decl.named = first :: rest)
    (ignoreCase : Bool) :
    InLine (b.resorted ignoreCase).body b.decl.span
      ((b.resorted ignoreCase).decl.specifiers.map Specifier.span) := by
  obtain ⟨pre, post, hbody, hresorted, hstart, hstop⟩ := b.resorted_body h ignoreCase hnamed
  have hlist : list = first :: rest := hbraces.named.symm.trans hnamed
  have hold := h.specifiers
  have hne : ∀ s ∈ sortSpecifiers ignoreCase b.decl.named,
      sliceOf b.body s.span.start s.span.stop ≠ [] := by
    intro s hs
    have hmem : s.span ∈ b.decl.named.map Specifier.span :=
      List.mem_map_of_mem ((sortSpecifiers_perm ignoreCase b.decl.named).mem_iff.1 hs)
    exact sliceOf_ne_nil (h.named.cuts _ hmem).1 (h.named.cuts _ hmem).2 (h.named.proper _ hmem)
  have hrow := inLine_iff_laidOut.2
    ⟨relaid_laidOut b.body _ (gapsBetween b.body b.decl.named) pre post, relaid_proper hne _ _⟩
  rw [← relistText] at hrow
  obtain ⟨hbefore, hafter⟩ := (hlist ▸ hbraces).around hold
  have hlen := byteLength_perm (b.resorted_body_perm h ignoreCase)
  rw [hbody, hresorted] at hlen
  simp only [byteLength_append] at hlen
  rw [hbraces.eq, List.map_append, List.map_append, hbody, h.span] at hold
  rw [hresorted, (b.resorted_braces hbraces hnamed ignoreCase).eq, List.map_append, List.map_append,
    h.span, ← hstart]
  refine hold.replace (by omega) (hstart ▸ hbefore) (hstop ▸ hafter) hrow (Nat.zero_le _) ?_
  have htotal := congrArg byteLength hbody
  simp only [byteLength_append] at htotal
  omega

/-- **A sorted block** still describes its body, its list is in one piece, and it is
sorted. -/
theorem ImportBlock.resorted_spec {b : ImportBlock} (h : b.Proper)
    (htogether : NamedTogether b.decl) (ignoreCase : Bool) :
    (b.resorted ignoreCase).Proper ∧ NamedTogether (b.resorted ignoreCase).decl ∧
      (b.resorted ignoreCase).decl.unsorted ignoreCase = false := by
  cases hnamed : b.decl.named with
  | nil =>
    have hsame : b.resorted ignoreCase = b := by simp only [ImportBlock.resorted, hnamed]
    rw [hsame]
    refine ⟨h, htogether, ?_⟩
    rw [ImportDecl.unsorted, hnamed]
    rfl
  | cons first rest =>
    obtain ⟨before, list, after, hbraces⟩ := namedTogether_iff.1 htogether
    have hnew := b.resorted_braces hbraces hnamed ignoreCase
    have hperm := b.resorted_body_perm h ignoreCase
    have hspan : (b.resorted ignoreCase).decl.span = b.decl.span := by
      simp only [ImportBlock.resorted, hnamed]
    refine ⟨⟨?_, fun hnil => ?_, ?_⟩, namedTogether_iff.2 ⟨_, _, _, hnew⟩, ?_⟩
    · rw [hspan, wholeSpan, byteLength_perm hperm, ← wholeSpan, ← h.span]
    · rw [hnil] at hperm
      exact h.body hperm.symm.eq_nil
    · rw [hspan]
      exact b.resorted_inLine h hbraces hnamed ignoreCase
    · rw [ImportDecl.unsorted, hnew.named]
      rw [relaid_unsorted, sortSpecifiers_sorted]

end ImportOrder
