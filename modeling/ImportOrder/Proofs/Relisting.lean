import ImportOrder.Proofs.Script
import ImportOrder.Proofs.StableOrder
import ImportOrder.Text.Braces

/-!
# Sorting a braced list twice

The fix for a braced list moves the texts of its entries and leaves what stands between
them where it is. So every offset inside the list may change, while the list as a whole
keeps its length and its lines. `specifierFix_sorts` says what the fix does and that it
is final: with its entries listed where their texts have come to stand, the import is
sorted, and its fix writes what is there already.

* `specifierTexts_relaid`, `gapsBetween_relaid` — the entries are listed where their
  texts are, with the old separators between them;
* `specifierFix_relaid` — the fix of a list that has been woven from sorted entries.

Nothing is assumed of the other specifiers of the import, nor of the place of the import
itself, and the entries may be empty.
-/

namespace ImportOrder

/-! ## The import with another list -/

/-- The import with other entries in its braced list. -/
def ImportDecl.relist (d : ImportDecl) (entries : List Specifier) : ImportDecl :=
  { d with specifiers := putNamed d.specifiers entries }

/-- As many entries as there were make up the new list. -/
theorem ImportDecl.named_relist {d : ImportDecl} {entries : List Specifier}
    (hlen : entries.length = d.named.length) (hnamed : ∀ s ∈ entries, s.kind = .named) :
    (d.relist entries).named = entries := by
  simp only [relist, named] at hlen ⊢
  generalize d.specifiers = specs at hlen ⊢
  induction specs generalizing entries with
  | nil => exact (List.eq_nil_of_length_eq_zero hlen).symm
  | cons s specs ih =>
    by_cases hs : s.kind = .named
    · rw [List.filter_cons_of_pos (by simpa using hs)] at hlen
      obtain _ | ⟨e, entries⟩ := entries
      · cases hlen
      · obtain ⟨he, hentries⟩ := List.forall_mem_cons.1 hnamed
        rw [putNamed, if_pos hs, List.headD_cons, List.tail_cons,
          List.filter_cons_of_pos (by simpa using he), ih hentries (Nat.succ.inj hlen)]
    · rw [List.filter_cons_of_neg (by simpa using hs)] at hlen
      rw [putNamed, if_neg hs, List.filter_cons_of_neg (by simpa using hs), ih hnamed hlen]

/-! ## Where the texts have come to stand -/

section

variable (text : List Char) (order : List Specifier) (gaps : List (List Char))
    (pre post : List Char)

/-- The text with the entries woven into it. -/
def wovenIn : List Char := pre ++ woven (specifierTexts text order) gaps ++ post

/-- Weaving in the first entry and the gap after it makes the text before the others
longer. -/
theorem wovenIn_cons (s : Specifier) : wovenIn text (s :: order) gaps pre post =
    wovenIn text order gaps.tail (pre ++ sliceOf text s.span.start s.span.stop ++ gaps.headD [])
      post := by
  simp only [wovenIn, specifierTexts, List.map_cons, woven, List.append_assoc]

/-- **Entries are listed where their texts are.** -/
theorem specifierTexts_relaid : specifierTexts (wovenIn text order gaps pre post)
    (relaid text (byteLength pre) order gaps) = specifierTexts text order := by
  induction order generalizing pre gaps with
  | nil => rfl
  | cons s rest ih =>
    generalize hpiece : sliceOf text s.span.start s.span.stop = piece
    have hcons := wovenIn_cons text rest gaps pre post s
    rw [hpiece] at hcons
    have hlater := ih gaps.tail (pre ++ piece ++ gaps.headD [])
    rw [← hcons, byteLength_append, byteLength_append] at hlater
    have hfirst :=
      sliceOf_append pre piece
        (gaps.headD [] ++ (woven (specifierTexts text rest) gaps.tail ++ post))
    rw [← List.append_assoc, ← List.append_assoc, ← wovenIn, ← hcons] at hfirst
    rw [relaid, hpiece]
    exact congrArg₂ List.cons (hfirst.trans hpiece.symm) hlater

/-- **Separators stay between the entries that are woven with them.** -/
theorem gapsBetween_relaid (h : gaps.length = order.length - 1) :
    gapsBetween (wovenIn text order gaps pre post) (relaid text (byteLength pre) order gaps) =
      gaps := by
  induction order generalizing pre gaps with
  | nil => exact (List.eq_nil_of_length_eq_zero h).symm
  | cons s rest ih =>
    cases rest with
    | nil => exact (List.eq_nil_of_length_eq_zero h).symm
    | cons t rest =>
      obtain _ | ⟨gap, gaps⟩ := gaps
      · cases h
      generalize hpiece : sliceOf text s.span.start s.span.stop = piece
      have hlater := ih gaps (pre ++ piece ++ gap) (Nat.succ.inj h)
      have hcons := wovenIn_cons text (t :: rest) (gap :: gaps) pre post s
      simp only [hpiece, List.headD_cons, List.tail_cons] at hcons
      rw [← hcons, byteLength_append, byteLength_append] at hlater
      have hgap :=
        sliceOf_append (pre ++ piece) gap (woven (specifierTexts text (t :: rest)) gaps ++ post)
      rw [← List.append_assoc, ← wovenIn, ← hcons, byteLength_append] at hgap
      rw [relaid, hpiece, List.headD_cons, List.tail_cons]
      exact congrArg₂ List.cons hgap hlater

end

/-! ## The fix of a woven list -/

/-- Sorting a sorted list changes nothing, since it is stable. -/
theorem sortSpecifiers_eq_self {ignoreCase : Bool} {specs : List Specifier}
    (h : specifiersUnsorted ignoreCase specs = false) : sortSpecifiers ignoreCase specs = specs :=
  List.mergeSort_of_pairwise (specifiersUnsorted_eq_false.1 h)

/-- Sorting a list is a stable sort by the names in their comparable form. -/
theorem sortSpecifiers_stable (ignoreCase : Bool) (specs : List Specifier) :
    StablySorted (fun s => comparable ignoreCase s.name) specs
      (sortSpecifiers ignoreCase specs) := by
  have hle : (fun a b : Specifier => compareSpecifiers ignoreCase a b != .gt) =
      fun a b => decide (comparable ignoreCase a.name ≤ comparable ignoreCase b.name) := by
    funext a b
    exact Bool.eq_iff_iff.2 (precedes_iff_le.trans decide_eq_true_iff.symm)
  rw [sortSpecifiers, hle]
  exact stablySorted_mergeSort (fun s : Specifier => comparable ignoreCase s.name) specs

/-- **The fix of a list woven from sorted entries** writes what is there. The list
begins where the first text does, and it has the length of the woven texts. -/
theorem specifierFix_relaid {text pre post : List Char} {order : List Specifier}
    {gaps : List (List Char)} {ignoreCase : Bool} (hne : order ≠ [])
    (hgaps : gaps.length = order.length - 1) (hsorted : specifiersUnsorted ignoreCase order = false)
    {e : ImportDecl} (he : e.named = relaid text (byteLength pre) order gaps) :
    specifierFix (String.ofList (wovenIn text order gaps pre post)) ignoreCase e =
      .ok (some
        ⟨⟨byteLength pre, byteLength pre + byteLength (woven (specifierTexts text order) gaps)⟩,
          String.ofList (woven (specifierTexts text order) gaps)⟩) := by
  obtain ⟨s, rest, rfl⟩ := List.exists_cons_of_ne_nil hne
  have hlaid := relaid_laidOut text (s :: rest) gaps pre post
  have htexts := specifierTexts_relaid text (s :: rest) gaps pre post
  have hbetween := gapsBetween_relaid text (s :: rest) gaps pre post hgaps
  rw [← wovenIn] at hlaid
  rw [← relaid_unsorted ignoreCase text (byteLength pre) (s :: rest) gaps] at hsorted
  rw [← he] at hlaid htexts hbetween hsorted
  obtain ⟨first, later, hfirst, hstart⟩ :
      ∃ first later, e.named = first :: later ∧ first.span.start = byteLength pre :=
    ⟨_, _, he, rfl⟩
  obtain ⟨_, _, -, hopen, hclose⟩ := exists_weave (hfirst ▸ hlaid)
  rw [← hfirst, listText, htexts, hbetween, hopen] at hclose
  have hspan : listSpan first later =
      ⟨byteLength pre,
        byteLength pre + byteLength (woven (specifierTexts text (s :: rest)) gaps)⟩ :=
    Span.eq_of_ends hstart (by rw [← hclose, ← hstart]; rfl)
  rw [specifierFix_eq hfirst (by rw [String.toList_ofList]; exact hlaid),
    sortSpecifiers_eq_self hsorted, String.toList_ofList, relistText, htexts, hbetween, hspan]

/-! ## Sorting, and sorting again -/

/-- **Sorting a braced list is final.** For an import whose entries stand in a text one
after another, and which has at least one, the fix exists and reaches from the first
entry to the last. It writes the texts of the entries, stably sorted by name, with the
old separators between them, so it writes as many bytes and as many line breaks as there
were, because it writes the same characters, and it writes the old text if the list was
sorted. In the new text the entries stand where `relaid` lists them. Listed there they
are sorted, and the fix they get changes nothing. -/
theorem specifierFix_sorts (text : String) (ignoreCase : Bool) (d : ImportDecl) (hne : d.named ≠ [])
    (h : LaidOut text.toList (wholeSpan text.toList) (d.named.map Specifier.span)) :
    ∃ order fix old out,
      StablySorted (fun s => comparable ignoreCase s.name) d.named order ∧
      specifierFix text ignoreCase d = .ok (some fix) ∧
      fix.span = ⟨(d.named.head hne).span.start, (d.named.getLast hne).span.stop⟩ ∧
      fix.replacement.toList =
        woven (specifierTexts text.toList order) (gapsBetween text.toList d.named) ∧
      fix.span.slice text = .ok old ∧
      byteLength fix.replacement.toList = byteLength old.toList ∧
      lineBreaks fix.replacement.toList = lineBreaks old.toList ∧
      (d.unsorted ignoreCase = false → fix.replacement = old) ∧
      Fix.applyAll text [fix] = .ok out ∧
      ∃ entries,
        entries = relaid text.toList fix.span.start order (gapsBetween text.toList d.named) ∧
        specifierTexts out.toList entries = specifierTexts text.toList order ∧
        gapsBetween out.toList entries = gapsBetween text.toList d.named ∧
        (d.relist entries).named = entries ∧
        (d.relist entries).unsorted ignoreCase = false ∧
        specifierFix out ignoreCase (d.relist entries) = .ok (some fix) ∧
          Fix.applyAll out [fix] = .ok out := by
  obtain ⟨first, rest, hnamed⟩ := List.exists_cons_of_ne_nil hne
  obtain ⟨pre, post, htext, hopen, hclose⟩ := exists_weave (hnamed ▸ h)
  rw [← hnamed] at htext hclose
  have hspan : listSpan first rest =
      ⟨byteLength pre, byteLength pre + byteLength (listText text.toList d.named)⟩ :=
    Span.eq_of_ends hopen.symm hclose.symm
  have hends :
      listSpan first rest = ⟨(d.named.head hne).span.start, (d.named.getLast hne).span.stop⟩ := by
    simp only [listSpan, hnamed, List.head_cons]
  have hfix : specifierFix text ignoreCase d = _ := specifierFix_eq hnamed h
  have hperm := sortSpecifiers_perm ignoreCase d.named
  have hsame : d.unsorted ignoreCase = false →
      relistText text.toList d.named (sortSpecifiers ignoreCase d.named) =
      listText text.toList d.named := by
    intro hsorted
    rw [sortSpecifiers_eq_self hsorted]
    rfl
  have hstable := sortSpecifiers_stable ignoreCase d.named
  have hsorted := sortSpecifiers_sorted ignoreCase d.named
  generalize sortSpecifiers ignoreCase d.named = order at *
  have hchars := relistText_perm text.toList hperm
  have hlength := byteLength_perm hchars
  have hgaps : (gapsBetween text.toList d.named).length = order.length - 1 := by
    rw [gapsBetween_length, hperm.length_eq]
  have horder : order ≠ [] := fun hnil => hne (hnil ▸ hperm).symm.eq_nil
  have hslice :
      (listSpan first rest).slice text = .ok (String.ofList (listText text.toList d.named)) :=
    Span.slice_eq_ok_iff.2
      (between?_eq_some_iff.2 ⟨pre, post, htext, hopen, by rw [← hopen, hclose]⟩)
  have happly :=
    applyAll_swap pre (listText text.toList d.named) (relistText text.toList d.named order) post
  rw [← htext, String.ofList_toList, ← hspan] at happly
  refine ⟨order, _, _, _, hstable, hfix, hends, String.toList_ofList, hslice, ?_, ?_, ?_,
    happly, _, rfl, ?_⟩
  · simpa only [String.toList_ofList] using hlength
  · simpa only [String.toList_ofList] using lineBreaks_perm hchars
  · exact fun hd => congrArg String.ofList (hsame hd)
  · rw [← hopen, String.toList_ofList]
    have hkinds : ∀ s ∈ order, s.kind = .named := fun s hs =>
      of_decide_eq_true (List.mem_filter.1 (hperm.mem_iff.1 hs)).2
    have hlist := d.named_relist (by rw [relaid_length, hperm.length_eq])
      (relaid_named hkinds text.toList (byteLength pre) (gapsBetween text.toList d.named))
    refine ⟨specifierTexts_relaid .., gapsBetween_relaid _ _ _ _ _ hgaps, hlist, ?_, ?_, ?_⟩
    · rw [ImportDecl.unsorted, hlist, relaid_unsorted, hsorted]
    · rw [hspan, ← hlength]
      exact specifierFix_relaid horder hgaps hsorted hlist
    · rw [hspan, ← hlength]
      exact applyAll_swap ..

/-- Two entries bind one name, and before them comes a longer entry with a character of
two bytes, which was second and on another line. The specifier that is not in the list
is nowhere in the text. -/
theorem specifierFix_sorts_ties :
    let text := braced "b,\n á as a, c as b"
    let out := braced "á as a,\n b, c as b"
    let d : ImportDecl :=
      ⟨⟨9, 4⟩, 1, 1, some .value, "m",
        [⟨.default, "z", ⟨40, 30⟩⟩, ⟨.named, "b", ⟨1, 2⟩⟩, ⟨.named, "a", ⟨5, 12⟩⟩,
          ⟨.named, "b", ⟨14, 20⟩⟩]⟩
    d.named ≠ [] ∧ LaidOut text.toList (wholeSpan text.toList) (d.named.map Specifier.span) ∧
      specifierFix text false d = .ok (some ⟨⟨1, 20⟩, "á as a,\n b, c as b"⟩) ∧
      ∃ entries, (d.relist entries).named = entries ∧ (d.relist entries).unsorted false = false ∧
        specifierFix out false (d.relist entries) =
          .ok (some ⟨⟨1, 20⟩, "á as a,\n b, c as b"⟩) := by
  intro text out d
  have hne : d.named ≠ [] := by decide
  have hlaid : LaidOut text.toList (wholeSpan text.toList) (d.named.map Specifier.span) := by decide
  obtain ⟨order, fix, old, out', -, hfix, -, -, -, -, -, -, hout, entries, -, -, -, hlist, hsorted,
      hagain, -⟩ :=
    specifierFix_sorts text false d hne hlaid
  have hfix' : specifierFix text false d = .ok (some ⟨⟨1, 20⟩, "á as a,\n b, c as b"⟩) := by
    let a : Specifier := ⟨.named, "a", ⟨5, 12⟩⟩
    let b : Specifier := ⟨.named, "b", ⟨1, 2⟩⟩
    let c : Specifier := ⟨.named, "b", ⟨14, 20⟩⟩
    have hlisted : d.named = [b, a, c] := rfl
    have hgaps : separators text [b, a, c] = .ok [",\n ", ", "] := by decide +kernel
    have hordered :
        [b, a, c].mergeSort (fun x y => compareSpecifiers false x y != .gt) = [a, b, c] := by
      have hba : compareSpecifiers false b a = .gt := by decide
      have hac : compareSpecifiers false a c = .lt := by decide
      have hbc : compareSpecifiers false b c = .eq := by decide
      simp [List.mergeSort, hba, hac, hbc]
    have hpieces : [a, b, c].mapM (·.span.slice text) = .ok ["á as a", "b", "c as b"] := by
      decide +kernel
    simp only [specifierFix, hlisted]
    rw [bind_ok hgaps, hordered, bind_ok hpieces]
    rfl
  obtain rfl := Option.some.inj (Except.ok.inj (hfix.symm.trans hfix'))
  have hout' : Fix.applyAll text [⟨⟨1, 20⟩, "á as a,\n b, c as b"⟩] = .ok out := by decide +kernel
  obtain rfl := Except.ok.inj (hout.symm.trans hout')
  exact ⟨hne, hlaid, hfix', entries, hlist, hsorted, hagain⟩

end ImportOrder
