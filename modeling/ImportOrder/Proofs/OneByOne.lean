import ImportOrder.Proofs.Edits
import Mathlib.Data.List.Chain

/-!
# Fixes together and one at a time

Fixes are applied to a text together, by one walk over it. This module says what that
comes to, for any fixes with their ends in order:

* `firstConflict_eq_none_iff` — fixes in order are without conflict just if no two of
  them overlap, although only neighbours are compared;
* `foldlM_replaceIn` — the walk makes the text that single replacements make, if they
  start with the last fix: what stands before a fix is then still in its place;
* `applyAll_joint` — hence when a conflict is reported, what the text is otherwise, and
  that neither depends on how the fixes are listed.
-/

namespace ImportOrder

namespace Fix

/-- Replace the text under one fix. -/
def replaceIn (text : String) (f : Fix) : Except Fault String := do
  let front ← Span.between 0 f.span.start text.toList
  let back ← Span.between f.span.stop (byteLength text.toList) text.toList
  .ok (String.ofList (front ++ f.replacement.toList ++ back))

/-! ## Neighbours -/

/-- A fix is over when another one begins, and not both are at one point. -/
structure Ahead (a b : Fix) : Prop where
  /-- the first one has its ends in order -/
  first : a.span.start ≤ a.span.stop
  /-- it is over when the second one begins -/
  apart : a.span.stop ≤ b.span.start
  /-- and it begins before the second one ends -/
  different : a.span.start < b.span.stop
  /-- the second one has its ends in order -/
  second : b.span.start ≤ b.span.stop

instance : IsTrans Fix Ahead where
  trans _ _ _ hab hbc := by
    obtain ⟨ha, hab, hab', hb⟩ := hab
    obtain ⟨-, hbc, hbc', hc⟩ := hbc
    exact ⟨ha, by omega, by omega, hc⟩

theorem Ahead.clear {a b : Fix} (h : Ahead a b) : Clear a b :=
  Span.clear_of_stop_le h.apart h.different

/-- Of two clear fixes the one that is applied first is ahead. Otherwise both would be
at the same point, and two fixes at a point overlap there. -/
theorem ahead_of_clear {a b : Fix} (ha : a.span.start ≤ a.span.stop)
    (hb : b.span.start ≤ b.span.stop) (hab : a.before b = true) (hclear : Clear a b) :
    Ahead a b := by
  have hapart := stop_le_start_of_clear ha hb hab hclear
  refine ⟨ha, hapart, ?_, hb⟩
  by_contra hle
  have hspan : a.span = b.span := Span.eq_of_ends (by omega) (by omega)
  rw [Clear, hspan, Span.overlaps_self hb] at hclear
  cases hclear

/-- Fixes in order whose neighbours are clear are ahead of each other. -/
theorem isChain_ahead {fixes : List Fix} (hordered : ∀ f ∈ fixes, f.span.start ≤ f.span.stop)
    (hsorted : fixes.Pairwise fun a b => a.before b = true) (h : firstConflict fixes = none) :
    fixes.IsChain Ahead := by
  induction fixes with
  | nil => exact List.isChain_nil
  | cons a rest ih =>
    cases rest with
    | nil => exact List.isChain_singleton a
    | cons b rest =>
      obtain ⟨ha, hrest⟩ := List.forall_mem_cons.1 hordered
      rw [firstConflict] at h
      split at h
      · cases h
      · next hclear =>
        have hab : a.before b = true := List.rel_of_pairwise_cons hsorted List.mem_cons_self
        exact List.isChain_cons_cons.2
          ⟨ahead_of_clear ha (hrest b List.mem_cons_self) hab (Bool.eq_false_iff.2 hclear),
            ih hrest hsorted.of_cons h⟩

/-- **Comparing neighbours is enough**: fixes in order have no conflict just if no two
of them overlap. -/
theorem firstConflict_eq_none_iff {fixes : List Fix}
    (hordered : ∀ f ∈ fixes, f.span.start ≤ f.span.stop)
    (hsorted : fixes.Pairwise fun a b => a.before b = true) :
    firstConflict fixes = none ↔ fixes.Pairwise Clear :=
  ⟨fun h => (isChain_ahead hordered hsorted h).pairwise.imp Ahead.clear, firstConflict_eq_none⟩

/-- Fixes are pairwise clear unless two of them, at different places of the list,
overlap. -/
theorem not_pairwise_clear_iff {fixes : List Fix} : ¬ fixes.Pairwise Clear ↔
    ∃ i j : Fin fixes.length, i ≠ j ∧ (fixes.get i).span.overlaps (fixes.get j).span = true := by
  rw [List.pairwise_iff_get]
  constructor
  · intro h
    push Not at h
    obtain ⟨i, j, hij, hover⟩ := h
    exact ⟨i, j, Fin.ne_of_lt hij, eq_true_of_ne_false hover⟩
  · rintro ⟨i, j, hij, hover⟩ h
    rcases Fin.lt_or_lt_of_ne hij with hlt | hlt
    · rw [h i j hlt] at hover
      cases hover
    · rw [Span.overlaps_comm, h j i hlt] at hover
      cases hover

/-! ## The order of the list -/

/-- The spans come in one order, however the fixes are listed. -/
theorem map_span_inOrder {fixes others : List Fix} (hperm : others.Perm fixes) :
    (inOrder others).map span = (inOrder fixes).map span := by
  have hsorted : ∀ xs : List Fix, ((inOrder xs).map span).Pairwise fun s t =>
      s.start < t.start ∨ s.start = t.start ∧ s.stop ≤ t.stop := by
    intro xs
    exact List.pairwise_map.2 ((inOrder_pairwise xs).imp before_iff.1)
  have hspans : ((inOrder others).map span).Perm ((inOrder fixes).map span) :=
    ((inOrder_perm others).trans (hperm.trans (inOrder_perm fixes).symm)).map span
  refine hspans.eq_of_pairwise ?_ (hsorted others) (hsorted fixes)
  intro s t _ _ hst hts
  exact Span.eq_of_ends (by omega) (by omega)

/-- A conflict is a matter of spans. -/
theorem firstConflict_congr {xs ys : List Fix} (h : xs.map span = ys.map span) :
    firstConflict xs = firstConflict ys := by
  induction xs generalizing ys with
  | nil => rw [List.map_eq_nil_iff.1 h.symm]
  | cons a xs ih =>
    obtain ⟨a', ys, rfl, ha, hxs⟩ := List.map_eq_cons_iff.1 h.symm
    cases xs with
    | nil => rw [List.map_eq_nil_iff.1 hxs]; rfl
    | cons b xs =>
      obtain ⟨b', ys, rfl, hb, -⟩ := List.map_eq_cons_iff.1 hxs
      rw [firstConflict, firstConflict, ih hxs.symm, ha, hb]

/-! ## One at a time -/

/-- A replacement in a text whose parts are known. -/
theorem replaceIn_append (front old back : List Char) {f : Fix}
    (hstart : byteLength front = f.span.start)
    (hstop : byteLength front + byteLength old = f.span.stop) :
    replaceIn (String.ofList (front ++ old ++ back)) f =
      .ok (String.ofList (front ++ f.replacement.toList ++ back)) := by
  have hfront : Span.between 0 f.span.start (front ++ old ++ back) = .ok front := by
    refine Span.between_eq_ok_iff.2 (between?_eq_some_iff.2 ⟨[], old ++ back, ?_, rfl, ?_⟩)
    · rw [List.nil_append, List.append_assoc]
    · rw [Nat.zero_add, hstart]
  have hback : Span.between f.span.stop (byteLength (front ++ old ++ back)) (front ++ old ++ back) =
      .ok back := by
    refine Span.between_eq_ok_iff.2 (between?_eq_some_iff.2 ⟨front ++ old, [], ?_, ?_, ?_⟩)
    · rw [List.append_nil]
    · rw [byteLength_append, hstop]
    · rw [byteLength_append, byteLength_append, hstop]
  rw [replaceIn, String.toList_ofList, bind_ok hfront, bind_ok hback]

/-- **From the last fix to the first.** Replacing one span at a time from behind leaves
the text before a fix as it was, and what it makes of the rest is what the walk makes of
it. For each fix the text falls into what is kept before it, what is under it, and what
has been rewritten after it. -/
theorem foldlM_replaceIn (pre post : List Char) {fixes : List Fix}
    (hfits : ∀ f ∈ fixes, f.Fits (pre ++ post))
    (hfirst : ∀ f ∈ fixes, byteLength pre ≤ f.span.start)
    (hrow : fixes.Pairwise fun a b => a.span.stop ≤ b.span.start) :
    ∃ tail, splice (pre ++ post) (byteLength pre) fixes = .ok tail ∧
      fixes.reverse.foldlM replaceIn (String.ofList (pre ++ post)) =
        .ok (String.ofList (pre ++ tail)) := by
  induction fixes generalizing pre post with
  | nil =>
    refine ⟨post, Span.between_eq_ok_iff.2 (between?_eq_some_iff.2 ⟨pre, [], ?_, rfl, ?_⟩), rfl⟩
    · rw [List.append_nil]
    · rw [byteLength_append]
  | cons f rest ih =>
    obtain ⟨hf, hrest⟩ := List.forall_mem_cons.1 hfits
    obtain ⟨upto, back, htext, hstop⟩ := hf.stop
    obtain ⟨front, old, rfl, hstart⟩ := hf.start.split htext (by rw [hstop]; exact hf.ordered)
    rw [List.append_assoc] at htext
    have hpre : IsBoundary (front ++ (old ++ back)) (byteLength pre) := ⟨pre, post, htext.symm, rfl⟩
    obtain ⟨c, kept, rfl, hc⟩ := hpre.split rfl (by rw [hstart]; exact hfirst f List.mem_cons_self)
    rw [List.append_assoc] at htext
    obtain ⟨rfl, rfl⟩ := append_inj_of_byteLength htext hc.symm
    have hjoin : pre ++ (kept ++ (old ++ back)) = pre ++ kept ++ old ++ back := by
      simp only [List.append_assoc]
    rw [hjoin] at hrest ⊢
    obtain ⟨tail, hsplice, hfold⟩ := ih (pre ++ kept ++ old) back hrest
      (fun g hg => by rw [hstop]; exact List.rel_of_pairwise_cons hrow hg) hrow.of_cons
    have hkept :
        Span.between (byteLength pre) f.span.start (pre ++ kept ++ old ++ back) = .ok kept := by
      refine Span.between_eq_ok_iff.2 (between?_eq_some_iff.2 ⟨pre, old ++ back, ?_, rfl, ?_⟩)
      · rw [List.append_assoc]
      · rw [← hstart, byteLength_append]
    refine ⟨kept ++ f.replacement.toList ++ tail, ?_, ?_⟩
    · rw [splice, bind_ok hkept, ← hstop, bind_ok hsplice]
    · rw [List.reverse_cons, List.foldlM_append, bind_ok hfold, List.foldlM_cons,
        bind_ok (replaceIn_append (pre ++ kept) old tail hstart
          (by rw [← byteLength_append, hstop]))]
      simp only [List.foldlM_nil, List.append_assoc]
      rfl

/-! ## Any fixes -/

/-- A conflict is reported just if the fixes in order have one. -/
theorem applyAll_eq_conflict {text : String} {fixes : List Fix} {c : Conflict} :
    applyAll text fixes = .error (.error c) ↔ firstConflict (inOrder fixes) = some c := by
  rw [applyAll]
  cases firstConflict (inOrder fixes) with
  | some d => simp
  | none => cases splice text.toList 0 (inOrder fixes) <;> simp

/-- **Conflicts are overlaps.** -/
theorem exists_conflict_iff (text : String) {fixes : List Fix}
    (hordered : ∀ f ∈ fixes, f.span.start ≤ f.span.stop) :
    (∃ c, applyAll text fixes = .error (.error c)) ↔ ¬ fixes.Pairwise Clear := by
  have hsorted : (inOrder fixes).Pairwise Clear ↔ fixes.Pairwise Clear :=
    (inOrder_perm fixes).pairwise_iff Clear.symm
  have hordered' : ∀ f ∈ inOrder fixes, f.span.start ≤ f.span.stop :=
    fun f hf => hordered f ((inOrder_perm fixes).mem_iff.1 hf)
  simp only [applyAll_eq_conflict]
  rw [← hsorted, ← firstConflict_eq_none_iff hordered' (inOrder_pairwise fixes),
    ← Option.isSome_iff_exists, Option.isSome_iff_ne_none]

/-- **The order of the list does not matter**, not even for the conflict that is
reported. -/
theorem applyAll_perm {text : String} {fixes others : List Fix}
    (hordered : ∀ f ∈ fixes, f.span.start ≤ f.span.stop) (hperm : others.Perm fixes) :
    applyAll text others = applyAll text fixes := by
  have hconflict := firstConflict_congr (map_span_inOrder hperm)
  by_cases hclear : fixes.Pairwise Clear
  · rw [applyAll, applyAll, inOrder_eq_of_perm hordered hclear hperm]
  · obtain ⟨c, hc⟩ := (exists_conflict_iff text hordered).2 hclear
    rw [hc, applyAll_eq_conflict, hconflict, ← applyAll_eq_conflict, hc]

/-- Clear fixes make of a text what they make of it one at a time. -/
theorem applyAll_eq_foldlM {text : String} {fixes : List Fix}
    (hfits : ∀ f ∈ fixes, f.Fits text.toList) (hclear : fixes.Pairwise Clear) :
    ∃ out, applyAll text fixes = .ok out ∧
      (inOrder fixes).reverse.foldlM replaceIn text = .ok out := by
  have hsorted : (inOrder fixes).Pairwise Clear :=
    (inOrder_perm fixes).symm.pairwise hclear Clear.symm
  obtain ⟨out, hsplice, hfold⟩ := foldlM_replaceIn [] text.toList
    (fun f hf => hfits f ((inOrder_perm fixes).mem_iff.1 hf)) (fun f _ => Nat.zero_le _)
    (inOrder_inRow (fun f hf => (hfits f hf).ordered) hclear)
  simp only [List.nil_append, byteLength_nil, String.ofList_toList] at hsplice hfold
  refine ⟨String.ofList out, ?_, hfold⟩
  rw [applyAll]
  simp only [firstConflict_eq_none hsorted, hsplice]

/-- **Fixes together.** Let the span of no fix end before it starts. A conflict is
reported just if two fixes at different places of the list overlap. If there are none,
and the text can be cut at the ends of all spans, the text is the one that the fixes
make one at a time, each replacing its span, from the greatest start and end down to the
least. However the fixes are listed, the answer is the same, and so is a conflict that
it reports. -/
theorem applyAll_joint (text : String) (fixes : List Fix)
    (hordered : ∀ f ∈ fixes, f.span.start ≤ f.span.stop) :
    ((∃ c, applyAll text fixes = .error (.error c)) ↔
      ∃ i j : Fin fixes.length, i ≠ j ∧ (fixes.get i).span.overlaps (fixes.get j).span = true) ∧
    ((∀ i j : Fin fixes.length, i ≠ j → (fixes.get i).span.overlaps (fixes.get j).span = false) →
      (∀ f ∈ fixes, IsBoundary text.toList f.span.start ∧ IsBoundary text.toList f.span.stop) →
      ∃ out, applyAll text fixes = .ok out ∧
        ∀ down : List Fix, down.Perm fixes → (down.Pairwise fun a b => b.before a = true) →
          down.foldlM replaceIn text = .ok out) ∧
    ∀ others : List Fix, others.Perm fixes → applyAll text others = applyAll text fixes := by
  refine ⟨(exists_conflict_iff text hordered).trans not_pairwise_clear_iff, fun hapart hcuts => ?_,
    fun others hperm => applyAll_perm hordered hperm⟩
  have hclear : fixes.Pairwise Clear :=
    List.pairwise_iff_get.2 fun i j hij => hapart i j (Fin.ne_of_lt hij)
  obtain ⟨out, hout, hfold⟩ := applyAll_eq_foldlM
    (fun f hf => ⟨hordered f hf, (hcuts f hf).1, (hcuts f hf).2⟩) hclear
  refine ⟨out, hout, fun down hperm hdown => ?_⟩
  have hrising :=
    eq_inOrder hordered hclear ((List.reverse_perm down).trans hperm)
      (List.pairwise_reverse.2 hdown)
  rw [← hfold, ← hrising, List.reverse_reverse]

/-- Three replacements and an insertion that touches two of them, listed in no order, in
a text with a character of two bytes. One at a time they come to a text that is easy to
find, and so that is the text that they make together. -/
theorem applyAll_joint_touching :
    let fixes : List Fix := [⟨⟨3, 4⟩, "B"⟩, ⟨⟨1, 1⟩, "+"⟩, ⟨⟨0, 1⟩, "A"⟩, ⟨⟨1, 3⟩, "e"⟩]
    (∀ f ∈ fixes, f.span.start ≤ f.span.stop) ∧
      (∀ i j : Fin 4, i ≠ j → (fixes.get i).span.overlaps (fixes.get j).span = false) ∧
      (∀ f ∈ fixes, IsBoundary "aéb".toList f.span.start ∧ IsBoundary "aéb".toList f.span.stop) ∧
      applyAll "aéb" fixes = .ok "A+eB" ∧ applyAll "aéb" fixes.reverse = .ok "A+eB" := by
  intro fixes
  have hordered : ∀ f ∈ fixes, f.span.start ≤ f.span.stop := by decide
  have hapart : ∀ i j : Fin 4, i ≠ j → (fixes.get i).span.overlaps (fixes.get j).span = false := by
    decide
  have hcuts : ∀ f ∈ fixes, IsBoundary "aéb".toList f.span.start ∧
      IsBoundary "aéb".toList f.span.stop := by decide
  obtain ⟨-, hjoint, hperm⟩ := applyAll_joint "aéb" fixes hordered
  obtain ⟨out, hout, hdown⟩ := hjoint hapart hcuts
  have hsingly :
      List.foldlM replaceIn "aéb" [⟨⟨3, 4⟩, "B"⟩, ⟨⟨1, 3⟩, "e"⟩, ⟨⟨1, 1⟩, "+"⟩, ⟨⟨0, 1⟩, "A"⟩] =
      .ok "A+eB" := by decide +kernel
  obtain rfl : out = "A+eB" := Except.ok.inj ((hdown _ (by decide) (by decide)).symm.trans hsingly)
  exact ⟨hordered, hapart, hcuts, hout, (hperm _ (List.reverse_perm fixes)).trans hout⟩

end Fix

end ImportOrder
