import ImportOrder.Proofs.Compliance
import Mathlib.Data.Prod.Lex

/-!
# The desired order is a stable sort

A run is laid out anew in three steps, one for each category: the imports of the
category are picked, sorted by path and put after those of the categories before it.
`desiredOrder_stable` says that this is one stable sort of the run, by category first
and then by path. `firstViolation_iff_desiredOrder` says that it is also what the order
of a run is judged by: fault is found just with what would be moved. Last comes what
that judgement says about the lines between imports of different categories.

* `filter_eq_of_sublist` — things that still stand in a rearranged list in their old
  sequence are picked from it in that sequence;
* `eq_of_sorted_of_filter` — a sorted list is given by the sequences in which things of
  equal keys stand in it;
* `desiredOrder_eq_self_iff` — a run is left as it is just if its neighbours are in
  order.
-/

namespace ImportOrder

/-! ## Sorted lists and their ties -/

section

variable {α κ : Type} {xs ys : List α}

/-- Things that stand in a list in some sequence, and are those that can be picked from
it, are picked in that sequence. -/
theorem filter_eq_of_sublist {p : α → Bool} (hperm : (ys.filter p).Perm xs) (h : xs.Sublist ys) :
    ys.filter p = xs := by
  have hall : xs.filter p = xs :=
    List.filter_eq_self.2 fun a ha => (List.mem_filter.1 (hperm.mem_iff.2 ha)).2
  have hsub := h.filter p
  rw [hall] at hsub
  exact (hsub.eq_of_length hperm.length_eq.symm).symm

variable [LinearOrder κ] {key : α → κ}

/-- The first thing of a sorted list has the least key. -/
theorem key_head_le {x y : α} (h : (x :: xs).Pairwise fun a b => key a ≤ key b) (hy : y ∈ x :: xs) :
    key x ≤ key y := by
  rcases List.mem_cons.1 hy with rfl | hy
  · exact le_refl _
  · exact List.rel_of_pairwise_cons h hy

/-- Lists with the same ties have the same things. -/
theorem mem_iff_of_filter
    (h : ∀ z, xs.filter (fun a => key a = key z) = ys.filter fun a => key a = key z) (z : α) :
    z ∈ xs ↔ z ∈ ys := by
  have hz : ∀ zs : List α, z ∈ zs ↔ z ∈ zs.filter fun a => key a = key z := by simp
  rw [hz xs, hz ys, h]

/-- **Sorted lists are given by their ties.** Two sorted lists in which the things of
each key stand in the same sequence are the same list. Each head is somewhere in the
other list, so their keys agree, and both are the first of that key. -/
theorem eq_of_sorted_of_filter (key : α → κ) (hxs : xs.Pairwise fun a b => key a ≤ key b)
    (hys : ys.Pairwise fun a b => key a ≤ key b)
    (h : ∀ z, xs.filter (fun a => key a = key z) = ys.filter fun a => key a = key z) : xs = ys := by
  have hmem := mem_iff_of_filter h
  induction xs generalizing ys with
  | nil =>
    exact (List.eq_nil_iff_forall_not_mem.2 fun z hz => List.not_mem_nil ((hmem z).2 hz)).symm
  | cons x xs ih =>
    cases ys with
    | nil => exact absurd ((hmem x).1 List.mem_cons_self) List.not_mem_nil
    | cons y ys =>
      have hkey : key x = key y := le_antisymm (key_head_le hxs ((hmem y).2 List.mem_cons_self))
        (key_head_le hys ((hmem x).1 List.mem_cons_self))
      have hfirst := h x
      rw [List.filter_cons_of_pos (by simp), List.filter_cons_of_pos (by simp [hkey])] at hfirst
      obtain rfl := (List.cons.inj hfirst).1
      have hrest : ∀ z, xs.filter (fun a => key a = key z) = ys.filter fun a => key a = key z := by
        intro z
        have hz := h z
        by_cases hx : key x = key z
        · rw [List.filter_cons_of_pos (by simp [hx]), List.filter_cons_of_pos (by simp [hx])] at hz
          exact (List.cons.inj hz).2
        · rwa [List.filter_cons_of_neg (by simp [hx]), List.filter_cons_of_neg (by simp [hx])] at hz
      rw [ih hxs.of_cons hys.of_cons hrest (mem_iff_of_filter hrest)]

theorem decide_key_trans (a b c : α) (hab : decide (key a ≤ key b) = true)
    (hbc : decide (key b ≤ key c) = true) :
    decide (key a ≤ key c) = true :=
  decide_eq_true (le_trans (of_decide_eq_true hab) (of_decide_eq_true hbc))

theorem decide_key_total (a b : α) : (decide (key a ≤ key b) || decide (key b ≤ key a)) = true := by
  simpa using le_total (key a) (key b)

theorem pairwise_mergeSort_key :
    (xs.mergeSort fun a b => key a ≤ key b).Pairwise fun a b => key a ≤ key b :=
  (List.pairwise_mergeSort decide_key_trans decide_key_total xs).imp of_decide_eq_true

/-- A merge sort leaves tied things in their sequence. -/
theorem filter_mergeSort_key (z : α) :
    (xs.mergeSort fun a b => key a ≤ key b).filter (fun a => key a = key z) =
      xs.filter fun a => key a = key z := by
  refine filter_eq_of_sublist ((List.mergeSort_perm ..).filter _)
    (List.sublist_mergeSort decide_key_trans decide_key_total ?_ List.filter_sublist)
  refine List.pairwise_of_forall_mem_list fun a ha b hb => ?_
  have ha : key a = key z := by simpa using (List.mem_filter.1 ha).2
  have hb : key b = key z := by simpa using (List.mem_filter.1 hb).2
  exact decide_eq_true (le_of_eq (ha.trans hb.symm))

/-- A list holds the things of another one, sorted by a key, and things of equal keys
stand in it in the sequence in which they stood there. -/
structure StablySorted (key : α → κ) (xs ys : List α) : Prop where
  /-- the things are the same -/
  perm : ys.Perm xs
  /-- they are sorted -/
  sorted : ys.Pairwise fun a b => key a ≤ key b
  /-- ties are in sequence -/
  stable : ∀ z, ys.filter (fun a => key a = key z) = xs.filter fun a => key a = key z

/-- Sorting by a key is stable: the result is in order, and ties stay in the order in
which they were. -/
theorem stablySorted_mergeSort (key : α → κ) (xs : List α) :
    StablySorted key xs (xs.mergeSort fun a b => key a ≤ key b) :=
  ⟨List.mergeSort_perm .., pairwise_mergeSort_key, filter_mergeSort_key⟩

end

/-! ## What imports are sorted by -/

/-- The key by which imports are sorted: the place of the category, then the path in its
comparable form. -/
def ImportDecl.sortKey (rule : Rule) (d : ImportDecl) : Nat ×ₗ String :=
  toLex (d.rank rule, comparable rule.ignoreCase d.path)

/-- Sorting before is comparing keys, so the theory of sorted lists applies to
imports. -/
theorem sortsBefore_iff {rule : Rule} {a b : ImportDecl} :
    SortsBefore rule a b ↔ a.sortKey rule ≤ b.sortKey rule := by
  rw [ImportDecl.sortKey, ImportDecl.sortKey, Prod.Lex.toLex_le_toLex]
  rfl

instance (rule : Rule) (a b : ImportDecl) : Decidable (SortsBefore rule a b) :=
  decidable_of_iff _ sortsBefore_iff.symm

/-- Imports are tied if they are of one category and their paths compare equal. -/
theorem ImportDecl.sortKey_eq_iff {rule : Rule} {a b : ImportDecl} :
    a.sortKey rule = b.sortKey rule ↔
    a.category = b.category ∧ comparable rule.ignoreCase a.path =
      comparable rule.ignoreCase b.path := by
  rw [← ImportDecl.rank_eq_iff rule]
  simp [ImportDecl.sortKey]

/-! ## The desired order -/

/-- The desired order is sorted. -/
theorem pairwise_desiredOrder (rule : Rule) (ds : List ImportDecl) :
    (desiredOrder rule ds).flatten.Pairwise (SortsBefore rule) := by
  refine List.pairwise_flatten.2 ⟨fun bucket hbucket => ?_, ?_⟩
  · refine (pairwise_of_mem_bucketsOf rule id hbucket).imp fun {a b} hab =>
      .inr ⟨?_, precedes_iff_le.1 hab.2⟩
    exact (ImportDecl.rank_eq_iff rule).2 hab.1
  · exact (pairwise_bucketsOf rule id ds).imp fun hranks a ha b hb => .inl (hranks a ha b hb)

/-- **Ties stay in sequence**: imports of one category whose paths compare equal keep
their order. They are picked from the bucket of their category, and sorting it by path
leaves them as they are. -/
theorem filter_desiredOrder (rule : Rule) (ds : List ImportDecl) (c : Category) (path : String) :
    (desiredOrder rule ds).flatten.filter
        (fun d => d.category = c ∧ comparable rule.ignoreCase d.path = path) =
      ds.filter fun d => d.category = c ∧ comparable rule.ignoreCase d.path = path := by
  refine filter_eq_of_sublist ((flatten_bucketsOf_perm rule id ds).filter _) ?_
  have hbucket :
      (ds.filter (·.category = c)).mergeSort (fun a b => precedes rule.ignoreCase a.path b.path) ∈
      desiredOrder rule ds := List.mem_map.2 ⟨c, rule.sortOrder.mem_categories c, rfl⟩
  refine List.Sublist.trans (List.sublist_mergeSort ?_ ?_ ?_ ?_)
    (List.sublist_flatten_of_mem hbucket)
  · intro a b d hab hbd
    exact precedes_trans hab hbd
  · intro a b
    exact precedes_total rule.ignoreCase a.path b.path
  · refine List.pairwise_of_forall_mem_list fun a ha b hb => ?_
    have ha : _ ∧ comparable rule.ignoreCase a.path = path :=
      of_decide_eq_true (List.mem_filter.1 ha).2
    have hb : _ ∧ comparable rule.ignoreCase b.path = path :=
      of_decide_eq_true (List.mem_filter.1 hb).2
    exact precedes_iff_le.2 (le_of_eq (ha.2.trans hb.2.symm))
  · exact List.monotone_filter_right ds fun d hd => decide_eq_true (of_decide_eq_true hd).1

/-- **The desired order is a stable sort.** The buckets hold the imports of the run,
each of them once. Read one after another they are sorted by the place of the category
and then by the comparable path, imports for which both agree stand in the order in
which they stood, and so the buckets are what one merge sort by category and path makes
of the run. -/
theorem desiredOrder_stable (rule : Rule) (ds : List ImportDecl) :
    (desiredOrder rule ds).flatten.Perm ds ∧
    (desiredOrder rule ds).flatten.Pairwise (SortsBefore rule) ∧
    (∀ c path, (desiredOrder rule ds).flatten.filter
        (fun d => d.category = c ∧ comparable rule.ignoreCase d.path = path) =
      ds.filter fun d => d.category = c ∧ comparable rule.ignoreCase d.path = path) ∧
    (desiredOrder rule ds).flatten = ds.mergeSort fun a b => SortsBefore rule a b := by
  refine ⟨flatten_bucketsOf_perm rule id ds, pairwise_desiredOrder rule ds,
    filter_desiredOrder rule ds, ?_⟩
  simp only [sortsBefore_iff]
  refine eq_of_sorted_of_filter (ImportDecl.sortKey rule) ?_ pairwise_mergeSort_key fun z => ?_
  · exact (pairwise_desiredOrder rule ds).imp sortsBefore_iff.1
  · rw [filter_mergeSort_key]
    simp only [ImportDecl.sortKey_eq_iff]
    exact filter_desiredOrder rule ds z.category _

/-! ## Runs that are as they should be -/

/-- **What is in order stays as it is.** A run is in the desired order already just if
no import sorts after the next one. -/
theorem desiredOrder_eq_self_iff {rule : Rule} {ds : List ImportDecl} :
    (desiredOrder rule ds).flatten = ds ↔ ds.IsChain (SortsBefore rule) := by
  rw [List.isChain_iff_pairwise]
  have hsorted := pairwise_desiredOrder rule ds
  constructor
  · intro h
    rwa [h] at hsorted
  · intro h
    refine eq_of_sorted_of_filter (ImportDecl.sortKey rule) (hsorted.imp sortsBefore_iff.1)
      (h.imp sortsBefore_iff.1) fun z => ?_
    simp only [ImportDecl.sortKey_eq_iff]
    exact filter_desiredOrder rule ds z.category _

/-- Nothing is wrong in a run just if it is in the desired order and no blank line is
missing that is asked for. -/
theorem firstDiscord_eq_none_iff {rule : Rule} {ds : List ImportDecl} :
    firstDiscord rule ds = none ↔
    (desiredOrder rule ds).flatten = ds ∧ (rule.enforceBlankLine = true →
      ∀ a b, [a, b] <:+: ds → a.category ≠ b.category → a.startLine + 2 ≤ b.startLine) := by
  rw [firstDiscord_eq_none, desiredOrder_eq_self_iff, isChain_iff_infix, isChain_iff_infix]
  simp only [discord_eq_none]
  constructor
  · intro h
    exact ⟨fun a b hab => (h a b hab).1, fun hblank a b hab => (h a b hab).2 hblank⟩
  · rintro ⟨hsorted, hspaced⟩ a b hab
    exact ⟨hsorted a b hab, fun hblank => hspaced hblank a b hab⟩

/-- Where no blank lines are asked for, none is missing. -/
theorem firstDiscord_ne_missingBlankLine {rule : Rule} (hrule : rule.enforceBlankLine = false)
    (ds : List ImportDecl) : firstDiscord rule ds ≠ some .missingBlankLine := by
  intro h
  obtain ⟨⟨a, b⟩, -, hab⟩ := List.exists_of_findSome?_eq_some h
  simp only [discord, hrule, Bool.false_eq_true, false_and, if_false] at hab
  split_ifs at hab <;> cases hab

/-- **Finding fault and putting in order agree.** Without blank lines, fault is found
with the categories or the paths of a run just if the desired order is another one than
that of the run. With blank lines, no fault is found just if the run is in the desired
order and the category never changes between imports that start on one line, on lines
that follow one another, or on lines that go back. -/
theorem firstViolation_iff_desiredOrder (rule : Rule) (ds : List ImportDecl) :
    (∃ found, firstViolation { rule with enforceBlankLine := false } ds = .ok found ∧
      (found ≠ some .wrongCategory ∧ found ≠ some .wrongPath ↔
        (desiredOrder rule ds).flatten = ds)) ∧
    (rule.enforceBlankLine = true → (∀ d ∈ ds, d.startLine < 2 ^ 32 - 1) →
      ∃ found, firstViolation rule ds = .ok found ∧
        (found = none ↔ (desiredOrder rule ds).flatten = ds ∧
          ∀ a b, [a, b] <:+: ds → a.category ≠ b.category → ¬ b.startLine ≤ a.startLine + 1)) := by
  constructor
  · refine ⟨_, firstViolation_eq_ok _ fun _ _ h => (nomatch h), ?_⟩
    have hspaced := @firstDiscord_ne_missingBlankLine { rule with enforceBlankLine := false } rfl ds
    have hnone := @firstDiscord_eq_none_iff { rule with enforceBlankLine := false } ds
    simp only [Bool.false_eq_true, false_implies, and_true] at hnone
    refine Iff.trans ?_ hnone
    cases hfound : firstDiscord { rule with enforceBlankLine := false } ds with
    | none => simp
    | some v => cases v <;> simp_all
  · intro hrule hlines
    refine ⟨_, firstViolation_eq_ok rule fun d hd _ => ?_, ?_⟩
    · have hline := hlines d hd
      rw [lineBound]
      omega
    · rw [firstDiscord_eq_none_iff]
      simp only [hrule, forall_const, Nat.not_le]
      exact Iff.rfl

/-- Two paths that differ in case only are in order either way, and there is a blank
line between the categories in one of the runs and none in the other. -/
theorem firstViolation_iff_desiredOrder_ties :
    let rule : Rule := { enforceBlankLine := true }
    let ds (line : Nat) : List ImportDecl := [⟨⟨0, 1⟩, 1, 1, some .type, "z", []⟩,
      ⟨⟨2, 3⟩, line, line, some .value, "B", []⟩, ⟨⟨4, 5⟩, 4, 4, some .value, "b", []⟩]
    (∀ line < 4, ∀ d ∈ ds line, d.startLine < 2 ^ 32 - 1) ∧ rule.enforceBlankLine = true ∧
      (desiredOrder rule (ds 3)).flatten = ds 3 ∧ firstViolation rule (ds 2) ≠ .ok none := by
  intro rule ds
  have hlines : ∀ line < 4, ∀ d ∈ ds line, d.startLine < 2 ^ 32 - 1 := by decide
  obtain ⟨found, hfound, hiff⟩ :=
    (firstViolation_iff_desiredOrder rule (ds 3)).2 rfl (hlines 3 (by decide))
  obtain ⟨found', hfound', hiff'⟩ :=
    (firstViolation_iff_desiredOrder rule (ds 2)).2 rfl (hlines 2 (by decide))
  have hquiet : firstViolation rule (ds 3) = .ok none := by decide +kernel
  obtain rfl := Except.ok.inj (hfound.symm.trans hquiet)
  refine ⟨hlines, rfl, (hiff.1 rfl).1, ?_⟩
  intro hnone
  obtain rfl := Except.ok.inj (hfound'.symm.trans hnone)
  refine (hiff'.1 rfl).2 _ _ ⟨[], _, rfl⟩ ?_ ?_ <;> decide

/-! ## Lines between categories -/

/-- The imports stand one below the other, on lines that can be counted on from. -/
@[mk_iff]
structure LinesInOrder (ds : List ImportDecl) : Prop where
  /-- each import ends on the line on which it starts, or further down -/
  each : ∀ d ∈ ds, d.startLine ≤ d.endLine
  /-- the next one starts on the line on which it ends, or further down -/
  next : ds.IsChain fun a b => a.endLine ≤ b.startLine
  /-- the lines are in range -/
  bound : ∀ d ∈ ds, d.startLine < 2 ^ 32 - 1 ∧ d.endLine < 2 ^ 32 - 1

instance (ds : List ImportDecl) : Decidable (LinesInOrder ds) :=
  decidable_of_iff _ (linesInOrder_iff ds).symm

/-- **The line between two categories.** Where blank lines are asked for and no fault is
found, a whole line stands between neighbours of different categories, unless the first
of them takes more than one line. The line is looked for below the start of that import,
so the second may then start right below its end, or even on its last line. -/
theorem firstViolation_line_between {rule : Rule} {ds : List ImportDecl}
    (hrule : rule.enforceBlankLine = true) (hlines : LinesInOrder ds) :
    ∃ found, firstViolation rule ds = .ok found ∧
      (found = none → ∀ a b, [a, b] <:+: ds → a.category ≠ b.category →
        a.endLine + 2 ≤ b.startLine ∨
          a.startLine < a.endLine ∧ a.startLine + 2 ≤ b.startLine ∧
            (b.startLine = a.endLine ∨ b.startLine = a.endLine + 1)) := by
  refine ⟨_, firstViolation_eq_ok rule fun d hd _ => ?_, ?_⟩
  · have hline := (hlines.bound d hd).1
    rw [lineBound]
    omega
  · intro hnone a b hab hcategory
    have hstart := (firstDiscord_eq_none_iff.1 hnone).2 hrule a b hab hcategory
    have hspan := hlines.each a (hab.mem List.mem_cons_self)
    have hnext := isChain_iff_infix.1 hlines.next a b hab
    omega

/-- An import of types, one of values over three lines, and one for its side effects. -/
theorem firstViolation_line_between_three :
    let rule : Rule := { enforceBlankLine := true }
    let types : ImportDecl := ⟨⟨0, 1⟩, 1, 1, some .type, "a", []⟩
    let values : ImportDecl := ⟨⟨2, 3⟩, 3, 5, some .value, "b", []⟩
    let effects : ImportDecl := ⟨⟨4, 5⟩, 7, 7, none, "c", []⟩
    rule.enforceBlankLine = true ∧ LinesInOrder [types, values, effects] ∧
      firstViolation rule [types, values, effects] = .ok none ∧
        types.endLine + 2 ≤ values.startLine := by
  intro rule types values effects
  have hlines : LinesInOrder [types, values, effects] := by decide
  have hquiet : firstViolation rule [types, values, effects] = .ok none := by decide +kernel
  obtain ⟨found, hfound, hspaced⟩ := @firstViolation_line_between rule _ rfl hlines
  obtain rfl := Except.ok.inj (hfound.symm.trans hquiet)
  refine ⟨rfl, hlines, hquiet, ?_⟩
  rcases hspaced rfl types values ⟨[], [effects], rfl⟩ (by decide) with hline | ⟨hlong, -⟩
  · exact hline
  · exact absurd hlong (by decide)

/-- No line stands between an import of types over three lines and an import of values
on the next one, and no fault is found. -/
theorem line_unasked_after_long_import :
    let rule : Rule := { enforceBlankLine := true }
    let types : ImportDecl := ⟨⟨0, 29⟩, 1, 3, some .type, "a", [⟨.named, "A", ⟨16, 17⟩⟩]⟩
    let values : ImportDecl := ⟨⟨30, 50⟩, 4, 4, some .value, "b", [⟨.named, "b", ⟨38, 39⟩⟩]⟩
    LinesInOrder [types, values] ∧ types.category ≠ values.category ∧
      firstViolation rule [types, values] = .ok none ∧ ¬ types.endLine + 2 ≤ values.startLine := by
  intro rule types values
  exact ⟨by decide, by decide, by decide +kernel, by decide⟩

end ImportOrder
