import ImportOrder.Proofs.MaximalRuns
import Mathlib.Data.List.Pairwise
import Mathlib.Data.List.Sort

/-!
# The runs divide the imports

The same facts by places: a run is a *stretch* of a list of statements if its imports
are the statements from its first place to its last one and no import stands next to
them. A list of runs *partitions* the imports if its members are stretches, one after
another, and each import stands in exactly one of them. There is one such list, and it
is the one that is collected.
-/

namespace ImportOrder

/-! ## Stretches -/

/-- The run holds the statement at a place. -/
def Run.Covers (r : Run) (i : Nat) : Prop := r.firstIndex ≤ i ∧ i ≤ r.lastIndex

/-- The run is a stretch of imports that cannot be made longer. -/
structure Run.Stretch (ss : List Statement) (r : Run) : Prop where
  /-- it is not empty -/
  filled : r.imports ≠ []
  /-- its last place is one of the list -/
  within : r.lastIndex < ss.length
  /-- its imports are the statements from its first place to its last one -/
  slice : r.imports.map .importDecl = (ss.take (r.lastIndex + 1)).drop r.firstIndex
  /-- the statement before it is no import -/
  left : ∀ i s, i + 1 = r.firstIndex → ss[i]? = some s → s.isImport = false
  /-- nor is the one after it -/
  right : ∀ s, ss[r.lastIndex + 1]? = some s → s.isImport = false

theorem Run.firstIndex_le_lastIndex (r : Run) : r.firstIndex ≤ r.lastIndex := Nat.le_add_right ..

/-- A run has as many imports as there are places from its first index to its last. -/
theorem Run.length_imports (r : Run) : r.firstIndex + r.imports.length = r.lastIndex + 1 := rfl

/-- A stretch of imports lies between two parts of the statements, which do not border
on it with an import. -/
theorem Run.Fills.stretch {ss before after : List Statement} {r : Run}
    (h : r.Fills 0 ss before after) :
    r.Stretch ss := by
  have hfollowing := h.following
  obtain ⟨rfl, hindex, hleft, hright⟩ := h
  rw [Nat.zero_add] at hindex
  have hlast : r.lastIndex + 1 = before.length + r.imports.length := by
    rw [← hindex, r.length_imports]
  refine ⟨r.imports_ne_nil, ?_, ?_, ?_, ?_⟩
  · simp only [List.length_append, List.length_map]
    omega
  · rw [hlast, List.take_length_add_append, List.take_left' (List.length_map ..), hindex,
      List.drop_left]
  · intro i s hi hs
    rw [List.getElem?_append_left (by omega)] at hs
    refine hleft s ?_
    rw [Option.mem_def, List.getLast?_eq_getElem?, ← hindex, ← hi]
    exact hs
  · intro s hs
    exact hright s (hfollowing.symm.trans hs)

/-- A stretch of imports fills the place between the statements before its first index
and those after its last. -/
theorem Run.Stretch.fills {ss : List Statement} {r : Run} (h : r.Stretch ss) :
    r.Fills 0 ss (ss.take r.firstIndex) (ss.drop (r.lastIndex + 1)) := by
  have hle := r.firstIndex_le_lastIndex
  have hwithin := h.within
  have hlength : (ss.take r.firstIndex).length = r.firstIndex := List.length_take_of_le (by omega)
  refine ⟨?_, by rw [hlength, Nat.zero_add], ?_, ?_⟩
  · have hfront : ss.take r.firstIndex = (ss.take (r.lastIndex + 1)).take r.firstIndex := by
      rw [List.take_take, Nat.min_eq_left (by omega)]
    rw [h.slice, hfront, ← List.append_assoc, List.take_append_drop, List.take_append_drop]
  · intro s hs
    rw [Option.mem_def, List.getLast?_eq_getElem?, hlength] at hs
    have hlt : r.firstIndex - 1 < r.firstIndex := by
      have := (List.getElem?_eq_some_iff.1 hs).1
      omega
    rw [List.getElem?_take_of_lt hlt] at hs
    exact h.left _ s (by omega) hs
  · intro s hs
    rw [Option.mem_def, List.head?_drop] at hs
    exact h.right s hs

/-- **The runs are the stretches.** -/
theorem mem_collectRuns {ss : List Statement} {r : Run} : r ∈ collectRuns ss ↔ r.Stretch ss := by
  rw [collectRuns_eq, mem_runsFrom]
  constructor
  · rintro ⟨before, after, h⟩
    exact h.stretch
  · intro h
    exact ⟨_, _, h.fills⟩

/-- The statement at the first place of a stretch is an import. -/
theorem Run.Stretch.head {ss : List Statement} {r : Run} (h : r.Stretch ss) :
    ss[r.firstIndex]? = some (.importDecl r.head) := by
  have hhead := congrArg List.head? h.slice
  rw [List.head?_drop,
    List.getElem?_take_of_lt (Nat.lt_succ_of_le r.firstIndex_le_lastIndex)] at hhead
  exact hhead.symm

/-! ## One run after another -/

/-- The first run ends before the second one begins. -/
def Run.Before (r q : Run) : Prop := r.lastIndex < q.firstIndex

instance : Std.Asymm Run.Before where
  asymm r q hrq hqr := by
    have hr := r.firstIndex_le_lastIndex
    have hq := q.firstIndex_le_lastIndex
    unfold Run.Before at hrq hqr
    omega

theorem le_firstIndex {n : Nat} {ss : List Statement} {r : Run} (h : r ∈ runsFrom n ss) :
    n ≤ r.firstIndex := by
  obtain ⟨before, after, hfills⟩ := mem_runsFrom.1 h
  rw [hfills.index]
  exact Nat.le_add_right ..

/-- The runs come one after another. -/
theorem pairwise_runsFrom (n : Nat) (ss : List Statement) :
    (runsFrom n ss).Pairwise Run.Before := by
  fun_induction runsFrom n ss with
  | case1 n => exact List.Pairwise.nil
  | case2 n form span a b rest ih => exact ih
  | case3 n d rest more ih =>
    refine List.pairwise_cons.2 ⟨fun q hq => ?_, ih⟩
    have hlater := le_firstIndex hq
    simp only [Run.Before, Run.lastIndex_eq]
    omega

/-- Of runs that come one after another, at most one holds a place. -/
theorem eq_of_covers {rs : List Run} (h : rs.Pairwise Run.Before) {r q : Run} (hr : r ∈ rs)
    (hq : q ∈ rs) {i : Nat} (hri : r.Covers i) (hqi : q.Covers i) : r = q := by
  have happart : rs.Pairwise fun r q => ¬ (r.Covers i ∧ q.Covers i) := by
    refine h.imp ?_
    rintro r q hrq ⟨hri, hqi⟩
    exact absurd (Nat.lt_of_le_of_lt hri.2 hrq) (Nat.not_lt.2 hqi.1)
  have : Std.Symm fun r q : Run => ¬ (r.Covers i ∧ q.Covers i) := ⟨fun r q hrq hqr => hrq hqr.symm⟩
  by_contra hne
  exact happart.forall hr hq hne ⟨hri, hqi⟩

/-- Every import stands in a run. -/
theorem exists_covers {ss : List Statement} {i : Nat} {s : Statement} (hi : ss[i]? = some s)
    (hs : s.isImport = true) : ∃ r ∈ collectRuns ss, r.Covers i := by
  cases s with
  | other form span a b => cases hs
  | importDecl d =>
    obtain ⟨hlt, hget⟩ := List.getElem?_eq_some_iff.1 hi
    obtain ⟨before, pre, hpre, hleft⟩ := exists_trailingImports (ss.take i)
    obtain ⟨hback, hright⟩ := leadingImports_spec (ss.drop (i + 1))
    have hlong : pre ++ d :: leadingImports (ss.drop (i + 1)) ≠ [] := by simp
    obtain ⟨r, hr, himports, hfills⟩ := exists_run hlong hleft hright
    have hss : before ++ ((pre ++ d :: leadingImports (ss.drop (i + 1))).map .importDecl ++
        (ss.drop (i + 1)).drop (leadingImports (ss.drop (i + 1))).length) = ss := by
      rw [List.map_append, List.map_cons, List.append_assoc, List.cons_append, hback,
        ← List.append_assoc, ← hpre, ← hget, ← List.drop_eq_getElem_cons hlt, List.take_append_drop]
    rw [hss] at hr hfills
    have hplace : i = before.length + pre.length := by
      rw [← List.length_map (f := Statement.importDecl), ← List.length_append, ← hpre,
        List.length_take_of_le hlt.le]
    have hindex := hfills.index
    have hlast := r.length_imports
    rw [himports, List.length_append, List.length_cons] at hlast
    exact ⟨r, hr, by omega, by omega⟩

/-! ## The partition -/

/-- A list of runs partitions the imports among some statements. -/
structure RunPartition (ss : List Statement) (rs : List Run) : Prop where
  /-- the runs are stretches of imports that cannot be made longer -/
  stretches : ∀ r ∈ rs, r.Stretch ss
  /-- they come one after another -/
  ascending : rs.Pairwise Run.Before
  /-- every import stands in exactly one of them -/
  covering : ∀ i s, ss[i]? = some s → s.isImport = true → ∃! r, r ∈ rs ∧ r.Covers i

theorem runPartition_collectRuns (ss : List Statement) : RunPartition ss (collectRuns ss) := by
  have hascending := pairwise_runsFrom 0 ss
  rw [← collectRuns_eq] at hascending
  refine ⟨fun r hr => mem_collectRuns.1 hr, hascending, ?_⟩
  intro i s hi hs
  obtain ⟨r, hr, hcovers⟩ := exists_covers hi hs
  exact ⟨r, ⟨hr, hcovers⟩, fun q hq => eq_of_covers hascending hq.1 hr hq.2 hcovers⟩

/-- **The collected runs are the partition of the imports into maximal runs**: they are
one, and there is no other. The run that is collected where another one starts is a
stretch too, and two stretches that share a place are equal. -/
theorem runPartition_iff {ss : List Statement} {rs : List Run} :
    RunPartition ss rs ↔ rs = collectRuns ss := by
  constructor
  · intro h
    have hruns := runPartition_collectRuns ss
    refine h.ascending.eq_of_mem_iff hruns.ascending fun r =>
      ⟨fun hr => mem_collectRuns.2 (h.stretches r hr), ?_⟩
    intro hr
    have hfirst : r.Covers r.firstIndex := ⟨Nat.le_refl _, r.firstIndex_le_lastIndex⟩
    obtain ⟨q, ⟨hq, hcovers⟩, -⟩ := h.covering _ _ (hruns.stretches r hr).head rfl
    rwa [eq_of_covers hruns.ascending hr (mem_collectRuns.2 (h.stretches q hq)) hfirst hcovers]
  · rintro rfl
    exact runPartition_collectRuns ss

end ImportOrder
