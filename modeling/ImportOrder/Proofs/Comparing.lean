import ImportOrder.Order

/-!
# Comparing texts, names and paths

Everything the rule sorts is sorted by texts in their comparable forms. `precedes` says
that a text may stand before another one. It is a preorder in which any two texts can be
compared, so sorting by it works, and a list in which no neighbours are the wrong way
round has no pair the wrong way round.
-/

namespace ImportOrder

/-- A text may stand before another one. -/
def precedes (ignoreCase : Bool) (a b : String) : Bool := compareTexts ignoreCase a b != .gt

theorem precedes_iff {ignoreCase : Bool} {a b : String} :
    precedes ignoreCase a b = true ↔ (compareTexts ignoreCase a b).isLE = true := by
  rw [precedes]
  cases compareTexts ignoreCase a b <;> decide

theorem precedes_trans {ignoreCase : Bool} {a b c : String} (hab : precedes ignoreCase a b = true)
    (hbc : precedes ignoreCase b c = true) : precedes ignoreCase a c = true := by
  rw [precedes_iff, compareTexts] at *
  exact Std.TransCmp.isLE_trans hab hbc

/-- Of two texts one precedes the other, so a list can be sorted by it. -/
theorem precedes_total (ignoreCase : Bool) (a b : String) :
    (precedes ignoreCase a b || precedes ignoreCase b a) = true := by
  have hswap : compareTexts ignoreCase b a = (compareTexts ignoreCase a b).swap := by
    rw [compareTexts, compareTexts]
    exact Std.OrientedCmp.eq_swap
  rw [precedes, precedes, hswap]
  cases compareTexts ignoreCase a b <;> rfl

/-- Sorting by texts puts them in order. -/
theorem pairwise_mergeSort_precedes {α : Type} (ignoreCase : Bool) (key : α → String)
    (xs : List α) :
    (xs.mergeSort fun a b => precedes ignoreCase (key a) (key b)).Pairwise
      fun a b => precedes ignoreCase (key a) (key b) = true := by
  refine List.pairwise_mergeSort ?_ ?_ xs
  · intro a b c hab hbc
    exact precedes_trans hab hbc
  · intro a b
    exact precedes_total ignoreCase (key a) (key b)

/-- **Neighbours decide**: a list counts as sorted just if every earlier name may stand
before every later one. -/
theorem specifiersUnsorted_eq_false {ignoreCase : Bool} {specs : List Specifier} :
    specifiersUnsorted ignoreCase specs = false ↔
      specs.Pairwise fun a b => precedes ignoreCase a.name b.name = true := by
  induction specs with
  | nil => exact ⟨fun _ => .nil, fun _ => rfl⟩
  | cons a rest ih =>
    cases rest with
    | nil => exact ⟨fun _ => List.pairwise_singleton .., fun _ => rfl⟩
    | cons b rest =>
      have hpair : (compareSpecifiers ignoreCase a b == .gt) = false ↔
          precedes ignoreCase a.name b.name = true := by
        rw [precedes, bne, Bool.not_eq_true', compareSpecifiers]
      rw [specifiersUnsorted, Bool.or_eq_false_iff, hpair, ih]
      constructor
      · rintro ⟨hab, hrest⟩
        refine List.pairwise_cons.2 ⟨List.forall_mem_cons.2 ⟨hab, fun c hc => ?_⟩, hrest⟩
        exact precedes_trans hab (List.rel_of_pairwise_cons hrest hc)
      · intro h
        exact ⟨List.rel_of_pairwise_cons h List.mem_cons_self, h.of_cons⟩

end ImportOrder
