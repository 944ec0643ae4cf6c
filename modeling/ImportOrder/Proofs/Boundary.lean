import ImportOrder.Text.Span

/-!
# Boundaries of a text

An offset is a *boundary* of a text if the text can be cut there. Everything the program
does with a text is cutting it at two offsets, so its success is a matter of boundaries:

* `between?_eq_some_iff` — a piece between two offsets is a middle part of the text, and
  says where;
* `exists_between?` — there is such a piece as soon as both offsets are boundaries in
  order.

Steps that may meet a fault are chained by `>>=`; `ok_of_bind` and `bind_ok` take such a
chain apart and put it together.
-/

namespace ImportOrder

/-! ## Chains of steps -/

/-- **A chain that ends well.** Its first step ends well, and so does the rest on what
it gave. -/
theorem ok_of_bind {ε α β : Type} {x : Except ε α} {f : α → Except ε β} {b : β}
    (h : x >>= f = .ok b) : ∃ a, x = .ok a ∧ f a = .ok b := by
  cases x with
  | error e => cases h
  | ok a => exact ⟨a, rfl, h⟩

/-- A step that ends well hands its result on. -/
theorem bind_ok {ε α β : Type} {x : Except ε α} {f : α → Except ε β} {a : α} (h : x = .ok a) :
    x >>= f = f a := by
  rw [h]
  rfl

theorem ok_of_mapError {ε ε' α : Type} {x : Except ε α} {f : ε → ε'} {a : α}
    (h : x.mapError f = .ok a) :
    x = .ok a := by
  cases x with
  | error e => cases h
  | ok b => exact congrArg Except.ok (Except.ok.inj h)

/-- Where a whole list was gone through, every step ended well. -/
theorem ok_of_mapM {ε α β : Type} {f : α → Except ε β} {xs : List α} {ys : List β}
    (h : xs.mapM f = .ok ys) : ∀ x ∈ xs, ∃ y ∈ ys, f x = .ok y := by
  induction xs generalizing ys with
  | nil => intro x hx; cases hx
  | cons x xs ih =>
    rw [List.mapM_cons] at h
    obtain ⟨y, hy, h⟩ := ok_of_bind h
    obtain ⟨rest, hrest, h⟩ := ok_of_bind h
    obtain rfl := Except.ok.inj h
    intro z hz
    rcases List.mem_cons.1 hz with rfl | hz
    · exact ⟨y, List.mem_cons_self, hy⟩
    · obtain ⟨w, hw, hzw⟩ := ih hrest z hz
      exact ⟨w, List.mem_cons_of_mem _ hw, hzw⟩

/-- A list whose steps all end well is gone through to its end. -/
theorem mapM_ok {ε α β : Type} {f : α → Except ε β} {g : α → β} {xs : List α}
    (h : ∀ x ∈ xs, f x = .ok (g x)) : xs.mapM f = .ok (xs.map g) := by
  induction xs with
  | nil => rfl
  | cons x xs ih =>
    rw [List.mapM_cons, bind_ok (h x List.mem_cons_self),
      bind_ok (ih fun y hy => h y (List.mem_cons_of_mem _ hy))]
    rfl

/-- Going through a list gives nothing only if there is nothing in it. -/
theorem mapM_eq_ok_nil {ε α β : Type} {f : α → Except ε β} {xs : List α} :
    xs.mapM f = .ok [] ↔ xs = [] := by
  constructor
  · intro h
    cases xs with
    | nil => rfl
    | cons x xs =>
      obtain ⟨y, hy, -⟩ := ok_of_mapM h x List.mem_cons_self
      cases hy
  · rintro rfl
    rfl

/-! ## Cutting -/

/-- The text can be cut at the offset. -/
def IsBoundary (text : List Char) (n : Nat) : Prop := ∃ a b, text = a ++ b ∧ byteLength a = n

/-- An offset is a boundary exactly where a text can be cut, so that being one is
decidable. -/
theorem isBoundary_iff {text : List Char} {n : Nat} : IsBoundary text n ↔ (cut? n text).isSome := by
  constructor
  · rintro ⟨a, b, rfl, rfl⟩
    rw [cut?_append]
    rfl
  · intro h
    obtain ⟨⟨a, b⟩, hcut⟩ := Option.isSome_iff_exists.1 h
    obtain ⟨hjoin, hlen⟩ := eq_of_cut? hcut
    exact ⟨a, b, hjoin, hlen⟩

instance (text : List Char) (n : Nat) : Decidable (IsBoundary text n) :=
  decidable_of_iff _ isBoundary_iff.symm

theorem IsBoundary.le {text : List Char} {n : Nat} (h : IsBoundary text n) :
    n ≤ byteLength text := by
  obtain ⟨a, b, rfl, rfl⟩ := h
  rw [byteLength_append]
  omega

theorem isBoundary_zero (text : List Char) : IsBoundary text 0 := ⟨[], text, rfl, rfl⟩

theorem isBoundary_end (text : List Char) : IsBoundary text (byteLength text) :=
  ⟨text, [], (List.append_nil text).symm, rfl⟩

@[simp] theorem byteLength_nil : byteLength [] = 0 := rfl

theorem byteLength_pos {cs : List Char} (h : cs ≠ []) : 0 < byteLength cs := by
  cases cs with
  | nil => exact absurd rfl h
  | cons c rest =>
    have hc : 0 < c.utf8Size := c.utf8Size_pos
    simp only [byteLength]
    omega

/-- Two ways to cut a text in two with first parts of the same length are the same. -/
theorem append_inj_of_byteLength {a b c d : List Char} (hjoin : a ++ b = c ++ d)
    (hlen : byteLength a = byteLength c) : a = c ∧ b = d := by
  have hcut := cut?_append a b
  rw [hjoin, hlen, cut?_append] at hcut
  simp only [Option.some.injEq, Prod.mk.injEq] at hcut
  exact ⟨hcut.1.symm, hcut.2.symm⟩

/-- Of two boundaries the earlier one also cuts the text before the later one. -/
theorem IsBoundary.split {text a b : List Char} {n : Nat} (h : IsBoundary text n)
    (htext : text = a ++ b) (hle : n ≤ byteLength a) :
    ∃ c d, a = c ++ d ∧ byteLength c = n := by
  obtain ⟨p, q, hpq, hp⟩ := h
  rw [htext] at hpq
  rcases List.append_eq_append_iff.1 hpq with ⟨m, hpm, -⟩ | ⟨m, ham, -⟩
  · have hlen : byteLength p = byteLength a + byteLength m := by rw [hpm, byteLength_append]
    exact ⟨a, [], (List.append_nil a).symm, by omega⟩
  · exact ⟨p, m, ham, hp⟩

/-- **What lies between two offsets.** It is the part of the text that starts at the one
and ends at the other. -/
theorem between?_eq_some_iff {i j : Nat} {text m : List Char} :
    between? i j text = some m ↔
      ∃ a b, text = a ++ m ++ b ∧ byteLength a = i ∧ i + byteLength m = j := by
  unfold between?
  constructor
  · intro h
    split at h
    · next hij =>
      split at h
      · next before rest hcut =>
        obtain ⟨hjoin, hlen⟩ := eq_of_cut? hcut
        obtain ⟨⟨m', b⟩, hcut', rfl⟩ := Option.map_eq_some_iff.1 h
        obtain ⟨hjoin', hlen'⟩ := eq_of_cut? hcut'
        exact ⟨before, b, by rw [hjoin, hjoin', List.append_assoc], hlen,
          by simp only [hlen']; omega⟩
      · cases h
    · cases h
  · rintro ⟨a, b, rfl, rfl, rfl⟩
    rw [if_pos (Nat.le_add_right _ _), List.append_assoc, cut?_append]
    simp only [Nat.add_sub_cancel_left, cut?_append, Option.map_some]

/-- Boundaries in order have a piece between them. -/
theorem exists_between? {i j : Nat} {text : List Char} (hi : IsBoundary text i)
    (hj : IsBoundary text j) (hij : i ≤ j) : ∃ m, between? i j text = some m := by
  obtain ⟨a, b, rfl, rfl⟩ := hj
  obtain ⟨c, d, rfl, rfl⟩ := hi.split rfl hij
  exact ⟨d, between?_eq_some_iff.2 ⟨c, b, rfl, rfl, byteLength_append c d ▸ rfl⟩⟩

namespace Span

/-- Cutting out a part succeeds in the program exactly where it does in the theory. -/
theorem between_eq_ok_iff {i j : Nat} {text m : List Char} :
    between i j text = .ok m ↔ between? i j text = some m := by
  unfold between
  split
  · next piece h => rw [h, Except.ok.injEq, Option.some.injEq]
  · next h => rw [h]; exact iff_of_false nofun nofun

/-- The text of a span is the part between its ends. -/
theorem slice_eq_ok_iff {s : Span} {text : String} {piece : List Char} :
    s.slice text = .ok (String.ofList piece) ↔
      between? s.start s.stop text.toList = some piece := by
  rw [← between_eq_ok_iff, slice]
  cases between s.start s.stop text.toList with
  | error e => exact iff_of_false nofun nofun
  | ok m =>
    simp only [Except.map, Except.ok.injEq]
    exact ⟨fun h => by rw [← String.toList_ofList (l := m), h, String.toList_ofList],
      fun h => by rw [h]⟩

/-- The ends of a piece are boundaries, and in order. -/
theorem boundaries_of_between {i j : Nat} {text m : List Char} (h : between i j text = .ok m) :
    i ≤ j ∧ IsBoundary text i ∧ IsBoundary text j := by
  obtain ⟨a, b, rfl, rfl, rfl⟩ := between?_eq_some_iff.1 (between_eq_ok_iff.1 h)
  refine ⟨by omega, ⟨a, m ++ b, by rw [List.append_assoc], rfl⟩, ⟨a ++ m, b, rfl, ?_⟩⟩
  rw [byteLength_append]

/-- A span that can be cut out goes forward from one boundary to another. -/
theorem boundaries_of_slice {s : Span} {text piece : String} (h : s.slice text = .ok piece) :
    s.start ≤ s.stop ∧ IsBoundary text.toList s.start ∧ IsBoundary text.toList s.stop := by
  rw [← String.ofList_toList (s := piece), slice_eq_ok_iff, ← between_eq_ok_iff] at h
  exact boundaries_of_between h

/-- A span that is formed has its ends in order. -/
theorem eq_of_make {i j : Nat} {s : Span} (h : make i j = .ok s) : s = ⟨i, j⟩ ∧ i ≤ j := by
  unfold make at h
  split at h
  · next hij => exact ⟨(Except.ok.inj h).symm, hij⟩
  · cases h

theorem make_eq_ok {i j : Nat} (h : i ≤ j) : make i j = .ok ⟨i, j⟩ := if_pos h

end Span

end ImportOrder
