/-!
# Cutting a text at a byte offset

Positions in a text count the bytes of its UTF-8 form, while a text is a list of
characters. The one primitive is `cut?`, which splits a text at an offset and succeeds
exactly when the offset is in bounds and does not fall inside a character. `between?`
takes the piece between two offsets.
-/

namespace ImportOrder

/-- The number of bytes that a text takes. -/
def byteLength : List Char → Nat
  | [] => 0
  | c :: cs => c.utf8Size + byteLength cs

/-- Split a text after `n` bytes. There is no answer past the end or inside a
character. -/
def cut? : Nat → List Char → Option (List Char × List Char)
  | 0, cs => some ([], cs)
  | _ + 1, [] => none
  | n + 1, c :: cs =>
    if c.utf8Size ≤ n + 1 then
      match cut? (n + 1 - c.utf8Size) cs with
      | some (before, after) => some (c :: before, after)
      | none => none
    else none

/-- The piece of a text between two byte offsets. -/
def between? (start stop : Nat) (cs : List Char) : Option (List Char) :=
  if start ≤ stop then
    match cut? start cs with
    | some (_, rest) => (cut? (stop - start) rest).map (·.1)
    | none => none
  else none

@[simp] theorem byteLength_append (a b : List Char) :
    byteLength (a ++ b) = byteLength a + byteLength b := by
  induction a with
  | nil => simp [byteLength]
  | cons c cs ih => simp [byteLength, ih, Nat.add_assoc]

/-- **Cutting between two texts.** The boundary after the first of two joined texts
gives both back. -/
theorem cut?_append (a b : List Char) : cut? (byteLength a) (a ++ b) = some (a, b) := by
  induction a with
  | nil => simp [byteLength, cut?]
  | cons c cs ih =>
    have hc : 0 < c.utf8Size := c.utf8Size_pos
    obtain ⟨m, hm⟩ : ∃ m, c.utf8Size + byteLength cs = m + 1 :=
      ⟨_, (Nat.succ_pred_eq_of_pos (by omega)).symm⟩
    simp only [byteLength, List.cons_append, hm, cut?]
    rw [if_pos (by omega), show m + 1 - c.utf8Size = byteLength cs by omega, ih]

/-- **What a cut says.** The two pieces join to the text and the first one has the given
length. -/
theorem eq_of_cut? {n : Nat} {cs a b : List Char} (h : cut? n cs = some (a, b)) :
    cs = a ++ b ∧ byteLength a = n := by
  induction cs generalizing n a b with
  | nil =>
    cases n with
    | zero => simp_all [cut?, byteLength]
    | succ n => simp [cut?] at h
  | cons c cs ih =>
    cases n with
    | zero =>
      simp only [cut?, Option.some.injEq, Prod.mk.injEq] at h; simp [← h.1, ← h.2, byteLength]
    | succ n =>
      simp only [cut?] at h
      split at h
      · next hc =>
        split at h
        · next before after hcut =>
          simp only [Option.some.injEq, Prod.mk.injEq] at h
          obtain ⟨rfl, rfl⟩ := h
          obtain ⟨hjoin, hlen⟩ := ih hcut
          exact ⟨by simp [hjoin], by simp only [byteLength, hlen]; omega⟩
        · simp at h
      · simp at h

end ImportOrder
