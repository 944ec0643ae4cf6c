import ImportOrder.Proofs.Edits

/-!
# Edit scripts

A text together with what is to be done to it, without offsets: a *script* is a list of
chunks, of which some are kept and some are swapped for another text. A script shows
three things:

* `Script.before` — the text as it is;
* `Script.fixes` — the fixes that it stands for, at the offsets where the swapped chunks
  lie;
* `Script.after` — the text that results.

The fixes of a script always follow one another, and `applyAll_script` says that
applying them to the first text gives the last one. So whoever can write down a script
need not reason about offsets.
-/

namespace ImportOrder

/-- A part of a text that is kept, or swapped for another one. -/
inductive Chunk where
  /-- the part stays -/
  | kept (cs : List Char)
  /-- the part `old` goes and `new` comes -/
  | swapped (old new : List Char)

/-- A text and what is to be done to it. -/
abbrev Script := List Chunk

namespace Chunk

/-- The part as it is. -/
def before : Chunk → List Char
  | .kept cs => cs
  | .swapped old _ => old

/-- The part as it will be. -/
def after : Chunk → List Char
  | .kept cs => cs
  | .swapped _ new => new

/-- The fix that swaps the part, if it stands at an offset. -/
def fix? (n : Nat) : Chunk → Option Fix
  | .kept _ => none
  | .swapped old new => some ⟨⟨n, n + byteLength old⟩, String.ofList new⟩

end Chunk

namespace Script

/-- The text as it is. -/
def before (sc : Script) : List Char := sc.flatMap Chunk.before

/-- The text as it will be. -/
def after (sc : Script) : List Char := sc.flatMap Chunk.after

/-- The fixes of a script that stands at an offset. -/
def fixes (n : Nat) : Script → List Fix
  | [] => []
  | c :: rest => (c.fix? n).toList ++ fixes (n + byteLength c.before) rest

@[simp] theorem before_append (a b : Script) : before (a ++ b) = before a ++ before b :=
  List.flatMap_append

@[simp] theorem after_append (a b : Script) : after (a ++ b) = after a ++ after b :=
  List.flatMap_append

/-- The fixes of a script come part by part: those of the second one are behind the text
that the first one reads. -/
theorem fixes_append (n : Nat) (a b : Script) :
    fixes n (a ++ b) = fixes n a ++ fixes (n + byteLength (before a)) b := by
  induction a generalizing n with
  | nil => rfl
  | cons c rest ih =>
    rw [List.cons_append, fixes, fixes, ih, List.append_assoc]
    simp only [before, List.flatMap_cons, byteLength_append, Nat.add_assoc]

/-- The fixes of a script lie under its text. -/
theorem fixes_within {n : Nat} {sc : Script} {f : Fix} (hf : f ∈ fixes n sc) :
    n ≤ f.span.start ∧ f.span.start ≤ f.span.stop ∧ f.span.stop ≤ n + byteLength (before sc) := by
  induction sc generalizing n with
  | nil => cases hf
  | cons c rest ih =>
    rw [fixes] at hf
    simp only [before, List.flatMap_cons, byteLength_append]
    rcases List.mem_append.1 hf with hf | hf
    · cases c with
      | kept cs => cases hf
      | swapped old new =>
        obtain rfl := List.mem_singleton.1 hf
        simp only [Chunk.before]
        omega
    · have := ih hf
      simp only [before] at this
      omega

/-- The fixes of a script follow one another. -/
theorem fixes_pairwise (n : Nat) (sc : Script) :
    (fixes n sc).Pairwise fun a b => a.span.stop ≤ b.span.start := by
  induction sc generalizing n with
  | nil => exact List.Pairwise.nil
  | cons c rest ih =>
    rw [fixes]
    refine List.pairwise_append.2 ⟨?_, ih _, ?_⟩
    · cases c with
      | kept cs => exact List.Pairwise.nil
      | swapped old new => exact List.pairwise_singleton _ _
    · intro a ha b hb
      cases c with
      | kept cs => cases ha
      | swapped old new =>
        obtain rfl := List.mem_singleton.1 ha
        exact (fixes_within hb).1

/-- Splicing takes the text along a script. The text `q` has been read and is still to
be written. -/
theorem splice_fixes (p q : List Char) (sc : Script) :
    Fix.splice (p ++ q ++ before sc) (byteLength p) (fixes (byteLength p + byteLength q) sc) =
      .ok (q ++ after sc) := by
  induction sc generalizing p q with
  | nil =>
    rw [fixes, Fix.splice, Span.between_eq_ok_iff, between?_eq_some_iff]
    refine ⟨p, [], ?_, rfl, ?_⟩
    · simp [before, after]
    · simp [before, after]
  | cons c rest ih =>
    cases c with
    | kept cs =>
      have h := ih p (q ++ cs)
      simp only [byteLength_append, List.append_assoc, ← Nat.add_assoc] at h
      simpa only [before, after, fixes, List.flatMap_cons, Chunk.before, Chunk.after, Chunk.fix?,
        Option.toList_none, List.nil_append, List.append_assoc] using h
    | swapped old new =>
      have hkept : Span.between (byteLength p) (byteLength p + byteLength q)
          (p ++ q ++ before (Chunk.swapped old new :: rest)) = .ok q :=
        Span.between_eq_ok_iff.2 (between?_eq_some_iff.2 ⟨p, _, rfl, rfl, rfl⟩)
      have htail := ih (p ++ q ++ old) []
      simp only [byteLength_append, byteLength_nil, Nat.add_zero, List.append_nil,
        List.nil_append] at htail
      have htext : p ++ q ++ before (Chunk.swapped old new :: rest) =
          p ++ q ++ old ++ before rest := by
        simp only [before, List.flatMap_cons, Chunk.before, List.append_assoc]
      rw [fixes]
      simp only [Chunk.fix?, Option.toList_some, List.singleton_append, Fix.splice, Chunk.before]
      rw [bind_ok hkept, htext, bind_ok htail, String.toList_ofList]
      simp only [after, List.flatMap_cons, Chunk.after, List.append_assoc]

/-- **A script does what it says.** If its fixes are clear of each other, applying them
to the text as it is gives the text as it will be. -/
theorem applyAll_script {sc : Script} (hclear : (fixes 0 sc).Pairwise Fix.Clear) :
    Fix.applyAll (String.ofList (before sc)) (fixes 0 sc) = .ok (String.ofList (after sc)) := by
  have hsorted : Fix.inOrder (fixes 0 sc) = fixes 0 sc := by
    refine List.mergeSort_of_pairwise (List.Pairwise.imp_of_mem ?_ (fixes_pairwise 0 sc))
    intro a b ha hb hab
    have := fixes_within ha
    have := fixes_within hb
    rw [Fix.before_iff]
    omega
  have hsplice := splice_fixes [] [] sc
  simp only [List.nil_append, byteLength_nil, Nat.add_zero] at hsplice
  rw [Fix.applyAll, hsorted]
  simp only [Fix.firstConflict_eq_none hclear, String.toList_ofList, hsplice]

end Script

/-! ## Rewriting without a script at hand -/

/-- The text `old` becomes `new` by the fixes given, for every offset at which it may
stand. -/
def Rewrites (old new : List Char) (fixes : Nat → List Fix) : Prop :=
  ∃ sc : Script, sc.before = old ∧ sc.after = new ∧ ∀ n, sc.fixes n = fixes n

namespace Rewrites

/-- Nothing is done. -/
theorem keep (cs : List Char) : Rewrites cs cs fun _ => [] :=
  ⟨[.kept cs], List.append_nil cs, List.append_nil cs, fun _ => rfl⟩

/-- All of the text is replaced. -/
theorem swap (old new : List Char) :
    Rewrites old new fun n => [⟨⟨n, n + byteLength old⟩, String.ofList new⟩] :=
  ⟨[.swapped old new], List.append_nil old, List.append_nil new, fun _ => rfl⟩

/-- One part after the other. -/
theorem append {a a' b b' : List Char} {f g : Nat → List Fix} (ha : Rewrites a a' f)
    (hb : Rewrites b b' g) :
    Rewrites (a ++ b) (a' ++ b') fun n => f n ++ g (n + byteLength a) := by
  obtain ⟨sa, rfl, rfl, hf⟩ := ha
  obtain ⟨sb, rfl, rfl, hg⟩ := hb
  refine ⟨sa ++ sb, Script.before_append sa sb, Script.after_append sa sb, fun n => ?_⟩
  rw [Script.fixes_append, hf, hg]

/-- Rewriting depends on the fixes only, not on how they are given. -/
theorem congr {old new : List Char} {f g : Nat → List Fix} (h : Rewrites old new f)
    (hfg : ∀ n, f n = g n) :
    Rewrites old new g := by
  obtain ⟨sc, hold, hnew, hfixes⟩ := h
  exact ⟨sc, hold, hnew, fun n => (hfixes n).trans (hfg n)⟩

/-- The fixes lie under the text. -/
theorem within {old new : List Char} {f : Nat → List Fix} (h : Rewrites old new f)
    {n : Nat} {x : Fix} (hx : x ∈ f n) :
    n ≤ x.span.start ∧ x.span.start ≤ x.span.stop ∧ x.span.stop ≤ n + byteLength old := by
  obtain ⟨sc, rfl, -, hfixes⟩ := h
  rw [← hfixes] at hx
  exact Script.fixes_within hx

/-- The fixes follow one another. -/
theorem inRow {old new : List Char} {f : Nat → List Fix} (h : Rewrites old new f) (n : Nat) :
    (f n).Pairwise fun a b => a.span.stop ≤ b.span.start := by
  obtain ⟨sc, -, -, hfixes⟩ := h
  rw [← hfixes]
  exact Script.fixes_pairwise n sc

/-- **Applying the fixes** gives the new text. -/
theorem applyAll {old new : List Char} {f : Nat → List Fix} (h : Rewrites old new f)
    (hclear : (f 0).Pairwise Fix.Clear) :
    Fix.applyAll (String.ofList old) (f 0) = .ok (String.ofList new) := by
  obtain ⟨sc, rfl, rfl, hfixes⟩ := h
  rw [← hfixes] at hclear ⊢
  exact Script.applyAll_script hclear

end Rewrites

/-- One fix puts other text into the place of a part of a text. -/
theorem applyAll_swap (pre old new post : List Char) :
    Fix.applyAll (String.ofList (pre ++ old ++ post))
        [⟨⟨byteLength pre, byteLength pre + byteLength old⟩, String.ofList new⟩] =
      .ok (String.ofList (pre ++ new ++ post)) := by
  have hrewrites := (Rewrites.keep pre).append ((Rewrites.swap old new).append (.keep post))
  have happly := hrewrites.applyAll (List.pairwise_singleton _ _)
  simpa only [Nat.zero_add, List.nil_append, List.append_nil, List.append_assoc] using happly

end ImportOrder
