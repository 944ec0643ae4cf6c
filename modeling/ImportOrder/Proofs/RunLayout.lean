import ImportOrder.Proofs.BracedLists
import ImportOrder.Proofs.SafeFixes
import Mathlib.Data.List.Perm.Basic

/-!
# Laying out a run of blocks anew

The fix for a run that is out of order, seen on the blocks of a page. The blocks go into
buckets as their declarations do, and the buckets are stacked: a line break after each
block, another one after each bucket if the rule asks for it, and after the last block
what stood after the run.

* `runFix_placed` — the fix replaces the text of the run by the text of the rearranged
  run;
* `rearranged_perm` — the blocks are the same up to their gaps.
-/

namespace ImportOrder

/-! ## The text of a run up to its last gap -/

/-- The text of a run without what follows its last import. -/
def runText : List ImportBlock → List Char
  | [] => []
  | [b] => b.body
  | b :: c :: rest => b.chars ++ runText (c :: rest)

/-- What follows the last import of a run. -/
def lastGap : List ImportBlock → List Char
  | [] => []
  | [b] => b.gap
  | _ :: c :: rest => lastGap (c :: rest)

/-- Put another text after the last import of a run. -/
def closeWith (gap : List Char) : List ImportBlock → List ImportBlock
  | [] => []
  | [b] => [{ b with gap := gap }]
  | b :: c :: rest => b :: closeWith gap (c :: rest)

/-- The text of a run is that up to its last import, and what follows. -/
theorem importChars_eq (bs : List ImportBlock) : importChars bs = runText bs ++ lastGap bs := by
  induction bs with
  | nil => rfl
  | cons b rest ih =>
    cases rest with
    | nil => exact List.append_nil _
    | cons c rest => rw [importChars_cons, ih, runText, lastGap, List.append_assoc]

theorem getLast?_gap {bs : List ImportBlock} (h : bs ≠ []) :
    bs.getLast?.map ImportBlock.gap = some (lastGap bs) := by
  induction bs with
  | nil => exact absurd rfl h
  | cons b rest ih =>
    cases rest with
    | nil => rfl
    | cons c rest =>
      rw [List.getLast?_cons_cons, ih (List.cons_ne_nil c rest)]
      rfl

theorem closeWith_ne_nil {bs : List ImportBlock} (h : bs ≠ []) (gap : List Char) :
    closeWith gap bs ≠ [] := by
  obtain _ | ⟨b, _ | ⟨c, rest⟩⟩ := bs
  · exact absurd rfl h
  · exact List.cons_ne_nil _ _
  · exact List.cons_ne_nil _ _

theorem runText_closeWith (gap : List Char) (bs : List ImportBlock) :
    runText (closeWith gap bs) = runText bs := by
  induction bs with
  | nil => rfl
  | cons b rest ih =>
    cases rest with
    | nil => rfl
    | cons c rest =>
      obtain ⟨x, xs, hx⟩ :=
        List.exists_cons_of_ne_nil (closeWith_ne_nil (List.cons_ne_nil c rest) gap)
      rw [hx] at ih
      rw [closeWith, hx, runText, runText, ih]

theorem lastGap_closeWith {bs : List ImportBlock} (h : bs ≠ []) (gap : List Char) :
    lastGap (closeWith gap bs) = gap := by
  induction bs with
  | nil => exact absurd rfl h
  | cons b rest ih =>
    cases rest with
    | nil => rfl
    | cons c rest =>
      have := ih (List.cons_ne_nil c rest)
      obtain ⟨x, xs, hx⟩ :=
        List.exists_cons_of_ne_nil (closeWith_ne_nil (List.cons_ne_nil c rest) gap)
      rw [hx] at this
      rw [closeWith, hx, lastGap, this]

theorem importChars_closeWith {bs : List ImportBlock} (h : bs ≠ []) (gap : List Char) :
    importChars (closeWith gap bs) = runText bs ++ gap := by
  rw [importChars_eq, runText_closeWith, lastGap_closeWith h]

/-- What does not look at gaps does not notice. -/
theorem closeWith_map {β : Type} {f : ImportBlock → β} (hf : ∀ b gap, f { b with gap := gap } = f b)
    (gap : List Char) (bs : List ImportBlock) : (closeWith gap bs).map f = bs.map f := by
  induction bs with
  | nil => rfl
  | cons b rest ih =>
    cases rest with
    | nil => simp only [closeWith, List.map_cons, List.map_nil, hf]
    | cons c rest =>
      rw [closeWith, List.map_cons, ih]
      rfl

theorem runText_append {bs : List ImportBlock} (as : List ImportBlock) (h : bs ≠ []) :
    runText (as ++ bs) = importChars as ++ runText bs := by
  induction as with
  | nil => rfl
  | cons a as ih =>
    obtain ⟨x, xs, hx⟩ := List.exists_cons_of_ne_nil (List.append_ne_nil_of_right_ne_nil as h)
    rw [hx] at ih
    rw [List.cons_append, hx, runText, ih, importChars_cons, List.append_assoc]

/-! ## Buckets -/

/-- Things that go with imports, one bucket for each category, each sorted by path. -/
def bucketsOf {α : Type} (rule : Rule) (look : α → ImportDecl) (xs : List α) : List (List α) :=
  rule.sortOrder.categories.map fun c => (xs.filter fun x => (look x).category = c).mergeSort
    fun a b => precedes rule.ignoreCase (look a).path (look b).path

/-- The program sorts imports into the buckets of the theory. -/
theorem desiredOrder_eq (rule : Rule) (ds : List ImportDecl) :
    desiredOrder rule ds = bucketsOf rule id ds := rfl

/-- Buckets of other things that go with imports of the same categories and paths. -/
theorem bucketsOf_map {α β : Type} (rule : Rule) (look : α → ImportDecl) (look' : β → ImportDecl)
    (f : α → β) (hcategory : ∀ x, (look' (f x)).category = (look x).category)
    (hpath : ∀ x, (look' (f x)).path = (look x).path) (xs : List α) :
    bucketsOf rule look' (xs.map f) = (bucketsOf rule look xs).map (List.map f) := by
  rw [bucketsOf, bucketsOf, List.map_map]
  refine List.map_congr_left fun c _ => ?_
  have hfilter : (xs.map f).filter (fun x => (look' x).category = c) =
      (xs.filter fun x => (look x).category = c).map f := by
    rw [List.filter_map]
    simp only [Function.comp_def, hcategory]
  rw [hfilter, Function.comp_apply]
  refine (List.map_mergeSort fun a _ b _ => ?_).symm
  rw [hpath, hpath]

theorem category_of_mem_bucket {α : Type} {look : α → ImportDecl} {c : Category} {le : α → α → Bool}
    {xs : List α} {x : α} (h : x ∈ (xs.filter fun x => (look x).category = c).mergeSort le) :
    (look x).category = c := by
  simpa using (List.mem_filter.1 (List.mem_mergeSort.1 h)).2

/-- Sorting into different boxes takes each thing once, if the boxes are those asked
for. -/
theorem flatten_filter_perm {α κ : Type} [DecidableEq κ] (key : α → κ) {boxes : List κ}
    (hnodup : boxes.Nodup) (xs : List α) :
    ((boxes.map fun c => xs.filter fun x => key x = c).flatten).Perm
      (xs.filter fun x => key x ∈ boxes) := by
  induction boxes with
  | nil =>
    rw [List.filter_eq_nil_iff.2 (by simp)]
    exact .refl _
  | cons c boxes ih =>
    obtain ⟨hc, hnodup⟩ := List.nodup_cons.1 hnodup
    rw [List.map_cons, List.flatten_cons]
    refine ((ih hnodup).append_left _).trans ?_
    have hsplit :=
      List.filter_append_perm (fun x => decide (key x = c)) (xs.filter fun x => key x ∈ c :: boxes)
    rw [List.filter_filter, List.filter_filter] at hsplit
    have hhere :
        ∀ x ∈ xs, (decide (key x = c) && decide (key x ∈ c :: boxes)) = decide (key x = c) := by
      intro x _
      by_cases hx : key x = c <;> simp [hx]
    have hrest : ∀ x ∈ xs, (!decide (key x = c) && decide (key x ∈ c :: boxes)) =
        decide (key x ∈ boxes) := by
      intro x _
      by_cases hx : key x = c <;> simp [hx, hc]
    rwa [List.filter_congr hhere, List.filter_congr hrest] at hsplit

/-- **Buckets lose nothing**: together they hold the things that went in, each of them
once. -/
theorem flatten_bucketsOf_perm {α : Type} (rule : Rule) (look : α → ImportDecl) (xs : List α) :
    (bucketsOf rule look xs).flatten.Perm xs := by
  have hsort : (bucketsOf rule look xs).flatten.Perm
      (rule.sortOrder.categories.map fun c => xs.filter fun x =>
        (look x).category = c).flatten := by
    rw [bucketsOf, ← List.flatMap_def, ← List.flatMap_def]
    exact List.Perm.flatMap_left _ fun c _ => List.mergeSort_perm ..
  have hall : xs.filter (fun x => (look x).category ∈ rule.sortOrder.categories) = xs :=
    List.filter_eq_self.2 fun x _ => decide_eq_true (rule.sortOrder.mem_categories _)
  have hboxes := flatten_filter_perm (fun x => (look x).category) rule.sortOrder.nodup xs
  rw [hall] at hboxes
  exact hsort.trans hboxes

/-- The categories of a sort order stand at increasing places. -/
theorem SortOrder.pairwise_index (o : SortOrder) :
    o.categories.Pairwise fun c d => o.index c < o.index d := by
  refine List.pairwise_iff_getElem.2 fun i j hi hj hij => ?_
  rw [SortOrder.index, SortOrder.index, o.nodup.idxOf_getElem, o.nodup.idxOf_getElem]
  exact hij

/-- Things of an earlier bucket go with imports of an earlier category than those of a
later one. -/
theorem pairwise_bucketsOf {α : Type} (rule : Rule) (look : α → ImportDecl) (xs : List α) :
    (bucketsOf rule look xs).Pairwise fun as bs => ∀ a ∈ as, ∀ b ∈ bs,
      rule.sortOrder.index (look a).category < rule.sortOrder.index (look b).category := by
  refine List.pairwise_map.2 (rule.sortOrder.pairwise_index.imp fun {c d} hcd a ha b hb => ?_)
  rw [category_of_mem_bucket ha, category_of_mem_bucket hb]
  exact hcd

/-- The things of one bucket go with imports of one category, and they are sorted by
path. -/
theorem pairwise_of_mem_bucketsOf {α : Type} (rule : Rule) (look : α → ImportDecl)
    {xs bucket : List α} (h : bucket ∈ bucketsOf rule look xs) :
    bucket.Pairwise fun a b => (look a).category = (look b).category ∧
      precedes rule.ignoreCase (look a).path (look b).path = true := by
  obtain ⟨c, -, rfl⟩ := List.mem_map.1 h
  have hsorted := pairwise_mergeSort_precedes rule.ignoreCase (fun x => (look x).path)
    (xs.filter fun x => (look x).category = c)
  refine hsorted.imp_of_mem fun {a b} ha hb hab => ⟨?_, hab⟩
  rw [category_of_mem_bucket ha, category_of_mem_bucket hb]

/-! ## Stacking buckets -/

/-- Blocks with one text between them and another one at the end. -/
def spacedBy (between last : List Char) (bs : List ImportBlock) : List ImportBlock :=
  closeWith last (bs.map fun b => { b with gap := between })

/-- What stands between two buckets. -/
def bucketGap (rule : Rule) : List Char := if rule.enforceBlankLine then ['\n', '\n'] else ['\n']

/-- The buckets of a run that hold something. -/
def filledBuckets (rule : Rule) (bs : List ImportBlock) : List (List ImportBlock) :=
  (bucketsOf rule ImportBlock.decl bs).filter (!·.isEmpty)

/-- Blocks in the desired order, each on a new line. -/
def rearranged (rule : Rule) (bs : List ImportBlock) : List ImportBlock :=
  closeWith (lastGap bs) ((filledBuckets rule bs).flatMap (spacedBy ['\n'] (bucketGap rule)))

/-- Blocks with one text between them are written as a list with a separator. -/
theorem runText_spaced {bs : List ImportBlock} (gap : List Char) :
    runText (bs.map fun b => { b with gap := gap }) =
      gap.intercalate (bs.map ImportBlock.body) := by
  induction bs with
  | nil => rfl
  | cons b rest ih =>
    cases rest with
    | nil => simp [runText, List.intercalate]
    | cons c rest =>
      rw [List.map_cons] at ih
      rw [List.map_cons, List.map_cons, runText, ih]
      simp [ImportBlock.chars, List.intercalate]

theorem spacedBy_ne_nil {bs : List ImportBlock} (h : bs ≠ []) (between last : List Char) :
    spacedBy between last bs ≠ [] :=
  closeWith_ne_nil (mt List.map_eq_nil_iff.1 h) last

theorem runText_spacedBy (between last : List Char) (bs : List ImportBlock) :
    runText (spacedBy between last bs) = between.intercalate (bs.map ImportBlock.body) := by
  rw [spacedBy, runText_closeWith, runText_spaced]

theorem importChars_spacedBy {bs : List ImportBlock} (h : bs ≠ []) (between last : List Char) :
    importChars (spacedBy between last bs) =
      between.intercalate (bs.map ImportBlock.body) ++ last := by
  rw [spacedBy, importChars_closeWith (mt List.map_eq_nil_iff.1 h), runText_spaced]

/-- Stacked buckets are written as a list of lists, with one separator inside the
buckets and another between them. -/
theorem runText_stacked {buckets : List (List ImportBlock)} (hne : ∀ bucket ∈ buckets, bucket ≠ [])
    (between last : List Char) : runText (buckets.flatMap (spacedBy between last)) =
      last.intercalate
        (buckets.map fun bucket => between.intercalate (bucket.map ImportBlock.body)) := by
  induction buckets with
  | nil => rfl
  | cons bucket rest ih =>
    obtain ⟨hbucket, hrest⟩ := List.forall_mem_cons.1 hne
    cases rest with
    | nil =>
      rw [List.flatMap_cons, List.flatMap_nil, List.append_nil, runText_spacedBy]
      simp [List.intercalate]
    | cons next rest =>
      have hmore : (next :: rest).flatMap (spacedBy between last) ≠ [] := by
        rw [List.flatMap_cons]
        exact List.append_ne_nil_of_left_ne_nil
          (spacedBy_ne_nil (hrest next List.mem_cons_self) between last) _
      rw [List.flatMap_cons, runText_append _ hmore, importChars_spacedBy hbucket, ih hrest]
      simp [List.intercalate]

theorem filledBuckets_ne_nil {rule : Rule} {bs bucket : List ImportBlock}
    (h : bucket ∈ filledBuckets rule bs) :
    bucket ≠ [] := by
  simpa using (List.mem_filter.1 h).2

/-- Every block is in one bucket. -/
theorem flatten_filledBuckets_perm (rule : Rule) (bs : List ImportBlock) :
    (filledBuckets rule bs).flatten.Perm bs := by
  have hflatten : (filledBuckets rule bs).flatten = (bucketsOf rule ImportBlock.decl bs).flatten :=
    List.flatten_filter_not_isEmpty
  rw [hflatten]
  exact flatten_bucketsOf_perm rule ImportBlock.decl bs

/-- **A rearranged run has the same blocks**, up to their order and their gaps. -/
theorem rearranged_perm {β : Type} {f : ImportBlock → β}
    (hf : ∀ b gap, f { b with gap := gap } = f b) (rule : Rule) (bs : List ImportBlock) :
    ((rearranged rule bs).map f).Perm (bs.map f) := by
  have hspaced : ∀ bucket, (spacedBy ['\n'] (bucketGap rule) bucket).map f = bucket.map f := by
    intro bucket
    rw [spacedBy, closeWith_map hf, List.map_map]
    exact List.map_congr_left fun b _ => hf b ['\n']
  rw [rearranged, closeWith_map hf, List.map_flatMap]
  simp only [hspaced]
  rw [← List.map_flatMap, List.flatMap_id']
  exact (flatten_filledBuckets_perm rule bs).map f

theorem rearranged_ne_nil {bs : List ImportBlock} (h : bs ≠ []) (rule : Rule) :
    rearranged rule bs ≠ [] := by
  intro hnil
  have hlen := (rearranged_perm (f := ImportBlock.body) (fun _ _ => rfl) rule bs).length_eq
  rw [hnil, List.map_nil, List.length_nil, List.length_map] at hlen
  exact h (List.eq_nil_of_length_eq_zero hlen.symm)

/-- The text of a rearranged run. -/
theorem runText_rearranged (rule : Rule) (bs : List ImportBlock) : runText (rearranged rule bs) =
    (bucketGap rule).intercalate
      ((filledBuckets rule bs).map fun bucket =>
        ['\n'].intercalate (bucket.map ImportBlock.body)) := by
  rw [rearranged, runText_closeWith, runText_stacked fun _ => filledBuckets_ne_nil]

/-- What stood after a run still stands after it. -/
theorem lastGap_rearranged {bs : List ImportBlock} (h : bs ≠ []) (rule : Rule) :
    lastGap (rearranged rule bs) = lastGap bs := by
  refine lastGap_closeWith (fun hnil => rearranged_ne_nil h rule ?_) _
  rw [rearranged, hnil]
  rfl

/-! ## The fix for a run on a page -/

/-- The blocks of a run that stands at an offset, with their own offsets. -/
def placedAt (n : Nat) : List ImportBlock → List (Nat × ImportBlock)
  | [] => []
  | b :: rest => (n, b) :: placedAt (n + byteLength b.chars) rest

/-- The declaration of a block at an offset. -/
def placedDecl (p : Nat × ImportBlock) : ImportDecl := p.2.decl.shift p.1

/-- Placing imports is giving each its offset first, and moving it there. -/
theorem placeImports_eq (n : Nat) (bs : List ImportBlock) :
    placeImports n bs = (placedAt n bs).map placedDecl := by
  induction bs generalizing n with
  | nil => rfl
  | cons b rest ih =>
    rw [placeImports, placedAt, List.map_cons, ih]
    rfl

theorem placedAt_snd (n : Nat) (bs : List ImportBlock) : (placedAt n bs).map Prod.snd = bs := by
  induction bs generalizing n with
  | nil => rfl
  | cons b rest ih => rw [placedAt, List.map_cons, ih]

/-- A block of a run stands in the text where it is placed. -/
theorem text_of_placedAt {pre : List Char} {bs : List ImportBlock} {p : Nat × ImportBlock}
    (h : p ∈ placedAt (byteLength pre) bs) (post : List Char) :
    ∃ a z, pre ++ importChars bs ++ post = a ++ p.2.body ++ z ∧ byteLength a = p.1 := by
  induction bs generalizing pre with
  | nil => cases h
  | cons b rest ih =>
    rw [placedAt] at h
    rcases List.mem_cons.1 h with rfl | h
    · refine ⟨pre, b.gap ++ importChars rest ++ post, ?_, rfl⟩
      simp only [importChars_cons, ImportBlock.chars, List.append_assoc]
    · rw [← byteLength_append] at h
      obtain ⟨a, z, htext, ha⟩ := ih h
      exact ⟨a, z, by rw [← htext, importChars_cons, ← List.append_assoc], ha⟩

/-- The text under a block that stands in a text. -/
theorem ImportBlock.Proper.sliceOf_shift {b : ImportBlock} (h : b.Proper) (a z : List Char) :
    sliceOf (a ++ b.body ++ z) (b.decl.shift (byteLength a)).span.start
      (b.decl.shift (byteLength a)).span.stop = b.body := by
  rw [h.span_shift, sliceOf_append]

/-- The text of an import can be cut out wherever its block is placed. -/
theorem ImportBlock.Proper.slice_shift {b : ImportBlock} (h : b.Proper) (a z : List Char) :
    (b.decl.shift (byteLength a)).span.slice (String.ofList (a ++ b.body ++ z)) =
      .ok (String.ofList b.body) := by
  rw [h.span_shift, Span.slice_eq_ok_iff, String.toList_ofList]
  exact between?_eq_some_iff.2 ⟨a, z, rfl, rfl, rfl⟩

/-- The text under a declaration. -/
def textUnder (text : String) (d : ImportDecl) : String :=
  String.ofList (sliceOf text.toList d.span.start d.span.stop)

/-- Buckets of imports that can be found in the text can be written. -/
theorem renderBuckets_eq {text : String} {blank : Bool} {buckets : List (List ImportDecl)}
    (h : ∀ bucket ∈ buckets, ∀ d ∈ bucket, d.span.slice text = .ok (textUnder text d)) :
    renderBuckets text blank buckets = .ok ((if blank then "\n\n" else "\n").intercalate
      ((buckets.filter (!·.isEmpty)).map fun bucket =>
        "\n".intercalate (bucket.map (textUnder text)))) := by
  have hbucket : ∀ bucket ∈ buckets.filter (!·.isEmpty),
      renderBucket text bucket = .ok ("\n".intercalate (bucket.map (textUnder text))) := by
    intro bucket hmem
    rw [renderBucket, bind_ok (mapM_ok (h bucket (List.mem_filter.1 hmem).1))]
  rw [renderBuckets, bind_ok (mapM_ok hbucket)]

theorem toList_bucketGap (rule : Rule) :
    (if rule.enforceBlankLine then "\n\n" else "\n").toList = bucketGap rule := by
  rw [bucketGap]
  split <;> rfl

theorem filter_map_map {α β : Type} (f : α → β) (buckets : List (List α)) :
    (buckets.map (List.map f)).filter (!·.isEmpty) =
      (buckets.filter (!·.isEmpty)).map (List.map f) := by
  rw [List.filter_map]
  simp only [Function.comp_def, List.isEmpty_map]

/-- The desired order of a placed run, as it is written. The declarations and the blocks
go into buckets alike, since both are sorted as the placed blocks are. -/
theorem renderBuckets_placed {bs : List ImportBlock} (h : ∀ b ∈ bs, b.Proper) (rule : Rule)
    (pre post : List Char) :
    renderBuckets (String.ofList (pre ++ importChars bs ++ post)) rule.enforceBlankLine
      (desiredOrder rule (placeImports (byteLength pre) bs)) =
        .ok (String.ofList (runText (rearranged rule bs))) := by
  generalize hzs : placedAt (byteLength pre) bs = zs
  generalize htext : String.ofList (pre ++ importChars bs ++ post) = text
  have hdecls : desiredOrder rule (placeImports (byteLength pre) bs) =
      (bucketsOf rule (fun p => p.2.decl) zs).map (List.map placedDecl) := by
    rw [desiredOrder_eq, placeImports_eq, hzs]
    exact bucketsOf_map rule (fun p => p.2.decl) id placedDecl (fun _ => rfl) (fun _ => rfl) zs
  have hblocks : filledBuckets rule bs =
      ((bucketsOf rule (fun p => p.2.decl) zs).filter (!·.isEmpty)).map (List.map Prod.snd) := by
    have hmap :=
      bucketsOf_map rule (fun p => p.2.decl) ImportBlock.decl Prod.snd (fun _ => rfl)
        (fun _ => rfl) zs
    rw [filledBuckets, ← filter_map_map, ← hmap, ← hzs, placedAt_snd]
  have hslice : ∀ p ∈ zs, textUnder text (placedDecl p) = String.ofList p.2.body ∧
      (placedDecl p).span.slice text = .ok (textUnder text (placedDecl p)) := by
    intro p hp
    rw [← hzs] at hp
    have hproper : p.2.Proper := h p.2 (placedAt_snd (byteLength pre) bs ▸ List.mem_map_of_mem hp)
    obtain ⟨a, z, hjoin, ha⟩ := text_of_placedAt hp post
    rw [← htext, hjoin, textUnder, placedDecl, ← ha, String.toList_ofList, hproper.sliceOf_shift,
      hproper.slice_shift]
    exact ⟨rfl, rfl⟩
  have hmem : ∀ bucket ∈ bucketsOf rule (fun p => p.2.decl) zs, ∀ p ∈ bucket, p ∈ zs :=
    fun bucket hb p hp =>
    (flatten_bucketsOf_perm rule _ zs).mem_iff.1 (List.mem_flatten.2 ⟨bucket, hb, hp⟩)
  rw [hdecls, renderBuckets_eq, runText_rearranged, hblocks, filter_map_map]
  · congr 1
    rw [← String.toList_inj, String.toList_ofList, String.toList_intercalate, toList_bucketGap,
      List.map_map, List.map_map, List.map_map]
    congr 1
    refine List.map_congr_left fun bucket hb => ?_
    simp only [Function.comp_apply, String.toList_intercalate, List.map_map]
    congr 1
    refine List.map_congr_left fun p hp => ?_
    simp only [Function.comp_apply, (hslice p (hmem bucket (List.mem_filter.1 hb).1 p hp)).1,
      String.toList_ofList]
  · intro bucket hb d hd
    obtain ⟨bucket, hbucket, rfl⟩ := List.mem_map.1 hb
    obtain ⟨p, hp, rfl⟩ := List.mem_map.1 hd
    exact (hslice p (hmem bucket hbucket p hp)).2

theorem placeImports_ne_nil {bs : List ImportBlock} (h : bs ≠ []) (n : Nat) :
    placeImports n bs ≠ [] := by
  obtain ⟨b, rest, rfl⟩ := List.exists_cons_of_ne_nil h
  exact List.cons_ne_nil _ _

/-- The last import of a placed run ends with the text of the run. -/
theorem getLast_placeImports {bs : List ImportBlock} (hne : bs ≠ []) (n : Nat) :
    ∃ m, (placeImports n bs).getLast (placeImports_ne_nil hne n) = (bs.getLast hne).decl.shift m ∧
      n ≤ m ∧ m + byteLength (bs.getLast hne).body = n + byteLength (runText bs) := by
  induction bs generalizing n with
  | nil => exact absurd rfl hne
  | cons b rest ih =>
    cases rest with
    | nil => exact ⟨n, rfl, Nat.le_refl n, rfl⟩
    | cons c rest =>
      obtain ⟨m, hlast, hle, hlen⟩ := ih (List.cons_ne_nil c rest) (n + byteLength b.chars)
      refine ⟨m, ?_, by omega, ?_⟩
      · rw [List.getLast_cons (List.cons_ne_nil c rest), ← hlast]
        exact List.getLast_cons (placeImports_ne_nil (List.cons_ne_nil c rest) _)
      · rw [List.getLast_cons (List.cons_ne_nil c rest), hlen, runText, byteLength_append,
          Nat.add_assoc]

/-- **The fix for a placed run** replaces its text by the text of the rearranged run. -/
theorem runFix_placed {b : ImportBlock} {bs : List ImportBlock} (h : ∀ x ∈ b :: bs, x.Proper)
    (rule : Rule) (pre post : List Char) (index : Nat) :
    runFix (String.ofList (pre ++ importChars (b :: bs) ++ post)) rule
      ⟨index, b.decl.shift (byteLength pre),
        placeImports (byteLength pre + byteLength b.chars) bs⟩ =
      .ok ⟨⟨byteLength pre, byteLength pre + byteLength (runText (b :: bs))⟩,
        String.ofList (runText (rearranged rule (b :: bs)))⟩ := by
  have hspan : Run.span ⟨index, b.decl.shift (byteLength pre),
      placeImports (byteLength pre + byteLength b.chars) bs⟩ =
        .ok ⟨byteLength pre, byteLength pre + byteLength (runText (b :: bs))⟩ := by
    obtain ⟨m, hlast, hle, hlen⟩ := getLast_placeImports (List.cons_ne_nil b bs) (byteLength pre)
    have hproper := h _ (List.getLast_mem (List.cons_ne_nil b bs))
    have hfirst : byteLength b.body ≤ byteLength (runText (b :: bs)) := by
      cases bs with
      | nil => exact Nat.le_refl _
      | cons c rest =>
        rw [runText, ImportBlock.chars, byteLength_append, byteLength_append]
        omega
    have hcover : (b.decl.shift (byteLength pre)).span.cover
        ((placeImports (byteLength pre) (b :: bs)).getLast (List.cons_ne_nil _ _)).span =
          .ok ⟨byteLength pre, byteLength pre + byteLength (runText (b :: bs))⟩ := by
      rw [hlast, hproper.span_shift, (h b List.mem_cons_self).span_shift, Span.cover, hlen]
      simp only
      rw [Nat.min_eq_left hle, Nat.max_eq_right (by omega), Span.make_eq_ok (by omega)]
    exact hcover
  rw [runFix, bind_ok hspan]
  exact bind_ok (renderBuckets_placed h rule pre post)

end ImportOrder
