import ImportOrder.Run
import Mathlib.Data.List.Infix
import Mathlib.Tactic.ByContra

/-!
# Runs are maximal

Runs are collected in one walk over the statements, which keeps the run that may still
grow apart from those that are complete. `runsFrom` says the same by recursion: a run is
the imports with which the statements begin, and the other runs are those of what
remains.

* `flush_foldl` — the invariant of the walk: what it has found together with what is to
  come are the runs, whatever has been found so far. Hence `collectRuns_eq`, the two are
  equal;
* `mem_runsFrom` — the runs of a list of statements are exactly the stretches of imports
  that cannot be made longer, each with the place at which it begins.

Two consequences are used where something is to be said of neighbours:

* `exists_run_of_infix` — imports that follow one another lie in one run;
* `exists_run_before` — an import that another statement follows is the last one of a
  run.
-/

namespace ImportOrder

/-! ## The walk as a recursion -/

/-- The imports with which a list of statements begins. -/
def leadingImports : List Statement → List ImportDecl
  | .importDecl d :: rest => d :: leadingImports rest
  | _ => []

/-- The runs of a list of statements that stands at place `index` of a longer list. -/
def runsFrom (index : Nat) : List Statement → List Run
  | [] => []
  | .other .. :: rest => runsFrom (index + 1) rest
  | .importDecl d :: rest =>
    let more := leadingImports rest
    ⟨index, d, more⟩ :: runsFrom (index + 1 + more.length) (rest.drop more.length)
termination_by ss => ss.length
decreasing_by all_goals simp only [List.length_cons, List.length_drop]; omega

/-- The runs that are still to be completed when a walk has come to place `index`: the
current run takes in the imports that come first, and the others are those of what
remains. -/
def RunScan.pending (scan : RunScan) (index : Nat) (ss : List Statement) : List Run :=
  match scan.current with
  | none => runsFrom index ss
  | some r =>
    let more := leadingImports ss
    { r with tail := r.tail ++ more } :: runsFrom (index + more.length) (ss.drop more.length)

/-- **One statement.** What is complete together with what is pending stays the same
over a step of the walk. -/
theorem RunScan.next_pending (scan : RunScan) (index : Nat) (s : Statement)
    (rest : List Statement) :
    (scan.next (s, index)).complete ++ (scan.next (s, index)).pending (index + 1) rest =
      scan.complete ++ scan.pending index (s :: rest) := by
  obtain ⟨complete, current⟩ := scan
  cases s with
  | importDecl d =>
    cases current with
    | none => simp [next, pending, runsFrom]
    | some r => simp [next, pending, leadingImports, Nat.add_assoc, Nat.add_comm 1]
  | other form span a b =>
    cases current with
    | none => simp [next, pending, flush, runsFrom]
    | some r => simp [next, pending, flush, runsFrom, leadingImports]

/-- **All statements.** The runs that a walk ends with are those that were complete and
those that were pending, wherever it starts. -/
theorem RunScan.flush_foldl (scan : RunScan) (index : Nat) (ss : List Statement) :
    ((ss.zipIdx index).foldl next scan).flush = scan.complete ++ scan.pending index ss := by
  induction ss generalizing scan index with
  | nil =>
    cases hcurrent : scan.current with
    | none => simp [flush, pending, hcurrent, runsFrom]
    | some r => simp [flush, pending, hcurrent, runsFrom, leadingImports]
  | cons s rest ih => rw [List.zipIdx_cons, List.foldl_cons, ih, next_pending]

/-- The walk collects the runs of the recursion. -/
theorem collectRuns_eq (ss : List Statement) : collectRuns ss = runsFrom 0 ss :=
  RunScan.flush_foldl {} 0 ss

/-! ## Where imports begin and end -/

/-- The statements do not begin with an import. -/
def NoImportFirst (ss : List Statement) : Prop := ∀ s ∈ ss.head?, s.isImport = false

/-- The statements do not end with an import. -/
def NoImportLast (ss : List Statement) : Prop := ∀ s ∈ ss.getLast?, s.isImport = false

theorem not_noImportFirst {ds : List ImportDecl} (h : ds ≠ []) (rest : List Statement) :
    ¬ NoImportFirst (ds.map .importDecl ++ rest) := by
  obtain ⟨d, ds, rfl⟩ := List.exists_cons_of_ne_nil h
  intro hfirst
  cases hfirst (.importDecl d) rfl

theorem noImportLast_nil : NoImportLast [] := by simp [NoImportLast]

/-- Which statement is the last one does not depend on what comes before. -/
theorem noImportLast_append {ss : List Statement} (before : List Statement) (h : ss ≠ []) :
    NoImportLast (before ++ ss) ↔ NoImportLast ss := by
  simp only [NoImportLast, List.getLast?_append_of_ne_nil before h]

theorem noImportLast_other_cons {form : String} {span : Span} {a b : Nat} {ss : List Statement} :
    NoImportLast (.other form span a b :: ss) ↔ NoImportLast ss := by
  cases ss with
  | nil => simp [NoImportLast, Statement.isImport, Statement.decl?]
  | cons s rest => exact noImportLast_append [_] (List.cons_ne_nil s rest)

theorem not_noImportLast {ds : List ImportDecl} (h : ds ≠ []) :
    ¬ NoImportLast (ds.map .importDecl) := by
  intro hlast
  cases hlast (.importDecl (ds.getLast h)) (by simp [List.getLast?_eq_some_getLast h])

/-- A list of statements that does not begin with an import. -/
theorem leadingImports_eq_nil {ss : List Statement} (h : NoImportFirst ss) :
    leadingImports ss = [] := by
  cases ss with
  | nil => rfl
  | cons s rest =>
    cases s with
    | importDecl d => cases h _ rfl
    | other => rfl

/-- The imports in front of a module that begins with none are its leading ones. -/
theorem leadingImports_append {rest : List Statement} (h : leadingImports rest = [])
    (ds : List ImportDecl) :
    leadingImports (ds.map .importDecl ++ rest) = ds := by
  induction ds with
  | nil => exact h
  | cons d ds ih => rw [List.map_cons, List.cons_append, leadingImports, ih]

/-- Every list of statements is some imports and a list that does not begin with one. -/
theorem leadingImports_spec (ss : List Statement) :
    (leadingImports ss).map .importDecl ++ ss.drop (leadingImports ss).length = ss ∧
      NoImportFirst (ss.drop (leadingImports ss).length) := by
  induction ss with
  | nil => simp [leadingImports, NoImportFirst]
  | cons s rest ih =>
    cases s with
    | importDecl d => simpa [leadingImports] using ih
    | other form span a b =>
      simp [leadingImports, NoImportFirst, Statement.isImport, Statement.decl?]

/-- Every list of statements is a list that does not end with an import, and some
imports. -/
theorem exists_trailingImports (ss : List Statement) :
    ∃ (before : List Statement) (ds : List ImportDecl), ss = before ++ ds.map .importDecl ∧
      NoImportLast before := by
  induction ss using List.reverseRecOn with
  | nil => exact ⟨[], [], rfl, noImportLast_nil⟩
  | append_singleton rest s ih =>
    cases s with
    | importDecl d =>
      obtain ⟨before, ds, rfl, hbefore⟩ := ih
      exact ⟨before, ds ++ [d], by simp, hbefore⟩
    | other form span a b =>
      refine ⟨rest ++ [.other form span a b], [], by simp, ?_⟩
      simp [NoImportLast, Statement.isImport, Statement.decl?]

/-! ## What runs are -/

theorem Run.imports_ne_nil (r : Run) : r.imports ≠ [] := List.cons_ne_nil _ _

/-- A run and what follows it. -/
theorem runsFrom_run {rest : List Statement} (h : leadingImports rest = []) (index : Nat)
    (d : ImportDecl) (ds : List ImportDecl) : runsFrom index ((d :: ds).map .importDecl ++ rest) =
      ⟨index, d, ds⟩ :: runsFrom (index + 1 + ds.length) rest := by
  rw [List.map_cons, List.cons_append, runsFrom, leadingImports_append h]
  simp only [List.drop_left' (List.length_map ..)]

/-- The run is what stands between two parts of the statements, and there is no import
next to it. The statements stand at place `n` of a longer list. -/
structure Run.Fills (n : Nat) (ss before after : List Statement) (r : Run) : Prop where
  /-- the parts make up the statements -/
  eq : before ++ (r.imports.map .importDecl ++ after) = ss
  /-- the run begins where the first part ends -/
  index : r.firstIndex = n + before.length
  /-- the statement before the run is no import -/
  left : NoImportLast before
  /-- nor is the one after it -/
  right : NoImportFirst after

/-- **Runs are the maximal stretches of imports.** -/
theorem mem_runsFrom {n : Nat} {ss : List Statement} {r : Run} :
    r ∈ runsFrom n ss ↔ ∃ before after, r.Fills n ss before after := by
  fun_induction runsFrom n ss with
  | case1 n =>
    constructor
    · intro h
      cases h
    · rintro ⟨before, after, h⟩
      have hnil := h.eq
      simp [r.imports_ne_nil] at hnil
  | case2 n form span a b rest ih =>
    rw [ih]
    constructor
    · rintro ⟨before, after, rfl, hindex, hleft, hright⟩
      refine ⟨.other form span a b :: before, after, rfl, ?_, noImportLast_other_cons.2 hleft,
        hright⟩
      rw [hindex, List.length_cons]
      omega
    · rintro ⟨before, after, heq, hindex, hleft, hright⟩
      cases before with
      | nil => cases heq
      | cons s before =>
        obtain ⟨rfl, rfl⟩ := List.cons.inj heq
        refine ⟨before, after, rfl, ?_, noImportLast_other_cons.1 hleft, hright⟩
        rw [hindex, List.length_cons]
        omega
  | case3 n d rest more ih =>
    obtain ⟨hrest, hfirst⟩ := leadingImports_spec rest
    have hlength : (d :: more).length = 1 + more.length := Nat.add_comm ..
    generalize rest.drop (leadingImports rest).length = tail at ih hrest hfirst
    have hall : (d :: more).map Statement.importDecl ++ tail = .importDecl d :: rest := by
      rw [List.map_cons, List.cons_append, hrest]
    rw [List.mem_cons, ih]
    constructor
    · rintro (rfl | ⟨before, after, heq, hindex, hleft, hright⟩)
      · exact ⟨[], tail, hall, rfl, noImportLast_nil, hfirst⟩
      · -- a later run does not begin right after this one
        have hne : before ≠ [] := by
          rintro rfl
          exact not_noImportFirst r.imports_ne_nil after (heq ▸ hfirst)
        refine ⟨(d :: more).map .importDecl ++ before, after, ?_, ?_,
          (noImportLast_append _ hne).2 hleft, hright⟩
        · rw [List.append_assoc, heq, hall]
        · rw [hindex, List.length_append, List.length_map, hlength]
          omega
    · rintro ⟨before, after, heq, hindex, hleft, hright⟩
      have hjoin := heq.trans hall.symm
      rcases List.append_eq_append_iff.1 hjoin with ⟨c, hlead, hc⟩ | ⟨c, rfl, hc⟩
      · -- what comes before the run is made of imports, so there is nothing
        obtain ⟨ds, _, -, rfl, -⟩ := List.map_eq_append_iff.1 hlead
        obtain rfl : ds = [] := by
          by_contra hne
          exact not_noImportLast hne hleft
        have himports := congrArg leadingImports hjoin
        rw [List.map_nil, List.nil_append, leadingImports_append (leadingImports_eq_nil hright),
          leadingImports_append (leadingImports_eq_nil hfirst)] at himports
        obtain ⟨index, head, rest⟩ := r
        obtain ⟨rfl, rfl⟩ := List.cons.inj himports
        exact .inl (congrArg (Run.mk · head _) hindex)
      · refine .inr ⟨c, after, hc.symm, ?_, ?_, hright⟩
        · rw [hindex, List.length_append, List.length_map, hlength]
          omega
        · by_cases hne : c = []
          · rw [hne]
            exact noImportLast_nil
          · exact (noImportLast_append _ hne).1 hleft

/-! ## Runs and neighbours -/

/-- Every run that is collected fills a place between other statements. -/
theorem exists_fills {ss : List Statement} {r : Run} (h : r ∈ collectRuns ss) :
    ∃ before after, r.Fills 0 ss before after := by
  rw [collectRuns_eq] at h
  exact mem_runsFrom.1 h

/-- A stretch of imports that cannot be made longer is collected. -/
theorem Run.Fills.mem {ss before after : List Statement} {r : Run} (h : r.Fills 0 ss before after) :
    r ∈ collectRuns ss := by
  rw [collectRuns_eq]
  exact mem_runsFrom.2 ⟨_, _, h⟩

/-- Where no import stands next to imports, they are a run. -/
theorem exists_run {before after : List Statement} {ds : List ImportDecl} (hne : ds ≠ [])
    (hleft : NoImportLast before) (hright : NoImportFirst after) :
    ∃ r ∈ collectRuns (before ++ (ds.map .importDecl ++ after)), r.imports = ds ∧
      r.Fills 0 (before ++ (ds.map .importDecl ++ after)) before after := by
  obtain ⟨d, ds, rfl⟩ := List.exists_cons_of_ne_nil hne
  have hfills :
      (⟨before.length, d, ds⟩ : Run).Fills 0 (before ++ ((d :: ds).map .importDecl ++ after))
        before after :=
    ⟨rfl, (Nat.zero_add _).symm, hleft, hright⟩
  exact ⟨_, hfills.mem, rfl, hfills⟩

/-- The statement after some imports. -/
theorem getElem?_after (before after : List Statement) (ds : List ImportDecl) :
    (before ++ (ds.map .importDecl ++ after))[before.length + ds.length]? = after.head? := by
  rw [List.getElem?_append_right (Nat.le_add_right ..), Nat.add_sub_cancel_left,
    List.getElem?_append_right (Nat.le_of_eq (List.length_map ..)), List.length_map, Nat.sub_self,
    List.head?_eq_getElem?]

/-- The statement after a run. -/
theorem Run.Fills.following {ss before after : List Statement} {r : Run}
    (h : r.Fills 0 ss before after) :
    ss[r.lastIndex + 1]? = after.head? := by
  obtain ⟨rfl, hindex, -, -⟩ := h
  rw [← getElem?_after before after r.imports, Run.lastIndex_eq, hindex, Nat.zero_add,
    Nat.add_assoc]
  rfl

/-- The imports of a run follow one another. -/
theorem Run.Fills.isInfix {n : Nat} {ss before after : List Statement} {r : Run}
    (h : r.Fills n ss before after) :
    r.imports.map .importDecl <:+: ss := ⟨before, after, by rw [List.append_assoc, h.eq]⟩

/-- The last import of a run and the statement after it. -/
theorem Run.Fills.last_infix {n : Nat} {ss before rest : List Statement} {r : Run} {s : Statement}
    (h : r.Fills n ss before (s :: rest)) : [.importDecl r.last, s] <:+: ss := by
  refine ⟨before ++ r.imports.dropLast.map .importDecl, rest, ?_⟩
  rw [← h.eq]
  conv_rhs => rw [← List.dropLast_append_getLast r.imports_ne_nil]
  simp [Run.last]

/-- **Imports that follow one another lie in one run.** The stretch is made longer at
both ends until no import is next to it, and a stretch like this is a run that is
collected. -/
theorem exists_run_of_infix {ss : List Statement} {ds : List ImportDecl} (hne : ds ≠ [])
    (h : ds.map .importDecl <:+: ss) : ∃ r ∈ collectRuns ss, ds <:+: r.imports := by
  obtain ⟨front, back, rfl⟩ := h
  obtain ⟨before, pre, rfl, hleft⟩ := exists_trailingImports front
  obtain ⟨hback, hright⟩ := leadingImports_spec back
  have hlong : pre ++ ds ++ leadingImports back ≠ [] := by simp [hne]
  obtain ⟨r, hr, himports, -⟩ := exists_run hlong hleft hright
  refine ⟨r, ?_, pre, leadingImports back, himports.symm⟩
  rw [List.map_append, List.map_append, List.append_assoc, hback] at hr
  simpa only [List.append_assoc] using hr

/-- **An import before another statement is the last one of a run.** -/
theorem exists_run_before {ss : List Statement} {d : ImportDecl} {s : Statement}
    (h : [.importDecl d, s] <:+: ss) (hs : s.isImport = false) :
    ∃ r ∈ collectRuns ss, r.last = d ∧ ss[r.lastIndex + 1]? = some s := by
  obtain ⟨front, back, rfl⟩ := h
  obtain ⟨before, pre, rfl, hleft⟩ := exists_trailingImports front
  have hright : NoImportFirst (s :: back) := by
    rintro t ⟨⟩
    exact hs
  obtain ⟨r, hr, himports, hfills⟩ :=
    exists_run (List.append_ne_nil_of_right_ne_nil pre (List.cons_ne_nil d []))
    hleft hright
  have hss : before ++ ((pre ++ [d]).map .importDecl ++ s :: back) =
      before ++ pre.map .importDecl ++ [.importDecl d, s] ++ back := by simp
  rw [← hss]
  refine ⟨r, hr, ?_, hfills.following⟩
  simp only [Run.last, himports, List.getLast_append_singleton]

end ImportOrder
