import ImportOrder.Proofs.Landing
import ImportOrder.Proofs.Repairing

/-!
# Mending a text comes to an end

What a pass leaves has to be read again before the next pass, and for that the parser is
needed. All that is asked of it is that it finds the statements of a text that a pass
has made where their texts have come to lie (`Faithful`). Then mending lifts one
late import in each pass, and two more passes at most make the runs clean, unless the ten
passes are used up before.
-/

namespace ImportOrder

variable {σ : Type} {parser : String → Except ParseError (List Statement)} {rule : Rule}

/-! ## What the parser has to do -/

/-- Mending the text makes texts that the parser reads as they were made, and that have
lines that can be counted. -/
structure Faithful (parser : String → Except ParseError (List Statement)) (rule : Rule)
    (code : String) : Prop where
  /-- the statements are found where their texts have come to lie -/
  lands : ∀ {k text ss ds next}, Passes parser rule code k text → parser text = .ok ss →
    check text rule ss = .ok ds → fixesOf ds ≠ [] → Fix.applyAll text (fixesOf ds) = .ok next →
    parser next = .ok (landing text rule ss)
  /-- no text has too many lines -/
  short : ∀ {k text}, Passes parser rule code k text → lineCount text < 2 ^ 32 - 1

/-- What is asked of the parser for a text is asked for the text after each pass as
well, so the loop never leaves it. -/
theorem Faithful.next {text next : String} {ss : List Statement} {ds : List Diagnostic}
    (h : Faithful parser rule text) (hparse : parser text = .ok ss)
    (hcheck : check text rule ss = .ok ds) (hfixes : fixesOf ds ≠ [])
    (happly : Fix.applyAll text (fixesOf ds) = .ok next) : Faithful parser rule next :=
  ⟨fun hpasses => h.lands (.more hparse hcheck hfixes happly hpasses),
    fun hpasses => h.short (.more hparse hcheck hfixes happly hpasses)⟩

/-- Every pass over one of the texts leads to another one of them, in which the parser
finds the statements where their texts have come to lie, and no text has too many
lines. -/
def closedUnderPasses (parser : String → Except ParseError (List Statement)) (rule : Rule)
    (texts : List String) : Bool :=
  texts.all fun text => lineCount text < 2 ^ 32 - 1 && match parser text with
    | .error _ => true
    | .ok ss => match check text rule ss with
      | .error _ => true
      | .ok ds => (fixesOf ds).isEmpty || match Fix.applyAll text (fixesOf ds) with
        | .error _ => true
        | .ok next => texts.contains next && decide (parser next = .ok (landing text rule ss))

/-- **Being faithful can be computed** where the passes over a text do not leave some
list of texts. -/
theorem faithful_of_closed (texts : List String) (h : closedUnderPasses parser rule texts = true)
    {code : String} (hcode : code ∈ texts) : Faithful parser rule code := by
  have hall : ∀ text ∈ texts, _ := List.all_eq_true.1 h
  have hstep :
      ∀ {text ss ds next}, text ∈ texts → parser text = .ok ss → check text rule ss = .ok ds →
      fixesOf ds ≠ [] → Fix.applyAll text (fixesOf ds) = .ok next →
      next ∈ texts ∧ parser next = .ok (landing text rule ss) := by
    intro text ss ds next htext hparse hcheck hfixes happly
    have hone := (Bool.and_eq_true_iff.1 (hall text htext)).2
    have hsome : (fixesOf ds).isEmpty = false :=
      Bool.eq_false_iff.2 fun hnone => hfixes (List.isEmpty_iff.1 hnone)
    simpa only [hparse, hcheck, happly, hsome, Bool.false_or, Bool.and_eq_true,
      List.contains_iff_mem, decide_eq_true_eq] using hone
  have hreached : ∀ {k text}, Passes parser rule code k text → text ∈ texts := by
    intro k text hpasses
    induction hpasses with
    | none => exact hcode
    | more hparse hcheck hfixes happly _ ih => exact ih (hstep hcode hparse hcheck hfixes happly).1
  refine ⟨fun hpasses hparse hcheck hfixes happly => ?_, fun hpasses => ?_⟩
  · exact (hstep (hreached hpasses) hparse hcheck hfixes happly).2
  · exact of_decide_eq_true (Bool.and_eq_true_iff.1 (hall _ (hreached hpasses))).1

/-! ## One pass of the loop -/

/-- A page as the loop meets it: it is read from its text by the parser. -/
structure Page.Met (parser : String → Except ParseError (List Statement)) (rule : Rule)
    (p : Page) : Prop where
  /-- the blocks describe their bodies, and lines and places are counted -/
  read : p.Read
  /-- the parser finds the statements -/
  parsed : parser p.text = .ok p.statements
  /-- and it will find them in the texts that are made of this one -/
  faithful : Faithful parser rule p.text

theorem Page.Met.lines {p : Page} (h : p.Met parser rule) : lineCount p.text < 2 ^ 32 - 1 :=
  h.faithful.short (.none p.text)

/-- **One pass.** A page is checked, and if there is something to fix, the loop goes on
with the next page. -/
theorem Page.Met.step {p : Page} (h : p.Met parser rule) :
    ∃ ds, check p.text rule p.statements = .ok ds ∧ (fixesOf ds ≠ [] →
      (p.pass rule).settled.Met parser rule ∧ ∀ blame left passes,
        mend (faultless parser) rule blame (left + 1) passes p.text =
          mend (faultless parser) rule blame left (passes + 1) (p.pass rule).settled.text) := by
  obtain ⟨ds, hcheck, happly⟩ := check_pass h.read.proper (h.read.inRange h.lines) rule
  refine ⟨ds, hcheck, fun hfixes => ?_⟩
  have hlands := h.faithful.lands (.none p.text) h.parsed hcheck hfixes happly
  have hnext := h.faithful.next h.parsed hcheck hfixes happly
  rw [landing, h.read.cut_eq] at hlands
  rw [Page.text_settled]
  refine ⟨⟨Page.read_settled (sound_pass h.read.sound rule), ?_, ?_⟩, fun blame left passes => ?_⟩
  · rw [Page.text_settled]
    exact hlands
  · rw [Page.text_settled]
    exact hnext
  · exact mend_of_fixes parser rule blame passes h.parsed hcheck hfixes happly

/-! ## The whole loop -/

/-- **With enough passes left the loop ends with a clean text.** It may stop before the
passes are used up, when there is nothing left to fix. -/
theorem Page.Met.mend_within {p : Page} {k left : Nat} (h : p.Met parser rule)
    (hk : p.Within rule k) (hleft : k ≤ left) (blame : ParseError → Failure) (passes : Nat) :
    ∃ r, mend (faultless parser) rule blame left passes p.text = .ok r ∧ r.passes ≤ passes + k ∧
      r.remaining = [] := by
  induction k generalizing p left passes with
  | zero =>
    have hclean := h.read.check_clean h.lines hk
    exact ⟨_, mend_of_clean parser rule blame passes h.parsed hclean, Nat.le_refl _, rfl⟩
  | succ k ih =>
    obtain ⟨ds, hcheck, hstep⟩ := h.step
    by_cases hfixes : fixesOf ds = []
    · rw [check_eq_nil hcheck hfixes] at hcheck
      exact ⟨_, mend_of_clean parser rule blame passes h.parsed hcheck, Nat.le_add_right .., rfl⟩
    · obtain ⟨left, rfl⟩ : ∃ l, left = l + 1 := ⟨left - 1, by omega⟩
      obtain ⟨hmet, hmend⟩ := hstep hfixes
      have hfewer : k ≤ left := Nat.le_of_succ_le_succ hleft
      obtain ⟨r, hr, hpasses, hremaining⟩ :=
        ih hmet (h.read.within_pass h.lines hk) hfewer (passes + 1)
      exact ⟨r, (hmend ..).trans hr, by omega, hremaining⟩

/-- What a check of a page with late imports reports. -/
theorem Page.Read.check_late {p : Page} (h : p.Read) (hlate : p.lateness rule ≠ 0) :
    ∃ ds, check p.text rule p.statements = .ok ds ∧ ds.length = p.lateness rule ∧
      ∀ d ∈ ds, d.problem = .misplacedImport := by
  obtain ⟨hrule, hblocks⟩ := Page.late_iff.2 hlate
  obtain ⟨tops, passed, b, tail, hsplit⟩ := exists_lateSplit hblocks
  obtain ⟨ds, -, hcheck, -, -, hlength, hproblem, -⟩ := check_lifted h.proper hrule hsplit
  refine ⟨ds, hcheck, ?_, hproblem⟩
  rw [hlength, Page.lateness, if_pos hrule]

/-- **With too many late imports the loop uses all its passes**, and the rest of the
late imports remain. As long as an import is late it is reported, and where something is
reported something is fixed, so the loop goes on. -/
theorem Page.Met.mend_late {p : Page} {left : Nat} (h : p.Met parser rule)
    (hlate : left < p.lateness rule) (blame : ParseError → Failure) (passes : Nat) :
    ∃ r, mend (faultless parser) rule blame left passes p.text = .ok r ∧ r.passes = passes + left ∧
      r.remaining.length = p.lateness rule - left ∧
        ∀ d ∈ r.remaining, d.problem = .misplacedImport := by
  induction left generalizing p passes with
  | zero =>
    obtain ⟨ds, hcheck, hlength, hproblem⟩ := h.read.check_late (Nat.ne_of_gt hlate)
    refine ⟨⟨p.text, passes, ds⟩, ?_, rfl, hlength, hproblem⟩
    rw [mend, lintText_of_ok parser rule blame h.parsed, hcheck]
    rfl
  | succ left ih =>
    have hsome : p.lateness rule ≠ 0 := by omega
    obtain ⟨ds, hcheck, hlength, -⟩ := h.read.check_late hsome
    obtain ⟨ds', hcheck', hstep⟩ := h.step
    obtain rfl : ds = ds' := Except.ok.inj (hcheck.symm.trans hcheck')
    have hfixes : fixesOf ds ≠ [] := fun hnone => by
      rw [check_eq_nil hcheck hnone, List.length_nil] at hlength
      omega
    obtain ⟨hmet, hmend⟩ := hstep hfixes
    have hlateness := p.lateness_pass rule
    obtain ⟨r, hr, hpasses, hremaining, hproblem⟩ := ih hmet (by omega) (passes + 1)
    exact ⟨r, (hmend ..).trans hr, by omega, by omega, hproblem⟩

/-! ## From a module -/

/-- **Mending converges.** Let the host answer by a parser that is faithful, and let a
module be document-ordered with counted lines and lists in one piece. If few enough of
its imports are late, mending takes at most two passes more than there are of them, and
nothing remains to be reported; if too many are, mending takes all its ten passes, and
the rest of the late imports remain to be reported. -/
theorem fixSource_converges (l : Linter σ) (good : σ → Prop)
    (parser : String → Except ParseError (List Statement))
    (hreads : l.host.Reads good (faultless parser)) {code : String} {ss : List Statement}
    (hparse : parser code = .ok ss) (hordered : DocumentOrdered code ss)
    (hcounted : Counted code ss) (htogether : ∀ d ∈ ss.filterMap Statement.decl?, NamedTogether d)
    (hfaithful : Faithful parser l.rule code) (s : σ) (hs : good s) :
    let n := if l.rule.importsAtStart then lateCount ss else 0
    (n ≤ 8 → ∃ r, resultOf (l.fixSource code) s = .ok r ∧ r.passes ≤ n + 2 ∧ r.remaining = []) ∧
      (11 ≤ n → ∃ r, resultOf (l.fixSource code) s = .ok r ∧ r.passes = 10 ∧
        r.remaining.length = n - 10 ∧
        ∀ d ∈ r.remaining, d.problem = .misplacedImport) := by
  intro n
  obtain ⟨htext, hstatements, -⟩ := Page.cut_spec hordered
  have hmet : (Page.cut code ss).Met parser l.rule := by
    refine ⟨⟨Page.sound_cut hordered htogether, Page.settled_cut hordered hcounted⟩, ?_, ?_⟩
    · rw [htext, hstatements, hparse]
    · rw [htext]
      exact hfaithful
  have hlateness : (Page.cut code ss).lateness l.rule = n := by
    rw [Page.lateness, ← lateCount_statements, hstatements]
  have hresult : resultOf (l.fixSource code) s =
      mend (faultless parser) l.rule .source 10 0 (Page.cut code ss).text := by
    rw [htext]
    exact (Linter.repairFrom_yields hreads .source 10 0 code s hs).1
  rw [hresult]
  constructor
  · intro hfew
    have hwithin : (Page.cut code ss).Within l.rule (n + 2) := Nat.le_of_eq hlateness
    obtain ⟨r, hr, hpasses, hremaining⟩ :=
      hmet.mend_within hwithin (Nat.add_le_add_right hfew 2) .source 0
    exact ⟨r, hr, by omega, hremaining⟩
  · intro hmany
    have hmore : 10 < (Page.cut code ss).lateness l.rule := by omega
    obtain ⟨r, hr, hpasses, hremaining, hproblem⟩ := hmet.mend_late hmore .source 0
    exact ⟨r, hr, by omega, by omega, hproblem⟩

/-- The statements of a text in which each letter is one: `a` is an import, any other
letter is none. -/
def letterStatements (start line : Nat) : List Char → List Statement
  | [] => []
  | '\n' :: cs => letterStatements (start + 1) (line + 1) cs
  | 'a' :: cs =>
    .importDecl ⟨⟨start, start + 1⟩, line, line, none, "a", []⟩ ::
      letterStatements (start + 1) line cs
  | c :: cs =>
    .other c.toString ⟨start, start + 1⟩ line line :: letterStatements (start + 1) line cs

/-- The parser of such texts. -/
def letterParser (text : String) : Except ParseError (List Statement) :=
  .ok (letterStatements 0 1 text.toList)

/-- A letter with a number of late imports after it, and what becomes of this text as
they are lifted one by one. -/
def liftedOneByOne (n : Nat) : List String :=
  (List.range (n + 1)).map fun k =>
    String.join (List.replicate k "a\n") ++ "q" ++ String.ofList (List.replicate (n - k) 'a')

/-- A single late import is lifted, and nothing remains. Of eleven late imports one
remains. -/
theorem fixSource_converges_lifted :
    let l := plainLinter letterParser {}
    lateCount (letterStatements 0 1 "q\na\n".toList) = 1 ∧ Faithful letterParser l.rule "q\na\n" ∧
      (∃ r, resultOf (l.fixSource "q\na\n") () = .ok r ∧ r.passes ≤ 1 + 2 ∧ r.remaining = []) ∧
      lateCount (letterStatements 0 1 "qaaaaaaaaaaa".toList) = 11 ∧
      Faithful letterParser l.rule "qaaaaaaaaaaa" ∧
      ∃ r, resultOf (l.fixSource "qaaaaaaaaaaa") () = .ok r ∧ r.passes = 10 ∧
        r.remaining.length = 11 - 10 ∧
        ∀ d ∈ r.remaining, d.problem = .misplacedImport := by
  intro l
  have hreads := plainLinter_reads letterParser {}
  have hone : Faithful letterParser l.rule "q\na\n" :=
    faithful_of_closed ["q\na\n", "a\nq\n\n"] (by decide +kernel) (by decide)
  have heleven : Faithful letterParser l.rule "qaaaaaaaaaaa" :=
    faithful_of_closed (liftedOneByOne 11) (by decide +kernel) (by decide)
  refine ⟨by decide, hone, ?_, by decide, heleven, ?_⟩
  · exact (fixSource_converges l (fun _ => True) letterParser hreads rfl (by decide) (by decide)
      (by decide) hone ()
      trivial).1 (by decide)
  · exact (fixSource_converges l (fun _ => True) letterParser hreads rfl (by decide) (by decide)
      (by decide) heleven ()
      trivial).2 (by decide)

end ImportOrder
