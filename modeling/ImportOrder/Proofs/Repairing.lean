import ImportOrder.Linter
import ImportOrder.Proofs.SafeFixes

/-!
# Mending a text, whatever the parser does

The loop that mends a text runs inside a host with a state. Where the host answers every
text by a fixed function, its state can be forgotten:

* `Host.Reads` — in good states the host answers by a given parser, and it stays in good
  states;
* `mend` — the loop as a plain function of the parser (`repairFrom_yields` says that it
  is the loop);
* `Passes` — some number of passes lead from one text to another.

Nothing is assumed of the parser. The loop can still be trusted with this: it ends
within ten passes, fails only where the parser does, and its last word is true of the
text that it returns. The heart is that the first finding of a check always keeps its
fix (`withhold_eq_nil`), so a check without fixes is a check without findings.
-/

namespace ImportOrder

variable {σ α β : Type}

/-! ## Actions that come to a known result -/

/-- What an action comes to. -/
def resultOf (a : Action σ α) (s : σ) : Except (Halt Failure) α := (a.run.run s).1

/-- The state in which an action leaves its host. -/
def stateAfter (a : Action σ α) (s : σ) : σ := (a.run.run s).2

/-- The second of two actions starts in the state that the first one leaves. -/
theorem resultOf_bind (a : Action σ α) (f : α → Action σ β) (s : σ) :
    resultOf (a >>= f) s = resultOf a s >>= fun x => resultOf (f x) (stateAfter a s) := by
  simp only [resultOf, stateAfter, ExceptT.run_bind, StateT.run_bind]
  rcases (a.run.run s) with ⟨_ | _, _⟩ <;> rfl

/-- Where the first of two actions ends well, the second one has the last word on the
state. -/
theorem stateAfter_bind (a : Action σ α) (f : α → Action σ β) (s : σ) :
    stateAfter (a >>= f) s =
      match resultOf a s with
      | .ok x => stateAfter (f x) (stateAfter a s)
      | .error _ => stateAfter a s := by
  simp only [resultOf, stateAfter, ExceptT.run_bind, StateT.run_bind]
  rcases (a.run.run s) with ⟨_ | _, _⟩ <;> rfl

/-- From good states the action comes to one result, and it ends in good states. -/
def Yields (good : σ → Prop) (a : Action σ α) (r : Except (Halt Failure) α) : Prop :=
  ∀ s, good s → resultOf a s = r ∧ good (stateAfter a s)

/-- Actions with known results can be done one after another: the second starts in a
good state and its result may be that of the first. -/
theorem Yields.bind {good : σ → Prop} {a : Action σ α} {f : α → Action σ β}
    {r : Except (Halt Failure) α} {g : α → Except (Halt Failure) β} (ha : Yields good a r)
    (hf : ∀ x, r = .ok x → Yields good (f x) (g x)) : Yields good (a >>= f) (r >>= g) := by
  intro s hs
  obtain ⟨hresult, hgood⟩ := ha s hs
  rw [resultOf_bind, stateAfter_bind, hresult]
  cases r with
  | error e => exact ⟨rfl, hgood⟩
  | ok x => exact hf x rfl _ hgood

/-- An action that ends well hands its result on. -/
theorem Yields.after {good : σ → Prop} {a : Action σ α} {f : α → Action σ β} {x : α}
    {r : Except (Halt Failure) β} (ha : Yields good a (.ok x)) (hf : Yields good (f x) r) :
    Yields good (a >>= f) r := by
  refine ha.bind (g := fun _ => r) fun y hy => ?_
  obtain rfl := Except.ok.inj hy
  exact hf

theorem Yields.pure (good : σ → Prop) (x : α) : Yields good (pure x : Action σ α) (.ok x) :=
  fun _ hs => ⟨rfl, hs⟩

theorem Yields.mk (good : σ → Prop) (r : Except (Halt Failure) α) :
    Yields good (ExceptT.mk (Pure.pure r) : Action σ α) r :=
  fun _ hs => ⟨rfl, hs⟩

theorem Yields.throw (good : σ → Prop) (e : Halt Failure) :
    Yields good (throw e : Action σ α) (.error e) :=
  fun _ hs => ⟨rfl, hs⟩

/-! ## The loop as a plain function -/

/-- In good states the host answers every text by the parser, and it stays in good
states. -/
structure Host.Reads (host : Host σ) (good : σ → Prop)
    (parse : String → Except (Halt ParseError) (List Statement)) : Prop where
  /-- the answer is the parser's -/
  answer : ∀ code s, good s → (host.parse code s).1 = parse code
  /-- parsing leads from good states to good ones -/
  parsing : ∀ code s, good s → good (host.parse code s).2
  /-- so does listening -/
  hearing : ∀ e s, good s → good (host.hear e s)

/-- What breaks the rule in a text, by a plain parser. -/
def lintText (parse : String → Except (Halt ParseError) (List Statement)) (rule : Rule)
    (blame : ParseError → Failure) (code : String) : Except (Halt Failure) (List Diagnostic) := do
  let ss ← (parse code).mapError (Halt.map blame)
  Halt.ofFault (check code rule ss)

/-- Pass after pass over a text, by a plain parser: `left` more are allowed after
`passes`. -/
def mend (parse : String → Except (Halt ParseError) (List Statement)) (rule : Rule)
    (blame : ParseError → Failure) : Nat → Nat → String → Except (Halt Failure) Repair
  | 0, passes, text => do
    let ds ← lintText parse rule blame text
    .ok ⟨text, passes, ds⟩
  | left + 1, passes, text => do
    let ds ← lintText parse rule blame text
    if (fixesOf ds).isEmpty then .ok ⟨text, passes, ds⟩
    else match Fix.applyAll text (fixesOf ds) with
      | .error h => .error (h.map .fixConflict)
      | .ok next => mend parse rule blame left (passes + 1) next

/-- The last word of the loop is true of the text that it returns, which is another one
only after a pass. -/
theorem mend_eq_ok {parse : String → Except (Halt ParseError) (List Statement)} {rule : Rule}
    {blame : ParseError → Failure} {left passes : Nat} {text : String} {r : Repair}
    (h : mend parse rule blame left passes text = .ok r) :
    lintText parse rule blame r.output = .ok r.remaining ∧ passes ≤ r.passes ∧
      (r.passes = passes → r.output = text) := by
  induction left generalizing passes text with
  | zero =>
    obtain ⟨ds, hds, h⟩ := ok_of_bind h
    obtain rfl := Except.ok.inj h
    exact ⟨hds, Nat.le_refl _, fun _ => rfl⟩
  | succ left ih =>
    obtain ⟨ds, hds, h⟩ := ok_of_bind h
    split at h
    · obtain rfl := Except.ok.inj h
      exact ⟨hds, Nat.le_refl _, fun _ => rfl⟩
    · split at h
      · cases h
      · obtain ⟨hlint, hpasses, -⟩ := ih h
        exact ⟨hlint, Nat.le_of_succ_le hpasses,
          fun heq => absurd (heq ▸ hpasses) (Nat.not_succ_le_self _)⟩

/-- Where something is to be fixed and passes are left, the loop goes on with the text
that a pass makes. -/
theorem mend_of_lint {parse : String → Except (Halt ParseError) (List Statement)} {rule : Rule}
    {blame : ParseError → Failure} {left : Nat} {text next : String} {ds : List Diagnostic}
    (passes : Nat) (hlint : lintText parse rule blame text = .ok ds) (hfixes : fixesOf ds ≠ [])
    (happly : Fix.applyAll text (fixesOf ds) = .ok next) :
    mend parse rule blame (left + 1) passes text =
      mend parse rule blame left (passes + 1) next := by
  have hsome : ¬ (fixesOf ds).isEmpty = true := fun hempty => hfixes (List.isEmpty_iff.1 hempty)
  rw [mend, bind_ok hlint, if_neg hsome]
  simp only [happly]

/-- A text in which nothing is found is returned as it is. -/
theorem mend_of_silent {parse : String → Except (Halt ParseError) (List Statement)} {rule : Rule}
    {blame : ParseError → Failure} {text : String} (h : lintText parse rule blame text = .ok [])
    (left passes : Nat) :
    mend parse rule blame left passes text = .ok ⟨text, passes, []⟩ := by
  cases left with
  | zero => rw [mend, bind_ok h]
  | succ left =>
    rw [mend, bind_ok h]
    rfl

namespace Linter

variable {l : Linter σ} {good : σ → Prop}
    {parse : String → Except (Halt ParseError) (List Statement)}

theorem tell_yields (hreads : l.host.Reads good parse) (e : Event) :
    Yields good (l.tell e) (.ok ()) :=
  fun s hs => ⟨rfl, hreads.hearing e s hs⟩

theorem tellAll_yields (hreads : l.host.Reads good parse) (es : List Event) :
    Yields good (es.forM l.tell) (.ok ()) := by
  induction es with
  | nil => exact Yields.pure good ()
  | cons e es ih => exact (tell_yields hreads e).after ih

/-- Reading statements gives what the parser gives, with the blame put on the text. -/
theorem statements_yields (hreads : l.host.Reads good parse) (blame : ParseError → Failure)
    (code : String) :
    Yields good (l.statements blame code) ((parse code).mapError (Halt.map blame)) := by
  intro s hs
  refine ⟨?_, hreads.parsing code s hs⟩
  rw [← hreads.answer code s hs]
  rfl

/-- **Linting is a plain function** of the text for any host that reads as a parser
does. -/
theorem lint_yields (hreads : l.host.Reads good parse) (blame : ParseError → Failure)
    (code : String) :
    Yields good (l.lint blame code) (lintText parse l.rule blame code) := by
  refine (statements_yields hreads blame code).bind fun ss _ => ?_
  exact (tellAll_yields hreads (checkEvents l.rule ss)).after (Yields.mk good _)

/-- **The loop is the plain loop.** -/
theorem repairFrom_yields (hreads : l.host.Reads good parse) (blame : ParseError → Failure)
    (left passes : Nat) (text : String) :
    Yields good (l.repairFrom blame left passes text)
      (mend parse l.rule blame left passes text) := by
  have hfinish : ∀ (passes : Nat) (text : String) (ds : List Diagnostic), Yields good
      (do l.tell (.fixingFinished passes ds.length); return Repair.mk text passes ds)
      (.ok ⟨text, passes, ds⟩) :=
    fun passes text ds => (tell_yields hreads _).after (Yields.pure good _)
  induction left generalizing passes text with
  | zero =>
    rw [repairFrom, mend]
    exact (lint_yields hreads blame text).bind fun ds _ => hfinish passes text ds
  | succ left ih =>
    rw [repairFrom, mend]
    refine (lint_yields hreads blame text).bind fun ds _ => ?_
    by_cases hempty : (fixesOf ds).isEmpty = true
    · simp only [hempty, if_true]
      exact hfinish passes text ds
    · simp only [hempty, Bool.false_eq_true, if_false]
      refine (tell_yields hreads _).after ?_
      cases Fix.applyAll text (fixesOf ds) with
      | error h => exact Yields.throw good _
      | ok next => exact ih (passes + 1) next

end Linter

/-! ## What a run of passes can come to -/

/-- A number of passes lead from one text to another: each parses and checks the text at
hand, and applies the fixes that it finds. -/
inductive Passes (parser : String → Except ParseError (List Statement)) (rule : Rule) :
    String → Nat → String → Prop where
  /-- no pass leaves the text alone -/
  | none (text : String) : Passes parser rule text 0 text
  /-- one pass and the passes after it -/
  | more {text next out : String} {k : Nat} {ss : List Statement} {ds : List Diagnostic}
      (hparse : parser text = .ok ss) (hcheck : check text rule ss = .ok ds)
        (hfixes : fixesOf ds ≠ [])
      (happly : Fix.applyAll text (fixesOf ds) = .ok next) (hrest : Passes parser rule next k out) :
      Passes parser rule text (k + 1) out

/-- **The first finding keeps its fix.** Where no fix is kept, nothing was found. -/
theorem withhold_eq_nil {found : List Finding} (h : fixesOf (withhold [] found) = []) :
    found = [] := by
  cases found with
  | nil => rfl
  | cons f rest => cases h

/-- A check that proposes no fix has found nothing, because the first finding is always
reported with its fix. -/
theorem check_eq_nil {text : String} {rule : Rule} {ss : List Statement} {ds : List Diagnostic}
    (h : check text rule ss = .ok ds) (hfixes : fixesOf ds = []) : ds = [] := by
  obtain ⟨found, -, h⟩ := ok_of_bind h
  obtain rfl := Except.ok.inj h
  rw [withhold_eq_nil hfixes]
  rfl

/-- The fixes of a check never conflict. -/
theorem exists_applyAll {text : String} {rule : Rule} {ss : List Statement} {ds : List Diagnostic}
    (h : check text rule ss = .ok ds) : ∃ next, Fix.applyAll text (fixesOf ds) = .ok next := by
  obtain ⟨next, hnext⟩ := Fix.applyAll_of_clear (check_fits h) (check_clear h)
  exact ⟨next, hnext _ (List.Perm.refl _)⟩

section

variable (parser : String → Except ParseError (List Statement)) (rule : Rule)

/-- The parser as one that never meets a fault. -/
def faultless (code : String) : Except (Halt ParseError) (List Statement) :=
  Halt.ofError (parser code)

theorem lintText_of_error {code : String} {e : ParseError} (blame : ParseError → Failure)
    (h : parser code = .error e) :
    lintText (faultless parser) rule blame code = .error (.error (blame e)) := by
  rw [lintText, faultless, h]
  rfl

/-- A text that can be parsed is linted by checking its statements. -/
theorem lintText_of_ok {code : String} {ss : List Statement} (blame : ParseError → Failure)
    (h : parser code = .ok ss) :
    lintText (faultless parser) rule blame code = Halt.ofFault (check code rule ss) := by
  rw [lintText, faultless, h]
  rfl

/-- **What the loop can come to.** It meets a fault, or some passes lead to a text that
the parser rejects, or some passes lead to a text whose check is returned; that check
has no fixes unless the allowed passes are used up. The induction is on the passes that
are left: after one pass the rest of the loop runs on the text that this pass made. -/
theorem mend_cases (blame : ParseError → Failure) (left passes : Nat) (text : String) :
    (∃ f, mend (faultless parser) rule blame left passes text = .error (.fault f)) ∨
    (∃ k out e, k ≤ left ∧ Passes parser rule text k out ∧ parser out = .error e ∧
      mend (faultless parser) rule blame left passes text = .error (.error (blame e))) ∨
    (∃ k out ss ds, k ≤ left ∧ Passes parser rule text k out ∧ parser out = .ok ss ∧
      check out rule ss = .ok ds ∧ (k < left → fixesOf ds = []) ∧
      mend (faultless parser) rule blame left passes text = .ok ⟨out, passes + k, ds⟩) := by
  induction left generalizing passes text with
  | zero =>
    rw [mend]
    cases hparse : parser text with
    | error e =>
      rw [lintText_of_error parser rule blame hparse]
      exact .inr (.inl ⟨0, text, e, Nat.le_refl 0, .none text, hparse, rfl⟩)
    | ok ss =>
      rw [lintText_of_ok parser rule blame hparse]
      cases hcheck : check text rule ss with
      | error f => exact .inl ⟨f, rfl⟩
      | ok ds =>
        exact .inr (.inr ⟨0, text, ss, ds, Nat.le_refl 0, .none text, hparse, hcheck, by simp, rfl⟩)
  | succ left ih =>
    rw [mend]
    cases hparse : parser text with
    | error e =>
      rw [lintText_of_error parser rule blame hparse]
      exact .inr (.inl ⟨0, text, e, by omega, .none text, hparse, rfl⟩)
    | ok ss =>
      rw [lintText_of_ok parser rule blame hparse]
      cases hcheck : check text rule ss with
      | error f => exact .inl ⟨f, rfl⟩
      | ok ds =>
        rw [bind_ok (x := Halt.ofFault (Except.ok ds)) rfl]
        split
        · next hempty =>
          have hnone : fixesOf ds = [] := List.isEmpty_iff.1 hempty
          exact .inr (.inr ⟨0, text, ss, ds, by omega, .none text, hparse, hcheck, fun _ =>
            hnone, rfl⟩)
        · next hsome =>
          have hfixes : fixesOf ds ≠ [] := fun h => hsome (List.isEmpty_iff.2 h)
          obtain ⟨next, happly⟩ := exists_applyAll hcheck
          simp only [happly]
          rcases ih (passes + 1) next with ⟨f, hf⟩ | ⟨k, out, e, hk, hpasses, he, hr⟩ |
            ⟨k, out, ss', ds', hk, hpasses, hss', hds', hlast, hr⟩
          · exact .inl ⟨f, hf⟩
          · exact .inr
              (.inl ⟨k + 1, out, e, by omega, .more hparse hcheck hfixes happly hpasses, he, hr⟩)
          · refine .inr (.inr ⟨k + 1, out, ss', ds', by omega,
              .more hparse hcheck hfixes happly hpasses, hss', hds', fun h => hlast (by omega), ?_⟩)
            rw [hr, Nat.add_assoc, Nat.add_comm 1 k]

/-- Where something is to be fixed and passes are left, the loop goes on with the text
that a pass makes. -/
theorem mend_of_fixes {left : Nat} {text next : String} {ss : List Statement} {ds : List Diagnostic}
    (blame : ParseError → Failure) (passes : Nat) (hparse : parser text = .ok ss)
    (hcheck : check text rule ss = .ok ds) (hfixes : fixesOf ds ≠ [])
    (happly : Fix.applyAll text (fixesOf ds) = .ok next) :
    mend (faultless parser) rule blame (left + 1) passes text =
      mend (faultless parser) rule blame left (passes + 1) next := by
  refine mend_of_lint passes ?_ hfixes happly
  rw [lintText_of_ok parser rule blame hparse, hcheck]
  rfl

/-- A text without findings is returned as it is. -/
theorem mend_of_clean {left : Nat} {text : String} {ss : List Statement}
    (blame : ParseError → Failure) (passes : Nat) (hparse : parser text = .ok ss)
    (hcheck : check text rule ss = .ok []) :
    mend (faultless parser) rule blame left passes text = .ok ⟨text, passes, []⟩ := by
  refine mend_of_silent ?_ left passes
  rw [lintText_of_ok parser rule blame hparse, hcheck]
  rfl

end

/-- **Mending is accountable.** Let the host answer by some parser, of which nothing is
assumed, and let mending a text meet no fault. Then either some passes, at most ten,
lead to a text that the parser rejects, and mending fails with that rejection; or it
returns a text that some passes, at most ten, lead to, with what a check finds in it.
Unless all ten passes were used nothing is found there any more, and mending the
returned text again gives it back after no pass. -/
theorem fixSource_accountable (l : Linter σ) (good : σ → Prop)
    (parser : String → Except ParseError (List Statement))
    (hreads : l.host.Reads good (faultless parser)) (code : String) (s : σ) (hs : good s)
    (hfault : ∀ f, resultOf (l.fixSource code) s ≠ .error (.fault f)) :
    (∃ k text e, k ≤ 10 ∧ Passes parser l.rule code k text ∧ parser text = .error e ∧
      resultOf (l.fixSource code) s = .error (.error (.source e))) ∨
    (∃ r ss, resultOf (l.fixSource code) s = .ok r ∧ r.passes ≤ 10 ∧
      Passes parser l.rule code r.passes r.output ∧ parser r.output = .ok ss ∧
      check r.output l.rule ss = .ok r.remaining ∧
      (r.passes < 10 → r.remaining = [] ∧
        ∀ s', good s' → resultOf (l.fixSource r.output) s' = .ok ⟨r.output, 0, []⟩)) := by
  have hyields :
      ∀ text, Yields good (l.fixSource text) (mend (faultless parser) l.rule .source 10 0 text) :=
    Linter.repairFrom_yields hreads .source 10 0
  rw [(hyields code s hs).1] at hfault ⊢
  rcases mend_cases parser l.rule .source 10 0 code with ⟨f, hf⟩ |
      ⟨k, out, e, hk, hpasses, he, hr⟩ |
    ⟨k, out, ss, ds, hk, hpasses, hss, hds, hlast, hr⟩
  · exact absurd hf (hfault f)
  · exact .inl ⟨k, out, e, hk, hpasses, he, hr⟩
  · rw [Nat.zero_add] at hr
    refine .inr ⟨⟨out, k, ds⟩, ss, hr, hk, hpasses, hss, hds, fun hlt => ?_⟩
    have hclean : ds = [] := check_eq_nil hds (hlast hlt)
    refine ⟨hclean, fun s' hs' => ?_⟩
    rw [(hyields out s' hs').1]
    exact mend_of_clean parser l.rule .source 0 hss (hclean ▸ hds)

/-- A linter without files, whose host does nothing but parse. -/
def plainLinter (parser : String → Except ParseError (List Statement)) (rule : Rule) :
    Linter Unit where
  rule := rule
  host := {
    select := fun _ s => .ok s
    parse := fun code s => (faultless parser code, s)
    language := fun _ => "" }
  read := fun path => .error path

/-- The plain linter asks the parser and keeps no state, so every state is good. -/
theorem plainLinter_reads (parser : String → Except ParseError (List Statement)) (rule : Rule) :
    (plainLinter parser rule).host.Reads (fun _ => True) (faultless parser) :=
  ⟨fun _ _ _ => rfl, fun _ _ _ => trivial, fun _ _ _ => trivial⟩

/-- One pass adds the missing blank line, and the parser knows the text before and after
it only. -/
theorem fixSource_accountable_blank_line :
    let parser : String → Except ParseError (List Statement) := fun text =>
      if text = "a b" then .ok [.importDecl ⟨⟨0, 1⟩, 1, 1, none, "a", []⟩, .other "b" ⟨2, 3⟩ 1 1]
      else if text = "a\n\nb" then
        .ok [.importDecl ⟨⟨0, 1⟩, 1, 1, none, "a", []⟩, .other "b" ⟨3, 4⟩ 3 3]
      else .error (.syntaxError 1 1 text)
    let l := plainLinter parser { enforceTrailingLine := true }
    resultOf (l.fixSource "a b") () = .ok ⟨"a\n\nb", 1, []⟩ ∧
      ((∃ k text e, k ≤ 10 ∧ Passes parser l.rule "a b" k text ∧ parser text = .error e ∧
        resultOf (l.fixSource "a b") () = .error (.error (.source e))) ∨
      (∃ r ss, resultOf (l.fixSource "a b") () = .ok r ∧ r.passes ≤ 10 ∧
        Passes parser l.rule "a b" r.passes r.output ∧ parser r.output = .ok ss ∧
        check r.output l.rule ss = .ok r.remaining ∧
        (r.passes < 10 → r.remaining = [] ∧
          ∀ s', True → resultOf (l.fixSource r.output) s' = .ok ⟨r.output, 0, []⟩))) := by
  intro parser l
  have hresult : resultOf (l.fixSource "a b") () = .ok ⟨"a\n\nb", 1, []⟩ := by decide +kernel
  refine ⟨hresult,
    fixSource_accountable l (fun _ => True) parser (plainLinter_reads parser _) "a b" ()
    trivial ?_⟩
  intro f hf
  rw [hresult] at hf
  cases hf

end ImportOrder
