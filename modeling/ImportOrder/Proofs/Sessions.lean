import ImportOrder.Proofs.Repairing

/-!
# Many calls of one linter

A linter that reads texts by means of syntax trees keeps one thing from call to call
that matters: the grammar that was selected last. A *session* is any number of calls,
each with the files as they are at that time.

* `Host.Switches` — the host has a grammar selected in every state, and switches to that
  of a file. A parser does so although it loads grammars on demand
  (`Parser.select_eq_ok`);
* `openFile_bind` — a call on a file fails before it touches the grammar, or selects the
  grammar of the file and goes on from there;
* `answer_eq` — what one call answers and which grammar it leaves selected, whatever
  happened in it;
* `session_eq_treeHost` — hence nothing but the grammar matters to a session;
* `session_answers` — and what every call of it answers: one on a file does not depend
  on the past, one on a text depends on the last file that could be read.
-/

namespace ImportOrder

/-! ## Sessions -/

/-- What a linter can be told to do. -/
inductive Job where
  /-- check a file -/
  | lintFile (path : String)
  /-- mend the content of a file -/
  | fixFile (path : String)
  /-- check a text -/
  | lintSource (code : String)
  /-- mend a text -/
  | fixSource (code : String)

/-- A job, with the files as they are when it is given. -/
structure Call where
  /-- what is to be done -/
  job : Job
  /-- the content of a file, or why it cannot be had -/
  files : String → Except String String

/-- What comes back. -/
inductive Answer where
  /-- from checking a file -/
  | report (result : Except (Halt Failure) FileReport)
  /-- from checking a text -/
  | problems (result : Except (Halt Failure) (List Diagnostic))
  /-- from mending -/
  | repair (result : Except (Halt Failure) Repair)

/-- Do a job, and go on to the state that it leaves. -/
def Linter.answer {σ : Type} (l : Linter σ) (s : σ) : Job → Answer × σ
  | .lintFile path => (.report (resultOf (l.lintFile path) s), stateAfter (l.lintFile path) s)
  | .fixFile path => (.repair (resultOf (l.fixFile path) s), stateAfter (l.fixFile path) s)
  | .lintSource code =>
    (.problems (resultOf (l.lintSource code) s), stateAfter (l.lintSource code) s)
  | .fixSource code => (.repair (resultOf (l.fixSource code) s), stateAfter (l.fixSource code) s)

/-- The linter that makes a call. -/
def Call.linter {σ : Type} (rule : Rule) (host : Host σ) (c : Call) : Linter σ :=
  ⟨rule, host, c.files⟩

/-- The answers to calls that are made one after another. -/
def session {σ : Type} (rule : Rule) (host : Host σ) : List Call → σ → List Answer
  | [], _ => []
  | c :: rest, s =>
    ((c.linter rule host).answer s c.job).1 ::
      session rule host rest ((c.linter rule host).answer s c.job).2

/-- The path of the file that the call reads, if it can. -/
def Call.opened? (c : Call) : Option String :=
  match c.job with
  | .lintFile path | .fixFile path => if (c.files path).isOk then some path else none
  | .lintSource _ | .fixSource _ => none

/-- The grammar of the last file that could be read; `first` if there is none. -/
def grammarAfter (first : Dialect) (calls : List Call) : Dialect :=
  ((calls.filterMap Call.opened?).getLast?.map Dialect.ofPath).getD first

/-- The host that keeps the selected grammar and nothing else. -/
def treeHost (trees : TreeSource) : Host Dialect where
  select path _ := .ok (Dialect.ofPath path)
  parse code d := (parseWith trees d code, d)
  language := Dialect.language

/-- The answer that a call deserves while a grammar is selected: on a file that of a new
linter, on a text that of the grammar. -/
def Call.deserved (rule : Rule) (trees : TreeSource) (grammar : Dialect) (c : Call) : Answer :=
  match c.job with
  | .lintFile path => .report (resultOf ((c.linter rule (treeHost trees)).lintFile path) .tsx)
  | .fixFile path => .repair (resultOf ((c.linter rule (treeHost trees)).fixFile path) .tsx)
  | .lintSource code => .problems (lintText (parseWith trees grammar) rule .source code)
  | .fixSource code => .repair (mend (parseWith trees grammar) rule .source maxPasses 0 code)

/-! ## Hosts that switch grammars -/

/-- The host has a grammar selected in every state. It switches to that of a file, and
reads texts with the one that is selected. -/
structure Host.Switches {σ : Type} (host : Host σ) (grammar : σ → Dialect)
    (trees : TreeSource) : Prop where
  /-- the grammar of a file can be selected, whatever was selected before -/
  selects : ∀ path s, ∃ next, host.select path s = .ok next ∧ grammar next = Dialect.ofPath path
  /-- while a grammar is selected texts are read with it, and it stays selected -/
  reads : ∀ d, host.Reads (fun s => grammar s = d) (parseWith trees d)

theorem treeHost_switches (trees : TreeSource) : (treeHost trees).Switches id trees where
  selects path _ := ⟨Dialect.ofPath path, rfl, rfl⟩
  reads _ := ⟨fun _ _ hs => hs ▸ rfl, fun _ _ hs => hs, fun _ _ hs => hs⟩

/-- A parser is settled by the grammar that is selected. -/
theorem Parser.eq_of (p : Parser) : p = .of p.selected := by
  obtain ⟨loaded, selected, rfl⟩ := p
  rfl

/-- **Switching lazily is switching.** If all grammars can be loaded, a switch leaves
the parser with the grammar that was asked for, although nothing is loaded where that
grammar is selected already. -/
theorem Parser.select_eq_ok {load : GrammarLoader} (hload : load.Complete) (d : Dialect)
    (p : Parser) :
    p.select load d = .ok (.of d) := by
  rw [Parser.select]
  split
  · next hselected => rw [p.eq_of, hselected]
  · rw [Parser.withDialect, hload d]

/-- **The parser switches too**, though it loads a grammar only when the dialect
changes: where it does not, the right one is loaded already. -/
theorem parserHost_switches {load : GrammarLoader} (hload : load.Complete) (trees : TreeSource) :
    (parserHost load trees).Switches Parser.selected trees where
  selects path p := ⟨.of (Dialect.ofPath path), Parser.select_eq_ok hload _ p, rfl⟩
  reads d := by
    refine ⟨fun code p hp => ?_, fun _ _ hp => hp, fun _ _ hp => hp⟩
    change parseWith trees p.loaded code = parseWith trees d code
    rw [← p.agree, hp]

/-! ## One call -/

section

variable {σ α : Type} {l : Linter σ} {grammar : σ → Dialect} {trees : TreeSource}

/-- What is done with the text of a file comes to a failure if there is none. -/
def withFile (file : Except String String) (path : String) (g : String → Except (Halt Failure) α) :
    Except (Halt Failure) α :=
  match file with
  | .error cause => .error (.error (.fileRead path cause))
  | .ok code => g code

/-- A file that can be read is opened by switching to a grammar, and the host is
told. -/
theorem openFile_of_ok {path code : String} {s next : σ} (hread : l.read path = .ok code)
    (hselect : l.host.select path s = .ok next) : (l.openFile path).run.run s =
      (.ok code, l.host.hear (.parsingFile path (l.host.language next)) next) := by
  have hget : StateT.run (ExceptT.run (get : Action σ σ)) s = pure (Except.ok s, s) := rfl
  rw [Linter.openFile, hread]
  simp only [ExceptT.run_bind, StateT.run_bind, hget, pure_bind, hselect]
  rfl

/-- **A call on a file** does not depend on the state in which it finds the host. It
leaves the grammar of the file selected if the file could be read, and what was selected
before if not. -/
theorem openFile_bind (h : l.host.Switches grammar trees) {path : String} {f : String → Action σ α}
    {g : String → Except (Halt Failure) α}
    (hf : ∀ code, Yields (fun s => grammar s = Dialect.ofPath path) (f code) (g code)) (s : σ) :
    resultOf (l.openFile path >>= f) s = withFile (l.read path) path g ∧
      grammar (stateAfter (l.openFile path >>= f) s) =
        if (l.read path).isOk then Dialect.ofPath path else grammar s := by
  cases hread : l.read path with
  | error cause =>
    rw [Linter.openFile, hread]
    exact ⟨rfl, rfl⟩
  | ok code =>
    obtain ⟨next, hselect, hgrammar⟩ := h.selects path s
    have hopen := openFile_of_ok hread hselect
    have hresult : resultOf (l.openFile path) s = .ok code := congrArg Prod.fst hopen
    have hstate : stateAfter (l.openFile path) s = _ := congrArg Prod.snd hopen
    rw [resultOf_bind, stateAfter_bind, hresult, hstate]
    exact hf code _ ((h.reads _).hearing _ _ hgrammar)

end

section

variable (rule : Rule) (trees : TreeSource)

/-- What checking a file comes to. -/
def lintedFile (file : Except String String) (path : String) : Except (Halt Failure) FileReport :=
  withFile file path fun code => do
    let ds ← lintText (parseWith trees (Dialect.ofPath path)) rule (.parse path) code
    .ok ⟨path, ds⟩

/-- What mending a file comes to. -/
def mendedFile (file : Except String String) (path : String) : Except (Halt Failure) Repair :=
  withFile file path (mend (parseWith trees (Dialect.ofPath path)) rule (.parse path) maxPasses 0)

variable {σ : Type} {l : Linter σ} {grammar : σ → Dialect} {trees}

/-- Linting a file gives what linting its text in its own grammar gives, and leaves this
grammar selected unless the file cannot be read. -/
theorem lintFile_eq (h : l.host.Switches grammar trees) (path : String) (s : σ) :
    resultOf (l.lintFile path) s = lintedFile l.rule trees (l.read path) path ∧
      grammar (stateAfter (l.lintFile path) s) =
        if (l.read path).isOk then Dialect.ofPath path else grammar s :=
  openFile_bind h (fun code => (Linter.lint_yields (h.reads _) _ code).bind fun _ _ =>
    Yields.pure _ _) s

theorem fixFile_eq (h : l.host.Switches grammar trees) (path : String) (s : σ) :
    resultOf (l.fixFile path) s = mendedFile l.rule trees (l.read path) path ∧
      grammar (stateAfter (l.fixFile path) s) =
        if (l.read path).isOk then Dialect.ofPath path else grammar s :=
  openFile_bind h (Linter.repairFrom_yields (h.reads _) _ _ _) s

variable {host : Host σ}

/-- The grammar that a call leaves selected. -/
def Call.grammarAfter (c : Call) (first : Dialect) : Dialect :=
  (c.opened?.map Dialect.ofPath).getD first

/-- A call on a file leaves the grammar of this file selected just if it is opened. -/
theorem ofPath_opened (file : Except String String) (path : String) (first : Dialect) :
    (if file.isOk then Dialect.ofPath path else first) =
      ((if file.isOk then some path else none).map Dialect.ofPath).getD first := by
  split <;> rfl

/-- **One call.** It gets the answer that it deserves, and the grammar changes just if a
file was read. -/
theorem answer_eq (h : host.Switches grammar trees) (c : Call) (s : σ) :
    ((c.linter rule host).answer s c.job).1 = c.deserved rule trees (grammar s) ∧
      grammar ((c.linter rule host).answer s c.job).2 = c.grammarAfter (grammar s) := by
  obtain ⟨job, files⟩ := c
  cases job with
  | lintFile path =>
    obtain ⟨hresult, hstate⟩ := lintFile_eq (l := ⟨rule, host, files⟩) h path s
    obtain ⟨hnew, -⟩ :=
      lintFile_eq (l := ⟨rule, treeHost trees, files⟩) (treeHost_switches trees) path .tsx
    exact ⟨congrArg Answer.report (hresult.trans hnew.symm), hstate.trans (ofPath_opened ..)⟩
  | fixFile path =>
    obtain ⟨hresult, hstate⟩ := fixFile_eq (l := ⟨rule, host, files⟩) h path s
    obtain ⟨hnew, -⟩ :=
      fixFile_eq (l := ⟨rule, treeHost trees, files⟩) (treeHost_switches trees) path .tsx
    exact ⟨congrArg Answer.repair (hresult.trans hnew.symm), hstate.trans (ofPath_opened ..)⟩
  | lintSource code =>
    have hlint : Yields (grammar · = grammar s) (Linter.lintSource ⟨rule, host, files⟩ code)
        (lintText (parseWith trees (grammar s)) rule .source code) :=
      Linter.lint_yields (h.reads _) .source code
    obtain ⟨hresult, hstate⟩ := hlint s rfl
    exact ⟨congrArg Answer.problems hresult, hstate⟩
  | fixSource code =>
    have hfix : Yields (grammar · = grammar s) (Linter.fixSource ⟨rule, host, files⟩ code)
        (mend (parseWith trees (grammar s)) rule .source maxPasses 0 code) :=
      Linter.repairFrom_yields (h.reads _) .source maxPasses 0 code
    obtain ⟨hresult, hstate⟩ := hfix s rfl
    exact ⟨congrArg Answer.repair hresult, hstate⟩

end

/-! ## Many calls -/

theorem grammarAfter_cons (first : Dialect) (c : Call) (rest : List Call) :
    grammarAfter first (c :: rest) = grammarAfter (c.grammarAfter first) rest := by
  rw [grammarAfter, grammarAfter, Call.grammarAfter, List.filterMap_cons]
  cases c.opened? with
  | none => rfl
  | some path => cases hrest : rest.filterMap Call.opened? <;> simp [List.getLast?_cons]

section

variable {σ : Type} {host : Host σ} {grammar : σ → Dialect} {trees : TreeSource}

/-- A call in the middle of a session that starts with some grammar selected. The
induction carries on the grammar from call to call, and nothing else of the state. -/
theorem session_getElem? (rule : Rule) (h : host.Switches grammar trees) (s : σ)
    (before : List Call) (c : Call) (after : List Call) :
    (session rule host (before ++ c :: after) s)[before.length]? =
      some (c.deserved rule trees (grammarAfter (grammar s) before)) := by
  induction before generalizing s with
  | nil =>
    rw [List.nil_append, session, (answer_eq rule h c s).1]
    rfl
  | cons b before ih =>
    rw [List.cons_append, session, List.length_cons, List.getElem?_cons_succ, ih,
      (answer_eq rule h b s).2, grammarAfter_cons]

/-- **Sessions are settled by the grammar**: whatever else the host keeps in its state,
the answers are those of the host that keeps the grammar only. -/
theorem session_eq_treeHost (rule : Rule) (h : host.Switches grammar trees)
    (calls : List Call) (s : σ) :
    session rule host calls s = session rule (treeHost trees) calls (grammar s) := by
  induction calls generalizing s with
  | nil => rfl
  | cons c rest ih =>
    obtain ⟨hanswer, hgrammar⟩ := answer_eq rule h c s
    obtain ⟨hanswer', hgrammar'⟩ := answer_eq rule (treeHost_switches trees) c (grammar s)
    rw [session, session, hanswer, hanswer', ih, hgrammar]
    exact congrArg _ (congrArg _ hgrammar'.symm)

end

/-- **What a session answers.** Whatever was called before and comes after, a call on a
file is answered as by a new linter, and a call on a text as the grammar of the last
file that could be read has it. A parser that loads grammars on demand gives the same
answers, if they all can be loaded. -/
theorem session_answers (rule : Rule) (trees : TreeSource) (before : List Call) (c : Call)
    (after : List Call) :
    (session rule (treeHost trees) (before ++ c :: after) .tsx)[before.length]? =
        some (c.deserved rule trees (grammarAfter .tsx before)) ∧
      ∀ load : GrammarLoader, load.Complete →
        session rule (parserHost load trees) (before ++ c :: after) (.of .tsx) =
          session rule (treeHost trees) (before ++ c :: after) .tsx :=
  ⟨session_getElem? rule (treeHost_switches trees) .tsx before c after,
    fun _ hload => session_eq_treeHost rule (parserHost_switches hload trees) _ (.of .tsx)⟩

/-- Only one of the grammars can read the empty text here. It is not the one of a new
parser, but that of a file which is checked in between. -/
theorem session_answers_switched :
    let program : SyntaxNode :=
      { kind := "program", span := ⟨0, 0⟩, startRow := 0, startColumn := 0, endRow := 0 }
    let trees : TreeSource := fun d _ => if d = .typeScript then some program else none
    let text : Call := ⟨.lintSource "", fun _ => .ok ""⟩
    let file : Call := ⟨.lintFile "a.ts", fun _ => .ok ""⟩
    let host := parserHost builtInGrammars trees
    builtInGrammars.Complete ∧
      (session {} host ([] ++ [text]) (.of .tsx))[0]? =
        some (.problems (.error (.error (.source (.syntaxError 1 1 "parser produced no tree"))))) ∧
      (session {} host ([text, file] ++ [text]) (.of .tsx))[2]? = some (.problems (.ok [])) := by
  intro program trees text file host
  have hload : builtInGrammars.Complete := fun _ => rfl
  obtain ⟨hfirst, hlazy⟩ := session_answers {} trees [] text []
  obtain ⟨hlast, hlazy'⟩ := session_answers {} trees [text, file] text []
  refine ⟨hload, ?_, ?_⟩
  · rw [hlazy builtInGrammars hload]
    exact hfirst
  · have hpath : Dialect.ofPath "a.ts" = .typeScript := by decide +kernel
    have hgrammar : grammarAfter .tsx [text, file] = .typeScript := hpath
    rw [hgrammar] at hlast
    rw [hlazy' builtInGrammars hload]
    exact hlast

end ImportOrder
