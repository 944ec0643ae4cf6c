import ImportOrder.Proofs.Lifting
import ImportOrder.Proofs.Relocation

/-!
# Lifting any one late import

A check keeps the fix of the first late import only, but each of them has a fix, which
can be applied on its own. A `Lift` says how a late import divides its module: `front`
is the text up to the first other statement, `passed` the text from there to the import,
`body` the import and `back` what is left. The fix puts `body` on a line of its own
before `passed`. `Lift.moved` are the statements as they stand then.

* `exists_lift` — every late import has a lift, in which the late imports before it and
  after it can be told apart;
* `Lift.applyAll_eq` — what the fix makes of the text;
* `Lift.standIn_moved` — the statements stand in the new text;
* `Lift.lateDecls_moved` — the other late imports are late still, and no import is late
  that was not.
-/

namespace ImportOrder

/-! ## How a late import divides its module -/

/-- A late import `d`, what comes before it and what comes after it. -/
structure Lift (text : List Char) (ss : List Statement) (d : ImportDecl) where
  /-- the text before the first other statement -/
  front : List Char
  /-- the text from there up to the import -/
  passed : List Char
  /-- the text of the import -/
  body : List Char
  /-- the text after the import -/
  back : List Char
  /-- the statements before the first other one -/
  tops : List Statement
  /-- the first other statement -/
  other : Statement
  /-- the statements between it and the import -/
  between : List Statement
  /-- the statements after the import -/
  rest : List Statement
  /-- the parts make up the text -/
  text_eq : text = front ++ passed ++ body ++ back
  /-- the statements are these -/
  statements_eq : ss = tops ++ other :: (between ++ .importDecl d :: rest)
  /-- the first ones are imports -/
  tops_imports : ∀ s ∈ tops, s.isImport = true
  /-- and the next one is not -/
  other_other : other.isImport = false
  /-- the first part ends where the first other statement starts -/
  target_eq : byteLength front = other.span.start
  /-- the second part ends where the import starts -/
  start_eq : byteLength (front ++ passed) = d.span.start
  /-- the third part ends where the import ends -/
  stop_eq : byteLength (front ++ passed ++ body) = d.span.stop

namespace Lift

variable {text : List Char} {ss : List Statement} {d : ImportDecl} (l : Lift text ss d)

/-- The text with the import lifted. -/
def out : List Char := l.front ++ l.body ++ ['\n'] ++ l.passed ++ l.back

/-- A statement that the import passes, in the new text. -/
def pass (s : Statement) : Statement :=
  s.carry l.out l.other.span.start (byteLength (l.front ++ l.body ++ ['\n']))

/-- A statement after the import, in the new text. -/
def follow (s : Statement) : Statement :=
  s.carry l.out d.span.stop (byteLength (l.front ++ l.body ++ ['\n'] ++ l.passed))

/-- The import, in the new text. -/
def lifted : Statement := .importDecl (d.carry l.out d.span.start (byteLength l.front))

/-- The statements in their new order. -/
def order : List Statement := l.tops ++ [.importDecl d] ++ l.other :: l.between ++ l.rest

/-- The statements at their new places. -/
def moved : List Statement :=
  l.tops.map (Statement.carry l.out 0 0) ++ [l.lifted] ++ (l.other :: l.between).map l.pass ++
    l.rest.map l.follow

end Lift

/-- **Every late import has a lift.** The late imports before it are passed, and those
after it follow. The text is cut where the first other statement starts, and at both
ends of the import. -/
theorem exists_lift {text : List Char} {ss : List Statement} {before after : List ImportDecl}
    {d : ImportDecl} (h : InLine text (wholeSpan text) (ss.map Statement.span))
    (hlate : lateDecls ss = before ++ d :: after) :
    ∃ l : Lift text ss d,
      l.between.filterMap Statement.decl? = before ∧ l.rest.filterMap Statement.decl? = after := by
  cases hother : fromFirstOther ss with
  | nil => simp [lateDecls, hother] at hlate
  | cons other below =>
    rw [lateDecls_eq hother] at hlate
    obtain ⟨passing, late, rfl, hbefore, hlate⟩ := List.filterMap_eq_append_iff.1 hlate
    obtain ⟨skipped, s, rest, rfl, hskipped, hs, hafter⟩ := List.filterMap_eq_cons_iff.1 hlate
    obtain rfl := eq_importDecl hs
    obtain ⟨hisOther, hss⟩ := fromFirstOther_eq_cons hother
    rw [← List.append_assoc] at hss
    rw [hss, List.map_append, List.map_cons] at h
    obtain ⟨-, hbelow⟩ := h.split
    have himport :
        d.span ∈ ((passing ++ skipped) ++ Statement.importDecl d :: rest).map Statement.span :=
      List.mem_map.2 ⟨_, List.mem_append_right _ List.mem_cons_self, rfl⟩
    have htarget := (hbelow.cuts _ List.mem_cons_self).1
    obtain ⟨hstart, hstop⟩ := hbelow.cuts _ (List.mem_cons_of_mem _ himport)
    have hlt : other.span.start < d.span.start :=
      Nat.lt_of_lt_of_le (hbelow.proper _ List.mem_cons_self)
        (List.rel_of_pairwise_cons hbelow.apart himport)
    have hle : d.span.start ≤ d.span.stop :=
      Nat.le_of_lt (hbelow.proper _ (List.mem_cons_of_mem _ himport))
    obtain ⟨front, passed, body, back, hparts⟩ :=
      @exists_parts text ⟨other.span.start, d.span.start⟩ d.span.stop hlt htarget hstart hstop hle
    refine ⟨⟨front, passed, body, back, ss.takeWhile Statement.isImport, other,
      passing ++ skipped, rest, hparts.text_eq, hss, fun s hs => List.mem_takeWhile_imp hs,
      hisOther, hparts.start_eq, ?_, ?_⟩, ?_, hafter⟩
    · rw [byteLength_append, hparts.stop_eq]
    · rw [byteLength_append, byteLength_append, hparts.next_eq]
    · simp only [List.filterMap_append, hbefore, List.filterMap_eq_nil_iff.2 hskipped,
        List.append_nil]

/-! ## What the fix does -/

theorem fromFirstOther_append {tops : List Statement} {other : Statement}
    (htops : ∀ s ∈ tops, s.isImport = true) (hother : other.isImport = false)
    (rest : List Statement) :
    fromFirstOther (tops ++ other :: rest) = other :: rest := by
  rw [fromFirstOther, List.dropWhile_append_of_pos htops,
    List.dropWhile_cons_of_neg (by simp [hother])]

/-- The late imports of a module are found with their fixes, if there are any. -/
theorem misplacedImports_eq_late {text : String} {ss : List Statement}
    (h : InLine text.toList (wholeSpan text.toList) (ss.map Statement.span)) :
    misplacedImports text ss =
      .ok ((lateDecls ss).map fun d =>
        ⟨d, liftOf text.toList (nextStart text.toList (fromFirstOther ss)) d⟩) := by
  cases hother : fromFirstOther ss with
  | nil => simp [misplacedImports, lateDecls, hother]
  | cons other rest => rw [misplacedImports_eq h hother, nextStart]

namespace Lift

variable {ss : List Statement} {d : ImportDecl}

/-- **What the fix makes of the text.** -/
theorem applyAll_eq {text : String} (l : Lift text.toList ss d) :
    Fix.applyAll text [liftOf text.toList l.other.span.start d] = .ok (String.ofList l.out) := by
  have hbody : sliceOf text.toList d.span.start d.span.stop = l.body := by
    have hslice := sliceOf_append (l.front ++ l.passed) l.body l.back
    rwa [← l.text_eq, ← byteLength_append, l.start_eq, l.stop_eq] at hslice
  have hpassed : sliceOf text.toList l.other.span.start d.span.start = l.passed := by
    have hslice := sliceOf_append l.front l.passed (l.body ++ l.back)
    rwa [← List.append_assoc, ← l.text_eq, ← byteLength_append, l.start_eq, l.target_eq] at hslice
  have hstop : d.span.stop = byteLength l.front + byteLength (l.passed ++ l.body) := by
    rw [← byteLength_append, ← List.append_assoc, l.stop_eq]
  have hswap := applyAll_swap l.front (l.passed ++ l.body) (l.body ++ '\n' :: l.passed) l.back
  rw [← List.append_assoc, ← l.text_eq, String.ofList_toList, ← hstop] at hswap
  rw [liftOf, hbody, hpassed, ← l.target_eq, hswap]
  simp [out]

variable {text : List Char} (l : Lift text ss d)

/-- The offset to which imports are lifted. -/
theorem nextStart_eq : nextStart text (fromFirstOther ss) = l.other.span.start := by
  have hother := congrArg fromFirstOther l.statements_eq
  rw [fromFirstOther_append l.tops_imports l.other_other] at hother
  exact congrArg (nextStart text) hother

/-- **The statements stand in the new text.** Each of the four parts of the old text
brings its statements along, and the line break after the import is under no
statement. -/
theorem standIn_moved (h : InLine text (wholeSpan text) (ss.map Statement.span)) :
    StandIn text l.out (wholeSpan l.out) l.order l.moved := by
  rw [l.statements_eq, List.map_append, List.map_cons, List.map_append, List.map_cons] at h
  obtain ⟨htops, hbelow⟩ := h.split
  rw [← List.cons_append] at hbelow
  obtain ⟨hpassed, hlate⟩ := hbelow.split
  obtain ⟨himport, hrest⟩ := hlate.uncons
  have hfront : text = [] ++ l.front ++ (l.passed ++ l.body ++ l.back) := by simp [l.text_eq]
  have hfront' : l.out = [] ++ l.front ++ (l.body ++ ['\n'] ++ l.passed ++ l.back) := by simp [out]
  have hbody' : l.out = l.front ++ l.body ++ (['\n'] ++ l.passed ++ l.back) := by simp [out]
  have hmiddle : text = l.front ++ l.passed ++ (l.body ++ l.back) := by simp [l.text_eq]
  have hback : text = l.front ++ l.passed ++ l.body ++ l.back ++ [] := by simp [l.text_eq]
  have hback' : l.out = l.front ++ l.body ++ ['\n'] ++ l.passed ++ l.back ++ [] := by simp [out]
  have hlead :
      StandIn text l.out (wholeSpan l.front) l.tops (l.tops.map (Statement.carry l.out 0 0)) :=
    standIn_carry hfront hfront' rfl l.target_eq htops
  have hlifted : StandIn text l.out ⟨byteLength l.front, byteLength (l.front ++ l.body)⟩
      [.importDecl d] [l.lifted] :=
    standIn_carry l.text_eq hbody' l.start_eq l.stop_eq himport
  have hpass : StandIn text l.out
      ⟨byteLength (l.front ++ l.body ++ ['\n']),
        byteLength (l.front ++ l.body ++ ['\n'] ++ l.passed)⟩
      (l.other :: l.between) ((l.other :: l.between).map l.pass) :=
    standIn_carry hmiddle rfl l.target_eq l.start_eq hpassed
  have hfollow :
      StandIn text l.out ⟨byteLength (l.front ++ l.body ++ ['\n'] ++ l.passed), byteLength l.out⟩
        l.rest
      (l.rest.map l.follow) :=
    standIn_carry hback hback' l.stop_eq (congrArg byteLength l.text_eq.symm) hrest
  exact (((hlead.append hlifted).skip ['\n']).append hpass).append hfollow

/-- **The late imports that are left**: those that the import passed, and those that
follow. -/
theorem lateDecls_moved : (lateDecls l.moved).map Statement.importDecl =
    (l.between.filterMap Statement.decl?).map (fun e => l.pass (.importDecl e)) ++
      (l.rest.filterMap Statement.decl?).map (fun e => l.follow (.importDecl e)) := by
  have htops : ∀ s ∈ l.tops.map (Statement.carry l.out 0 0) ++ [l.lifted], s.isImport = true := by
    simp only [List.forall_mem_append, List.forall_mem_map, List.forall_mem_singleton,
      Statement.isImport_carry]
    exact ⟨l.tops_imports, rfl⟩
  have hother : (l.pass l.other).isImport = false := by
    rw [pass, Statement.isImport_carry, l.other_other]
  have hlate : lateDecls l.moved =
      (l.between.map l.pass ++ l.rest.map l.follow).filterMap Statement.decl? := by
    rw [moved, List.append_assoc, List.map_cons]
    exact lateDecls_eq (fromFirstOther_append htops hother _)
  have hpass : (l.between.map l.pass).filterMap Statement.decl? =
      (l.between.filterMap Statement.decl?).map
      (ImportDecl.carry l.out l.other.span.start (byteLength (l.front ++ l.body ++ ['\n']))) :=
        filterMap_carry ..
  have hfollow : (l.rest.map l.follow).filterMap Statement.decl? =
      (l.rest.filterMap Statement.decl?).map
      (ImportDecl.carry l.out d.span.stop (byteLength (l.front ++ l.body ++ ['\n'] ++ l.passed))) :=
    filterMap_carry ..
  rw [hlate, List.filterMap_append, hpass, hfollow, List.map_append, List.map_map, List.map_map]
  rfl

end Lift

/-- No import is late if and only if the imports come first. -/
theorem lateDecls_eq_nil_iff {ss : List Statement} : lateDecls ss = [] ↔
    ∃ tops others, ss = tops ++ others ∧ (∀ s ∈ tops, s.isImport = true) ∧ ∀ s ∈ others,
      s.isImport = false := by
  simp only [lateDecls, fromFirstOther, List.filterMap_eq_nil_iff, ← Statement.isImport_eq_false]
  constructor
  · intro h
    exact ⟨_, _, List.takeWhile_append_dropWhile.symm, fun s hs => List.mem_takeWhile_imp hs, h⟩
  · rintro ⟨tops, others, rfl, htops, hothers⟩ s hs
    rw [List.dropWhile_append_of_pos htops] at hs
    exact hothers s ((List.dropWhile_sublist _).mem hs)

/-- **Any late import can be lifted.** In a module whose statements stand one after
another, the imports after the first other statement are found, in their order, and
nothing is found exactly if the imports come first. Applying the fix of any one of them
puts its text, with a line break after it, right before the first other statement, and
leaves the rest of the text as it is. Of the statements at their new places the other
late imports are found, in the order they had. -/
theorem misplacedImports_lift_any (text : String) (ss : List Statement)
    (hline : InLine text.toList (wholeSpan text.toList) (ss.map Statement.span)) :
    ∃ late, misplacedImports text ss = .ok late ∧
      late.map Misplaced.decl = (ss.dropWhile Statement.isImport).filterMap Statement.decl? ∧
      (late = [] ↔ ∃ tops others, ss = tops ++ others ∧ (∀ s ∈ tops, s.isImport = true) ∧
        ∀ s ∈ others, s.isImport = false) ∧
      ∀ before m after, late = before ++ m :: after → ∃ l : Lift text.toList ss m.decl,
        Fix.applyAll text [m.fix] = .ok (String.ofList l.out) ∧
        StandIn text.toList l.out (wholeSpan l.out) l.order l.moved ∧
        ∃ left, misplacedImports (String.ofList l.out) l.moved = .ok left ∧
          left.map (fun e => Statement.importDecl e.decl) =
            before.map (fun e => l.pass (.importDecl e.decl)) ++
              after.map (fun e => l.follow (.importDecl e.decl)) := by
  have hdecls : ∀ (out : List Char) (n : Nat) (ds : List ImportDecl),
      (ds.map fun d => (⟨d, liftOf out n d⟩ : Misplaced)).map Misplaced.decl = ds := by
    intro out n ds
    simp only [List.map_map, Function.comp_def, List.map_id']
  refine ⟨_, misplacedImports_eq_late hline, hdecls ..,
    by rw [List.map_eq_nil_iff, lateDecls_eq_nil_iff], ?_⟩
  intro before m after hlate
  have hdecl : lateDecls ss = before.map Misplaced.decl ++ m.decl :: after.map Misplaced.decl := by
    rw [← List.map_cons, ← List.map_append, ← hlate, hdecls]
  obtain ⟨l, hbefore, hafter⟩ := exists_lift hline hdecl
  have hmoved := l.standIn_moved hline
  refine ⟨l, ?_, hmoved, ?_⟩
  · -- all the late imports are lifted to the same offset
    have hm : m ∈ before ++ m :: after := List.mem_append_right _ List.mem_cons_self
    rw [← hlate] at hm
    obtain ⟨d, -, rfl⟩ := List.mem_map.1 hm
    simp only [l.nextStart_eq]
    exact l.applyAll_eq
  · rw [← String.toList_ofList (l := l.out)] at hmoved
    refine ⟨_, misplacedImports_eq_late hmoved.inLine, ?_⟩
    rw [List.map_map]
    refine (l.lateDecls_moved).trans ?_
    rw [hbefore, hafter, List.map_map, List.map_map]
    rfl

/-- Of three late imports the second one is lifted, which has a character of two
bytes. -/
theorem misplacedImports_lift_any_second :
    let text := "x b y é d"
    let out := "é\nx b y  d"
    let b : ImportDecl := ⟨⟨2, 3⟩, 1, 1, some .value, "b", []⟩
    let e : ImportDecl := ⟨⟨6, 8⟩, 1, 1, some .type, "e", []⟩
    let d : ImportDecl := ⟨⟨9, 10⟩, 1, 1, none, "d", []⟩
    let ss : List Statement :=
      [.other "x" ⟨0, 1⟩ 1 1, .importDecl b, .other "y" ⟨4, 5⟩ 1 1, .importDecl e, .importDecl d]
    InLine text.toList (wholeSpan text.toList) (ss.map Statement.span) ∧
      misplacedImports text ss =
        .ok [⟨b, ⟨⟨0, 3⟩, "b\nx "⟩⟩, ⟨e, ⟨⟨0, 8⟩, "é\nx b y "⟩⟩, ⟨d, ⟨⟨0, 10⟩, "d\nx b y é "⟩⟩] ∧
      Fix.applyAll text [⟨⟨0, 8⟩, "é\nx b y "⟩] = .ok out ∧
      ∃ moved left, misplacedImports out moved = .ok left ∧
        left.map (fun m => m.decl.path) = ["b", "d"] := by
  intro text out b e d ss
  have hline : InLine text.toList (wholeSpan text.toList) (ss.map Statement.span) := by decide
  have hfound : misplacedImports text ss = .ok [⟨b, ⟨⟨0, 3⟩, "b\nx "⟩⟩, ⟨e, ⟨⟨0, 8⟩, "é\nx b y "⟩⟩,
      ⟨d, ⟨⟨0, 10⟩, "d\nx b y é "⟩⟩] := by decide +kernel
  have happly : Fix.applyAll text [⟨⟨0, 8⟩, "é\nx b y "⟩] = .ok out := by decide +kernel
  obtain ⟨late, hlate, -, -, hlift⟩ := misplacedImports_lift_any text ss hline
  obtain rfl := Except.ok.inj (hlate.symm.trans hfound)
  obtain ⟨l, hout, -, left, hleft, hdecls⟩ := hlift [_] ⟨e, _⟩ [_] rfl
  rw [Except.ok.inj (hout.symm.trans happly)] at hleft
  have hpaths := congrArg (List.filterMap fun s => s.decl?.map ImportDecl.path) hdecls
  rw [List.filterMap_map] at hpaths
  have hall : left.filterMap (fun m => some m.decl.path) = left.map fun m => m.decl.path :=
    congrFun List.filterMap_eq_map left
  exact ⟨hline, hfound, happly, l.moved, left, hleft, hall.symm.trans hpaths⟩

end ImportOrder
