import ImportOrder.Proofs.Boundary
import ImportOrder.Settings.Store

/-!
# Writing to a file

A text that was written to a path is read there, whether or not a file was there before
(`readText_of_writeText`). If one was, no more than its text changes. A project that
differs from another one in what a single file holds (`Project.Rewritten`) has
everything else in common with it:

* `Rewritten.locate_eq`, `Rewritten.lookup_eq` — a path leads where it led before, and
  to the same thing unless it leads to the file;
* `Rewritten.settingsFile?_eq` — so the settings are looked for in the same places, and
  what is found is the same unless it is the file itself;
* `rewritten_of_writeText` — writing to a file that could be read does no more than
  that.
-/

namespace ImportOrder

namespace Project

/-! ## Looking at a location -/

theorem node?_put_self {loc : Location} (hloc : loc ≠ []) (p : Project) (n : Node) :
    (p.put loc n).node? loc = some n := by
  have hfirst : (p.nodes.filter (·.1 ≠ loc)).find? (·.1 = loc) = none := by
    rw [List.find?_eq_none]
    intro entry hentry
    simpa using (List.mem_filter.1 hentry).2
  rw [node?, if_neg hloc, put, List.find?_append, hfirst]
  simp

/-- Putting a node somewhere leaves every other place as it was. -/
theorem node?_put_of_ne {loc l : Location} (h : l ≠ loc) (p : Project) (n : Node) :
    (p.put loc n).node? l = p.node? l := by
  have hlast : [(loc, n)].find? (·.1 = l) = none := by simpa using h.symm
  have hfilter : (p.nodes.filter (·.1 ≠ loc)).find? (·.1 = l) = p.nodes.find? (·.1 = l) := by
    rw [List.find?_filter]
    congr 1
    funext entry
    by_cases hentry : entry.1 = l
    · simp [hentry, h]
    · simp [hentry]
  rw [node?, node?, put, List.find?_append, hfilter, hlast, Option.or_none]

/-- What a path leads to is what is at the location that it leads to. -/
theorem lookup_eq_ok {p : Project} {path : String} {loc : Location} {n : Node}
    (h : p.lookup path = .ok (loc, n)) :
    p.locate path = .ok loc ∧ p.node? loc = some n := by
  obtain ⟨l, hlocate, h⟩ := ok_of_bind h
  cases hnode : p.node? l with
  | none =>
    rw [hnode] at h
    cases h
  | some m =>
    cases m with
    | directory =>
      rw [hnode] at h
      obtain ⟨rfl, rfl⟩ := Prod.mk.inj (Except.ok.inj h)
      exact ⟨hlocate, hnode⟩
    | file c =>
      simp only [hnode] at h
      split at h
      · cases h
      · obtain ⟨rfl, rfl⟩ := Prod.mk.inj (Except.ok.inj h)
        exact ⟨hlocate, hnode⟩

/-- Only a text can be read as one: bytes that are none and locked files cannot. -/
theorem text?_eq_ok {c : Content} {text : String} : c.text? = .ok text ↔ c = .text text := by
  cases c with
  | text s => simp [Content.text?]
  | raw bytes => simp [Content.text?]
  | locked cause => simp [Content.text?]

/-- A text that can be read is that of a file. -/
theorem readText_eq_ok {p : Project} {path text : String} :
    p.readText path = .ok text ↔ ∃ loc, p.lookup path = .ok (loc, .file (.text text)) := by
  constructor
  · intro h
    obtain ⟨⟨loc, n⟩, hlookup, h⟩ := ok_of_bind h
    cases n with
    | directory => cases h
    | file c =>
      obtain rfl := text?_eq_ok.1 h
      exact ⟨loc, hlookup⟩
  · rintro ⟨loc, h⟩
    rw [readText, bind_ok h]
    rfl

/-- A path names a file if looking it up ends at one, links followed. -/
theorem isFile_iff {p : Project} {path : String} :
    p.isFile path = true ↔ ∃ loc c, p.lookup path = .ok (loc, .file c) := by
  rw [isFile]
  split
  · next loc c h => exact iff_of_true rfl ⟨loc, c, h⟩
  · next h =>
    refine iff_of_false Bool.false_ne_true ?_
    rintro ⟨loc, c, hfile⟩
    exact h loc c hfile

/-! ## Another text in one file -/

/-- The second project is the first one with another content in the file at a
location. -/
structure Rewritten (p : Project) (loc : Location) (new : Content) (q : Project) : Prop where
  /-- the working directory is the same -/
  cwd_eq : q.cwd = p.cwd
  /-- there was a file -/
  before : ∃ old, p.node? loc = some (.file old)
  /-- and it has the new content -/
  after : q.node? loc = some (.file new)
  /-- all else is as it was -/
  elsewhere : ∀ l, l ≠ loc → q.node? l = p.node? l

namespace Rewritten

variable {p q : Project} {loc : Location} {new : Content}

/-- The working directory may be another one. -/
theorem moved (h : p.Rewritten loc new q) (l : Location) :
    Rewritten { p with cwd := l } loc new { q with cwd := l } :=
  ⟨rfl, h.before, h.after, h.elsewhere⟩

/-- Directories are where they were. -/
theorem directory_iff (h : p.Rewritten loc new q) (l : Location) :
    q.node? l = some .directory ↔ p.node? l = some .directory := by
  by_cases hl : l = loc
  · obtain ⟨old, hold⟩ := h.before
    rw [hl, h.after, hold]
    simp
  · rw [h.elsewhere l hl]

theorem hasDirectory_eq (h : p.Rewritten loc new q) (l : Location) :
    q.hasDirectory l = p.hasDirectory l := by
  rw [Bool.eq_iff_iff, hasDirectory, hasDirectory, beq_iff_eq, beq_iff_eq, h.directory_iff]

/-- Rewriting a file makes and removes no link, so every path leads to where it led
before. -/
theorem follow_eq (h : p.Rewritten loc new q) (parts : List PathPart) (l : Location) :
    q.follow l parts = p.follow l parts := by
  induction parts generalizing l with
  | nil => rfl
  | cons part rest ih =>
    unfold follow
    by_cases hl : l = loc
    · -- the path goes on behind the file, which it could not do before either
      obtain ⟨old, hold⟩ := h.before
      rw [hl, h.after, hold]
    · rw [h.elsewhere l hl]
      simp only [ih]

/-- **Every path leads where it led before.** -/
theorem locate_eq (h : p.Rewritten loc new q) (path : String) : q.locate path = p.locate path := by
  rw [locate, locate, h.cwd_eq, h.follow_eq]

/-- What a path leads to is the same, or it is the file. -/
theorem lookup_eq (h : p.Rewritten loc new q) (path : String) :
    q.lookup path = (p.lookup path).map fun found => if found.1 = loc then (loc, .file new)
      else found := by
  rw [lookup, lookup, h.locate_eq]
  cases hlocate : p.locate path with
  | error e => rfl
  | ok l =>
    rw [bind_ok rfl, bind_ok rfl]
    by_cases hl : l = loc
    · obtain ⟨old, hold⟩ := h.before
      rw [hl, h.after, hold]
      by_cases hslash : endsWithSlash path = true
      · simp [hslash, Except.map]
      · simp [hslash, Except.map]
    · rw [h.elsewhere l hl]
      cases p.node? l with
      | none => rfl
      | some n =>
        cases n with
        | directory => simp [Except.map, hl]
        | file c =>
          by_cases hslash : endsWithSlash path = true
          · simp [hslash, Except.map]
          · simp [hslash, Except.map, hl]

theorem isFile_eq (h : p.Rewritten loc new q) (path : String) : q.isFile path = p.isFile path := by
  rw [isFile, isFile, h.lookup_eq]
  cases hlookup : p.lookup path with
  | error e => rfl
  | ok found =>
    obtain ⟨l, n⟩ := found
    by_cases hl : l = loc
    · obtain ⟨old, hold⟩ := h.before
      have hnode := (lookup_eq_ok hlookup).2
      rw [hl, hold] at hnode
      obtain rfl := Option.some.inj hnode
      simp [Except.map, hl]
    · simp [Except.map, hl]

/-- A path that leads elsewhere leads to the same text. -/
theorem readText_of_ne (h : p.Rewritten loc new q) {path : String}
    (hpath : p.locate path ≠ .ok loc) :
    q.readText path = p.readText path := by
  rw [readText, readText, h.lookup_eq]
  cases hlookup : p.lookup path with
  | error e => rfl
  | ok found =>
    have hl : found.1 ≠ loc := fun hl => hpath (hl ▸ (lookup_eq_ok hlookup).1)
    rw [Except.map, if_neg hl]

/-- A path that leads to the file leads to its new text. -/
theorem readText_eq {text : String} (h : p.Rewritten loc (.text text) q) {path : String} {n : Node}
    (hpath : p.lookup path = .ok (loc, n)) : q.readText path = .ok text := by
  refine readText_eq_ok.2 ⟨loc, ?_⟩
  rw [h.lookup_eq, hpath, Except.map, if_pos rfl]

end Rewritten

/-- What it takes to write a text to a path: the path leads to a place that can be named
and where no directory is and nothing that is locked. -/
theorem writeText_eq_ok {p q : Project} {path text : String} (h : p.writeText path text = .ok q) :
    ∃ loc, p.locate path = .ok loc ∧ endsWithSlash path = false ∧ p.node? loc ≠ some .directory ∧
      q = p.put loc (.file (.text text)) := by
  obtain ⟨loc, hlocate, h⟩ := ok_of_bind h
  split at h
  · cases h
  · next hfree =>
    simp only [Bool.or_eq_true, not_or, Bool.not_eq_true, hasDirectory,
      beq_eq_false_iff_ne] at hfree
    obtain ⟨⟨-, hslash⟩, hdirectory⟩ := hfree
    split at h
    · cases h
    · exact ⟨loc, hlocate, hslash, hdirectory, (Except.ok.inj h).symm⟩

/-- A place without a directory is not the root. -/
theorem ne_nil_of_node?_ne {p : Project} {loc : Location} (h : p.node? loc ≠ some .directory) :
    loc ≠ [] := by
  rintro rfl
  exact h rfl

/-- **Writing to a file** that could be read gives it another text, and changes nothing
else. -/
theorem rewritten_of_writeText {p q : Project} {path text : String} {loc : Location} {old : Content}
    (hfile : p.lookup path = .ok (loc, .file old)) (hwrite : p.writeText path text = .ok q) :
    p.Rewritten loc (.text text) q := by
  obtain ⟨hlocate, hnode⟩ := lookup_eq_ok hfile
  obtain ⟨loc', hlocate', -, hdirectory, rfl⟩ := writeText_eq_ok hwrite
  obtain rfl := Except.ok.inj (hlocate.symm.trans hlocate')
  exact ⟨rfl, ⟨old, hnode⟩, node?_put_self (ne_nil_of_node?_ne hdirectory) p _,
    fun l hl => node?_put_of_ne hl p _⟩

/-- A file that keeps its text. -/
theorem rewritten_self {p : Project} {path text : String} {loc : Location}
    (hfile : p.lookup path = .ok (loc, .file (.text text))) : p.Rewritten loc (.text text) p :=
  have hnode := (lookup_eq_ok hfile).2
  ⟨rfl, ⟨_, hnode⟩, hnode, fun _ _ => rfl⟩

/-! ## A file that may be new -/

/-- What is put where no directory is leaves every path that could be followed as it
was. -/
theorem follow_put {p : Project} {loc : Location} (hloc : p.node? loc ≠ some .directory) (n : Node)
    {parts : List PathPart} {start l : Location} (h : p.follow start parts = .ok l) :
    (p.put loc n).follow start parts = .ok l := by
  induction parts generalizing start with
  | nil => exact h
  | cons part rest ih =>
    unfold follow at h ⊢
    cases hnode : p.node? start with
    | none =>
      rw [hnode] at h
      cases h
    | some m =>
      cases m with
      | file c =>
        rw [hnode] at h
        cases h
      | directory =>
        have hne : start ≠ loc := by
          rintro rfl
          exact hloc hnode
        rw [hnode] at h
        rw [node?_put_of_ne hne, hnode]
        cases part with
        | root => exact ih h
        | here => exact ih h
        | up => exact ih h
        | name s =>
          dsimp only at h ⊢
          split at h
          · cases h
          · next hshort =>
            rw [if_neg hshort]
            exact ih h

/-- A path that leads somewhere still does so when something is put where no directory
is. -/
theorem locate_put {p : Project} {path : String} {loc : Location}
    (hloc : p.node? loc ≠ some .directory) (n : Node) {l : Location} (h : p.locate path = .ok l) :
    (p.put loc n).locate path = .ok l := by
  unfold locate at h ⊢
  split at h
  · cases h
  · next hnul =>
    split at h
    · cases h
    · next hempty =>
      split at h
      · cases h
      · next hshort =>
        rw [if_neg hnul, if_neg hempty, if_neg hshort]
        exact follow_put hloc n h

/-- **A text that was written** to a path is what the path leads to. -/
theorem readText_of_writeText {p q : Project} {path text : String}
    (h : p.writeText path text = .ok q) :
    q.readText path = .ok text := by
  obtain ⟨loc, hlocate, hslash, hdirectory, rfl⟩ := writeText_eq_ok h
  refine readText_eq_ok.2 ⟨loc, ?_⟩
  rw [lookup, bind_ok (locate_put hdirectory _ hlocate),
    node?_put_self (ne_nil_of_node?_ne hdirectory)]
  simp [hslash]

/-! ## The settings file -/

/-- The settings file that a path leads to holds a text. -/
def HasSettingsText (p : Project) (path text : String) : Prop :=
  ∃ f, p.settingsFile? path = some f ∧ f.content = .ok text

theorem ancestors_eq_cons (loc : Location) : ∃ above, ancestors loc = loc :: above := by
  rw [ancestors, List.range_succ, List.map_append, List.reverse_append]
  exact ⟨((List.range loc.length).map loc.take).reverse, by simp⟩

/-- A file in the working directory comes before those of the same name above it. -/
theorem hasSettingsText_of_readText {p : Project} {path text : String}
    (h : p.readText path = .ok text) :
    p.HasSettingsText path text := by
  obtain ⟨loc, hlookup⟩ := readText_eq_ok.1 h
  obtain ⟨above, habove⟩ := ancestors_eq_cons p.cwd
  have hfirst :
      (ancestors p.cwd).find? (fun l => { p with cwd := l }.isFile path) = some p.cwd := by
    rw [habove]
    exact List.find?_cons_of_pos (isFile_iff.2 ⟨loc, _, hlookup⟩)
  rw [HasSettingsText, settingsFile?, hfirst]
  exact ⟨_, rfl, h⟩

/-- Where the settings file is that a path leads to from the working directory or a
directory above it. -/
def settingsLocation? (p : Project) (path : String) : Option Location :=
  ((ancestors p.cwd).find? fun loc => { p with cwd := loc }.isFile path).bind fun loc =>
    ({ p with cwd := loc }.locate path).toOption

namespace Rewritten

variable {p q : Project} {loc : Location} {new : Content}

/-- Rewriting a file does not change in which file the settings in use are looked for.
-/
theorem settingsPathInUse_eq (h : p.Rewritten loc new q) :
    q.settingsPathInUse = p.settingsPathInUse := by
  rw [settingsPathInUse, settingsPathInUse, h.cwd_eq]
  simp only [h.hasDirectory_eq]

/-- **The settings file is the same** as long as it is not the one that was written
to. -/
theorem settingsFile?_eq (h : p.Rewritten loc new q) {path : String}
    (hpath : p.settingsLocation? path ≠ some loc) :
    q.settingsFile? path = p.settingsFile? path := by
  rw [settingsFile?, settingsFile?, h.cwd_eq]
  simp only [(h.moved _).isFile_eq path]
  cases hfind : (ancestors p.cwd).find? fun l => { p with cwd := l }.isFile path with
  | none => rfl
  | some l =>
    have hne : { p with cwd := l }.locate path ≠ .ok loc := by
      intro hlocate
      rw [settingsLocation?, hfind, Option.bind_some, hlocate] at hpath
      exact hpath rfl
    rw [Option.map_some, Option.map_some, (h.moved l).readText_of_ne hne]

end Rewritten

end Project

end ImportOrder
