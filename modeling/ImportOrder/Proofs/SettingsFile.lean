import ImportOrder.Program
import ImportOrder.Proofs.FileTree
import ImportOrder.Proofs.SettingsData
import ImportOrder.Proofs.TomlText

/-!
# Settings written and read

Settings are written line by line and read in another way: the lines are put together to
tables, the tables are laid over the defaults, and what results is matched with the
fields.

* `HoldsLines.table` — the lines of a written table are read one by one;
* `toList_display` — the settings are shown up to the last bracket of what is saved;
* `readToml?_of_written` — so the tables that are read from either text are the settings
  as data;
* `datum_over` — laid over other settings they replace them, and leave nothing of them,
  not even in lists;
* `hasSettingsText_of_save` — what was saved is found where it was saved to;
* `settings_survive_writing` — hence settings that were saved or shown are loaded as
  they were.
-/

namespace ImportOrder

namespace Toml

/-! ## Lines -/

/-- A key that needs no quotes. -/
def IsBare (key : String) : Prop := key ≠ "" ∧ key.toList.all isBareKeyChar = true

instance (key : String) : Decidable (IsBare key) := inferInstanceAs (Decidable (_ ∧ _))

theorem ne_of_isBareKeyChar {c d : Char} (hc : isBareKeyChar c = true)
    (hd : isBareKeyChar d = false) : c ≠ d := by
  rintro rfl
  rw [hc] at hd
  cases hd

/-- A line that begins with a key is no comment and not empty. -/
theorem not_trivia_of_isBareKeyChar {c : Char} (hc : isBareKeyChar c = true) :
    isBlank c = false ∧ c ≠ '#' ∧ c ≠ '\n' ∧ c ≠ '\r' := by
  have hspace := ne_of_isBareKeyChar hc (by decide : isBareKeyChar ' ' = false)
  have htab := ne_of_isBareKeyChar hc (by decide : isBareKeyChar '\t' = false)
  refine ⟨by simp [isBlank, hspace, htab], ?_, ?_, ?_⟩
  all_goals exact ne_of_isBareKeyChar hc (by decide)

theorem IsBare.exists_cons {key : String} (h : IsBare key) :
    ∃ c tail, key.toList = c :: tail ∧ isBareKeyChar c = true := by
  obtain ⟨hne, hall⟩ := h
  cases hkey : key.toList with
  | nil => exact absurd (String.toList_eq_nil_iff.1 hkey) hne
  | cons c tail =>
    rw [hkey, List.all_cons, Bool.and_eq_true] at hall
    exact ⟨c, tail, rfl, hall.1⟩

/-- A key without quotes is read up to the first character that cannot be part of it. -/
theorem keys?_bare {key : String} (hkey : IsBare key) {c : Char} {rest : List Char}
    (hc : isBareKeyChar c = false) (hdot : ∀ tail, (c :: rest).dropWhile isBlank ≠ '.' :: tail) :
    keys? (key.toList ++ c :: rest) = some ([key], (c :: rest).dropWhile isBlank) := by
  obtain ⟨first, tail, hfirst, hbare⟩ := hkey.exists_cons
  have hhead : key.toList ++ c :: rest = first :: (tail ++ c :: rest) := by
    rw [hfirst, List.cons_append]
  have hblank : (key.toList ++ c :: rest).dropWhile isBlank = key.toList ++ c :: rest := by
    rw [hhead, List.dropWhile_cons_of_neg (by simp [(not_trivia_of_isBareKeyChar hbare).1])]
  have hsimple : simpleKey? (key.toList ++ c :: rest) = some (key, c :: rest) := by
    have hall : ∀ x ∈ key.toList, isBareKeyChar x = true := List.all_eq_true.1 hkey.2
    have hname : (key.toList ++ c :: rest).takeWhile isBareKeyChar = key.toList := by
      rw [List.takeWhile_append_of_pos hall]
      simp [hc]
    have hafter : (key.toList ++ c :: rest).dropWhile isBareKeyChar = c :: rest := by
      rw [List.dropWhile_append_of_pos hall]
      simp [hc]
    rw [simpleKey?, hname, hafter]
    · have hne : key.toList.isEmpty = false := by
        rw [hfirst]
        rfl
      simp [hne]
    · rw [hhead]
      exact fun _ h => ne_of_isBareKeyChar hbare (by decide) (List.cons.inj h).1
    · rw [hhead]
      exact fun _ h => ne_of_isBareKeyChar hbare (by decide) (List.cons.inj h).1
  have hkeys : keys? (key.toList ++ c :: rest) = keyPath? (78 + 1) (key.toList ++ c :: rest) := rfl
  rw [hkeys, keyPath?, hblank, hsimple, Option.bind_eq_bind, Option.bind_some]
  dsimp only
  split
  · next h => exact absurd h (hdot _)
  · rfl

/-- A text that is read as a value, up to what comes after it. -/
def ReadsAs (text rest : List Char) (value : Datum) : Prop :=
  (text ++ rest).dropWhile isBlank = text ++ rest ∧ value? (maxDepth - 1) (text ++ rest) =
    some (value, rest)

section

variable {text rest more : List Char} {value : Datum} {key : String} (fuel : Nat)

/-- A line that holds something, read together with the lines after it. -/
theorem lines?_of_line {c : Char} {tail : List Char} {first : Line}
    (hc : isBlank c = false ∧ c ≠ '#' ∧ c ≠ '\n' ∧ c ≠ '\r')
    (hline : line? (c :: tail) = some (first, more)) :
    lines? (fuel + 1) (c :: tail) = (lines? fuel more).map (first :: ·) := by
  obtain ⟨hblank, hcomment, hbreak, hreturn⟩ := hc
  have hdrop : (c :: tail).dropWhile isBlank = c :: tail :=
    List.dropWhile_cons_of_neg (by simp [hblank])
  rw [lines?, hdrop]
  split
  · next h => cases h
  · next h => exact absurd (List.cons.inj h).1 hcomment
  · next h => exact absurd (List.cons.inj h).1 hbreak
  · next h => exact absurd (List.cons.inj h).1 hreturn
  · rw [hline, Option.bind_eq_bind, Option.bind_some]
    dsimp only
    cases lines? fuel more <;> rfl

/-- A key with a value, read together with the lines after it. -/
theorem lines?_of_pair (hkey : IsBare key) (htext : ReadsAs text rest value)
    (hend : lineEnd? rest = some more) :
    lines? (fuel + 1) (key.toList ++ ' ' :: '=' :: ' ' :: (text ++ rest)) =
      (lines? fuel more).map (.pair [key] value :: ·) := by
  obtain ⟨hblank, hvalue⟩ := htext
  obtain ⟨first, tail, hfirst, hbare⟩ := hkey.exists_cons
  have hkeys : keys? (key.toList ++ ' ' :: '=' :: ' ' :: (text ++ rest)) =
      some ([key], '=' :: ' ' :: (text ++ rest)) :=
    keys?_bare hkey rfl nofun
  have hdrop : (' ' :: (text ++ rest)).dropWhile isBlank = text ++ rest := hblank
  rw [hfirst, List.cons_append] at hkeys ⊢
  refine lines?_of_line fuel (not_trivia_of_isBareKeyChar hbare) ?_
  rw [line?]
  · simp [hkeys, expect?, hdrop, hvalue, hend]
  · exact fun _ h => ne_of_isBareKeyChar hbare (by decide) (List.cons.inj h).1
  · exact fun _ h => ne_of_isBareKeyChar hbare (by decide) (List.cons.inj h).1

/-- The header of a table, read together with the lines after it. -/
theorem lines?_of_header (hkey : IsBare key) :
    lines? (fuel + 1) ('[' :: (key.toList ++ ']' :: '\n' :: more)) =
      (lines? fuel more).map (.header [key] :: ·) := by
  obtain ⟨first, tail, hfirst, hbare⟩ := hkey.exists_cons
  have hkeys : keys? (key.toList ++ ']' :: '\n' :: more) = some ([key], ']' :: '\n' :: more) :=
    keys?_bare hkey rfl nofun
  refine lines?_of_line fuel (by decide) ?_
  rw [hfirst, List.cons_append] at hkeys ⊢
  rw [line?]
  · simp [hkeys, expect?, lineEnd?, isBlank, lineBreak?]
  · exact fun _ h => ne_of_isBareKeyChar hbare (by decide) (List.cons.inj h).1

theorem lines?_of_break : lines? (fuel + 1) ('\n' :: more) = lines? fuel more := rfl

end

theorem readsAs_writeFlag (b : Bool) (rest : List Char) :
    ReadsAs (writeFlag b).toList rest (.bool b) := by
  refine ⟨?_, value?_writeFlag _ b rest⟩
  cases b <;> rfl

theorem readsAs_writeStrings (items : List String) (rest : List Char) :
    ReadsAs (writeStrings items).toList rest (.list (items.map .str)) := by
  refine ⟨?_, value?_writeStrings 78 items⟩
  match items with
  | [] => rfl
  | [s] => simp [writeStrings, isBlank]
  | s :: t :: items => simp [toList_writeStrings, isBlank]

theorem readsAs_toString {n : Nat} (hn : n < signedBound) (rest : List Char) :
    ReadsAs (toString n).toList ('\n' :: rest) (.int n) := by
  refine ⟨?_, value?_toString hn _ rest⟩
  have hwritten : (toString n).toList = Nat.toDigits 10 n := by simp
  rw [hwritten]
  cases hdigits : Nat.toDigits 10 n with
  | nil => exact absurd hdigits Nat.toDigits_ne_nil
  | cons c tail =>
    have hc : c.isDigit = true :=
      Nat.isDigit_of_mem_toDigits (by decide) (by decide) (hdigits ▸ List.mem_cons_self)
    have hblank : isBlank c = false := by
      refine Bool.eq_false_iff.2 fun h => ?_
      simp only [isBlank, Bool.or_eq_true, beq_iff_eq] at h
      rcases h with rfl | rfl <;> exact absurd hc (by decide)
    rw [List.cons_append, List.dropWhile_cons_of_neg (by simp [hblank])]

/-- A number is small enough to be read back. -/
def Value.Fits : Value → Prop
  | .number n => n < signedBound
  | .flag _ | .texts _ => True

/-- **A written value** is read back at the end of a line. -/
theorem readsAs_write {v : Value} (h : v.Fits) (rest : List Char) :
    ReadsAs v.write.toList ('\n' :: rest) v.datum := by
  cases v with
  | flag b => exact readsAs_writeFlag b _
  | number n => exact readsAs_toString h rest
  | texts items => exact readsAs_writeStrings items _

/-! ## Tables -/

/-- The text has these lines. It takes one unit of fuel to read a line, and each line
has a character at least. -/
def HoldsLines (cs : List Char) (ls : List Line) : Prop :=
  ∀ fuel, cs.length < fuel → lines? fuel cs = some ls

namespace HoldsLines

variable {cs more rest text : List Char} {ls : List Line} {key : String} {value : Datum}

theorem nil : HoldsLines [] [] := by
  intro fuel hfuel
  obtain ⟨fuel, rfl⟩ := Nat.exists_eq_succ_of_ne_zero (Nat.ne_of_gt hfuel)
  rfl

/-- What a line adds to the lines after it, if the line is read as it should be. -/
theorem cons (front : List Line) (hlen : more.length < cs.length)
    (hline : ∀ fuel, lines? (fuel + 1) cs = (lines? fuel more).map (front ++ ·))
    (hmore : HoldsLines more ls) :
    HoldsLines cs (front ++ ls) := by
  intro fuel hfuel
  obtain ⟨fuel, rfl⟩ :=
    Nat.exists_eq_succ_of_ne_zero (Nat.ne_of_gt (Nat.lt_of_le_of_lt (Nat.zero_le _) hfuel))
  rw [hline, hmore fuel (by omega)]
  rfl

theorem lineBreak (hmore : HoldsLines more ls) : HoldsLines ('\n' :: more) ls := by
  refine cons [] (by simp) (fun fuel => ?_) hmore
  simp [lines?_of_break]

/-- A table header in front adds the header. -/
theorem header (hkey : IsBare key) (hmore : HoldsLines more ls) :
    HoldsLines ('[' :: (key.toList ++ ']' :: '\n' :: more)) (.header [key] :: ls) := by
  refine cons [.header [key]] ?_ (fun fuel => lines?_of_header fuel hkey) hmore
  simp only [List.length_cons, List.length_append]
  omega

/-- A key with a value in front adds the pair, if the value is read back and the line
ends behind it. -/
theorem pair (hkey : IsBare key) (htext : ReadsAs text rest value)
    (hend : lineEnd? rest = some more) (hlen : more.length ≤ rest.length)
    (hmore : HoldsLines more ls) :
    HoldsLines (key.toList ++ ' ' :: '=' :: ' ' :: (text ++ rest)) (.pair [key] value :: ls) := by
  refine cons [.pair [key] value] ?_ (fun fuel => lines?_of_pair fuel hkey htext hend) hmore
  simp only [List.length_cons, List.length_append]
  omega

end HoldsLines

/-- The lines of a table. -/
def Table.lines (t : Table) : List Line := t.map fun e => .pair [e.1] e.2.datum

/-- **A written table** is read line by line. -/
theorem HoldsLines.table {t : Table} (h : ∀ e ∈ t, IsBare e.1 ∧ e.2.Fits) {more : List Char}
    {ls : List Line} (hmore : HoldsLines more ls) :
    HoldsLines (t.write.toList ++ more) (t.lines ++ ls) := by
  induction t with
  | nil => exact hmore
  | cons e t ih =>
    obtain ⟨⟨hkey, hfits⟩, ht⟩ := List.forall_mem_cons.1 h
    have hwritten : (Table.write (e :: t)).toList ++ more =
        e.1.toList ++ ' ' :: '=' :: ' ' ::
          (e.2.write.toList ++ '\n' :: ((Table.write t).toList ++ more)) := by
      simp [Table.write]
    rw [hwritten]
    exact HoldsLines.pair hkey (readsAs_write hfits _) rfl (Nat.le_succ _) (ih ht)

/-- The lines of a document. -/
def Document.lines (d : Document) : List Line :=
  d.values.lines ++ d.tables.flatMap fun t => .header [t.1] :: t.2.lines

end Toml

open Toml

/-! ## The settings -/

/-- The text of the settings, with something else in place of the last line break. -/
def Settings.written (s : Settings) (ending : List Char) : List Char :=
  s.document.values.write.toList ++ '\n' :: '[' :: ("rule".toList ++ ']' :: '\n' ::
    (s.rule.table.write.toList ++ '\n' :: '[' :: ("files".toList ++ ']' :: '\n' ::
      ((Table.write (s.files.table.take 1)).toList ++
        ("ignore_patterns".toList ++ ' ' :: '=' :: ' ' ::
        ((writeStrings s.files.ignorePatterns).toList ++ ending))))))

theorem Settings.written_eq (s : Settings) (ending : List Char) :
    s.written ending = s.written [] ++ ending := by
  simp [Settings.written]

/-- The file ends with a line break. -/
theorem toList_toml (s : Settings) : s.toml.toList = s.written ['\n'] := by
  simp [Settings.toml, Document.write, Settings.written, Settings.document, settingsSchema,
    Document.values, Document.tables, FileSettings.table, fileSchema, Table.write]

/-- A list of texts ends with a bracket, so there is nothing to trim behind it. -/
theorem exists_writeStrings (items : List String) :
    ∃ front, (writeStrings items).toList = front ++ [']'] := by
  match items with
  | [] => exact ⟨['['], rfl⟩
  | [s] => exact ⟨'[' :: (writeString s).toList, by simp [writeStrings]⟩
  | s :: t :: items => exact ⟨'[' :: elementLines (s :: t :: items), by simp [toList_writeStrings]⟩

/-- The settings are shown up to the bracket that is last in their text. -/
theorem toList_display (s : Settings) : s.display.toList = s.written [] := by
  obtain ⟨front, hfront⟩ : ∃ front, s.written [] = front ++ [']'] := by
    obtain ⟨front, hfront⟩ := exists_writeStrings s.files.ignorePatterns
    simp only [Settings.written, hfront, List.append_nil, ← List.append_assoc, ← List.cons_append]
    exact ⟨_, rfl⟩
  rw [Settings.display, String.toList_ofList, toList_toml, Settings.written_eq, hfront]
  exact trimmedEnd_append (by decide) front (by decide)

/-- What is shown is what is saved, without the last line break. -/
theorem display_append (s : Settings) : s.display ++ "\n" = s.toml := by
  refine String.toList_injective ?_
  rw [String.toList_append, toList_display, toList_toml, s.written_eq ['\n']]
  rfl

/-- **The settings are read line by line**, with or without a line break at the end. The
lines are put together from the last one to the first. -/
theorem holdsLines_written (s : Settings) {ending : List Char}
    (hending : lineEnd? ending = some []) :
    HoldsLines (s.written ending) s.document.lines := by
  have hversion : s.version.toNat < signedBound := Nat.lt_trans s.version.toNat_lt (by decide)
  have hvalues : ∀ e ∈ s.document.values, IsBare e.1 ∧ e.2.Fits := by
    simp [Settings.document, Document.values, settingsSchema, Value.Fits, hversion]
    decide
  have hrule : ∀ e ∈ s.rule.table, IsBare e.1 ∧ e.2.Fits := by
    simp [RuleOptions.table, ruleSchema, Value.Fits]
    decide
  have hfiles : ∀ e ∈ s.files.table.take 1, IsBare e.1 ∧ e.2.Fits := by
    simp [FileSettings.table, fileSchema, Value.Fits]
    decide
  refine HoldsLines.table hvalues (.lineBreak (.header (by decide) (HoldsLines.table hrule ?_)))
  refine .lineBreak (.header (by decide) (HoldsLines.table hfiles ?_))
  exact HoldsLines.pair (by decide) (readsAs_writeStrings _ _) hending (Nat.zero_le _) .nil

/-- A text without a byte order mark is read from its first character on. -/
theorem documentLines?_eq {text : String} (h : ∀ tail, text.toList ≠ '\uFEFF' :: tail) :
    documentLines? text = lines? (text.toList.length + 1) text.toList := by
  rw [documentLines?]
  split
  · next heq => exact absurd heq (h _)
  · rfl

/-- The settings as the entries of a table. -/
def Settings.entries (s : Settings) : List (String × Datum) :=
  s.document.map fun e => (e.1, e.2.datum)

/-- **What is written is read back as entries**, whether or not its last line break was
trimmed. -/
theorem readToml?_of_written {s : Settings} {ending : List Char}
    (hending : lineEnd? ending = some []) {text : String} (htext : text.toList = s.written ending) :
    readToml? text = some s.entries := by
  have hstart : ∀ tail, text.toList ≠ '\uFEFF' :: tail := by
    rw [htext]
    intro tail
    simp [Settings.written, Settings.document, Document.values, settingsSchema, Table.write]
  have hlines : documentLines? text = some s.document.lines := by
    rw [documentLines?_eq hstart, htext]
    exact holdsLines_written s hending _ (Nat.lt_succ_self _)
  rw [readToml?, hlines]
  simp [Document.lines, Document.values, Document.tables, Table.lines, Settings.document,
    settingsSchema, RuleOptions.table, ruleSchema, FileSettings.table, fileSchema, Draft.add,
    underHeader, putPair, defineTable, entry?, putEntry, entriesData, Item.datum, Settings.entries,
    Table.datum]

theorem untaggedItems?_map_str (texts : List String) :
    Datum.untaggedItems? (texts.map .str) = some (texts.map .str) := by
  induction texts with
  | nil => rfl
  | cons text texts ih => simp [Datum.untaggedItems?, Datum.untagged?, ih]

/-- Entries are left alone if each of them is. -/
theorem untaggedEntries?_map {ν : Type} {datum : ν → Datum} {entries : List (String × ν)}
    (h : ∀ e ∈ entries, (datum e.2).untagged? = some (datum e.2)) :
    Datum.untaggedEntries? (entries.map fun e => (e.1, datum e.2)) =
      some (entries.map fun e => (e.1, datum e.2)) := by
  induction entries with
  | nil => rfl
  | cons e entries ih =>
    obtain ⟨he, hentries⟩ := List.forall_mem_cons.1 h
    simp only [List.map_cons, Datum.untaggedEntries?, he, ih hentries]

theorem entry?_map_eq_none {ν : Type} {datum : ν → Datum} {key : String}
    {entries : List (String × ν)} (h : ∀ e ∈ entries, e.1 ≠ key) :
    entry? key (entries.map fun e => (e.1, datum e.2)) = none := by
  induction entries with
  | nil => rfl
  | cons e entries ih =>
    obtain ⟨he, hentries⟩ := List.forall_mem_cons.1 h
    rw [List.map_cons, entry?, if_neg he, ih hentries]

/-- A table in which no key is reserved stands for itself. -/
theorem untagged?_table {t : Table} (h : ∀ e ∈ t, e.1 ≠ tagKey ∧ e.1 ≠ valueKey) :
    t.datum.untagged? = some t.datum := by
  have hplain : ∀ v : Value, v.datum.untagged? = some v.datum := by
    intro v
    cases v with
    | flag b => rfl
    | number n => rfl
    | texts items => simp [Datum.untagged?, untaggedItems?_map_str]
  rw [Table.datum, Datum.untagged?, untaggedEntries?_map fun e _ => hplain e.2]
  simp only [entry?_map_eq_none fun e he => (h e he).1, entry?_map_eq_none fun e he => (h e he).2]

/-- No table of the settings stands for another value. -/
theorem untaggedEntries?_entries (s : Settings) :
    Datum.untaggedEntries? s.entries = some s.entries := by
  have hrule : s.rule.table.datum.untagged? = some s.rule.table.datum := by
    refine untagged?_table ?_
    simp [RuleOptions.table, ruleSchema, tagKey, valueKey]
  have hfiles : s.files.table.datum.untagged? = some s.files.table.datum := by
    refine untagged?_table ?_
    simp [FileSettings.table, fileSchema, tagKey, valueKey]
  refine untaggedEntries?_map ?_
  simp [Settings.document, settingsSchema, Datum.untagged?, hrule, hfiles]

/-! ## Layers -/

/-- **Settings laid over others** replace them as a whole. -/
theorem datum_over (s t : Settings) : s.datum.over t.datum = s.datum := by
  simp [Settings.datum, Document.datum, Settings.document, settingsSchema,
    RuleOptions.table, ruleSchema, FileSettings.table, fileSchema, Table.datum, Datum.over,
    entriesOver, entry?, putEntry]

/-- Settings that are read back are the settings, if nothing is said in the
environment. -/
theorem ofLayers_datum (s : Settings) (shown : String) :
    Settings.ofLayers s.datum shown (.map []) = .ok s := by
  have hmerged : (Datum.map []).over (s.datum.over (Settings.datum {})) = s.datum := by
    rw [datum_over]
    rfl
  rw [Settings.ofLayers, hmerged, decode_datum]

/-! ## Saving and loading -/

/-- What was saved is the settings as a text. -/
theorem hasSettingsText_of_save {s : Settings} {p q : Project} {path : String}
    (h : s.save p path = (.ok (), q)) :
    q.HasSettingsText path s.toml := by
  refine Project.hasSettingsText_of_readText ?_
  unfold Settings.save Project.writeBelow at h
  split at h
  · cases h
  · split at h
    · cases h
    · next made _ =>
      split at h
      · cases h
      · next hwrite =>
        obtain rfl := (Prod.mk.inj h).2
        exact Project.readText_of_writeText hwrite

/-- Settings are loaded from a file that has their text, with or without a line break at
the end. -/
theorem loadFrom_of_written {s : Settings} {ending : List Char}
    (hending : lineEnd? ending = some []) {text : String} (htext : text.toList = s.written ending)
    {p : Project} {env : Environment} {path : String} (henv : ∀ v ∈ env, variablePath? v.1 = none)
    (hfile : p.HasSettingsText path text) :
    Settings.loadFrom p env path = .ok s := by
  obtain ⟨f, hfile, hcontent⟩ := hfile
  have hdatum : f.datum = .ok s.datum := by
    rw [SettingsFile.datum, hcontent]
    simp only [readToml?_of_written hending htext, Option.bind_some, untaggedEntries?_entries]
    rfl
  rw [Settings.loadFrom, environmentDatum_of_forall henv, hfile]
  simp only [hdatum]
  exact congrArg Halt.ofError (ofLayers_datum s f.shown)

/-- Asked for the settings, the command prints what it would save. -/
theorem stdout_run_config {i : Invocation} {w : Surroundings} {s : Settings}
    (hcommand : i.command = .config) (htext : i.json = false) (hsettings : i.settings w = .ok s) :
    (i.run w).output.stdout = s.toml := by
  simp [Invocation.run, hcommand, hsettings, performConfig, Performance.outcome, showValue,
    Invocation.style, htext, line, display_append]

/-- **Settings survive being written and read.** Where no variable names a setting,
settings that were saved to a file are loaded from there as they were, whatever their
lists hold and whatever stood in the file before; so they are from any file that holds
what is saved or shown, and the text of the `config` command is one of these. -/
theorem settings_survive_writing (s : Settings) {env : Environment}
    (henv : ∀ v ∈ env, variablePath? v.1 = none) :
    (∀ p q path, s.save p path = (.ok (), q) → Settings.loadFrom q env path = .ok s) ∧
    (∀ p path text, text = s.toml ∨ text = s.display → p.HasSettingsText path text →
      Settings.loadFrom p env path = .ok s) ∧
    ∀ (i : Invocation) (w : Surroundings), i.command = .config → i.json = false →
      i.settings w = .ok s →
      (i.run w).output.stdout = s.toml := by
  have hsaved : ∀ p path, p.HasSettingsText path s.toml → Settings.loadFrom p env path = .ok s := by
    intro p path hfile
    exact loadFrom_of_written (by decide) (toList_toml s) henv hfile
  refine ⟨fun p q path hsave => hsaved q path (hasSettingsText_of_save hsave), ?_,
    fun i w hcommand htext hsettings => stdout_run_config hcommand htext hsettings⟩
  rintro p path text (rfl | rfl) hfile
  · exact hsaved p path hfile
  · exact loadFrom_of_written (by decide) (toList_display s) henv hfile

/-- Settings that a rule cannot have, with texts that are hard to quote, and an empty
list in place of the default. -/
def oddSettings : Settings where
  version := 0xFFFFFFFF
  debug := true
  rule := { sortOrder := [.unnamed, .type, .type] }
  files := { extensions := ["", "a\"b\\", "x\n\'\'\'\r"], ignorePatterns := [] }

theorem settings_survive_writing_odd :
    let saved := oddSettings.save {} "d/s"
    let w : Surroundings :=
      { project := { nodes := [(["s"], .file (.text oddSettings.display))] },
        trees := fun _ _ => none }
    let i : Invocation := { config := some "s", command := .config }
    saved.1 = .ok () ∧
      Settings.loadFrom saved.2 [("PATH", "/bin"), ("IS", "1")] "d/s" = .ok oddSettings ∧
      Settings.loadFrom w.project [] "s" = .ok oddSettings ∧
        (i.run w).output.stdout = oddSettings.toml := by
  intro saved w i
  have henv : ∀ v ∈ [("PATH", "/bin"), ("IS", "1")], variablePath? v.1 = none := by decide +kernel
  -- where a text is does not depend on the text
  have hparent : parentPath? "d/s" = some "d" := by decide +kernel
  have hwrite : ∀ text, (Project.writeBelow {} "d" "d/s" text).1 = .ok () := by
    intro text
    rfl
  have hread :
      ∀ text, Project.readText { nodes := [(["s"], .file (.text text))] } "s" = .ok text := by
    intro text
    rfl
  have hsaved : saved.1 = .ok () := by
    simp only [saved, Settings.save, hparent]
    exact hwrite oddSettings.toml
  have hload : Settings.loadFrom w.project [] "s" = .ok oddSettings :=
    (settings_survive_writing oddSettings (by simp)).2.1 w.project "s" _ (.inr rfl)
      (Project.hasSettingsText_of_readText (hread oddSettings.display))
  have hsettings : i.settings w = .ok oddSettings := congrArg (Except.mapError _) hload
  exact ⟨hsaved, (settings_survive_writing oddSettings henv).1 {} saved.2 _ (Prod.ext hsaved rfl),
    hload, (settings_survive_writing oddSettings henv).2.2 i w rfl rfl hsettings⟩

end ImportOrder
