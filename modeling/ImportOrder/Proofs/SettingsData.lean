import ImportOrder.Proofs.Boundary
import ImportOrder.Settings.Store

/-!
# Settings as data

Settings that are written as data are read back as they were, from either kind of source
(`decode_datum`). The entries of a record are visited in order of their keys, which is
not the order in which they are written: for each record the sorted entries are said
first. A layer that sets nothing changes nothing, so that where nothing is set the
defaults hold (`ofLayers_nothing`).
-/

namespace ImportOrder

/-! ## Simple values -/

theorem decodeItems_map {α : Type} {item : Datum → Decoded α} {datum : α → Datum}
    (h : ∀ a, item (datum a) = .ok a) (place : Nat) (as : List α) :
    decodeItems item place (as.map datum) = .ok as := by
  induction as generalizing place with
  | nil => rfl
  | cons a rest ih =>
    have hitem : Decoded.below (toString place) (item (datum a)) = .ok a := by
      rw [h a]
      rfl
    rw [List.map_cons, decodeItems, bind_ok hitem, bind_ok (ih _)]
    rfl

theorem decodeFlag_bool (b : Bool) : decodeFlag (.bool b) = .ok b := rfl

theorem decodeText_str (s : String) : decodeText (.str s) = .ok s := rfl

theorem decodeCategory_name (source : Source) (c : Category) :
    decodeCategory source (.str c.name) = .ok c := by
  have hname : decodeCategoryName c.name = .ok c := by
    rw [decodeCategoryName, Category.ofName?_name]
  cases source with
  | document => exact hname
  | layers => exact hname

/-- A number is decoded if it fits a machine word, and it does. -/
theorem decodeWord_toNat (v : UInt32) : decodeWord (.int v.toNat) = .ok v := by
  have hlt := v.toNat_lt
  have hrange : (0 : Int) ≤ v.toNat ∧ (v.toNat : Int) < UInt32.size :=
    ⟨Int.natCast_nonneg _, Int.ofNat_lt.2 hlt⟩
  rw [decodeWord, if_pos hrange, Int.toNat_natCast, UInt32.ofNat_toNat]

/-! ## Records -/

namespace Schema

variable {ν ρ α : Type} {s : Schema ν ρ}

/-- An entry for a field is read and stored. -/
theorem putNamed_eq {key : String} {value : ρ → ν} {decode : Source → Datum → Decoded α}
    {store : α → ρ → ρ} {source : Source} {d : Datum} {a : α}
    (hfield : s.fields.find? (·.name = key) = some (.of key value decode store))
    (hdecode : decode source d = .ok a) (r : ρ) :
    s.putNamed source r (key, d) = .ok (store a r) := by
  simp only [putNamed, hfield, Field.of, hdecode]
  rfl

end Schema

/-- **The options of a rule are decoded from their own table**, for any source of
settings. -/
theorem decode_ruleOptions (source : Source) (o : RuleOptions) :
    ruleSchema.decode source o.table.datum = .ok o := by
  have hsorted : sortedByKey (o.table.map fun e => (e.1, e.2.datum)) =
      [("enforce_blank_line", .bool o.enforceBlankLine),
        ("enforce_trailing_line", .bool o.enforceTrailingLine),
      ("ignore_case", .bool o.ignoreCase), ("imports_at_start", .bool o.importsAtStart),
      ("sort_order", .list ((o.sortOrder.map Category.name).map .str))] := by
    simp [RuleOptions.table, Schema.entries, ruleSchema, flagField, Field.of, Toml.Value.datum,
      sortedByKey, List.mergeSort]
  have horder :
      decodeList (decodeCategory source) (.list ((o.sortOrder.map Category.name).map .str)) =
      .ok o.sortOrder := by
    rw [List.map_map]
    exact decodeItems_map (decodeCategory_name source) 0 o.sortOrder
  simp only [Toml.Table.datum, Schema.decode, hsorted, List.foldlM_cons, List.foldlM_nil]
  rw [bind_ok (Schema.putNamed_eq rfl (decodeFlag_bool _) _),
    bind_ok (Schema.putNamed_eq rfl (decodeFlag_bool _) _),
    bind_ok (Schema.putNamed_eq rfl (decodeFlag_bool _) _),
    bind_ok (Schema.putNamed_eq rfl (decodeFlag_bool _) _),
    bind_ok (Schema.putNamed_eq rfl horder _)]
  rfl

theorem decode_fileSettings (source : Source) (f : FileSettings) :
    fileSchema.decode source f.table.datum = .ok f := by
  have hsorted : sortedByKey (f.table.map fun e => (e.1, e.2.datum)) =
      [("extensions", .list (f.extensions.map .str)),
        ("ignore_patterns", .list (f.ignorePatterns.map .str))] := by
    simp [FileSettings.table, Schema.entries, fileSchema, textsField, Field.of, Toml.Value.datum,
      sortedByKey, List.mergeSort]
  have htexts : ∀ texts : List String, decodeList decodeText (.list (texts.map .str)) = .ok texts :=
    decodeItems_map decodeText_str 0
  simp only [Toml.Table.datum, Schema.decode, hsorted, List.foldlM_cons, List.foldlM_nil]
  rw [bind_ok (Schema.putNamed_eq rfl (htexts _) _), bind_ok (Schema.putNamed_eq rfl (htexts _) _)]
  rfl

/-- **Settings written as data** are read back as they were. -/
theorem decode_datum (source : Source) (s : Settings) : Settings.decode source s.datum = .ok s := by
  have hsorted : sortedByKey (s.document.map fun e => (e.1, e.2.datum)) =
      [("debug", .bool s.debug), ("files", s.files.table.datum), ("rule", s.rule.table.datum),
      ("version", .int s.version.toNat)] := by
    simp [Settings.document, Schema.entries, settingsSchema, Field.of, Toml.Entry.datum,
      Toml.Value.datum, sortedByKey, List.mergeSort]
  have hword : ∀ d r, settingsSchema.putNamed source r ("version", d) =
      Decoded.below "version" ((decodeWord d).map fun v => { r with version := v }) :=
        fun _ _ => rfl
  have hversion : ∀ r, settingsSchema.putNamed source r ("version", .int s.version.toNat) =
      .ok { r with version := s.version } := by
    intro r
    rw [hword, decodeWord_toNat]
    rfl
  simp only [Settings.datum, Toml.Document.datum, Settings.decode, Schema.decode, hsorted,
    List.foldlM_cons, List.foldlM_nil]
  rw [bind_ok (Schema.putNamed_eq rfl (decodeFlag_bool _) _),
    bind_ok (Schema.putNamed_eq rfl (decode_fileSettings source _) _),
    bind_ok (Schema.putNamed_eq rfl (decode_ruleOptions source _) _),
    bind_ok (hversion _)]
  rfl

/-- An environment in which no variable names a setting sets nothing. -/
theorem environmentDatum_of_forall {env : Environment} (h : ∀ v ∈ env, variablePath? v.1 = none) :
    environmentDatum env = .ok (.map []) := by
  have hnone : ∀ v ∈ sortedByKey env, variableDatum v = .ok none := by
    intro v hv
    rw [variableDatum, h v (List.mem_mergeSort.1 hv)]
  have hlayers : ((sortedByKey env).map fun _ => (none : Option Datum)).filterMap id = [] := by
    rw [List.filterMap_map, List.filterMap_eq_nil_iff]
    intro _ _
    rfl
  rw [environmentDatum, bind_ok (mapM_ok hnone), hlayers]
  rfl

/-- Where neither a file nor the environment sets anything the defaults hold. -/
theorem ofLayers_nothing (shown : String) :
    Settings.ofLayers (.map []) shown (.map []) = .ok {} := by
  have hmerged : (Datum.map []).over ((Datum.map []).over (Settings.datum {})) =
      Settings.datum {} := by
    simp [Settings.datum, Toml.Document.datum, Datum.over]
  rw [Settings.ofLayers, hmerged, decode_datum]

end ImportOrder
