import CorpusLint.Proofs.Settings.Overlay
import CorpusLint.Proofs.Text.Lines
import CorpusLint.Settings.Overlay

/-!
# What settings are read

Reading the settings fails where the file that was asked for is missing, and where the file is not
UTF-8 or makes no sense. The usual file may be missing.

A text that defines a table gives settings exactly when nothing in the table is out of place and the
settings that must not be blank are not. They are then the defaults with what the table gives laid
over them (`parse_eq_ok_iff`). Since these two settings are looked at last, whatever the file, no
settings are ever read without them (`NeededGiven.of_load`).

Main statement: `parse_overlay`.
-/

namespace CorpusLint

/-! ## Settings that cannot be read -/

namespace Settings

theorem ofFile_eq_error_iff {path : Text} {bytes : ByteArray} {failure : Failure} :
    ofFile path bytes = .error failure ↔
      (Text.ofUtf8? bytes = none ∧ failure = .invalidUtf8) ∨
      ∃ t cause, Text.ofUtf8? bytes = some t ∧ parse t = .error cause ∧
        failure = .badSettings (some path) cause := by
  cases htext : Text.ofUtf8? bytes with
  | none =>
    have hfails : ofFile path bytes = .error .invalidUtf8 := by
      rw [ofFile, htext]
    simp [hfails, eq_comm]
  | some t =>
    cases hparse : parse t with
    | error cause =>
      have hfails : ofFile path bytes = .error (.badSettings (some path) cause) := by
        rw [ofFile, htext]
        simp only
        rw [hparse]
        rfl
      simp [hfails, hparse, eq_comm]
    | ok settings =>
      have hholds : ofFile path bytes = .ok settings := by
        rw [ofFile, htext]
        simp only
        rw [hparse]
        rfl
      simp [hholds, hparse]

theorem load_eq_error_iff {disk : Disk} {root : Text} {explicit : Option Text}
    {failure : Failure} :
    load disk root explicit = .error failure ↔
      (∃ path, explicit = some path ∧ disk.file? path = none ∧ failure = .missingSettings path) ∨
      ∃ bytes, disk.file? (pathFor root explicit) = some bytes ∧
        ofFile (pathFor root explicit) bytes = .error failure := by
  unfold load
  cases hfile : disk.file? (pathFor root explicit) with
  | some bytes =>
    cases explicit with
    | none => simp
    | some path =>
      have hpath : disk.file? path = some bytes := hfile
      simp [hpath]
  | none =>
    cases explicit with
    | none => simp
    | some path =>
      have hpath : disk.file? path = none := hfile
      simp [hpath, eq_comm]

end Settings

/-! ## Settings that are read -/

open Toml (Value)

namespace Settings

/-- The settings that must not be blank are not. -/
structure NeededGiven (s : Settings) : Prop where
  writeCapability : s.rules.writeCapability.trim ≠ []
  extension : s.collections.extension.trim ≠ []

theorem checkBlank_eq_ok_iff {s checked : Settings} :
    s.checkBlank = .ok checked ↔ s = checked ∧ s.NeededGiven := by
  have hneeded : s.NeededGiven ↔
      ¬ s.rules.writeCapability.isBlank = true ∧ ¬ s.collections.extension.isBlank = true := by
    rw [← Text.trim_eq_nil_iff, ← Text.trim_eq_nil_iff]
    exact ⟨fun h => ⟨h.writeCapability, h.extension⟩, fun h => ⟨h.1, h.2⟩⟩
  rw [hneeded, checkBlank]
  split
  · next hblank => simp [hblank]
  · next hwrite =>
    split
    · next hblank => simp [hblank]
    · next hextension => simp [hwrite, hextension]

theorem exists_checkBlank_eq_error {s : Settings} (h : ¬ s.NeededGiven) :
    ∃ setting, s.checkBlank = .error (.blank setting) := by
  cases hcheck : s.checkBlank with
  | ok checked => exact absurd (checkBlank_eq_ok_iff.1 hcheck).2 h
  | error cause =>
    unfold checkBlank at hcheck
    split at hcheck
    · obtain rfl := Except.error.inj hcheck
      exact ⟨_, rfl⟩
    · split at hcheck
      · obtain rfl := Except.error.inj hcheck
        exact ⟨_, rfl⟩
      · cases hcheck

/-! ## Parsing -/

section Parsing

variable {t : Text} {entries : List (Text × Value)} (hparse : Toml.parse t = .ok entries)

include hparse

theorem parse_of_ofEntries {s : Settings} (h : ofEntries entries = .ok s) :
    parse t = s.checkBlank := by
  unfold parse
  rw [hparse]
  simp only [h]

theorem parse_of_misfit {cause : Misfit} (h : ofEntries entries = .error cause) :
    parse t = .error (.misfit cause) := by
  unfold parse
  rw [hparse]
  simp only [h]

theorem isProper_of_parse (htables : ∀ e ∈ entries, WrittenAsTables e) :
    (entries.map Prod.fst).Nodup ∧ ∀ e ∈ entries, IsProper e := by
  obtain ⟨hkeys, hdistinct⟩ := Value.distinctKeys_table_iff.1 (Toml.distinctKeys_of_parse hparse)
  exact ⟨hkeys, fun e he => ⟨hdistinct e he, htables e he⟩⟩

variable (htables : ∀ e ∈ entries, WrittenAsTables e)

include htables

theorem parse_eq_ok_iff {s : Settings} :
    parse t = .ok s ↔ Overlaid entries {} s ∧ s.NeededGiven := by
  obtain ⟨hkeys, hproper⟩ := isProper_of_parse hparse htables
  rw [← ofEntries_eq_ok_iff hkeys hproper]
  cases hentries : ofEntries entries with
  | error cause =>
    rw [parse_of_misfit hparse hentries]
    simp
  | ok laid =>
    rw [parse_of_ofEntries hparse hentries, checkBlank_eq_ok_iff, Except.ok.injEq]
    refine and_congr_right ?_
    rintro rfl
    rfl

theorem wellTyped_iff : WellTyped declared entries ↔ ∃ s, Overlaid entries {} s := by
  obtain ⟨hkeys, hproper⟩ := isProper_of_parse hparse htables
  rw [← exists_ofEntries_eq_ok_iff hproper]
  exact exists_congr fun s => ofEntries_eq_ok_iff hkeys hproper

theorem overlaid_unique {s other : Settings} (h : Overlaid entries {} s)
    (hother : Overlaid entries {} other) : other = s := by
  obtain ⟨hkeys, hproper⟩ := isProper_of_parse hparse htables
  rw [← ofEntries_eq_ok_iff hkeys hproper] at h hother
  exact Except.ok.inj (hother.symm.trans h)

theorem exists_parse_eq_ok_iff :
    (∃ s, parse t = .ok s) ↔
      WellTyped declared entries ∧ ∀ s, Overlaid entries {} s → s.NeededGiven := by
  rw [wellTyped_iff hparse htables]
  constructor
  · rintro ⟨s, hs⟩
    obtain ⟨hoverlaid, hneeded⟩ := (parse_eq_ok_iff hparse htables).1 hs
    refine ⟨⟨s, hoverlaid⟩, ?_⟩
    intro other hother
    rw [overlaid_unique hparse htables hoverlaid hother]
    exact hneeded
  · rintro ⟨⟨s, hoverlaid⟩, hneeded⟩
    exact ⟨s, (parse_eq_ok_iff hparse htables).2 ⟨hoverlaid, hneeded s hoverlaid⟩⟩

theorem exists_misfit (h : ¬ WellTyped declared entries) :
    ∃ cause, parse t = .error (.misfit cause) := by
  obtain ⟨hkeys, hproper⟩ := isProper_of_parse hparse htables
  rw [← exists_ofEntries_eq_ok_iff hproper] at h
  cases hentries : ofEntries entries with
  | error cause => exact ⟨cause, parse_of_misfit hparse hentries⟩
  | ok s => exact absurd ⟨s, hentries⟩ h

theorem exists_blank {s : Settings} (hoverlaid : Overlaid entries {} s) (h : ¬ s.NeededGiven) :
    ∃ setting, parse t = .error (.blank setting) := by
  obtain ⟨hkeys, hproper⟩ := isProper_of_parse hparse htables
  rw [parse_of_ofEntries hparse ((ofEntries_eq_ok_iff hkeys hproper).2 hoverlaid)]
  exact exists_checkBlank_eq_error h

end Parsing

/-! ## Files -/

theorem NeededGiven.of_parse {t : Text} {s : Settings} (h : parse t = .ok s) : s.NeededGiven := by
  unfold parse at h
  split at h
  · cases h
  · split at h
    · cases h
    · obtain ⟨rfl, hneeded⟩ := checkBlank_eq_ok_iff.1 h
      exact hneeded

theorem NeededGiven.of_load {disk : Disk} {root : Text} {explicit : Option Text} {s : Settings}
    (h : load disk root explicit = .ok s) : s.NeededGiven := by
  unfold load at h
  split at h
  · unfold ofFile at h
    split at h
    · cases h
    · next t _ =>
      cases hparse : parse t with
      | error cause =>
        rw [hparse] at h
        cases h
      | ok parsed =>
        rw [hparse] at h
        obtain rfl := Except.ok.inj h
        exact .of_parse hparse
  · split at h
    · cases h
    · obtain rfl := Except.ok.inj h
      exact ⟨by decide, by decide⟩

/-- **Settings are an exact overlay on the defaults.** Let a text define a table in which the
settings, and the routes among them, are written as tables. It gives settings exactly when every key
is declared, every value is of the declared kind, every route has both parts, and the two settings
that must not be blank come out as they should. Each setting is then the given value, or the default
where none is given. Any other such text is refused as settings that make no sense. No settings are
read from a disk without the two that must not be blank. -/
theorem parse_overlay :
    (∀ (t : Text) (entries : List (Text × Value)), Toml.parse t = .ok entries →
      (∀ e ∈ entries, WrittenAsTables e) →
        ((∃ s, parse t = .ok s) ↔
          WellTyped declared entries ∧ ∀ s, Overlaid entries {} s → s.NeededGiven) ∧
        (∀ s, parse t = .ok s ↔ Overlaid entries {} s ∧ s.NeededGiven) ∧
        ((∀ s, parse t ≠ .ok s) → ∃ cause, parse t = .error cause ∧
          (¬ WellTyped declared entries ∧ (∃ misfit, cause = .misfit misfit) ∨
            WellTyped declared entries ∧ ∃ setting, cause = .blank setting) ∧
          ∀ file, (Failure.badSettings file cause).kind = .config)) ∧
    ∀ (disk : Disk) (root : Text) (explicit : Option Text) (s : Settings),
      load disk root explicit = .ok s → s.NeededGiven := by
  refine ⟨fun t entries hparse htables => ⟨?_, ?_, ?_⟩, ?_⟩
  · exact exists_parse_eq_ok_iff hparse htables
  · intro s
    exact parse_eq_ok_iff hparse htables
  · intro hfails
    by_cases htyped : WellTyped declared entries
    · obtain ⟨s, hoverlaid⟩ := (wellTyped_iff hparse htables).1 htyped
      have hblank : ¬ s.NeededGiven := by
        intro hneeded
        exact hfails s ((parse_eq_ok_iff hparse htables).2 ⟨hoverlaid, hneeded⟩)
      obtain ⟨setting, hsetting⟩ := exists_blank hparse htables hoverlaid hblank
      exact ⟨_, hsetting, .inr ⟨htyped, setting, rfl⟩, fun _ => rfl⟩
    · obtain ⟨misfit, hmisfit⟩ := exists_misfit hparse htables htyped
      exact ⟨_, hmisfit, .inl ⟨htyped, misfit, rfl⟩, fun _ => rfl⟩
  · intro disk root explicit s hload
    exact .of_load hload

/-- A list of one route takes the place of the whole list that is the default. -/
theorem parse_overlay_routes :
    parse ("[collections]\nextension = \"txt\"\n\n[[rules.pinned_routes]]\n" ++
        "workflow = \"triage\"\nagent = \"gsd-triager\"\n").toList =
      .ok { collections := { extension := "txt".toList },
            rules := { pinnedRoutes := [⟨"triage".toList, "gsd-triager".toList⟩] } } := by
  have hparse : Toml.parse ("[collections]\nextension = \"txt\"\n\n[[rules.pinned_routes]]\n" ++
        "workflow = \"triage\"\nagent = \"gsd-triager\"\n").toList =
      .ok [("collections".toList, .table [("extension".toList, .string "txt".toList)]),
        ("rules".toList, .table [("pinned_routes".toList, .array [.table
          [("workflow".toList, .string "triage".toList),
            ("agent".toList, .string "gsd-triager".toList)]])])] := by
    -- the text is spelled out first: only then can the reader be run on it
    simp only [String.toList_append, String.reduceToList, List.cons_append, List.nil_append]
    rfl
  obtain ⟨hresult, -⟩ := parse_overlay
  obtain ⟨-, hok, -⟩ := hresult _ _ hparse (by
    simp [-String.reduceToList, WrittenAsTables, Value.IsTable, RuleSettings.RoutesAsTables,
      String.toList_inj])
  refine (hok _).2 ⟨⟨?keys, ?collections, ?rules⟩, ⟨by decide, by decide⟩⟩
  case keys => simp [-String.reduceToList, keys, String.toList_inj]
  case collections =>
    simp [-String.reduceToList, String.toList_inj, Settled, IsCollections, Value.IsText,
      CollectionSettings.overlaid_iff, CollectionSettings.keys]
  case rules =>
    simp [-String.reduceToList, String.toList_inj, Settled, IsRules, Value.IsText,
      RuleSettings.overlaid_iff, RuleSettings.keys, Value.IsRoutes, PinnedRoute.IsWritten,
      PinnedRoute.written_iff, PinnedRoute.keys, Required, or_imp, forall_and]

end Settings

end CorpusLint
