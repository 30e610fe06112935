import CorpusLint.Proofs.Settings.Settled
import CorpusLint.Proofs.Toml.Keys
import CorpusLint.Settings.Overlay
import Mathlib.Tactic.MkIffOfInductiveProp

/-!
# Settings laid over others

For each kind of record, what its settings are when the entries of a table are laid over it
(`Overlaid`), and which entries can be laid over it at all (`declared`). Both are those of a list of
settings (`settings`) that makes up the record (`isRecord`), and so the code follows them over all
entries (`isOverlay`). A route has no defaults, and what was missing before is settled only where it
is required (`PinnedRoute.settled_none_iff`).
-/

namespace CorpusLint

open Toml (Value)

/-! ## Strings and arrays -/

namespace Toml.Value

def IsText (v : Value) (t : Text) : Prop :=
  v = .string t

def IsTexts (v : Value) (ts : List Text) : Prop :=
  v = .array (ts.map .string)

variable {v : Value}

theorem refuse_ne_ok {α : Type} {expected : Expectation} {x : α} : v.refuse expected ≠ .ok x := by
  unfold refuse
  split <;> rintro ⟨⟩

theorem toText_eq_ok_iff {expected : Expectation} {t : Text} :
    v.toText expected = .ok t ↔ v.IsText t := by
  cases v <;> simp [toText, IsText, refuse_ne_ok]

theorem toList_eq_ok_iff {α : Type} {element : Value → Except Misfit α} {xs : List α} :
    v.toList element = .ok xs ↔
      ∃ items, v = .array items ∧ List.Forall₂ (fun item x => element item = .ok x) items xs := by
  cases v <;> simp [toList, refuse_ne_ok, except_mapM_eq_ok_iff]

theorem toList_toText_eq_ok_iff {ts : List Text} :
    v.toList (toText .text) = .ok ts ↔ v.IsTexts ts := by
  have hitems : ∀ items : List Value,
      List.Forall₂ (fun item t => item.toText .text = .ok t) items ts ↔ items = ts.map .string := by
    intro items
    rw [← List.forall₂_eq_eq_eq, List.forall₂_map_right_iff]
    exact ⟨fun h => h.imp fun _ _ => toText_eq_ok_iff.1,
      fun h => h.imp fun _ _ => toText_eq_ok_iff.2⟩
  rw [toList_eq_ok_iff]
  simp only [hitems, exists_eq_right, IsTexts]

end Toml.Value

namespace Setting

variable {σ : Type} {Proper : Text × Value → Prop}

/-- A setting that is a string. -/
def ofText (key : Text) (expected : Expectation) (get : σ → Text) (set : σ → Text → σ) :
    Setting σ :=
  ⟨key, Value.toText expected, fun v => ∃ t, v.IsText t, Value.IsText, get, set⟩

/-- A setting that is a list of strings. -/
def ofTexts (key : Text) (get : σ → List Text) (set : σ → List Text → σ) : Setting σ :=
  ⟨key, Value.toList (Value.toText .text), fun v => ∃ ts, v.IsTexts ts, Value.IsTexts, get, set⟩

theorem isLawful_ofText {key : Text} {expected : Expectation} {get : σ → Text}
    {set : σ → Text → σ} (h : ∀ s x, get (set s x) = x) :
    (ofText key expected get set).IsLawful Proper where
  get_set := h
  read_eq_ok_iff _ _ _ := Value.toText_eq_ok_iff
  isTyped_iff _ _ := exists_congr fun _ => Value.toText_eq_ok_iff

theorem isLawful_ofTexts {key : Text} {get : σ → List Text} {set : σ → List Text → σ}
    (h : ∀ s x, get (set s x) = x) : (ofTexts key get set).IsLawful Proper where
  get_set := h
  read_eq_ok_iff _ _ _ := Value.toList_toText_eq_ok_iff
  isTyped_iff _ _ := exists_congr fun _ => Value.toList_toText_eq_ok_iff

end Setting

/-! ## The settings of the collections -/

namespace CollectionSettings

/-- The record `s` has what the entries give, and all else from `base`. -/
@[mk_iff]
structure Overlaid (entries : List (Text × Value)) (base s : CollectionSettings) : Prop where
  keys : ∀ e ∈ entries, e.1 ∈ keys
  agents : Settled entries "agents".toList Value.IsText base.agents s.agents
  workflows : Settled entries "workflows".toList Value.IsText base.workflows s.workflows
  commands : Settled entries "commands".toList Value.IsText base.commands s.commands
  agentStart : Settled entries "agent_prefix".toList Value.IsText base.agentStart s.agentStart
  extension : Settled entries "extension".toList Value.IsText base.extension s.extension

def declared : List (Text × (Value → Prop)) :=
  keys.map fun key => (key, fun v => ∃ t, v.IsText t)

/-- The settings of the record, in the order of `keys`. -/
def settings : List (Setting CollectionSettings) :=
  [.ofText "agents".toList .path agents fun s x => { s with agents := x },
    .ofText "workflows".toList .path workflows fun s x => { s with workflows := x },
    .ofText "commands".toList .path commands fun s x => { s with commands := x },
    .ofText "agent_prefix".toList .text agentStart fun s x => { s with agentStart := x },
    .ofText "extension".toList .text extension fun s x => { s with extension := x }]

theorem isRecord : Setting.IsRecord (fun _ => True) settings where
  keys_nodup := by decide
  lawful := by
    refine List.forall_iff_forall_mem.1 ⟨?_, ?_, ?_, ?_, ?_⟩
    all_goals exact Setting.isLawful_ofText fun _ _ => rfl
  get_set_of_ne := by simp [settings, Setting.ofText]
  ext s t h := by
    obtain ⟨ha, hw, hc, hs, hx⟩ := List.forall_iff_forall_mem.2 h
    cases s
    cases t
    exact (CollectionSettings.mk.injEq ..).mpr ⟨ha, hw, hc, hs, hx⟩

variable {entries : List (Text × Value)} {base s : CollectionSettings}

theorem overlaid_iff_settings :
    Overlaid entries base s ↔ Setting.Overlaid settings entries base s := by
  rw [overlaid_iff, Setting.overlaid_iff, ← List.forall_iff_forall_mem (l := settings)]
  rfl

theorem isOverlay : IsOverlay declared (fun _ => True) overlay Overlaid :=
  (isRecord.isOverlay keys).congr fun _ _ _ => overlaid_iff_settings

theorem ofValue_table_eq_ok_iff (hkeys : (entries.map Prod.fst).Nodup) :
    ofValue (.table entries) = .ok s ↔ Overlaid entries {} s :=
  isOverlay.foldlM_mergeSort_eq_ok_iff hkeys fun _ _ => trivial

theorem exists_ofValue_table_eq_ok_iff :
    (∃ s, ofValue (.table entries) = .ok s) ↔ WellTyped declared entries :=
  isOverlay.exists_foldlM_mergeSort_eq_ok_iff fun _ _ => trivial

end CollectionSettings

/-! ## Routes -/

namespace PinnedRoute

/-- The entries give both parts of a route and nothing else. -/
@[mk_iff]
structure Written (entries : List (Text × Value)) (r : PinnedRoute) : Prop where
  keys : ∀ e ∈ entries, e.1 ∈ keys
  workflow : Required entries "workflow".toList Value.IsText r.workflow
  agent : Required entries "agent".toList Value.IsText r.agent

/-- A value is the table of a route. -/
def IsWritten (v : Value) (r : PinnedRoute) : Prop :=
  ∃ entries, v = .table entries ∧ Written entries r

def declared : List (Text × (Value → Prop)) :=
  keys.map fun key => (key, fun v => ∃ t, v.IsText t)

namespace Draft

@[mk_iff]
structure Overlaid (entries : List (Text × Value)) (base s : Draft) : Prop where
  keys : ∀ e ∈ entries, e.1 ∈ keys
  workflow : Settled entries "workflow".toList (fun v x => ∃ t, v.IsText t ∧ some t = x)
    base.workflow s.workflow
  agent : Settled entries "agent".toList (fun v x => ∃ t, v.IsText t ∧ some t = x)
    base.agent s.agent

/-- A part of a route, which is a string and has no default. -/
def part (key : Text) (get : Draft → Option Text) (set : Draft → Option Text → Draft) :
    Setting Draft :=
  ⟨key, fun v => (v.toText .text).map some, fun v => ∃ t, v.IsText t,
    fun v x => ∃ t, v.IsText t ∧ some t = x, get, set⟩

theorem isLawful_part {key : Text} {get : Draft → Option Text} {set : Draft → Option Text → Draft}
    (h : ∀ s x, get (set s x) = x) : (part key get set).IsLawful (fun _ => True) where
  get_set := h
  read_eq_ok_iff _ _ _ :=
    except_map_eq_ok_iff.trans (exists_congr fun _ => and_congr_left' Value.toText_eq_ok_iff)
  isTyped_iff _ _ :=
    exists_except_map_eq_ok_iff.trans (exists_congr fun _ => Value.toText_eq_ok_iff)

def settings : List (Setting Draft) :=
  [part "workflow".toList workflow fun s x => { s with workflow := x },
    part "agent".toList agent fun s x => { s with agent := x }]

theorem isRecord : Setting.IsRecord (fun _ => True) settings where
  keys_nodup := by decide
  lawful := by
    refine List.forall_iff_forall_mem.1 ⟨?_, ?_⟩
    all_goals exact isLawful_part fun _ _ => rfl
  get_set_of_ne := by simp [settings, part]
  ext s t h := by
    obtain ⟨hworkflow, hagent⟩ := List.forall_iff_forall_mem.2 h
    cases s
    cases t
    exact congrArg₂ Draft.mk hworkflow hagent

variable {entries : List (Text × Value)} {base s : Draft}

theorem overlaid_iff_settings :
    Overlaid entries base s ↔ Setting.Overlaid settings entries base s := by
  rw [overlaid_iff, Setting.overlaid_iff, ← List.forall_iff_forall_mem (l := settings)]
  rfl

/-- What is read is put into the draft at once. -/
theorem overlay_eq (base : Draft) (e : Text × Value) :
    overlay base e = Setting.overlay PinnedRoute.keys settings base e := by
  have hread : ∀ set : Option Text → Draft, (e.2.toText .text).map (fun t => set (some t)) =
      ((e.2.toText .text).map some).map set := by
    intro set
    cases e.2.toText .text <;> rfl
  exact ite_congr rfl (fun _ => hread fun x => { base with workflow := x }) fun _ =>
    ite_congr rfl (fun _ => hread fun x => { base with agent := x }) fun _ => rfl

theorem isOverlay : IsOverlay declared (fun _ => True) overlay Overlaid := by
  have hoverlay : overlay = Setting.overlay PinnedRoute.keys settings :=
    funext₂ overlay_eq
  rw [hoverlay]
  exact (isRecord.isOverlay PinnedRoute.keys).congr fun _ _ _ => overlaid_iff_settings

end Draft

variable {entries : List (Text × Value)}

/-- A setting that has no value before is settled by entries that require it. -/
theorem settled_none_iff {key t : Text} :
    Settled entries key (fun v x => ∃ u, v.IsText u ∧ some u = x) none (some t) ↔
      Required entries key Value.IsText t := by
  simp [Settled, Required]

theorem finish_eq_ok_iff {v : Value} {s : Draft} {r : PinnedRoute} :
    s.finish v = .ok r ↔ s = ⟨some r.workflow, some r.agent⟩ := by
  obtain ⟨workflow, agent⟩ := s
  unfold Draft.finish
  constructor
  · intro h
    split at h
    · next hworkflow hagent =>
      obtain rfl := Except.ok.inj h
      exact congrArg₂ Draft.mk hworkflow hagent
    · split at h <;> cases h
  · intro h
    obtain ⟨rfl, rfl⟩ := Draft.mk.inj h
    rfl

theorem ofValue_table_eq_ok_iff (hkeys : (entries.map Prod.fst).Nodup) {r : PinnedRoute} :
    ofValue (.table entries) = .ok r ↔ Written entries r := by
  change (List.foldlM Draft.overlay {} (entries.mergeSort _)).bind _ = .ok r ↔ _
  rw [except_bind_eq_ok_iff]
  simp only [finish_eq_ok_iff, exists_eq_right,
    Draft.isOverlay.foldlM_mergeSort_eq_ok_iff hkeys fun _ _ => trivial]
  constructor
  · rintro ⟨hentries, hworkflow, hagent⟩
    exact ⟨hentries, settled_none_iff.1 hworkflow, settled_none_iff.1 hagent⟩
  · rintro ⟨hentries, hworkflow, hagent⟩
    exact ⟨hentries, settled_none_iff.2 hworkflow, settled_none_iff.2 hagent⟩

/-- The entries are declared, and both parts of a route are there. -/
def IsComplete (entries : List (Text × Value)) : Prop :=
  WellTyped declared entries ∧ ∀ key ∈ keys, key ∈ entries.map Prod.fst

theorem exists_written_iff (hkeys : (entries.map Prod.fst).Nodup) :
    (∃ r, Written entries r) ↔ IsComplete entries := by
  have hdeclared : WellTyped declared entries ↔ ∀ e ∈ entries, e.1 ∈ keys ∧ ∃ t, e.2.IsText t := by
    simp [WellTyped, declared]
  rw [IsComplete, hdeclared]
  constructor
  · rintro ⟨r, hentries, hworkflow, hagent⟩
    refine ⟨fun e he => ⟨hentries e he, ?_⟩, ?_⟩
    · have hkey := hentries e he
      obtain ⟨key, v⟩ := e
      simp only [keys, List.map_cons, List.map_nil, List.mem_cons, List.not_mem_nil, or_false]
        at hkey
      rcases hkey with rfl | rfl
      · exact ⟨_, hworkflow.1 v he⟩
      · exact ⟨_, hagent.1 v he⟩
    · exact List.forall_mem_cons.2 ⟨hworkflow.2, List.forall_mem_singleton.2 hagent.2⟩
  · rintro ⟨hentries, hgiven⟩
    have hpart : ∀ key ∈ keys, ∃ t, Required entries key Value.IsText t := by
      intro key hkey
      exact (exists_required_iff hkeys).2 ⟨hgiven key hkey, fun v hv => (hentries _ hv).2⟩
    obtain ⟨hworkflow, hagent⟩ := List.forall_mem_cons.1 hpart
    obtain ⟨workflow, hworkflow⟩ := hworkflow
    obtain ⟨agent, hagent⟩ := List.forall_mem_singleton.1 hagent
    exact ⟨⟨workflow, agent⟩, fun e he => (hentries e he).1, hworkflow, hagent⟩

end PinnedRoute

namespace Toml.Value

def IsTable (v : Value) : Prop :=
  ∃ entries, v = .table entries

end Toml.Value

namespace PinnedRoute

variable {v : Value}

theorem ofValue_eq_ok_iff (hdistinct : v.DistinctKeys) (htable : v.IsTable) {r : PinnedRoute} :
    ofValue v = .ok r ↔ IsWritten v r := by
  obtain ⟨entries, rfl⟩ := htable
  rw [ofValue_table_eq_ok_iff (Value.distinctKeys_table_iff.1 hdistinct).1]
  simp [IsWritten]

theorem exists_ofValue_eq_ok_iff (hdistinct : v.DistinctKeys) (htable : v.IsTable) :
    (∃ r, ofValue v = .ok r) ↔ ∃ entries, v = .table entries ∧ IsComplete entries := by
  obtain ⟨entries, rfl⟩ := htable
  have hkeys := (Value.distinctKeys_table_iff.1 hdistinct).1
  simp [ofValue_table_eq_ok_iff hkeys, exists_written_iff hkeys]

end PinnedRoute

/-! ## The settings of the rules -/

namespace Toml.Value

/-- A value is an array of routes, each a table. -/
def IsRoutes (v : Value) (routes : List PinnedRoute) : Prop :=
  ∃ items, v = .array items ∧ List.Forall₂ PinnedRoute.IsWritten items routes

end Toml.Value

namespace RuleSettings

@[mk_iff]
structure Overlaid (entries : List (Text × Value)) (base s : RuleSettings) : Prop where
  keys : ∀ e ∈ entries, e.1 ∈ keys
  writeCapability : Settled entries "write_capability".toList Value.IsText base.writeCapability
    s.writeCapability
  requiredFields : Settled entries "required_fields".toList Value.IsTexts base.requiredFields
    s.requiredFields
  pinnedRoutes : Settled entries "pinned_routes".toList Value.IsRoutes base.pinnedRoutes
    s.pinnedRoutes
  disabled : Settled entries "disabled".toList Value.IsTexts base.disabled s.disabled

def declared : List (Text × (Value → Prop)) :=
  [("write_capability".toList, fun v => ∃ t, v.IsText t),
    ("required_fields".toList, fun v => ∃ ts, v.IsTexts ts),
    ("pinned_routes".toList, fun v => ∃ items, v = .array items ∧
      ∀ item ∈ items, ∃ entries, item = .table entries ∧ PinnedRoute.IsComplete entries),
    ("disabled".toList, fun v => ∃ ts, v.IsTexts ts)]

/-- The routes, if there are any, are written as tables. -/
def RoutesAsTables (e : Text × Value) : Prop :=
  e.1 = "pinned_routes".toList → ∀ items, e.2 = .array items → ∀ item ∈ items, item.IsTable

/-- An entry with a value that a document can have, whose routes are written as tables. -/
def IsProper (e : Text × Value) : Prop :=
  e.2.DistinctKeys ∧ RoutesAsTables e

variable {entries : List (Text × Value)} {base s : RuleSettings} {e : Text × Value}

theorem IsProper.toList_eq_ok_iff (h : IsProper e) (hkey : e.1 = "pinned_routes".toList)
    {routes : List PinnedRoute} :
    e.2.toList PinnedRoute.ofValue = .ok routes ↔ e.2.IsRoutes routes := by
  rw [Value.toList_eq_ok_iff, Value.IsRoutes]
  refine exists_congr fun items => and_congr_right fun hitems => ?_
  refine forall₂_congr_of_mem fun item hitem _ => ?_
  have hdistinct : ∀ item ∈ items, item.DistinctKeys :=
    Value.distinctKeys_array_iff.1 (hitems ▸ h.1)
  exact PinnedRoute.ofValue_eq_ok_iff (hdistinct item hitem) (h.2 hkey items hitems item hitem)

theorem IsProper.exists_toList_eq_ok_iff (h : IsProper e) (hkey : e.1 = "pinned_routes".toList) :
    (∃ routes, e.2.toList PinnedRoute.ofValue = .ok routes) ↔ ∃ items, e.2 = .array items ∧
      ∀ item ∈ items, ∃ entries, item = .table entries ∧ PinnedRoute.IsComplete entries := by
  simp only [Value.toList_eq_ok_iff, ← except_mapM_eq_ok_iff]
  rw [exists_comm]
  refine exists_congr fun items => ?_
  rw [exists_and_left]
  refine and_congr_right fun hitems => ?_
  have hdistinct : ∀ item ∈ items, item.DistinctKeys :=
    Value.distinctKeys_array_iff.1 (hitems ▸ h.1)
  rw [exists_except_mapM_eq_ok_iff]
  refine forall₂_congr fun item hitem => ?_
  exact PinnedRoute.exists_ofValue_eq_ok_iff (hdistinct item hitem)
    (h.2 hkey items hitems item hitem)

/-- The setting of the routes. -/
def routes : Setting RuleSettings where
  key := "pinned_routes".toList
  read := Value.toList PinnedRoute.ofValue
  IsTyped v := ∃ items, v = .array items ∧
    ∀ item ∈ items, ∃ entries, item = .table entries ∧ PinnedRoute.IsComplete entries
  Reads := Value.IsRoutes
  get := pinnedRoutes
  set s x := { s with pinnedRoutes := x }

theorem isLawful_routes : routes.IsLawful IsProper where
  get_set _ _ := rfl
  read_eq_ok_iff h hkey _ := h.toList_eq_ok_iff hkey
  isTyped_iff h hkey := h.exists_toList_eq_ok_iff hkey

def settings : List (Setting RuleSettings) :=
  [.ofText "write_capability".toList .text writeCapability
      fun s x => { s with writeCapability := x },
    .ofTexts "required_fields".toList requiredFields fun s x => { s with requiredFields := x },
    routes,
    .ofTexts "disabled".toList disabled fun s x => { s with disabled := x }]

theorem isRecord : Setting.IsRecord IsProper settings where
  keys_nodup := by decide
  lawful := List.forall_iff_forall_mem.1
    ⟨Setting.isLawful_ofText fun _ _ => rfl, Setting.isLawful_ofTexts fun _ _ => rfl,
      isLawful_routes, Setting.isLawful_ofTexts fun _ _ => rfl⟩
  get_set_of_ne := by simp [settings, Setting.ofText, Setting.ofTexts, routes]
  ext s t h := by
    obtain ⟨hw, hf, hp, hd⟩ := List.forall_iff_forall_mem.2 h
    cases s
    cases t
    exact (RuleSettings.mk.injEq ..).mpr ⟨hw, hf, hp, hd⟩

theorem overlaid_iff_settings :
    Overlaid entries base s ↔ Setting.Overlaid settings entries base s := by
  rw [overlaid_iff, Setting.overlaid_iff, ← List.forall_iff_forall_mem (l := settings)]
  rfl

theorem isOverlay : IsOverlay declared IsProper overlay Overlaid :=
  (isRecord.isOverlay keys).congr fun _ _ _ => overlaid_iff_settings

theorem ofValue_table_eq_ok_iff (hkeys : (entries.map Prod.fst).Nodup)
    (hproper : ∀ e ∈ entries, IsProper e) :
    ofValue (.table entries) = .ok s ↔ Overlaid entries {} s :=
  isOverlay.foldlM_mergeSort_eq_ok_iff hkeys hproper

theorem exists_ofValue_table_eq_ok_iff (hproper : ∀ e ∈ entries, IsProper e) :
    (∃ s, ofValue (.table entries) = .ok s) ↔ WellTyped declared entries :=
  isOverlay.exists_foldlM_mergeSort_eq_ok_iff hproper

end RuleSettings

/-! ## All settings -/

namespace Settings

/-- A value is the table of the settings of the collections. -/
def IsCollections (v : Value) (s : CollectionSettings) : Prop :=
  ∃ entries, v = .table entries ∧ CollectionSettings.Overlaid entries {} s

/-- A value is the table of the settings of the rules. -/
def IsRules (v : Value) (s : RuleSettings) : Prop :=
  ∃ entries, v = .table entries ∧ RuleSettings.Overlaid entries {} s

@[mk_iff]
structure Overlaid (entries : List (Text × Value)) (base s : Settings) : Prop where
  keys : ∀ e ∈ entries, e.1 ∈ keys
  collections : Settled entries "collections".toList IsCollections base.collections s.collections
  rules : Settled entries "rules".toList IsRules base.rules s.rules

def declared : List (Text × (Value → Prop)) :=
  [("collections".toList,
      fun v => ∃ entries, v = .table entries ∧ WellTyped CollectionSettings.declared entries),
    ("rules".toList,
      fun v => ∃ entries, v = .table entries ∧ WellTyped RuleSettings.declared entries)]

/-- The settings, and the routes among them, are written as tables. -/
def WrittenAsTables (e : Text × Value) : Prop :=
  (e.1 = "collections".toList → e.2.IsTable) ∧
    (e.1 = "rules".toList → ∃ entries, e.2 = .table entries ∧
      ∀ inner ∈ entries, RuleSettings.RoutesAsTables inner)

def IsProper (e : Text × Value) : Prop :=
  e.2.DistinctKeys ∧ WrittenAsTables e

variable {entries : List (Text × Value)} {base s : Settings} {e : Text × Value}

theorem exists_table_iff {inner : List (Text × Value)} {P : List (Text × Value) → Prop} :
    (∃ entries, Value.table inner = .table entries ∧ P entries) ↔ P inner := by
  simp only [Value.table.injEq, exists_eq_left']

theorem IsProper.collections_iff (h : IsProper e) (hkey : e.1 = "collections".toList) :
    (∀ c, CollectionSettings.ofValue e.2 = .ok c ↔ IsCollections e.2 c) ∧
      ((∃ c, CollectionSettings.ofValue e.2 = .ok c) ↔
        ∃ entries, e.2 = .table entries ∧ WellTyped CollectionSettings.declared entries) := by
  obtain ⟨inner, htable⟩ := h.2.1 hkey
  obtain ⟨hkeys, -⟩ := Value.distinctKeys_table_iff.1 (htable ▸ h.1)
  rw [htable, exists_table_iff]
  refine ⟨?_, CollectionSettings.exists_ofValue_table_eq_ok_iff⟩
  intro c
  rw [IsCollections, exists_table_iff]
  exact CollectionSettings.ofValue_table_eq_ok_iff hkeys

theorem IsProper.rules_iff (h : IsProper e) (hkey : e.1 = "rules".toList) :
    (∀ r, RuleSettings.ofValue e.2 = .ok r ↔ IsRules e.2 r) ∧
      ((∃ r, RuleSettings.ofValue e.2 = .ok r) ↔
        ∃ entries, e.2 = .table entries ∧ WellTyped RuleSettings.declared entries) := by
  obtain ⟨inner, htable, hroutes⟩ := h.2.2 hkey
  obtain ⟨hkeys, hdistinct⟩ := Value.distinctKeys_table_iff.1 (htable ▸ h.1)
  have hproper : ∀ e ∈ inner, RuleSettings.IsProper e := fun e he => ⟨hdistinct e he, hroutes e he⟩
  rw [htable, exists_table_iff]
  refine ⟨?_, RuleSettings.exists_ofValue_table_eq_ok_iff hproper⟩
  intro r
  rw [IsRules, exists_table_iff]
  exact RuleSettings.ofValue_table_eq_ok_iff hkeys hproper

def settings : List (Setting Settings) :=
  [{ key := "collections".toList
     read := CollectionSettings.ofValue
     IsTyped v := ∃ entries, v = .table entries ∧ WellTyped CollectionSettings.declared entries
     Reads := IsCollections
     get := collections
     set s x := { s with collections := x } },
    { key := "rules".toList
      read := RuleSettings.ofValue
      IsTyped v := ∃ entries, v = .table entries ∧ WellTyped RuleSettings.declared entries
      Reads := IsRules
      get := rules
      set s x := { s with rules := x } }]

theorem isRecord : Setting.IsRecord IsProper settings where
  keys_nodup := by decide
  lawful := List.forall_iff_forall_mem.1
    ⟨{ get_set _ _ := rfl
       read_eq_ok_iff h hkey := (h.collections_iff hkey).1
       isTyped_iff h hkey := (h.collections_iff hkey).2 },
      { get_set _ _ := rfl
        read_eq_ok_iff h hkey := (h.rules_iff hkey).1
        isTyped_iff h hkey := (h.rules_iff hkey).2 }⟩
  get_set_of_ne := by simp [settings]
  ext s t h := by
    obtain ⟨hcollections, hrules⟩ := List.forall_iff_forall_mem.2 h
    cases s
    cases t
    exact congrArg₂ Settings.mk hcollections hrules

theorem overlaid_iff_settings :
    Overlaid entries base s ↔ Setting.Overlaid settings entries base s := by
  rw [overlaid_iff, Setting.overlaid_iff, ← List.forall_iff_forall_mem (l := settings)]
  rfl

theorem isOverlay : IsOverlay declared IsProper overlay Overlaid :=
  (isRecord.isOverlay keys).congr fun _ _ _ => overlaid_iff_settings

theorem ofEntries_eq_ok_iff (hkeys : (entries.map Prod.fst).Nodup)
    (hproper : ∀ e ∈ entries, IsProper e) :
    ofEntries entries = .ok s ↔ Overlaid entries {} s :=
  isOverlay.foldlM_mergeSort_eq_ok_iff hkeys hproper

theorem exists_ofEntries_eq_ok_iff (hproper : ∀ e ∈ entries, IsProper e) :
    (∃ s, ofEntries entries = .ok s) ↔ WellTyped declared entries :=
  isOverlay.exists_foldlM_mergeSort_eq_ok_iff hproper

end Settings

end CorpusLint
