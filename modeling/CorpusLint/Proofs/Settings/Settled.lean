import CorpusLint.Proofs.Except
import CorpusLint.Settings.Error
import CorpusLint.Toml.Basic
import Mathlib.Data.List.Nodup
import Mathlib.Tactic.MkIffOfInductiveProp

/-!
# Entries laid over a record

What it means that the entries of a table settle a setting (`Settled`), and that each of them is of
a declared kind (`WellTyped`). The entries are laid over a record one after another. Since no key
stands twice in a table, they can be taken in any order, and each step settles one setting and
leaves the others (`IsOverlay`). That holds of every record that its settings make up
(`Setting.IsRecord.isOverlay`).
-/

namespace CorpusLint

open Toml (Value)

/-! ## One setting -/

section Settled

variable {α : Type}

/-- What entries make of a setting: the value under its key, as `Reads` takes it, or the default
where the key is missing. -/
def Settled (entries : List (Text × Value)) (key : Text) (Reads : Value → α → Prop)
    (default x : α) : Prop :=
  (∀ v, (key, v) ∈ entries → Reads v x) ∧ (key ∉ entries.map Prod.fst → default = x)

/-- What entries make of a setting without a default. -/
def Required (entries : List (Text × Value)) (key : Text) (Reads : Value → α → Prop) (x : α) :
    Prop :=
  (∀ v, (key, v) ∈ entries → Reads v x) ∧ key ∈ entries.map Prod.fst

variable {entries others : List (Text × Value)} {key : Text} {Reads : Value → α → Prop}
  {default x : α}

theorem settled_nil : Settled [] key Reads default x ↔ default = x := by
  simp [Settled]

theorem settled_singleton {k : Text} {v : Value} :
    Settled [(k, v)] key Reads default x ↔ if k = key then Reads v x else default = x := by
  by_cases h : k = key
  · simp [Settled, h]
  · simp [Settled, h, Ne.symm h]

theorem settled_cons {e : Text × Value} (h : e.1 ∉ entries.map Prod.fst) :
    Settled (e :: entries) key Reads default x ↔
      ∃ y, Settled [e] key Reads default y ∧ Settled entries key Reads y x := by
  obtain ⟨k, v⟩ := e
  by_cases hk : k = key
  · subst hk
    have hnot : ∀ w, (k, w) ∉ entries := fun w hw => h (List.mem_map.2 ⟨(k, w), hw, rfl⟩)
    simp only [settled_singleton, if_true]
    simp only [Settled, List.mem_cons, Prod.mk.injEq, true_and, hnot, or_false, forall_eq,
      List.map_cons, not_true_eq_false, false_implies, and_true, h, not_false_eq_true,
      true_implies, implies_true]
    exact ⟨fun hx => ⟨x, hx, rfl⟩, fun ⟨y, hy, hyx⟩ => hyx ▸ hy⟩
  · simp only [settled_singleton, if_neg hk, exists_eq_left']
    simp only [Settled, List.mem_cons, Prod.mk.injEq, Ne.symm hk, false_and, false_or,
      List.map_cons]

theorem settled_perm (h : entries.Perm others) :
    Settled entries key Reads default x ↔ Settled others key Reads default x := by
  simp only [Settled, h.mem_iff, (h.map Prod.fst).mem_iff]

/-- Where no key stands twice, a setting is there if its one value can be read. -/
theorem exists_required_iff (hkeys : (entries.map Prod.fst).Nodup) :
    (∃ x, Required entries key Reads x) ↔
      key ∈ entries.map Prod.fst ∧ ∀ v, (key, v) ∈ entries → ∃ x, Reads v x := by
  constructor
  · rintro ⟨x, hreads, hkey⟩
    exact ⟨hkey, fun v hv => ⟨x, hreads v hv⟩⟩
  · rintro ⟨hkey, hreads⟩
    obtain ⟨⟨k, v⟩, hv, rfl⟩ := List.mem_map.1 hkey
    obtain ⟨x, hx⟩ := hreads v hv
    refine ⟨x, fun w hw => ?_, hkey⟩
    obtain ⟨-, rfl⟩ := Prod.mk.inj (List.inj_on_of_nodup_map hkeys hw hv rfl)
    exact hx

end Settled

/-! ## One record -/

/-- Every key is a declared one, and its value is of the declared kind. -/
def WellTyped (declared : List (Text × (Value → Prop))) (entries : List (Text × Value)) : Prop :=
  ∀ e ∈ entries, ∃ d ∈ declared, e.1 = d.1 ∧ d.2 e.2

/-- Entries are laid over a record one by one, if each of them is `Proper`. What they make of it is
`Overlaid`, and they can be laid over any record when each is of a declared kind. -/
structure IsOverlay {σ : Type} (declared : List (Text × (Value → Prop)))
    (Proper : Text × Value → Prop) (overlay : σ → Text × Value → Except Misfit σ)
    (Overlaid : List (Text × Value) → σ → σ → Prop) : Prop where
  nil : ∀ {base s}, Overlaid [] base s ↔ base = s
  single : ∀ {base s e}, Proper e → (overlay base e = .ok s ↔ Overlaid [e] base s)
  cons : ∀ {e entries base s}, e.1 ∉ entries.map Prod.fst →
    (Overlaid (e :: entries) base s ↔ ∃ mid, Overlaid [e] base mid ∧ Overlaid entries mid s)
  perm : ∀ {entries others base s}, entries.Perm others →
    (Overlaid entries base s ↔ Overlaid others base s)
  declares : ∀ {base e}, Proper e →
    ((∃ s, overlay base e = .ok s) ↔ ∃ d ∈ declared, e.1 = d.1 ∧ d.2 e.2)

namespace IsOverlay

variable {σ : Type} {declared : List (Text × (Value → Prop))} {Proper : Text × Value → Prop}
  {overlay : σ → Text × Value → Except Misfit σ} {Overlaid : List (Text × Value) → σ → σ → Prop}
  (h : IsOverlay declared Proper overlay Overlaid)

include h

theorem congr {Other : List (Text × Value) → σ → σ → Prop}
    (heq : ∀ entries base s, Other entries base s ↔ Overlaid entries base s) :
    IsOverlay declared Proper overlay Other := by
  obtain rfl : Other = Overlaid := funext₃ fun entries base s => propext (heq entries base s)
  exact h

theorem foldlM_eq_ok_iff {entries : List (Text × Value)} (hkeys : (entries.map Prod.fst).Nodup)
    (hproper : ∀ e ∈ entries, Proper e) {base s : σ} :
    entries.foldlM overlay base = .ok s ↔ Overlaid entries base s := by
  induction entries generalizing base with
  | nil =>
    rw [List.foldlM_nil, h.nil]
    exact ⟨Except.ok.inj, congrArg Except.ok⟩
  | cons e entries ih =>
    obtain ⟨he, hentries⟩ := List.forall_mem_cons.1 hproper
    obtain ⟨hnot, hkeys⟩ := List.nodup_cons.1 hkeys
    rw [List.foldlM_cons, h.cons hnot]
    refine except_bind_eq_ok_iff.trans (exists_congr fun mid => ?_)
    exact and_congr (h.single he) (ih hkeys hentries)

theorem exists_foldlM_eq_ok_iff {entries : List (Text × Value)}
    (hproper : ∀ e ∈ entries, Proper e) {base : σ} :
    (∃ s, entries.foldlM overlay base = .ok s) ↔ WellTyped declared entries := by
  induction entries generalizing base with
  | nil => exact iff_of_true ⟨base, rfl⟩ (List.forall_mem_nil _)
  | cons e entries ih =>
    obtain ⟨he, hentries⟩ := List.forall_mem_cons.1 hproper
    rw [List.foldlM_cons, WellTyped, List.forall_mem_cons, ← h.declares he]
    refine exists_except_bind_eq_ok_iff.trans ?_
    constructor
    · rintro ⟨mid, hmid, hrest⟩
      exact ⟨⟨mid, hmid⟩, (ih hentries).1 hrest⟩
    · rintro ⟨⟨mid, hmid⟩, hrest⟩
      exact ⟨mid, hmid, (ih hentries).2 hrest⟩

/-- The order in which the entries are taken does not matter. -/
theorem foldlM_mergeSort_eq_ok_iff {entries : List (Text × Value)}
    (hkeys : (entries.map Prod.fst).Nodup) (hproper : ∀ e ∈ entries, Proper e)
    {le : Text × Value → Text × Value → Bool} {base s : σ} :
    (entries.mergeSort le).foldlM overlay base = .ok s ↔ Overlaid entries base s := by
  have hperm := List.mergeSort_perm entries le
  rw [h.foldlM_eq_ok_iff ((hperm.map Prod.fst).nodup_iff.2 hkeys)
    (fun e he => hproper e (hperm.mem_iff.1 he)), h.perm hperm]

theorem exists_foldlM_mergeSort_eq_ok_iff {entries : List (Text × Value)}
    (hproper : ∀ e ∈ entries, Proper e) {le : Text × Value → Text × Value → Bool} {base : σ} :
    (∃ s, (entries.mergeSort le).foldlM overlay base = .ok s) ↔ WellTyped declared entries := by
  have hperm := List.mergeSort_perm entries le
  rw [h.exists_foldlM_eq_ok_iff fun e he => hproper e (hperm.mem_iff.1 he)]
  exact forall_congr' fun e => imp_congr_left hperm.mem_iff

end IsOverlay

/-! ## The settings of a record -/

/-- One setting of a record: its key, how a value is read and when it can be, what is read from it,
and where in the record it stands. -/
structure Setting (σ : Type) where
  {α : Type}
  key : Text
  read : Value → Except Misfit α
  IsTyped : Value → Prop
  Reads : Value → α → Prop
  get : σ → α
  set : σ → α → σ

namespace Setting

variable {σ : Type}

/-- A record with a value under the key of one of its settings. -/
def overlay (keys : List Text) : List (Setting σ) → σ → Text × Value → Except Misfit σ
  | [], _, e => .error (.unknownField e.1 keys)
  | f :: settings, s, e =>
    if e.1 = f.key then (f.read e.2).map (f.set s) else overlay keys settings s e

def declared (settings : List (Setting σ)) : List (Text × (Value → Prop)) :=
  settings.map fun f => (f.key, f.IsTyped)

/-- The record `s` has what the entries give, and all else from `base`. -/
@[mk_iff]
structure Overlaid (settings : List (Setting σ)) (entries : List (Text × Value)) (base s : σ) :
    Prop where
  keys : ∀ e ∈ entries, e.1 ∈ settings.map key
  settled : ∀ f ∈ settings, Settled entries f.key f.Reads (f.get base) (f.get s)

/-- A setting is what has been written last, and the values of `Proper` entries under its key are
read as they should be. -/
structure IsLawful (Proper : Text × Value → Prop) (f : Setting σ) : Prop where
  get_set : ∀ s x, f.get (f.set s x) = x
  read_eq_ok_iff : ∀ {e}, Proper e → e.1 = f.key → ∀ x, f.read e.2 = .ok x ↔ f.Reads e.2 x
  isTyped_iff : ∀ {e}, Proper e → e.1 = f.key → ((∃ x, f.read e.2 = .ok x) ↔ f.IsTyped e.2)

/-- These are the settings of a record: no key stands twice, each has a place of its own, and there
is nothing else in the record. -/
structure IsRecord (Proper : Text × Value → Prop) (settings : List (Setting σ)) : Prop where
  keys_nodup : (settings.map key).Nodup
  lawful : ∀ f ∈ settings, f.IsLawful Proper
  get_set_of_ne : ∀ f ∈ settings, ∀ g ∈ settings, f.key ≠ g.key →
    ∀ s x, g.get (f.set s x) = g.get s
  ext : ∀ s t, (∀ f ∈ settings, f.get s = f.get t) → s = t

theorem overlay_of_mem {settings : List (Setting σ)} (hkeys : (settings.map key).Nodup)
    {f : Setting σ} (hf : f ∈ settings) {e : Text × Value} (he : e.1 = f.key) (keys : List Text)
    (base : σ) : overlay keys settings base e = (f.read e.2).map (f.set base) := by
  induction settings with
  | nil => cases hf
  | cons g settings ih =>
    obtain ⟨hnot, hkeys⟩ := List.nodup_cons.1 hkeys
    rcases List.mem_cons.1 hf with rfl | hf
    · rw [overlay, if_pos he]
    · have hne : e.1 ≠ g.key := by
        rintro hg
        exact hnot (List.mem_map.2 ⟨f, hf, he.symm.trans hg⟩)
      rw [overlay, if_neg hne, ih hkeys hf]

theorem overlay_of_notMem {settings : List (Setting σ)} {e : Text × Value}
    (he : e.1 ∉ settings.map key) (keys : List Text) (base : σ) :
    overlay keys settings base e = .error (.unknownField e.1 keys) := by
  induction settings with
  | nil => rfl
  | cons g settings ih =>
    rw [List.map_cons, List.mem_cons, not_or] at he
    rw [overlay, if_neg he.1, ih he.2]

namespace IsRecord

variable {settings : List (Setting σ)} {Proper : Text × Value → Prop}
  (h : IsRecord Proper settings) {entries : List (Text × Value)} {e : Text × Value} {base s : σ}

include h

theorem eq_of_key {f g : Setting σ} (hf : f ∈ settings) (hg : g ∈ settings)
    (hkey : f.key = g.key) : f = g :=
  List.inj_on_of_nodup_map h.keys_nodup hf hg hkey

/-- One entry changes one setting. -/
theorem overlaid_singleton_iff {f : Setting σ} (hf : f ∈ settings) (he : e.1 = f.key) :
    Overlaid settings [e] base s ↔ ∃ x, f.Reads e.2 x ∧ f.set base x = s := by
  constructor
  · rintro ⟨-, hsettled⟩
    refine ⟨f.get s, ?_, h.ext _ _ fun g hg => ?_⟩
    · have hreads := settled_singleton.1 (hsettled f hf)
      rwa [if_pos he] at hreads
    · by_cases hkey : f.key = g.key
      · obtain rfl := h.eq_of_key hf hg hkey
        rw [(h.lawful f hf).get_set]
      · have hkept := settled_singleton.1 (hsettled g hg)
        rw [if_neg (he ▸ hkey)] at hkept
        rw [h.get_set_of_ne f hf g hg hkey, hkept]
  · rintro ⟨x, hreads, rfl⟩
    refine ⟨List.forall_mem_singleton.2 (List.mem_map.2 ⟨f, hf, he.symm⟩), fun g hg => ?_⟩
    refine settled_singleton.2 ?_
    by_cases hkey : f.key = g.key
    · obtain rfl := h.eq_of_key hf hg hkey
      rw [if_pos he, (h.lawful f hf).get_set]
      exact hreads
    · rw [if_neg (he ▸ hkey), h.get_set_of_ne f hf g hg hkey]

theorem overlaid_cons_iff (hnot : e.1 ∉ entries.map Prod.fst) :
    Overlaid settings (e :: entries) base s ↔
      ∃ mid, Overlaid settings [e] base mid ∧ Overlaid settings entries mid s := by
  constructor
  · rintro ⟨hkeys, hsettled⟩
    obtain ⟨hfirst, hrest⟩ := List.forall_mem_cons.1 hkeys
    obtain ⟨f, hf, he⟩ := List.mem_map.1 hfirst
    -- the setting of the entry is already what it will be, and the others are still what they were
    have hmid : ∀ g ∈ settings, Settled [e] g.key g.Reads (g.get base)
        (g.get (f.set base (f.get s))) ∧
        Settled entries g.key g.Reads (g.get (f.set base (f.get s))) (g.get s) := by
      intro g hg
      obtain ⟨y, hy, hlater⟩ := (settled_cons hnot).1 (hsettled g hg)
      have heq : g.get (f.set base (f.get s)) = y := by
        by_cases hkey : f.key = g.key
        · obtain rfl := h.eq_of_key hf hg hkey
          rw [(h.lawful f hf).get_set]
          exact (hlater.2 (he ▸ hnot)).symm
        · have hkept := settled_singleton.1 hy
          rw [if_neg (he ▸ hkey)] at hkept
          rw [h.get_set_of_ne f hf g hg hkey, hkept]
      rw [heq]
      exact ⟨hy, hlater⟩
    exact ⟨f.set base (f.get s),
      ⟨List.forall_mem_singleton.2 hfirst, fun g hg => (hmid g hg).1⟩,
      hrest, fun g hg => (hmid g hg).2⟩
  · rintro ⟨mid, ⟨hfirst, hsettled⟩, hrest, hlater⟩
    exact ⟨List.forall_mem_cons.2 ⟨hfirst e List.mem_cons_self, hrest⟩,
      fun f hf => (settled_cons hnot).2 ⟨f.get mid, hsettled f hf, hlater f hf⟩⟩

theorem isOverlay (keys : List Text) :
    IsOverlay (declared settings) Proper (overlay keys settings) (Overlaid settings) where
  nil {base s} := by
    constructor
    · rintro ⟨-, hsettled⟩
      exact h.ext base s fun f hf => settled_nil.1 (hsettled f hf)
    · rintro rfl
      exact ⟨List.forall_mem_nil _, fun f _ => settled_nil.2 rfl⟩
  single {base s e} hproper := by
    by_cases hkey : e.1 ∈ settings.map key
    · obtain ⟨f, hf, he⟩ := List.mem_map.1 hkey
      rw [overlay_of_mem h.keys_nodup hf he.symm, h.overlaid_singleton_iff hf he.symm,
        except_map_eq_ok_iff]
      exact exists_congr fun x => and_congr_left' ((h.lawful f hf).read_eq_ok_iff hproper he.symm x)
    · rw [overlay_of_notMem hkey]
      exact iff_of_false nofun fun hover => hkey (hover.keys e List.mem_cons_self)
  cons := h.overlaid_cons_iff
  perm {entries others base s} hperm := by
    constructor
    · rintro ⟨hkeys, hsettled⟩
      exact ⟨fun e he => hkeys e (hperm.mem_iff.2 he),
        fun f hf => (settled_perm hperm).1 (hsettled f hf)⟩
    · rintro ⟨hkeys, hsettled⟩
      exact ⟨fun e he => hkeys e (hperm.mem_iff.1 he),
        fun f hf => (settled_perm hperm).2 (hsettled f hf)⟩
  declares {base e} hproper := by
    simp only [declared, List.mem_map, exists_exists_and_eq_and]
    by_cases hkey : e.1 ∈ settings.map key
    · obtain ⟨f, hf, he⟩ := List.mem_map.1 hkey
      rw [overlay_of_mem h.keys_nodup hf he.symm, exists_except_map_eq_ok_iff,
        (h.lawful f hf).isTyped_iff hproper he.symm]
      constructor
      · exact fun htyped => ⟨f, hf, he.symm, htyped⟩
      · rintro ⟨g, hg, hge, htyped⟩
        obtain rfl := h.eq_of_key hf hg (he.trans hge)
        exact htyped
    · rw [overlay_of_notMem hkey]
      refine iff_of_false nofun ?_
      rintro ⟨f, hf, he, -⟩
      exact hkey (List.mem_map.2 ⟨f, hf, he.symm⟩)

end IsRecord

end Setting

end CorpusLint
