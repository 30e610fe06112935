import CorpusLint.Proofs.Except
import CorpusLint.Proofs.Toml.Plain
import Mathlib.Data.List.Nodup

/-!
# The keys of a document

No table of a document has a key twice, at whatever depth it stands (`distinctKeys_of_parse`). The
tables are built from the statements, and each step that adds to a table looks whether its key is
there already; so the invariant is one of the tables under construction (`Entries.DistinctKeys`),
which the steps below any path keep (`Entries.distinctKeys_descend`).
-/

namespace CorpusLint

namespace Toml

/-! ## Tables under construction -/

/-- No table in a value has a key twice. -/
inductive Value.DistinctKeys : Value → Prop
  | scalar {v : Value} (h : v.isScalar = true) : DistinctKeys v
  | array {items : List Value} (h : ∀ v ∈ items, DistinctKeys v) : DistinctKeys (.array items)
  | table {entries : List (Text × Value)} (hkeys : (entries.map Prod.fst).Nodup)
      (h : ∀ e ∈ entries, DistinctKeys e.2) : DistinctKeys (.table entries)

theorem Value.distinctKeys_array_iff {items : List Value} :
    (array items).DistinctKeys ↔ ∀ v ∈ items, v.DistinctKeys := by
  constructor
  · rintro (h | h)
    · cases h
    · exact h
  · exact .array

theorem Value.distinctKeys_table_iff {entries : List (Text × Value)} :
    (table entries).DistinctKeys ↔
      (entries.map Prod.fst).Nodup ∧ ∀ e ∈ entries, e.2.DistinctKeys := by
  constructor
  · rintro (h | _ | ⟨hkeys, h⟩)
    · cases h
    · exact ⟨hkeys, h⟩
  · rintro ⟨hkeys, h⟩
    exact .table hkeys h

/-- No table in a draft has a key twice. -/
inductive Draft.DistinctKeys : Draft → Prop
  | closed {v : Value} (h : v.DistinctKeys) : DistinctKeys (.closed v)
  | table {origin : Origin} {entries : Entries} (hkeys : (entries.map Prod.fst).Nodup)
      (h : ∀ e ∈ entries, DistinctKeys e.2) : DistinctKeys (.table origin entries)
  | tables {elements : List Entries} (hkeys : ∀ entries ∈ elements, (entries.map Prod.fst).Nodup)
      (h : ∀ entries ∈ elements, ∀ e ∈ entries, DistinctKeys e.2) : DistinctKeys (.tables elements)

/-- No key stands twice in the entries of a table under construction, nor in a table within. -/
structure Entries.DistinctKeys (entries : Entries) : Prop where
  keys : (entries.map Prod.fst).Nodup
  drafts : ∀ e ∈ entries, e.2.DistinctKeys

theorem Draft.distinctKeys_table_iff {origin : Origin} {entries : Entries} :
    (table origin entries).DistinctKeys ↔ entries.DistinctKeys := by
  constructor
  · rintro (_ | ⟨hkeys, h⟩)
    exact ⟨hkeys, h⟩
  · intro h
    exact .table h.keys h.drafts

theorem Draft.distinctKeys_tables_iff {elements : List Entries} :
    (tables elements).DistinctKeys ↔ ∀ entries ∈ elements, entries.DistinctKeys := by
  constructor
  · rintro (_ | _ | ⟨hkeys, h⟩) entries hentries
    exact ⟨hkeys entries hentries, h entries hentries⟩
  · intro h
    exact .tables (fun entries hentries => (h entries hentries).keys)
      fun entries hentries => (h entries hentries).drafts

namespace Entries

theorem notMem_keys_of_lookup {key : Text} {entries : Entries}
    (h : entries.lookup key = none) : key ∉ entries.map Prod.fst := by
  intro hmem
  obtain ⟨e, he, rfl⟩ := List.mem_map.1 hmem
  simpa using List.lookup_eq_none_iff.1 h e he

theorem mem_of_lookup {key : Text} {d : Draft} {entries : Entries}
    (h : entries.lookup key = some d) : (key, d) ∈ entries := by
  obtain ⟨before, after, rfl, -⟩ := List.lookup_eq_some_iff.1 h
  exact List.mem_append_right _ List.mem_cons_self

theorem mem_put {key : Text} {d : Draft} {entries : Entries} {e : Text × Draft}
    (h : e ∈ put key d entries) : e.2 = d ∨ e ∈ entries := by
  induction entries with
  | nil =>
    obtain rfl := List.mem_singleton.1 h
    exact .inl rfl
  | cons first entries ih =>
    rw [put] at h
    split at h
    · rcases List.mem_cons.1 h with rfl | h
      · exact .inl rfl
      · exact .inr (List.mem_cons_of_mem _ h)
    · rcases List.mem_cons.1 h with rfl | h
      · exact .inr List.mem_cons_self
      · exact (ih h).imp_right (List.mem_cons_of_mem _)

theorem keys_put (key : Text) (d : Draft) (entries : Entries) :
    (put key d entries).map Prod.fst =
      if key ∈ entries.map Prod.fst then entries.map Prod.fst
      else entries.map Prod.fst ++ [key] := by
  induction entries with
  | nil => rfl
  | cons first entries ih =>
    obtain ⟨k, e⟩ := first
    by_cases hk : k = key
    · simp [put, hk]
    · simp only [put, if_neg hk, List.map_cons, ih, List.mem_cons, Ne.symm hk, false_or]
      split <;> rfl

theorem nodup_keys_concat {key : Text} {keys : List Text} (hkeys : keys.Nodup)
    (h : key ∉ keys) : (keys ++ [key]).Nodup :=
  (List.nodup_cons.2 ⟨h, hkeys⟩).perm (List.perm_append_singleton key keys).symm

namespace DistinctKeys

variable {entries : Entries}

theorem nil : DistinctKeys [] :=
  ⟨List.nodup_nil, List.forall_mem_nil _⟩

theorem of_lookup (h : DistinctKeys entries) {key : Text} {d : Draft}
    (hlookup : entries.lookup key = some d) : d.DistinctKeys :=
  h.drafts _ (mem_of_lookup hlookup)

theorem put (h : DistinctKeys entries) {d : Draft} (hd : d.DistinctKeys) (key : Text) :
    DistinctKeys (put key d entries) := by
  refine ⟨?_, fun e he => ?_⟩
  · rw [keys_put]
    split
    · exact h.keys
    · next hnot => exact nodup_keys_concat h.keys hnot
  · rcases mem_put he with rfl | he
    · exact hd
    · exact h.drafts e he

theorem concat (h : DistinctKeys entries) {d : Draft} (hd : d.DistinctKeys) {key : Text}
    (hlookup : entries.lookup key = none) : DistinctKeys (entries ++ [(key, d)]) := by
  refine ⟨?_, fun e he => ?_⟩
  · rw [List.map_append]
    exact nodup_keys_concat h.keys (notMem_keys_of_lookup hlookup)
  · rcases List.mem_append.1 he with he | he
    · exact h.drafts e he
    · obtain rfl := List.mem_singleton.1 he
      exact hd

end DistinctKeys

/-- A change that keeps the keys of a table apart does so below a path. -/
theorem distinctKeys_descend {dotted : Bool}
    {change : Origin → Entries → Except Fault Entries}
    (hchange : ∀ {origin inner new}, DistinctKeys inner → change origin inner = .ok new →
      DistinctKeys new) {path : List Text} {origin : Origin} {entries new : Entries}
    (h : DistinctKeys entries) (hnew : descend dotted change path origin entries = .ok new) :
    DistinctKeys new := by
  induction path generalizing origin entries new with
  | nil => exact hchange h hnew
  | cons key path ih =>
    unfold descend at hnew
    split at hnew
    · obtain ⟨inner, hinner, rfl⟩ := except_map_eq_ok_iff.1 hnew
      exact h.put (Draft.distinctKeys_table_iff.2 (ih .nil hinner)) key
    · cases hnew
    · next own hlookup =>
      have hown := Draft.distinctKeys_table_iff.1 (h.of_lookup hlookup)
      split at hnew
      · cases hnew
      · obtain ⟨inner, hinner, rfl⟩ := except_map_eq_ok_iff.1 hnew
        exact h.put (Draft.distinctKeys_table_iff.2 (ih hown hinner)) key
    · next elements hlookup =>
      have helements := Draft.distinctKeys_tables_iff.1 (h.of_lookup hlookup)
      split at hnew
      · cases hnew
      · next last hlast =>
        obtain ⟨inner, hinner, rfl⟩ := except_map_eq_ok_iff.1 hnew
        have hinner := ih (helements last (List.mem_of_getLast? hlast)) hinner
        refine h.put (Draft.distinctKeys_tables_iff.2 fun entries hentries => ?_) key
        rcases List.mem_append.1 hentries with hentries | hentries
        · exact helements entries (List.dropLast_subset _ hentries)
        · obtain rfl := List.mem_singleton.1 hentries
          exact hinner

theorem distinctKeys_follow {dotted : Bool} {change : Origin → Entries → Except Fault Entries}
    (hchange : ∀ {origin inner new}, DistinctKeys inner → change origin inner = .ok new →
      DistinctKeys new) {path : Path} {origin : Origin} {entries new : Entries}
    (h : DistinctKeys entries) (hnew : follow dotted change path origin entries = .ok new) :
    DistinctKeys new := by
  unfold follow at hnew
  split at hnew
  · exact distinctKeys_descend hchange h hnew
  · cases hnew

theorem distinctKeys_assign {path : Path} {v : Value} (hv : v.DistinctKeys) {origin : Origin}
    {entries new : Entries} (h : DistinctKeys entries)
    (hnew : assign path v origin entries = .ok new) : DistinctKeys new := by
  refine distinctKeys_follow (fun {_ inner _} hinner hchange => ?_) h hnew
  split at hchange
  · cases hchange
  · next hfree =>
    obtain rfl := Except.ok.inj hchange
    have hlookup : inner.lookup path.last = none := by
      simp only [Bool.or_eq_true, not_or, Bool.not_eq_true, Option.isSome_eq_false_iff] at hfree
      exact Option.isNone_iff_eq_none.1 hfree.2
    exact hinner.concat (.closed hv) hlookup

theorem distinctKeys_openTable {path : Path} {entries new : Entries} (h : DistinctKeys entries)
    (hnew : openTable path entries = .ok new) : DistinctKeys new := by
  refine distinctKeys_follow (fun {_ inner _} hinner hchange => ?_) h hnew
  split at hchange
  · obtain rfl := Except.ok.inj hchange
    exact hinner.put (Draft.distinctKeys_table_iff.2 .nil) path.last
  · next own hlookup =>
    obtain rfl := Except.ok.inj hchange
    have hown := Draft.distinctKeys_table_iff.1 (hinner.of_lookup hlookup)
    exact hinner.put (Draft.distinctKeys_table_iff.2 hown) path.last
  · cases hchange

theorem distinctKeys_openElement {path : Path} {entries new : Entries} (h : DistinctKeys entries)
    (hnew : openElement path entries = .ok new) : DistinctKeys new := by
  refine distinctKeys_follow (fun {_ inner _} hinner hchange => ?_) h hnew
  split at hchange
  · obtain rfl := Except.ok.inj hchange
    refine hinner.put (Draft.distinctKeys_tables_iff.2 ?_) path.last
    exact List.forall_mem_singleton.2 .nil
  · next elements hlookup =>
    obtain rfl := Except.ok.inj hchange
    have helements := Draft.distinctKeys_tables_iff.1 (hinner.of_lookup hlookup)
    refine hinner.put (Draft.distinctKeys_tables_iff.2 fun entries hentries => ?_) path.last
    rcases List.mem_append.1 hentries with hentries | hentries
    · exact helements entries hentries
    · obtain rfl := List.mem_singleton.1 hentries
      exact .nil
  · cases hchange

end Entries

/-! ## Values and documents -/

theorem finishEntries_eq_map (entries : Entries) :
    finishEntries entries = entries.map fun e => (e.1, e.2.finish) := by
  induction entries with
  | nil => rfl
  | cons e entries ih =>
    obtain ⟨key, d⟩ := e
    rw [finishEntries, ih]
    rfl

theorem finishElements_eq_map (elements : List Entries) :
    finishElements elements = elements.map fun entries => .table (finishEntries entries) := by
  induction elements with
  | nil => rfl
  | cons entries elements ih =>
    rw [finishElements, ih]
    rfl

theorem distinctKeys_table_finishEntries {entries : Entries}
    (hkeys : (entries.map Prod.fst).Nodup) (h : ∀ e ∈ entries, e.2.finish.DistinctKeys) :
    (Value.table (finishEntries entries)).DistinctKeys := by
  rw [finishEntries_eq_map]
  refine .table ?_ fun e he => ?_
  · rw [List.map_map]
    exact hkeys
  · obtain ⟨e, hmem, rfl⟩ := List.mem_map.1 he
    exact h e hmem

theorem Draft.DistinctKeys.finish {d : Draft} (h : d.DistinctKeys) : d.finish.DistinctKeys := by
  induction h with
  | closed h => exact h
  | table hkeys _ ih => exact distinctKeys_table_finishEntries hkeys ih
  | @tables elements hkeys _ ih =>
    rw [Draft.finish, finishElements_eq_map]
    refine .array fun v hv => ?_
    obtain ⟨entries, hentries, rfl⟩ := List.mem_map.1 hv
    exact distinctKeys_table_finishEntries (hkeys entries hentries) (ih entries hentries)

theorem Entries.DistinctKeys.finish {entries : Entries} (h : entries.DistinctKeys) :
    (Value.table (finishEntries entries)).DistinctKeys :=
  distinctKeys_table_finishEntries h.keys fun e he => (h.drafts e he).finish

theorem distinctKeys_itemValues {items : List Expr} {values : List Value}
    (h : ∀ e ∈ items, ∀ {v}, e.value = .ok v → v.DistinctKeys)
    (hvalues : itemValues items = .ok values) : ∀ v ∈ values, v.DistinctKeys := by
  induction items generalizing values with
  | nil =>
    obtain rfl := Except.ok.inj hvalues
    exact List.forall_mem_nil _
  | cons e items ih =>
    obtain ⟨he, hitems⟩ := List.forall_mem_cons.1 h
    rw [itemValues] at hvalues
    obtain ⟨v, hv, hvalues⟩ := except_bind_eq_ok_iff.1 hvalues
    obtain ⟨others, hothers, rfl⟩ := except_map_eq_ok_iff.1 hvalues
    exact List.forall_mem_cons.2 ⟨he hv, ih hitems hothers⟩

theorem distinctKeys_assignAll {fields : List (Path × Expr)} {entries new : Entries}
    (h : ∀ f ∈ fields, ∀ {v}, f.2.value = .ok v → v.DistinctKeys) (hentries : entries.DistinctKeys)
    (hnew : assignAll entries fields = .ok new) : new.DistinctKeys := by
  induction fields generalizing entries with
  | nil =>
    obtain rfl := Except.ok.inj hnew
    exact hentries
  | cons f fields ih =>
    obtain ⟨hf, hfields⟩ := List.forall_mem_cons.1 h
    rw [assignAll] at hnew
    obtain ⟨v, hv, hnew⟩ := except_bind_eq_ok_iff.1 hnew
    obtain ⟨next, hnext, hnew⟩ := except_bind_eq_ok_iff.1 hnew
    exact ih hfields (Entries.distinctKeys_assign (hf hv) hentries hnext) hnew

theorem Expr.Plain.distinctKeys_value {e : Expr} (h : e.Plain) {v : Value}
    (hv : e.value = .ok v) : v.DistinctKeys := by
  induction h generalizing v with
  | scalar h =>
    rw [Expr.value] at hv
    obtain rfl := Except.ok.inj hv
    exact .scalar h
  | array _ ih =>
    rw [Expr.value] at hv
    obtain ⟨values, hvalues, rfl⟩ := except_map_eq_ok_iff.1 hv
    exact .array (distinctKeys_itemValues ih hvalues)
  | table _ ih =>
    rw [Expr.value] at hv
    obtain ⟨entries, hentries, rfl⟩ := except_map_eq_ok_iff.1 hv
    exact (distinctKeys_assignAll ih .nil hentries).finish

theorem distinctKeys_build {statements : List Statement} {current : List Text}
    {entries new : Entries} (hplain : ∀ s ∈ statements, s.Plain) (h : entries.DistinctKeys)
    (hnew : build current entries statements = .ok new) : new.DistinctKeys := by
  induction statements generalizing current entries with
  | nil =>
    obtain rfl := Except.ok.inj hnew
    exact h
  | cons s statements ih =>
    obtain ⟨hs, hrest⟩ := List.forall_mem_cons.1 hplain
    cases s with
    | header path =>
      obtain ⟨next, hnext, hnew⟩ := except_bind_eq_ok_iff.1 hnew
      exact ih hrest (Entries.distinctKeys_openTable h hnext) hnew
    | element path =>
      obtain ⟨next, hnext, hnew⟩ := except_bind_eq_ok_iff.1 hnew
      exact ih hrest (Entries.distinctKeys_openElement h hnext) hnew
    | assignment path e =>
      obtain ⟨v, hv, hnew⟩ := except_bind_eq_ok_iff.1 hnew
      obtain ⟨next, hnext, hnew⟩ := except_bind_eq_ok_iff.1 hnew
      have hkeys := Entries.distinctKeys_descend
        (fun hinner => Entries.distinctKeys_assign (hs.distinctKeys_value hv) hinner) h hnext
      exact ih hrest hkeys hnew

/-- **No table of a document has a key twice**, the document itself included. -/
theorem distinctKeys_of_parse {t : Text} {entries : List (Text × Value)}
    (h : parse t = .ok entries) : (Value.table entries).DistinctKeys := by
  unfold parse at h
  split at h
  · cases h
  · next statements hstatements =>
    obtain ⟨built, hbuilt, rfl⟩ := except_map_eq_ok_iff.1 h
    exact (distinctKeys_build (plain_of_statementsFrom hstatements) .nil hbuilt).finish

end Toml

end CorpusLint
