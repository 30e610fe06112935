import CorpusLint.Proofs.Report.Selection
import CorpusLint.Proofs.Selection

/-!
# A selection and the identifiers it is made from

Identifiers that are all known are those of the rules that they stand for, one by one
(`parseAll_eq_ok_iff`). So the part of the catalog that a selection takes is told by the identifiers
alone (`exists_select`), and by which of them there are, not by their order or how often they occur
(`IsSelection.unique`). The rules that were found, sorted and without repetitions, are the same part
of the catalog (`dropRepeats_inOrder`): repetitions stand side by side only after the sort.

Main statement: `select_canonical`.
-/

namespace CorpusLint

namespace Rule

/-! ## Known identifiers -/

/-- Some rule has this identifier. -/
def IsRuleId (id : Text) : Prop :=
  ∃ r : Rule, r.id = id

/-- The identifier is that of no rule, and those before it are. -/
def IsFirstUnknown (ids : List Text) (id : Text) : Prop :=
  ¬ IsRuleId id ∧ ∃ before after, ids = before ++ id :: after ∧ ∀ earlier ∈ before, IsRuleId earlier

theorem find?_isKnown_iff {ids : List Text} {id : Text} :
    ids.find? (!isKnown ·) = some id ↔ IsFirstUnknown ids id := by
  rw [List.find?_eq_some_iff_append, IsFirstUnknown]
  simp only [Bool.not_eq_true', ← Bool.not_eq_true, isKnown_iff, not_not, IsRuleId]

theorem find?_isKnown_eq_none_iff {ids : List Text} :
    ids.find? (!isKnown ·) = none ↔ ∀ id ∈ ids, IsRuleId id := by
  rw [List.find?_eq_none]
  simp only [Bool.not_eq_true', Bool.not_eq_false, isKnown_iff, IsRuleId]

theorem parseAll_eq_ok_iff {ids : List Text} {rules : List Rule} :
    parseAll ids = .ok rules ↔ rules.map id = ids := by
  induction ids generalizing rules with
  | nil => simp [parseAll, eq_comm]
  | cons name ids ih =>
    unfold parseAll
    constructor
    · intro h
      split at h
      · cases h
      · next r hr =>
        split at h
        · cases h
        · next others hothers =>
          obtain rfl := Except.ok.inj h
          rw [List.map_cons, parse_eq_ok_iff.1 hr, ih.1 hothers]
    · intro h
      cases rules with
      | nil => cases h
      | cons r rules =>
        obtain ⟨rfl, hrest⟩ := List.cons.inj h
        rw [parse_id, ih.2 hrest]

theorem exists_parseAll {ids : List Text} (h : ∀ id ∈ ids, IsRuleId id) :
    ∃ rules, parseAll ids = .ok rules ∧ ∀ r, r ∈ rules ↔ r.id ∈ ids := by
  cases hparse : parseAll ids with
  | error failure =>
    obtain ⟨id, hid, -⟩ := parseAll_eq_error_iff.1 hparse
    rw [find?_isKnown_eq_none_iff.2 h] at hid
    cases hid
  | ok rules =>
    obtain rfl := parseAll_eq_ok_iff.1 hparse
    exact ⟨rules, rfl, fun r => (List.mem_map_of_injective fun _ _ => id_injective).symm⟩

/-! ## What is refused -/

variable {settings : RuleSettings} {only : List Text} {rules : List Rule}

theorem select_eq_error_iff_firstUnknown {failure : Failure} :
    select settings only = .error failure ↔
      ∃ id, (IsFirstUnknown settings.disabled id ∨
          (∀ other ∈ settings.disabled, IsRuleId other) ∧ IsFirstUnknown only id) ∧
        failure = .unknownRule id := by
  rw [select_eq_error_iff]
  simp only [List.find?_append, Option.or_eq_some_iff, find?_isKnown_iff, find?_isKnown_eq_none_iff]

theorem exists_select_eq_error_iff :
    (∃ failure, select settings only = .error failure) ↔
      ∃ id, (id ∈ settings.disabled ∨ id ∈ only) ∧ ¬ IsRuleId id := by
  constructor
  · rintro ⟨failure, h⟩
    obtain ⟨id, hid, -⟩ := select_eq_error_iff.1 h
    exact ⟨id, List.mem_append.1 (List.mem_of_find?_eq_some hid), (find?_isKnown_iff.1 hid).1⟩
  · rintro ⟨id, hid, hunknown⟩
    cases hfind : (settings.disabled ++ only).find? (!isKnown ·) with
    | none => exact absurd (find?_isKnown_eq_none_iff.1 hfind id (List.mem_append.2 hid)) hunknown
    | some first => exact ⟨_, select_eq_error_iff.2 ⟨first, hfind, rfl⟩⟩

theorem isRuleId_of_select (h : select settings only = .ok rules) {id : Text}
    (hid : id ∈ settings.disabled ∨ id ∈ only) : IsRuleId id := by
  by_contra hunknown
  obtain ⟨failure, hfail⟩ := exists_select_eq_error_iff.2 ⟨id, hid, hunknown⟩
  rw [h] at hfail
  cases hfail

/-! ## What is selected -/

/-- The rules follow the catalog without repetition. They are those that are named or, where none
is, those that are not disabled. -/
structure IsSelection (settings : RuleSettings) (only : List Text) (rules : List Rule) : Prop where
  increasing : rules.Pairwise fun r s => r.position < s.position
  named : only ≠ [] → ∀ r : Rule, r ∈ rules ↔ r.id ∈ only
  enabled : only = [] → ∀ r : Rule, r ∈ rules ↔ r.id ∉ settings.disabled

theorem pairwise_lt_filter (p : Rule → Bool) :
    (catalog.filter p).Pairwise fun r s => r.position < s.position :=
  pairwise_lt_catalog.sublist List.filter_sublist

theorem exists_select (hdisabled : ∀ id ∈ settings.disabled, IsRuleId id)
    (honly : ∀ id ∈ only, IsRuleId id) :
    ∃ rules, select settings only = .ok rules ∧ IsSelection settings only rules := by
  obtain ⟨disabled, hparse, hmem⟩ := exists_parseAll hdisabled
  unfold select
  rw [hparse]
  cases only with
  | nil =>
    refine ⟨_, rfl, pairwise_lt_filter _, fun h => absurd rfl h, fun _ r => ?_⟩
    simp [mem_catalog, hmem]
  | cons name names =>
    obtain ⟨named, hnamed, hmemNamed⟩ := exists_parseAll honly
    simp only [hnamed]
    refine ⟨_, rfl, pairwise_lt_filter _, fun _ r => ?_, fun h => by cases h⟩
    rw [List.mem_filter, List.contains_iff_mem, hmemNamed]
    exact and_iff_right (mem_catalog r)

/-- A selection is told by the identifiers that there are. -/
theorem IsSelection.unique {other : RuleSettings} {others : List Text} {found : List Rule}
    (h : IsSelection settings only rules) (hfound : IsSelection other others found)
    (hdisabled : ∀ id, id ∈ other.disabled ↔ id ∈ settings.disabled)
    (honly : ∀ id, id ∈ others ↔ id ∈ only) : found = rules := by
  refine Sorting.eq_of_pairwise_lt hfound.increasing h.increasing fun r => ?_
  by_cases hnone : only = []
  · have hothers : others = [] := by
      rw [List.eq_nil_iff_forall_not_mem]
      intro id hid
      rw [honly, hnone] at hid
      exact List.not_mem_nil hid
    rw [hfound.enabled hothers, h.enabled hnone, hdisabled]
  · have hothers : others ≠ [] := by
      obtain ⟨id, hid⟩ := List.exists_mem_of_ne_nil only hnone
      exact List.ne_nil_of_mem ((honly id).2 hid)
    rw [hfound.named hothers, h.named hnone, honly]

theorem isSelection_of_select (h : select settings only = .ok rules) :
    IsSelection settings only rules := by
  obtain ⟨found, hfound, hselection⟩ :=
    exists_select (fun id hid => isRuleId_of_select h (.inl hid)) fun id hid =>
      isRuleId_of_select h (.inr hid)
  rw [h] at hfound
  obtain rfl := Except.ok.inj hfound
  exact hselection

/-- The order of the identifiers does not show, nor how often they occur. -/
theorem select_congr (h : select settings only = .ok rules) {other : RuleSettings}
    {others : List Text} (hdisabled : ∀ id, id ∈ other.disabled ↔ id ∈ settings.disabled)
    (honly : ∀ id, id ∈ others ↔ id ∈ only) : select other others = .ok rules := by
  obtain ⟨found, hfound, hselection⟩ : ∃ found, select other others = .ok found ∧
      IsSelection other others found := by
    refine exists_select (fun id hid => ?_) fun id hid => ?_
    · exact isRuleId_of_select h (.inl ((hdisabled id).1 hid))
    · exact isRuleId_of_select h (.inr ((honly id).1 hid))
  rw [hfound, (isSelection_of_select h).unique hselection hdisabled honly]

/-! ## Sorting and dropping repetitions -/

theorem mem_dropRepeats {r : Rule} : r ∈ dropRepeats rules ↔ r ∈ rules := by
  fun_induction dropRepeats rules with
  | case1 => rfl
  | case2 s => rfl
  | case3 s rest ih => rw [ih]; simp
  | case4 s t rest hne ih => rw [List.mem_cons, ih, ← List.mem_cons]

/-- In sorted rules those that equal their successor are all repetitions that there are. -/
theorem pairwise_dropRepeats (h : rules.Pairwise fun r s => r.position ≤ s.position) :
    (dropRepeats rules).Pairwise fun r s => r.position < s.position := by
  fun_induction dropRepeats rules with
  | case1 => exact List.Pairwise.nil
  | case2 r => exact List.pairwise_singleton _ r
  | case3 s rest ih => exact ih h.of_cons
  | case4 r s rest hne ih =>
    refine List.pairwise_cons.2 ⟨fun t ht => ?_, ih h.of_cons⟩
    obtain ⟨hle, hrest⟩ := List.pairwise_cons.1 h
    -- only the successor may be level with `r`, and it is another rule
    have hrs : r.position < s.position :=
      lt_of_le_of_ne (hle s List.mem_cons_self) fun heq => hne (position_injective heq)
    rcases List.mem_cons.1 (mem_dropRepeats.1 ht) with rfl | ht
    · exact hrs
    · exact hrs.trans_le ((List.pairwise_cons.1 hrest).1 t ht)

theorem dropRepeats_inOrder (rules : List Rule) :
    dropRepeats (inOrder rules) = catalog.filter rules.contains := by
  refine Sorting.eq_of_pairwise_lt (pairwise_dropRepeats (pairwise_inOrder rules))
    (pairwise_lt_filter _) fun r => ?_
  rw [mem_dropRepeats, (inOrder_perm rules).mem_iff, List.mem_filter, List.contains_iff_mem]
  exact (and_iff_right (mem_catalog r)).symm

theorem selectBySorting_eq (settings : RuleSettings) (only : List Text) :
    selectBySorting settings only = select settings only := by
  unfold selectBySorting select
  cases parseAll settings.disabled with
  | error failure => rfl
  | ok disabled =>
    cases only with
    | nil =>
      refine congrArg Except.ok ((dropRepeats_inOrder _).trans (List.filter_congr fun r _ => ?_))
      rw [Bool.eq_iff_iff, List.contains_iff_mem, List.mem_filter]
      exact and_iff_right (mem_catalog r)
    | cons name names =>
      cases hparse : parseAll (name :: names) with
      | error failure => simp only [hparse]; rfl
      | ok named =>
        simp only [hparse]
        exact congrArg Except.ok (dropRepeats_inOrder named)

/-- **A selection is told by the identifiers that it is made from**, not by their order or how often
they occur. It fails where one of them is that of no rule, and names the first such one, those of
the disabled rules coming first. Otherwise it follows the catalog without repetition: it holds the
rules that are named, disabled or not, or all that are not disabled where none is named. It is what
sorting and dropping repetitions makes of the rules that were found. -/
theorem select_canonical (settings : RuleSettings) (only : List Text) :
    ((∃ failure, select settings only = .error failure) ↔
      ∃ id, (id ∈ settings.disabled ∨ id ∈ only) ∧ ¬ IsRuleId id) ∧
    (∀ failure, select settings only = .error failure →
      ∃ id, (IsFirstUnknown settings.disabled id ∨
          (∀ other ∈ settings.disabled, IsRuleId other) ∧ IsFirstUnknown only id) ∧
        failure = .unknownRule id ∧ failure.kind = .config ∧
        failure.reason = "unknown rule id '".toList ++ id ++ "'".toList) ∧
    ((∀ id, id ∈ settings.disabled ∨ id ∈ only → IsRuleId id) →
      ∃ rules, select settings only = .ok rules ∧ IsSelection settings only rules) ∧
    (∀ (other : RuleSettings) (others : List Text) (rules : List Rule),
      select settings only = .ok rules →
        (∀ id, id ∈ other.disabled ↔ id ∈ settings.disabled) → (∀ id, id ∈ others ↔ id ∈ only) →
          select other others = .ok rules) ∧
    selectBySorting settings only = select settings only := by
  refine ⟨?_, ?_, ?_, ?_, selectBySorting_eq settings only⟩
  · exact exists_select_eq_error_iff
  · intro failure h
    obtain ⟨id, hfirst, rfl⟩ := select_eq_error_iff_firstUnknown.1 h
    exact ⟨id, hfirst, rfl, rfl, rfl⟩
  · intro h
    exact exists_select (fun id hid => h id (.inl hid)) fun id hid => h id (.inr hid)
  · intro other others rules h hdisabled honly
    exact select_congr h hdisabled honly

/-- A disabled rule that is named, and one that is named twice and out of order; then unknown
identifiers in both lists, the second of which are not looked at. -/
theorem select_canonical_repeated :
    let settings : RuleSettings := { disabled := [pinnedRoutes.id] }
    let only := [spawnTargets.id, pinnedRoutes.id, spawnTargets.id]
    let refused : RuleSettings := { disabled := [skillsField.id, "spawn".toList, "skills".toList] }
    (∀ id, id ∈ settings.disabled ∨ id ∈ only → IsRuleId id) ∧
      select settings only = .ok [spawnTargets, pinnedRoutes] ∧
      (∃ rules, select settings only = .ok rules ∧ IsSelection settings only rules) ∧
      select settings [pinnedRoutes.id, spawnTargets.id] = .ok [spawnTargets, pinnedRoutes] ∧
      select refused ["pinned".toList] = .error (.unknownRule "spawn".toList) ∧
      ∃ id, (IsFirstUnknown refused.disabled id ∨
          (∀ other ∈ refused.disabled, IsRuleId other) ∧ IsFirstUnknown ["pinned".toList] id) ∧
        Failure.unknownRule "spawn".toList = .unknownRule id := by
  intro settings only refused
  have hall : ∀ id ∈ settings.disabled ++ only, isKnown id = true := by decide
  have hknown : ∀ id, id ∈ settings.disabled ∨ id ∈ only → IsRuleId id := by
    intro id hid
    exact isKnown_iff.1 (hall id (List.mem_append.2 hid))
  have hset : ∀ a b id : Text, id ∈ [a, b] ↔ id ∈ [b, a, b] := by
    intro a b id
    simp only [List.mem_cons, List.not_mem_nil, or_false]
    tauto
  have hselect : select settings only = .ok [spawnTargets, pinnedRoutes] := by decide
  have hrefused : select refused ["pinned".toList] = .error (.unknownRule "spawn".toList) := by
    decide
  obtain ⟨-, -, hselection, hsame, -⟩ := select_canonical settings only
  obtain ⟨-, hfirst, -⟩ := select_canonical refused ["pinned".toList]
  obtain ⟨id, hid, hfailure, -⟩ := hfirst _ hrefused
  exact ⟨hknown, hselect, hselection hknown,
    hsame settings _ _ hselect (fun _ => Iff.rfl) (hset pinnedRoutes.id spawnTargets.id), hrefused,
    id, hid, hfailure⟩

end Rule

end CorpusLint
