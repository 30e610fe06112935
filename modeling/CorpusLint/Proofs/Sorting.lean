import Mathlib.Data.List.Basic
import Mathlib.Data.List.Nodup
import Mathlib.Data.List.Sort
import Mathlib.Order.Lattice

/-!
# Stable sorting

A stable sort by a key keeps the elements of one key in their order (`IsStableSort`). Two lists
*agree* on a key when they hold, for each value of it, the same elements in the same order. Main
statement: a stable sort gives two lists one result exactly when they agree on its key
(`mergeSort_eq_iff`).
-/

namespace CorpusLint

namespace Sorting

variable {α κ : Type*} [LinearOrder κ] {key : α → κ} {l m : List α}

/-! ## Lists that agree on a key -/

/-- For each value of the key, both lists hold the same elements in the same order. -/
def Agree (key : α → κ) (l m : List α) : Prop :=
  ∀ k, l.filter (key · = k) = m.filter (key · = k)

theorem Agree.refl (key : α → κ) (l : List α) : Agree key l l :=
  fun _ => rfl

theorem Agree.mem_iff (h : Agree key l m) (a : α) : a ∈ l ↔ a ∈ m := by
  have ha : a ∈ l.filter (key · = key a) ↔ a ∈ m.filter (key · = key a) := by rw [h]
  simpa using ha

theorem Agree.perm [DecidableEq α] (h : Agree key l m) : l.Perm m := by
  rw [List.perm_iff_count]
  intro a
  have hcount : ∀ rows : List α, (rows.filter (key · = key a)).count a = rows.count a :=
    fun rows => List.count_filter (decide_eq_true rfl)
  rw [← hcount l, h (key a), hcount m]

theorem Agree.filter (h : Agree key l m) (p : α → Bool) : Agree key (l.filter p) (m.filter p) := by
  intro k
  rw [List.filter_comm, h k, List.filter_comm]

theorem Agree.flatMap {β : Type*} {rows : List β} {f g : β → List α}
    (h : ∀ row ∈ rows, Agree key (f row) (g row)) :
    Agree key (rows.flatMap f) (rows.flatMap g) := by
  intro k
  rw [List.filter_flatMap, List.filter_flatMap]
  exact List.flatMap_congr fun row hrow => h row hrow k

/-! ## Sorted lists -/

theorem key_trans (a b c : α) (hab : decide (key a ≤ key b) = true)
    (hbc : decide (key b ≤ key c) = true) : decide (key a ≤ key c) = true := by
  rw [decide_eq_true_eq] at hab hbc ⊢
  exact le_trans hab hbc

theorem key_total (a b : α) : (decide (key a ≤ key b) || decide (key b ≤ key a)) = true := by
  rw [Bool.or_eq_true, decide_eq_true_eq, decide_eq_true_eq]
  exact le_total (key a) (key b)

theorem pairwise_mergeSort (l : List α) :
    (l.mergeSort fun a b => key a ≤ key b).Pairwise fun a b => key a ≤ key b := by
  simpa only [decide_eq_true_eq] using List.pairwise_mergeSort key_trans key_total l

/-- The elements of one key keep their order. -/
theorem agree_mergeSort (l : List α) : Agree key (l.mergeSort fun a b => key a ≤ key b) l := by
  intro k
  have hone : (l.filter (key · = k)).Pairwise fun a b => decide (key a ≤ key b) = true := by
    refine List.pairwise_of_forall_mem_list fun a ha b hb => ?_
    have hak : key a = k := by simpa using List.of_mem_filter ha
    have hbk : key b = k := by simpa using List.of_mem_filter hb
    rw [hak, hbk]
    exact decide_eq_true le_rfl
  have hsub := (List.sublist_mergeSort key_trans key_total hone List.filter_sublist).filter
    (key · = k)
  rw [List.filter_filter] at hsub
  simp only [Bool.and_self] at hsub
  have hlength := ((List.mergeSort_perm l fun a b => key a ≤ key b).filter (key · = k)).length_eq
  exact (hsub.eq_of_length hlength.symm).symm

/-- The second list holds the elements of the first one by their key, those of one key in the order
that they had. -/
structure IsStableSort (key : α → κ) (l sorted : List α) : Prop where
  perm : sorted.Perm l
  increasing : sorted.Pairwise fun a b => key a ≤ key b
  stable : Agree key sorted l

theorem isStableSort_mergeSort (key : α → κ) (l : List α) :
    IsStableSort key l (l.mergeSort fun a b => key a ≤ key b) :=
  ⟨List.mergeSort_perm l _, pairwise_mergeSort l, agree_mergeSort l⟩

/-- A list whose keys increase is told by its elements. -/
theorem eq_of_pairwise_lt (hl : l.Pairwise fun a b => key a < key b)
    (hm : m.Pairwise fun a b => key a < key b) (h : ∀ a, a ∈ l ↔ a ∈ m) : l = m := by
  have hirrefl : Std.Irrefl fun a b : α => key a < key b := ⟨fun a => lt_irrefl (key a)⟩
  have hantisymm : Std.Antisymm fun a b : α => key a < key b :=
    ⟨fun _ _ hab hba => absurd hab hba.asymm⟩
  exact hl.eq_of_mem_iff hm h

/-- Sorted lists that agree on the key are equal. -/
theorem Agree.eq_of_pairwise (h : Agree key l m) (hl : l.Pairwise fun a b => key a ≤ key b)
    (hm : m.Pairwise fun a b => key a ≤ key b) : l = m := by
  induction l generalizing m with
  | nil => exact (List.eq_nil_iff_forall_not_mem.2 fun a ha =>
      List.not_mem_nil ((h.mem_iff a).2 ha)).symm
  | cons a l ih =>
    cases m with
    | nil => exact absurd ((h.mem_iff a).1 List.mem_cons_self) List.not_mem_nil
    | cons b m =>
      obtain ⟨hal, hrest⟩ := List.pairwise_cons.1 hl
      obtain ⟨hbm, hothers⟩ := List.pairwise_cons.1 hm
      -- both heads have the least key, so that they lead the elements of this key
      have hkey : key a = key b := by
        refine le_antisymm ?_ ?_
        · rcases List.mem_cons.1 ((h.mem_iff b).2 List.mem_cons_self) with rfl | hb
          · exact le_rfl
          · exact hal b hb
        · rcases List.mem_cons.1 ((h.mem_iff a).1 List.mem_cons_self) with rfl | ha
          · exact le_rfl
          · exact hbm a ha
      have hhead := h (key b)
      rw [List.filter_cons_of_pos (by simpa using hkey), List.filter_cons_of_pos (by simp)] at hhead
      obtain ⟨rfl, -⟩ := List.cons.inj hhead
      refine congrArg (a :: ·) (ih (fun k => ?_) hrest hothers)
      have hk := h k
      by_cases hak : key a = k
      · rw [List.filter_cons_of_pos (by simpa using hak),
          List.filter_cons_of_pos (by simpa using hak)] at hk
        exact (List.cons.inj hk).2
      · rwa [List.filter_cons_of_neg (by simpa using hak),
          List.filter_cons_of_neg (by simpa using hak)] at hk

/-- **What a stable sort sees** of a list: its elements, and how those of one key follow each
other. -/
theorem mergeSort_eq_iff :
    (l.mergeSort fun a b => key a ≤ key b) = (m.mergeSort fun a b => key a ≤ key b) ↔
      Agree key l m := by
  constructor
  · intro h k
    rw [← agree_mergeSort l k, h, agree_mergeSort m k]
  · intro h
    have hsorted : Agree key (l.mergeSort fun a b => key a ≤ key b)
        (m.mergeSort fun a b => key a ≤ key b) := by
      intro k
      rw [agree_mergeSort l k, h k, agree_mergeSort m k]
    exact hsorted.eq_of_pairwise (pairwise_mergeSort l) (pairwise_mergeSort m)

/-! ## Permutations -/

/-- Where no value occurs twice, a permutation leaves the element of each value in place. -/
theorem filter_eq_of_perm {β ι : Type*} [DecidableEq ι] {f : β → ι} {rows others : List β}
    (hperm : rows.Perm others) (hnodup : (rows.map f).Nodup) (i : ι) :
    rows.filter (f · = i) = others.filter (f · = i) := by
  have hone : (rows.filter (f · = i)).length ≤ 1 := by
    have hcount := List.nodup_iff_count_le_one.1 hnodup i
    rw [List.count_eq_countP, List.countP_map, List.countP_eq_length_filter] at hcount
    exact hcount
  have hfilter := hperm.filter (f · = i)
  match hrows : rows.filter (f · = i), hone with
  | [], _ =>
    rw [hrows] at hfilter
    exact hfilter.symm.eq_nil.symm
  | [row], _ =>
    rw [hrows] at hfilter
    exact (List.perm_singleton.1 hfilter.symm).symm

/-- Lists that are made group by group agree on a key that tells the groups apart, in whatever order
the groups come. -/
theorem agree_flatMap_of_perm {β ι : Type*} [DecidableEq ι] {owner : β → ι} {target : κ → ι}
    {group : β → List α} {rows others : List β}
    (hgroup : ∀ row, ∀ a ∈ group row, target (key a) = owner row) (hperm : rows.Perm others)
    (hnodup : (rows.map owner).Nodup) :
    Agree key (rows.flatMap group) (others.flatMap group) := by
  intro k
  have hother : ∀ row, owner row ≠ target k → (group row).filter (key · = k) = [] := by
    intro row hne
    rw [List.filter_eq_nil_iff]
    intro a ha hkey
    rw [← of_decide_eq_true hkey] at hne
    exact hne (hgroup row a ha).symm
  have hone : ∀ rows : List β, rows.flatMap (fun row => (group row).filter (key · = k)) =
      (rows.filter (owner · = target k)).flatMap fun row => (group row).filter (key · = k) := by
    intro rows
    induction rows with
    | nil => rfl
    | cons row rows ih =>
      rw [List.flatMap_cons, ih, List.filter_cons]
      split
      · rw [List.flatMap_cons]
      · next hne => rw [hother row (by simpa using hne), List.nil_append]
  rw [List.filter_flatMap, List.filter_flatMap, hone rows, hone others,
    filter_eq_of_perm hperm hnodup]

end Sorting

end CorpusLint
