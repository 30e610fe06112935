import CorpusLint.Check.Spawn
import CorpusLint.Proofs.Text.Separator

/-!
# The scan for spawns

`Scanned` says what a scan from left to right finds: it takes the spawn that begins where it
stands and goes on behind it, or it passes over a character where none begins. The scan of a text
is the only list that this relation allows (`scanned_iff`), so that each fact about the scan is an
induction on the relation.

Main statement: a spawn that is written anywhere in a text is found, unless its beginning was taken
for the end of a longer target (`found_or_swallowed`).
-/

namespace CorpusLint

namespace Spawn

/-! ## The spawn that a text begins with -/

/-- What can stand between the quotes of a spawn. -/
def IsTarget (target : Text) : Prop :=
  target ≠ [] ∧ '\"' ∉ target

theorem written_append (target rest : Text) :
    written target ++ rest = opening ++ (target ++ '\"' :: rest) := by
  simp [written]

/-- Where a spawn is written, its target ends at the first quote behind the opening. -/
theorem target?_written_append {target : Text} (h : IsTarget target) (rest : Text) :
    target? (written target ++ rest) = some target := by
  have hinner : Text.dropStart? opening (written target ++ rest) = some (target ++ '\"' :: rest) :=
    Text.dropStart?_eq_some_iff.2 (written_append target rest)
  simp [target?, hinner, Text.takeWhile_bne_append_cons h.2, h.1]

theorem target?_eq_some_iff {t target : Text} :
    target? t = some target ↔ IsTarget target ∧ written target <+: t := by
  constructor
  · intro h
    unfold target? at h
    split at h
    · cases h
    · next inner hinner =>
      obtain rfl := Text.dropStart?_eq_some_iff.1 hinner
      simp only [Option.ite_none_left_eq_some, Option.some.injEq, Bool.or_eq_true, beq_iff_eq,
        List.isEmpty_iff, not_or] at h
      obtain ⟨⟨hne, hlength⟩, rfl⟩ := h
      have hmem : '\"' ∈ inner := by
        by_contra hq
        exact hlength (by rw [Text.takeWhile_bne_of_notMem hq])
      obtain ⟨target, rest, rfl, hq⟩ := List.eq_append_cons_of_mem hmem
      rw [Text.takeWhile_bne_append_cons hq] at hne ⊢
      exact ⟨⟨hne, hq⟩, rest, written_append target rest⟩
  · rintro ⟨htarget, rest, rfl⟩
    exact target?_written_append htarget rest

/-! ## What the scan finds -/

/-- The spawns that a scan finds from left to right in a text, after the characters `seen`. -/
inductive Scanned : Text → Text → List Spawn → Prop
  | done (seen : Text) : Scanned seen [] []
  /-- A spawn begins here; the scan goes on behind it. -/
  | found {seen rest target : Text} {spawns : List Spawn} (htarget : IsTarget target)
      (hrest : Scanned ((written target).reverse ++ seen) rest spawns) :
      Scanned seen (written target ++ rest) (⟨⟨seen, written target ++ rest⟩, target⟩ :: spawns)
  | passed {seen t : Text} {c : Char} {spawns : List Spawn} (hnone : target? (c :: t) = none)
      (hrest : Scanned (c :: seen) t spawns) : Scanned seen (c :: t) spawns

/-- Passing over characters that belong to a spawn already found. -/
theorem scanFrom_append (seen skipped rest : Text) :
    scanFrom seen skipped.length (skipped ++ rest) = scanFrom (skipped.reverse ++ seen) 0 rest := by
  induction skipped generalizing seen with
  | nil => rfl
  | cons c skipped ih =>
    simp only [List.length_cons, List.cons_append, scanFrom, ih, List.reverse_cons,
      List.append_assoc, List.nil_append]

theorem scanFrom_found {target : Text} (h : IsTarget target) (seen rest : Text) :
    scanFrom seen 0 (written target ++ rest) =
      ⟨⟨seen, written target ++ rest⟩, target⟩ ::
        scanFrom ((written target).reverse ++ seen) 0 rest := by
  have ht := target?_written_append h rest
  -- the scan steps over the first character of the spawn itself and skips the others
  cases hw : written target with
  | nil => simp [written] at hw
  | cons c w =>
    rw [hw] at ht
    simp only [List.cons_append] at ht ⊢
    simp only [scanFrom, ht, hw, List.length_cons, Nat.add_sub_cancel, scanFrom_append,
      List.reverse_cons, List.append_assoc, List.nil_append, List.cons_append]

theorem scanFrom_passed {c : Char} {t : Text} (h : target? (c :: t) = none) (seen : Text) :
    scanFrom seen 0 (c :: t) = scanFrom (c :: seen) 0 t := by
  simp only [scanFrom, h]

theorem scanned_scanFrom (t : Text) : ∀ seen, Scanned seen t (scanFrom seen 0 t) := by
  induction hn : t.length using Nat.strongRecOn generalizing t with
  | _ n ih =>
    subst hn
    intro seen
    cases t with
    | nil => exact .done seen
    | cons c t =>
      cases htarget : target? (c :: t) with
      | none =>
        rw [scanFrom_passed htarget]
        exact .passed htarget (ih t.length (by simp) t rfl (c :: seen))
      | some target =>
        obtain ⟨h, rest, hrest⟩ := target?_eq_some_iff.1 htarget
        have hlt : rest.length < (c :: t).length := by
          rw [← hrest]
          simp only [written, List.length_append, List.length_singleton]
          omega
        rw [← hrest, scanFrom_found h]
        exact .found h (ih rest.length hlt rest rfl _)

/-- The relation leaves no choice: it describes the scan. -/
theorem scanned_iff {seen t : Text} {spawns : List Spawn} :
    Scanned seen t spawns ↔ spawns = scanFrom seen 0 t := by
  constructor
  · intro h
    induction h with
    | done => rfl
    | found htarget _ ih => rw [scanFrom_found htarget, ih]
    | passed hnone _ ih => rw [scanFrom_passed hnone, ih]
  · rintro rfl
    exact scanned_scanFrom t seen

theorem scanned_scan (t : Text) : Scanned [] t (scan t) :=
  scanned_scanFrom t []

/-! ## Every spawn that is found is written there -/

theorem Scanned.text_place {seen t : Text} {spawns : List Spawn} (h : Scanned seen t spawns)
    {s : Spawn} (hs : s ∈ spawns) : s.place.text = seen.reverse ++ t := by
  induction h with
  | done => cases hs
  | found _ _ ih =>
    rcases List.mem_cons.1 hs with rfl | hs
    · rfl
    · simpa using ih hs
  | passed _ _ ih => simpa using ih hs

theorem Scanned.written_start {seen t : Text} {spawns : List Spawn} (h : Scanned seen t spawns)
    {s : Spawn} (hs : s ∈ spawns) : IsTarget s.target ∧ written s.target <+: s.place.rest := by
  induction h with
  | done => cases hs
  | @found _ rest _ _ htarget _ ih =>
    rcases List.mem_cons.1 hs with rfl | hs
    · exact ⟨htarget, rest, rfl⟩
    · exact ih hs
  | passed _ _ ih => exact ih hs

theorem Scanned.seen_suffix {seen t : Text} {spawns : List Spawn} (h : Scanned seen t spawns)
    {s : Spawn} (hs : s ∈ spawns) : seen <:+ s.place.seen := by
  induction h with
  | done => cases hs
  | found _ _ ih =>
    rcases List.mem_cons.1 hs with rfl | hs
    · exact List.suffix_refl _
    · exact (List.suffix_append _ _).trans (ih hs)
  | passed _ _ ih => exact (List.suffix_cons _ _).trans (ih hs)

/-- The spawns are found from left to right. -/
theorem Scanned.pairwise_suffix {seen t : Text} {spawns : List Spawn} (h : Scanned seen t spawns) :
    spawns.Pairwise fun s later => s.place.seen <:+ later.place.seen := by
  induction h with
  | done => exact .nil
  | found _ hrest ih =>
    refine List.pairwise_cons.2 ⟨fun later hlater => ?_, ih⟩
    exact (List.suffix_append _ _).trans (hrest.seen_suffix hlater)
  | passed _ _ ih => exact ih

theorem text_place_of_mem_scan {t : Text} {s : Spawn} (hs : s ∈ scan t) : s.place.text = t := by
  simpa using (scanned_scan t).text_place hs

theorem written_infix_of_mem_scan {t : Text} {s : Spawn} (hs : s ∈ scan t) :
    written s.target <:+: t := by
  have hstart := ((scanned_scan t).written_start hs).2
  rw [← text_place_of_mem_scan hs]
  exact hstart.isInfix.trans (List.suffix_append _ _).isInfix

/-! ## Every spawn that is written is found or swallowed -/

/-- The opening begins nowhere inside itself: its first character is not repeated. -/
theorem eq_nil_of_opening_eq {a b : Text} (h : opening = a ++ 's' :: b) : a = [] := by
  cases a with
  | nil => rfl
  | cons c a =>
    have hmem : 's' ∈ opening.tail := by
      rw [h]
      simp
    exact absurd hmem (by decide)

/-- A spawn that begins inside another one begins in its target, and the quote that ends this
target is the quote of its own opening. -/
theorem label_suffix_of_overlap {target other before after rest : Text} (htarget : IsTarget target)
    (h : written target ++ rest = before ++ (written other ++ after)) (hne : before ≠ [])
    (hlt : before.length < (written target).length) : label <:+ target := by
  have hother : written other ++ after = label ++ '\"' :: (other ++ '\"' :: after) := by
    simp [written, opening]
  have hhead : label = 's' :: label.tail := rfl
  rw [written_append, hother] at h
  obtain ⟨inside, rfl, hinside⟩ : ∃ inside, before = opening ++ inside ∧
      target ++ '\"' :: rest = inside ++ (label ++ '\"' :: (other ++ '\"' :: after)) := by
    rcases List.append_eq_append_iff.1 h with h | ⟨bs, hopening, hbs⟩
    · exact h
    · cases bs with
      | nil => exact ⟨[], by simpa using hopening.symm, hbs.symm⟩
      | cons c bs =>
        rw [hhead] at hbs
        obtain rfl : 's' = c := (List.cons.inj hbs).1
        exact absurd (eq_nil_of_opening_eq hopening) hne
  rcases List.append_eq_append_iff.1 hinside with ⟨cs, rfl, hcs⟩ | ⟨cs, rfl, hcs⟩
  · -- the other spawn would begin at the closing quote or behind it
    cases cs with
    | nil =>
      rw [hhead] at hcs
      exact absurd (List.cons.inj hcs).1 (by decide)
    | cons c cs =>
      simp only [written, List.length_append, List.length_cons, List.length_nil] at hlt
      omega
  · have hq : '\"' ∉ cs := fun hmem => htarget.2 (List.mem_append_right inside hmem)
    have hlabel : '\"' ∉ label := by decide
    obtain ⟨rfl, -⟩ := Text.append_cons_inj hlabel hq hcs
    exact List.suffix_append _ _

theorem Scanned.found_or_swallowed {seen t target : Text} {spawns : List Spawn}
    (h : Scanned seen t spawns) (htarget : IsTarget target) (hpart : written target <:+: t) :
    ∃ s ∈ spawns, s.target = target ∨ label <:+ s.target := by
  induction h with
  | done => simp [written] at hpart
  | @found _ rest taken _ htaken _ ih =>
    obtain ⟨before, after, heq⟩ := hpart
    rw [List.append_assoc] at heq
    by_cases hne : before = []
    · subst hne
      have hsame : target? (written taken ++ rest) = some target := by
        rw [← heq]
        exact target?_written_append htarget after
      rw [target?_written_append htaken] at hsame
      exact ⟨_, List.mem_cons_self, .inl (Option.some.inj hsame)⟩
    · by_cases hlt : before.length < (written taken).length
      · exact ⟨_, List.mem_cons_self, .inr (label_suffix_of_overlap htaken heq.symm hne hlt)⟩
      · obtain ⟨skipped, rfl⟩ : written taken <+: before :=
          List.prefix_of_prefix_length_le (List.prefix_append _ rest)
            (heq ▸ List.prefix_append _ _) (Nat.le_of_not_lt hlt)
        rw [List.append_assoc, List.append_cancel_left_eq] at heq
        obtain ⟨s, hs, hor⟩ := ih ⟨skipped, after, by rw [List.append_assoc, heq]⟩
        exact ⟨s, List.mem_cons_of_mem _ hs, hor⟩
  | passed hnone _ ih =>
    rcases List.infix_cons_iff.1 hpart with hstart | hpart
    · rw [target?_eq_some_iff.2 ⟨htarget, hstart⟩] at hnone
      cases hnone
    · exact ih hpart

/-- **No spawn is lost.** A spawn that is written anywhere in a text is found, or its beginning is
the end of the target of a spawn that is found. -/
theorem found_or_swallowed {t target : Text} (htarget : IsTarget target)
    (hpart : written target <:+: t) :
    ∃ s ∈ scan t, s.target = target ∨ label <:+ s.target :=
  (scanned_scan t).found_or_swallowed htarget hpart

end Spawn

end CorpusLint
