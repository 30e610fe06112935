import CorpusLint.Proofs.Evaluation.Groups

/-!
# Names of skills

A name follows the convention when it is put together from the fixed beginning, a middle of word
characters and hyphens, and the fixed end (`Header.FollowsConvention`). The end begins with a hyphen
too, so that a reader from left to right cannot tell where the middle ends. One that tries every
place finds the same names (`Header.isSkillName_eq`).

Main statement: `Rule.evaluate_skillNaming`. The rule fails an agent once for each skill of its
inventory entry whose name does not follow the convention.
-/

namespace CorpusLint

namespace Header

/-- A character of the middle of a name. -/
def IsMiddle (c : Char) : Prop :=
  c = '-' ∨ isWord c = true

/-- Between the fixed beginning and the fixed end stand one or more word characters and hyphens. -/
def FollowsConvention (skill : Text) : Prop :=
  ∃ middle, skill = "gsd-".toList ++ middle ++ "-workflow".toList ∧ middle ≠ [] ∧
    ∀ c ∈ middle, IsMiddle c

instance (c : Char) : Decidable (IsMiddle c) :=
  inferInstanceAs (Decidable (_ ∨ _))

variable {skill : Text}

theorem isMiddle_iff {c : Char} : (isWord c || c == '-') = true ↔ IsMiddle c := by
  rw [Bool.or_eq_true, beq_iff_eq, or_comm]
  rfl

/-- **The checker accepts the names of the convention and no others.** -/
theorem isSkillName_iff : isSkillName skill = true ↔ FollowsConvention skill := by
  have hmiddle : ∀ middle : Text,
      (!middle.isEmpty && middle.all fun c => isWord c || c == '-') = true ↔
        middle ≠ [] ∧ ∀ c ∈ middle, IsMiddle c := by
    intro middle
    rw [Bool.and_eq_true, Bool.not_eq_true', List.isEmpty_eq_false_iff, List.all_eq_true]
    simp only [isMiddle_iff]
  unfold isSkillName
  constructor
  · intro h
    split at h
    · cases h
    · next tail hstart =>
      split at h
      · cases h
      · next middle hend =>
        obtain rfl := Text.dropStart?_eq_some_iff.1 hstart
        obtain rfl := Text.dropFinish?_eq_some_iff.1 hend
        exact ⟨middle, (List.append_assoc _ _ _).symm, (hmiddle middle).1 h⟩
  · rintro ⟨middle, rfl, h⟩
    have hstart : Text.dropStart? Document.skillStart
        ("gsd-".toList ++ middle ++ "-workflow".toList) = some (middle ++ "-workflow".toList) :=
      Text.dropStart?_eq_some_iff.2 (List.append_assoc _ _ _)
    have hend : Text.dropFinish? skillEnd (middle ++ "-workflow".toList) = some middle :=
      Text.dropFinish?_eq_some_iff.2 rfl
    simp only [hstart, hend]
    exact (hmiddle middle).2 h

instance : DecidablePred FollowsConvention :=
  fun _ => decidable_of_iff _ isSkillName_iff

/-! ## From left to right -/

/-- Whether a text is a middle and the fixed end, read from left to right. The middle may stop
behind any of its characters. -/
def endsName : Text → Bool
  | [] => false
  | c :: rest => (isWord c || c == '-') && (endsName rest || rest == skillEnd)

theorem endsName_iff {t : Text} :
    endsName t = true ↔
      ∃ middle, t = middle ++ skillEnd ∧ middle ≠ [] ∧ ∀ c ∈ middle, IsMiddle c := by
  induction t with
  | nil => simp [endsName]
  | cons c rest ih =>
    rw [endsName, Bool.and_eq_true, isMiddle_iff, Bool.or_eq_true, ih, beq_iff_eq]
    constructor
    · rintro ⟨hc, ⟨middle, rfl, -, hmiddle⟩ | rfl⟩
      · exact ⟨c :: middle, rfl, List.cons_ne_nil c middle, List.forall_mem_cons.2 ⟨hc, hmiddle⟩⟩
      · exact ⟨[c], rfl, List.cons_ne_nil c [], List.forall_mem_singleton.2 hc⟩
    · rintro ⟨middle, hrest, hne, hmiddle⟩
      obtain ⟨d, middle, rfl⟩ := List.exists_cons_of_ne_nil hne
      obtain ⟨rfl, rfl⟩ := List.cons.inj hrest
      obtain ⟨hc, hmiddle⟩ := List.forall_mem_cons.1 hmiddle
      refine ⟨hc, ?_⟩
      by_cases hnil : middle = []
      · exact .inr (by rw [hnil]; rfl)
      · exact .inl ⟨middle, rfl, hnil, hmiddle⟩

/-- Where the middle ends makes no difference to which names there are. -/
theorem isSkillName_eq (skill : Text) :
    isSkillName skill = (Text.dropStart? Document.skillStart skill).any endsName := by
  rw [Bool.eq_iff_iff, isSkillName_iff, Option.any_eq_true]
  simp only [Text.dropStart?_eq_some_iff, endsName_iff]
  constructor
  · rintro ⟨middle, rfl, h⟩
    exact ⟨middle ++ skillEnd, List.append_assoc _ _ _, middle, rfl, h⟩
  · rintro ⟨_, rfl, middle, rfl, h⟩
    exact ⟨middle, (List.append_assoc _ _ _).symm, h⟩

/-! ## Names with more than one end -/

/-- The end may stand in the middle too. -/
theorem followsConvention_of_ends {before after : Text} (hbefore : ∀ c ∈ before, IsMiddle c)
    (hafter : ∀ c ∈ after, IsMiddle c) :
    FollowsConvention
      ("gsd-".toList ++ (before ++ "-workflow".toList ++ after) ++ "-workflow".toList) := by
  have hend : "-workflow".toList.Forall IsMiddle := by decide
  refine ⟨before ++ "-workflow".toList ++ after, rfl, by simp, fun c hc => ?_⟩
  rcases List.mem_append.1 hc with hc | hc
  · rcases List.mem_append.1 hc with hc | hc
    · exact hbefore c hc
    · exact List.forall_iff_forall_mem.1 hend c hc
  · exact hafter c hc

theorem misnamedSkills_eq (d : Document) :
    misnamedSkills d = (d.skills.filter fun skill => ¬ FollowsConvention skill).map misnaming := by
  have hnegation : ∀ skill ∈ d.skills,
      (!isSkillName skill) = decide (¬ FollowsConvention skill) := by
    intro skill _
    rw [Bool.eq_iff_iff, decide_eq_true_eq, ← isSkillName_iff, Bool.not_eq_true', Bool.not_eq_true]
  rw [misnamedSkills, List.filter_congr hnegation]

end Header

namespace Rule

/-- **The rule on skill names sees the skills of the inventory and knows the convention.** An agent
fails once for each skill of its entry whose name does not follow the convention, in the order of
its header, and passes when all names follow it. The skills of the entry are the items of the header
that begin as a skill does. A name may repeat the fixed end, but it may not be without a middle. -/
theorem evaluate_skillNaming (corpus : Corpus) (settings : RuleSettings) :
    skillNaming.evaluate corpus settings =
      .ok (corpus.agents.flatMap fun a => skillNaming.verdictsOn corpus settings a.document) ∧
    (∀ a : Agent,
      (skillNaming.verdictsOn corpus settings a.document).filter Verdict.isFailure =
        ((InventoryEntry.ofAgent a).skills.filter fun skill =>
          ¬ Header.FollowsConvention skill).map fun skill =>
            ⟨.skillNaming, .fail, a.document.id, none, "invalid skill name: ".toList ++ skill ++
              " (expected gsd-<name>-workflow)".toList⟩) ∧
    (∀ a : Agent,
      skillNaming.verdictsOn corpus settings a.document =
          [⟨.skillNaming, .pass, a.document.id, none, "skill references well-formed".toList⟩] ↔
        ∀ skill ∈ (InventoryEntry.ofAgent a).skills, Header.FollowsConvention skill) ∧
    (∀ a : Agent,
      (InventoryEntry.ofAgent a).skills.Sublist (Frontmatter.listItems a.document.header) ∧
      ∀ skill, skill ∈ (InventoryEntry.ofAgent a).skills ↔
        skill ∈ Frontmatter.listItems a.document.header ∧ "gsd-".toList <+: skill) ∧
    (∀ skill, Header.isSkillName skill =
      (Text.dropStart? Document.skillStart skill).any Header.endsName) ∧
    (∀ before after : Text, (∀ c ∈ before, Header.IsMiddle c) → (∀ c ∈ after, Header.IsMiddle c) →
      Header.FollowsConvention
        ("gsd-".toList ++ (before ++ "-workflow".toList ++ after) ++ "-workflow".toList)) ∧
    ¬ Header.FollowsConvention "gsd-workflow".toList ∧
    ¬ Header.FollowsConvention "gsd--workflow".toList := by
  have hne : skillNaming ≠ .pinnedRoutes := by decide
  refine ⟨?_, fun a => ?_, fun a => ?_, fun a => ⟨List.filter_sublist, fun skill => ?_⟩,
    Header.isSkillName_eq, fun _ _ => Header.followsConvention_of_ends, by decide, by decide⟩
  · rw [evaluate_eq corpus settings hne]
    exact congrArg Except.ok (List.flatMap_map _ _ _)
  · rw [verdictsOn, Verdict.filter_isFailure_group, violations, Header.misnamedSkills_eq,
      List.map_map]
    rfl
  · refine Verdict.group_eq_pass_iff.trans ?_
    rw [violations, Header.misnamedSkills_eq, List.map_eq_nil_iff, List.filter_eq_nil_iff]
    simp only [decide_eq_true_eq, not_not]
    rfl
  · exact List.mem_filter.trans (and_congr_right fun _ => List.isPrefixOf_iff_prefix)

end Rule

end CorpusLint
