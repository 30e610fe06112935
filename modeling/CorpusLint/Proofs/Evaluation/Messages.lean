import CorpusLint.Proofs.Evaluation.Growth
import CorpusLint.Proofs.Fence.Division
import CorpusLint.Proofs.Text.SingleLine

/-!
# Messages on one line

A message quotes the document that it is about: a trimmed line, a list item, the line of a spawn, or
the target of a spawn. All but the last are parts of one line. So where the settings have no line
feed, a message has one only where the target of a spawn runs over several lines, and where this
target is not known (`lineFeed_mem_message_iff`).
-/

namespace CorpusLint

open Text (notMem_literal)

/-- The settings that messages quote have no line feed. -/
structure RuleSettings.OnOneLine (settings : RuleSettings) : Prop where
  requiredFields : ∀ field ∈ settings.requiredFields, '\n' ∉ field
  agents : ∀ route ∈ settings.pinnedRoutes, '\n' ∉ route.agent

theorem PinnedRoute.notMem_message {route : PinnedRoute} (h : '\n' ∉ route.agent) (d : Document) :
    '\n' ∉ (route.verdict d).message := by
  have hwritten : '\n' ∉ Spawn.written route.agent := by
    simp only [Spawn.written, List.mem_append, not_or]
    exact ⟨⟨by decide, h⟩, by decide⟩
  unfold verdict
  split
  · simp only [List.mem_append, not_or]
    exact ⟨notMem_literal (by decide), h⟩
  · simp only [List.mem_append, not_or]
    exact ⟨⟨⟨⟨⟨⟨notMem_literal (by decide), h⟩, by decide⟩, notMem_literal (by decide)⟩,
      by decide⟩, hwritten⟩, by decide⟩

theorem Spawn.lineFeed_mem_complaint_iff (s : Spawn) :
    '\n' ∈ complaint s.target s.place.line ↔ '\n' ∈ s.target := by
  unfold complaint
  constructor
  · intro hmem
    rcases List.mem_append.1 hmem with hmem | hline
    · rcases List.mem_append.1 hmem with hmem | hmiddle
      · rcases List.mem_append.1 hmem with hstart | htarget
        · exact absurd hstart (notMem_literal (by decide))
        · exact htarget
      · exact absurd hmiddle (by decide)
    · exact absurd (Text.trim_subset _ hline) s.place.notMem_line
  · intro htarget
    exact List.mem_append_left _ (List.mem_append_left _ (List.mem_append_right _ htarget))

namespace Header

theorem notMem_of_mem_absentFields {required : List Text} (h : ∀ field ∈ required, '\n' ∉ field)
    {header field : Text} (hfield : field ∈ absentFields required header) : '\n' ∉ field := by
  obtain ⟨name, hname, rfl⟩ := List.mem_map.1 (List.mem_filter.1 hfield).1
  rw [List.mem_append, not_or]
  exact ⟨h name hname, by decide⟩

theorem notMem_missingFields {required : List Text} (h : ∀ field ∈ required, '\n' ∉ field)
    {d : Document} {w : Violation} (hw : w ∈ missingFields required d) : '\n' ∉ w.message := by
  unfold missingFields at hw
  split at hw
  · cases hw
  · obtain rfl := List.mem_singleton.1 hw
    rw [List.mem_append, not_or]
    exact ⟨notMem_literal (by decide),
      Text.notMem_joinWith (by decide) fun _ => notMem_of_mem_absentFields h⟩

theorem notMem_misnamedSkills {d : Document} {w : Violation} (hw : w ∈ misnamedSkills d) :
    '\n' ∉ w.message := by
  obtain ⟨skill, hskill, rfl⟩ := List.mem_map.1 hw
  have hitem := List.mem_of_mem_filter (List.mem_of_mem_filter hskill)
  simp only [misnaming, List.mem_append, not_or]
  exact ⟨⟨notMem_literal (by decide), Frontmatter.notMem_of_mem_listItems hitem⟩,
    notMem_literal (by decide)⟩

end Header

/-- A message that quotes a trimmed line of a document. -/
theorem notMem_quotation {line : NumberedLine} {raw : Text} (h : line ∈ raw.numberedLines)
    {start : Text} (hstart : '\n' ∉ start) : '\n' ∉ start ++ line.text.trim := by
  rw [List.mem_append, not_or]
  exact ⟨hstart, fun hmem => Text.notMem_of_mem_numberedLines h (Text.trim_subset _ hmem)⟩

/-- What is wrong where a text lacks something. -/
theorem notMem_of_mem_ite {found : Prop} [Decidable found] {w : Violation} {message : Text}
    (hw : w ∈ if found then [] else [Violation.mk none message]) (h : '\n' ∉ message) :
    '\n' ∉ w.message := by
  split at hw
  · cases hw
  · obtain rfl := List.mem_singleton.1 hw
    exact h

namespace Rule

variable {corpus : Corpus} {settings : RuleSettings}

theorem notMem_praise (r : Rule) : '\n' ∉ r.praise := by
  unfold praise
  cases r
  case pinnedRoutes => exact List.not_mem_nil
  all_goals exact notMem_literal (by decide)

/-- One rule quotes more than a line of a document. -/
theorem notMem_message_violation (hsettings : settings.OnOneLine) {r : Rule}
    (hr : r ≠ .spawnTargets) {d : Document} {w : Violation}
    (hw : w ∈ r.violations corpus settings d) : '\n' ∉ w.message := by
  cases r with
  | antiHeredocInstruction => exact notMem_of_mem_ite hw (by decide)
  | noActiveHeredoc =>
    obtain ⟨line, hline, rfl⟩ := List.mem_map.1 hw
    have hunfenced := (Fence.outside_sublist none _).subset (List.mem_of_mem_filter hline)
    exact notMem_quotation hunfenced (notMem_literal (by decide))
  | skillsField => exact notMem_of_mem_ite hw (notMem_literal (by decide))
  | skillNaming => exact Header.notMem_misnamedSkills hw
  | hooksCommented => exact notMem_of_mem_ite hw (by decide)
  | readOnlyParses => exact notMem_of_mem_ite hw (notMem_literal (by decide))
  | noLegacySpawn =>
    obtain ⟨line, hline, rfl⟩ := List.mem_map.1 hw
    exact notMem_quotation (List.mem_of_mem_filter hline) (notMem_literal (by decide))
  | spawnTargets => exact absurd rfl hr
  | pinnedRoutes => cases hw
  | requiredFields => exact Header.notMem_missingFields hsettings.requiredFields hw

/-- **A message has a line feed only in the target of a spawn.** -/
theorem lineFeed_mem_message_iff (hsettings : settings.OnOneLine) {r : Rule}
    {verdicts : List Verdict} (h : r.evaluate corpus settings = .ok verdicts) {v : Verdict}
    (hv : v ∈ verdicts) :
    '\n' ∈ v.message ↔
      r = .spawnTargets ∧ ∃ d ∈ corpus.orchestration,
        ∃ s ∈ Spawn.strays (Spawn.knownTargets corpus) d,
          '\n' ∈ s.target ∧ v = Spawn.failure d s := by
  constructor
  · intro hfeed
    -- Praise is fixed, and what is said of a route comes from the settings.
    rcases exists_of_mem_evaluate h hv with
      ⟨d, -, rfl⟩ | ⟨d, hd, w, hw, rfl⟩ | ⟨rfl, route, hroute, d, -, rfl⟩
    · exact absurd hfeed r.notMem_praise
    · have hr : r = .spawnTargets := by
        by_contra hr
        exact notMem_message_violation hsettings hr hw hfeed
      subst hr
      obtain ⟨s, hs, rfl⟩ := List.mem_map.1 hw
      exact ⟨rfl, d, hd, s, hs, s.lineFeed_mem_complaint_iff.1 hfeed, rfl⟩
    · exact absurd hfeed (PinnedRoute.notMem_message (hsettings.agents route hroute) d)
  · rintro ⟨-, d, -, s, -, htarget, rfl⟩
    exact s.lineFeed_mem_complaint_iff.2 htarget

end Rule

end CorpusLint
