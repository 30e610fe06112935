import CorpusLint.Proofs.Evaluation.Groups
import CorpusLint.Proofs.Fence.Division
import CorpusLint.Proofs.Spawn.Scan
import CorpusLint.Proofs.Text.Slice

/-!
# Where the failures point

Two rules number the lines of a text and keep those that offend; the rule on spawn targets reads
number and line off a cursor. Both give violations that point at the lines of the text from top to
bottom (`Violation.Located`).

Main statement: every failure of the three rules names a line of its document and ends with what
stands there, and the same lines are found by slices of the stored form, none of which is missing
(`evaluate_positions`).
-/

namespace CorpusLint

/-! ## Violations with a line -/

namespace Violation

/-- The violation names a line of the text and ends with what stands there, without the blanks at
both ends. -/
def PointsInto (raw : Text) (w : Violation) : Prop :=
  ∃ n line, w.line = some n ∧ 1 ≤ n ∧ n ≤ raw.lines.length ∧ raw.lines[n - 1]? = some line ∧
    line.trim <:+ w.message

/-- The violations point into the text, in an order of its lines. -/
structure Located (raw : Text) (order : Nat → Nat → Prop) (violations : List Violation) :
    Prop where
  points : ∀ w ∈ violations, w.PointsInto raw
  ordered : ∃ numbers : List Nat, violations.map line = numbers.map some ∧ numbers.Pairwise order

theorem Located.mono {raw : Text} {order weaker : Nat → Nat → Prop} {violations : List Violation}
    (himp : ∀ {m n}, order m n → weaker m n) (h : Located raw order violations) :
    Located raw weaker violations := by
  obtain ⟨numbers, hnumbers, hordered⟩ := h.ordered
  exact ⟨h.points, numbers, hnumbers, hordered.imp himp⟩

/-- Violations that are read off some of the numbered lines of a text. -/
theorem located_map {raw : Text} {ls : List NumberedLine} (hsub : ls.Sublist raw.numberedLines)
    {violation : NumberedLine → Violation}
    (hline : ∀ l, (violation l).line = some l.number)
    (hmessage : ∀ l, l.text.trim <:+ (violation l).message) :
    Located raw (· < ·) (ls.map violation) := by
  refine ⟨fun w hw => ?_, ls.map NumberedLine.number, ?_, ?_⟩
  · obtain ⟨l, hl, rfl⟩ := List.mem_map.1 hw
    obtain ⟨hpos, hget⟩ := Text.mem_numberedLines.1 (hsub.subset hl)
    have hlt := (List.getElem?_eq_some_iff.1 hget).1
    exact ⟨l.number, l.text, hline l, hpos, by omega, hget, hmessage l⟩
  · rw [List.map_map, List.map_map]
    exact List.map_congr_left fun l _ => hline l
  · rw [List.pairwise_map]
    exact (Text.pairwise_numberFrom 1 raw.lines).sublist hsub

end Violation

/-! ## The three rules -/

theorem Heredoc.located_violations (d : Document) :
    Violation.Located d.raw (· < ·) (Heredoc.violations d) :=
  Violation.located_map (List.filter_sublist.trans (Fence.outside_sublist none _)) (fun _ => rfl)
    fun _ => List.suffix_append _ _

namespace Spawn

theorem located_legacy (d : Document) : Violation.Located d.raw (· < ·) (legacy d) :=
  Violation.located_map List.filter_sublist (fun _ => rfl) fun _ => List.suffix_append _ _

theorem rest_ne_nil_of_mem_scan {t : Text} {s : Spawn} (hs : s ∈ scan t) : s.place.rest ≠ [] := by
  obtain ⟨-, rest, hrest⟩ := (scanned_scan t).written_start hs
  rw [← hrest]
  simp [written]

theorem located_unresolved (known : List Text) (d : Document) :
    Violation.Located d.raw (· ≤ ·) (unresolved known d) := by
  have hsub : ((scan d.raw).filter (!known.contains ·.target)).Sublist (scan d.raw) :=
    List.filter_sublist
  refine ⟨fun w hw => ?_,
    ((scan d.raw).filter (!known.contains ·.target)).map (·.place.lineNumber), ?_, ?_⟩
  · obtain ⟨s, hs, rfl⟩ := List.mem_map.1 hw
    have hscan := hsub.subset hs
    have htext := text_place_of_mem_scan hscan
    obtain ⟨line, hline, htrim⟩ := s.place.exists_getElem?_lines (rest_ne_nil_of_mem_scan hscan)
    have hle := s.place.lineNumber_le_length_lines (rest_ne_nil_of_mem_scan hscan)
    rw [htext] at hline hle
    refine ⟨s.place.lineNumber, line, rfl, Nat.le_add_left 1 _, hle, hline, ?_⟩
    rw [htrim]
    exact List.suffix_append _ _
  · rw [unresolved, List.map_map, List.map_map]
    rfl
  · rw [List.pairwise_map]
    exact ((scanned_scan d.raw).pairwise_suffix.sublist hsub).imp
      Cursor.lineNumber_le_of_suffix

/-- The slices from which the place of a spawn is read exist. -/
theorem slices_of_mem_scan {t : Text} {s : Spawn} (hs : s ∈ scan t) :
    t.lineNumberAt? s.place.seen.byteSize = some s.place.lineNumber ∧
      t.lineAt? s.place.seen.byteSize = some s.place.line := by
  rw [← text_place_of_mem_scan hs]
  exact ⟨s.place.lineNumberAt?_text, s.place.lineAt?_text⟩

end Spawn

namespace Rule

theorem located_violations (corpus : Corpus) (settings : RuleSettings) {r : Rule}
    (hr : r = .noActiveHeredoc ∨ r = .noLegacySpawn ∨ r = .spawnTargets) (d : Document) :
    Violation.Located d.raw (· ≤ ·) (r.violations corpus settings d) ∧
      (r ≠ .spawnTargets → Violation.Located d.raw (· < ·) (r.violations corpus settings d)) := by
  rcases hr with rfl | rfl | rfl
  · have hlocated := Heredoc.located_violations d
    exact ⟨hlocated.mono Nat.le_of_lt, fun _ => hlocated⟩
  · have hlocated := Spawn.located_legacy d
    exact ⟨hlocated.mono Nat.le_of_lt, fun _ => hlocated⟩
  · exact ⟨Spawn.located_unresolved _ d, fun hne => absurd rfl hne⟩

/-- The failures of a rule on a document are its violations. -/
theorem map_line_failures (corpus : Corpus) (settings : RuleSettings) (r : Rule) (d : Document) :
    ((r.verdictsOn corpus settings d).filter Verdict.isFailure).map Verdict.line =
      (r.violations corpus settings d).map Violation.line := by
  rw [verdictsOn, Verdict.filter_isFailure_group, List.map_map]
  rfl

/-- **Reported positions are true.** Each failure of a rule that looks at lines names a line of a
document of its scope, and its message ends with this line, trimmed. The failures of one document
follow its lines from top to bottom, and only the rule on spawn targets reports a line twice. All
slices of the stored form on the way exist: the one behind the run of a fence, those around the
place of a spawn. -/
theorem evaluate_positions (corpus : Corpus) (settings : RuleSettings) {r : Rule}
    (hr : r = .noActiveHeredoc ∨ r = .noLegacySpawn ∨ r = .spawnTargets) :
    ∃ verdicts, r.evaluate corpus settings = .ok verdicts ∧
      verdicts = (r.scope.documents corpus).flatMap (r.verdictsOn corpus settings) ∧
      (∀ v ∈ verdicts, v.isFailure = true →
        ∃ d ∈ r.scope.documents corpus, v ∈ r.verdictsOn corpus settings d ∧
          d.id = v.document ∧
          ∃ n line, v.line = some n ∧ 1 ≤ n ∧ n ≤ d.raw.lines.length ∧
            d.raw.lines[n - 1]? = some line ∧ line.trim <:+ v.message) ∧
      ∀ d ∈ r.scope.documents corpus,
        (∃ numbers : List Nat,
          ((r.verdictsOn corpus settings d).filter Verdict.isFailure).map Verdict.line =
            numbers.map some ∧
          numbers.Pairwise (· ≤ ·) ∧ (r ≠ .spawnTargets → numbers.Pairwise (· < ·))) ∧
        (∀ line ∈ d.raw.lines, Fence.runBySlice? line = some (Fence.run? line)) ∧
        ∀ s ∈ Spawn.scan d.raw,
          d.raw.lineNumberAt? s.place.seen.byteSize = some s.place.lineNumber ∧
            d.raw.lineAt? s.place.seen.byteSize = some s.place.line := by
  have hlocated := located_violations corpus settings hr
  have hne : r ≠ .pinnedRoutes := by
    rcases hr with rfl | rfl | rfl <;> decide
  refine ⟨_, evaluate_eq corpus settings hne, rfl, fun v hv hfail => ?_, fun d _ => ⟨?_, ?_, ?_⟩⟩
  · obtain ⟨d, hd, hvd⟩ := List.mem_flatMap.1 hv
    refine ⟨d, hd, hvd, ((isGroup_verdictsOn corpus settings r d).document_eq v hvd).symm, ?_⟩
    rcases Verdict.mem_group_iff.1 hvd with ⟨-, rfl⟩ | ⟨w, hw, rfl⟩
    · cases hfail
    · exact (hlocated d).1.points w hw
  · obtain ⟨numbers, hnumbers, hordered⟩ := (hlocated d).1.ordered
    rw [map_line_failures]
    refine ⟨numbers, hnumbers, hordered, fun hspawn => ?_⟩
    obtain ⟨same, hsame, hstrict⟩ := ((hlocated d).2 hspawn).ordered
    rw [hnumbers] at hsame
    rwa [List.map_injective_iff.2 (fun _ _ => Option.some.inj) hsame]
  · exact fun line _ => Fence.runBySlice?_eq line
  · exact fun s hs => Spawn.slices_of_mem_scan hs

/-- A spawn behind a character of two bytes, in a text with both kinds of line endings: its target
goes on in the next line, and the failure names the line where it begins. -/
theorem evaluate_positions_spawnTargets :
    let raw := "é\r\né subagent_type=\"a\nb\"\r\n".toList
    let corpus := Corpus.ofDocuments [] [] [⟨.workflow, "flow".toList, [], raw⟩] [] "Write".toList
    ∃ verdicts, spawnTargets.evaluate corpus {} = .ok verdicts ∧
      verdicts.map Verdict.line = [some 2] ∧
      ∀ v ∈ verdicts, v.isFailure = true →
        ∃ d ∈ corpus.orchestration, d.id = v.document ∧
          ∃ n line, v.line = some n ∧ d.raw.lines[n - 1]? = some line ∧
            line.trim <:+ v.message := by
  intro raw corpus
  obtain ⟨verdicts, heval, hverdicts, hpoints, -⟩ :=
    evaluate_positions corpus {} (r := .spawnTargets) (.inr (.inr rfl))
  refine ⟨verdicts, heval, ?_, fun v hv hfail => ?_⟩
  · rw [hverdicts]
    decide +kernel
  · obtain ⟨d, hd, -, hid, n, line, hline, -, -, hget, hend⟩ := hpoints v hv hfail
    exact ⟨d, hd, hid, n, line, hline, hget, hend⟩

end Rule

end CorpusLint
