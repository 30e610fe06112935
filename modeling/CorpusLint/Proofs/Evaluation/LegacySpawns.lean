import CorpusLint.Proofs.Check.LineEndings
import CorpusLint.Proofs.Evaluation.Groups
import CorpusLint.Proofs.Text.Occurrences

/-!
# Agents spawned without a name

The rule on legacy spawns looks for one opening in the lines of a workflow or a command. The opening
has no line ending in it and no blank at its ends, so that the lines show what the whole text has
(`Text.exists_encloses`), under any line endings (`Spawn.legacy_eq_of_pieces`).

Main statement: `evaluate_legacySpawns`.
-/

namespace CorpusLint

namespace Spawn

theorem isTrimmed_legacyOpening : legacyOpening.IsTrimmed := by
  decide

theorem legacyOpening_ne_nil : legacyOpening ≠ [] := by
  decide

/-- A document with the opening in it has a line with the opening in it. -/
theorem linesWith_legacyOpening_eq_nil_iff {t : Text} :
    t.linesWith legacyOpening = [] ↔ ¬ legacyOpening <:+: t :=
  Text.linesWith_eq_nil_iff legacyOpening_ne_nil (by decide) (by decide)

theorem legacyViolation_trimmed (line : NumberedLine) :
    legacyViolation line.trimmed = legacyViolation line := by
  rw [legacyViolation, NumberedLine.trimmed, (Text.isTrimmed_trim line.text).trim_eq]
  rfl

theorem legacy_eq (d : Document) :
    legacy d = (d.raw.linesWith legacyOpening).map legacyViolation :=
  rfl

/-- What is found depends on the trimmed pieces, which have no line endings. -/
theorem legacy_eq_of_pieces {d e : Document}
    (h : d.raw.pieces.map Text.trim = e.raw.pieces.map Text.trim) : legacy d = legacy e := by
  have hlegacy : ∀ d : Document,
      legacy d = ((d.raw.linesWith legacyOpening).map .trimmed).map legacyViolation := by
    intro d
    rw [legacy_eq, List.map_map]
    exact List.map_congr_left fun line _ => (legacyViolation_trimmed line).symm
  rw [hlegacy, hlegacy, Text.map_trimmed_linesWith isTrimmed_legacyOpening legacyOpening_ne_nil, h,
    Text.map_trimmed_linesWith isTrimmed_legacyOpening legacyOpening_ne_nil]

end Spawn

namespace Rule

theorem verdictsOn_noLegacySpawn_congr {corpus : Corpus} {settings : RuleSettings} {d e : Document}
    (hid : d.id = e.id) (h : d.raw.pieces.map Text.trim = e.raw.pieces.map Text.trim) :
    noLegacySpawn.verdictsOn corpus settings d = noLegacySpawn.verdictsOn corpus settings e := by
  simp only [verdictsOn, violations, Verdict.group, Spawn.legacy_eq_of_pieces h, hid]

/-- **Line by line, the legacy spawns of the whole text are found.** A workflow or a command passes
exactly when the opening stands nowhere in its text. Otherwise it fails once for every line with the
opening in it, in the order of the lines, and every place where the text has the opening is in one
of these lines. Whole lines further up, be they a header or the beginning of a block, do no more
than count, and line endings do nothing. -/
theorem evaluate_legacySpawns (corpus : Corpus) (settings : RuleSettings) :
    noLegacySpawn.evaluate corpus settings =
      .ok ((corpus.workflows ++ corpus.commands).flatMap
        (noLegacySpawn.verdictsOn corpus settings)) ∧
    ∀ d : Document,
      let offences := d.raw.linesWith Spawn.legacyOpening
      let verdicts := noLegacySpawn.verdictsOn corpus settings d
      (verdicts = [⟨.noLegacySpawn, .pass, d.id, none, "no legacy spawn workaround".toList⟩] ↔
        ¬ Spawn.legacyOpening <:+: d.raw) ∧
      (Spawn.legacyOpening <:+: d.raw → verdicts = offences.map fun line =>
        ⟨.noLegacySpawn, .fail, d.id, some line.number,
        "legacy \"First, read agent .md\" workaround, use a named subagent_type instead: ".toList ++
          line.text.trim⟩) ∧
      (∀ line, line ∈ offences ↔ 1 ≤ line.number ∧
        d.raw.lines[line.number - 1]? = some line.text ∧ Spawn.legacyOpening <:+: line.text) ∧
      (offences.Pairwise fun line later => line.number < later.number) ∧
      (∀ before after, d.raw = before ++ Spawn.legacyOpening ++ after →
        ∃ line ∈ offences, line.Encloses before Spawn.legacyOpening after) ∧
      (∀ above below : Text, d.raw = above ++ below → above.IsWhole →
        offences = above.linesWith Spawn.legacyOpening ++
          (below.linesWith Spawn.legacyOpening).map (.shift above.lines.length)) ∧
      noLegacySpawn.verdictsOn corpus settings d.crlf = verdicts ∧
      ∀ e : Document, e.id = d.id → e.raw.pieces.map Text.trim = d.raw.pieces.map Text.trim →
        noLegacySpawn.verdictsOn corpus settings e = verdicts := by
  refine ⟨evaluate_eq corpus settings (by decide), fun d => ⟨?_, fun hlegacy => ?_,
    fun line => ?_, Text.pairwise_linesWith, fun before after hraw => ?_,
    fun above below hraw hwhole => ?_, ?_, fun e => verdictsOn_noLegacySpawn_congr⟩⟩
  · rw [← Spawn.linesWith_legacyOpening_eq_nil_iff, ← List.map_eq_nil_iff, ← Spawn.legacy_eq]
    exact Verdict.group_eq_pass_iff
  · have hne : d.raw.linesWith Spawn.legacyOpening ≠ [] :=
      fun hnil => Spawn.linesWith_legacyOpening_eq_nil_iff.1 hnil hlegacy
    obtain ⟨line, lines, hlines⟩ := List.exists_cons_of_ne_nil hne
    rw [verdictsOn, violations, Spawn.legacy_eq, hlines]
    exact List.map_map
  · rw [Text.mem_linesWith, Text.mem_numberedLines, and_assoc]
  · rw [hraw]
    exact Text.exists_encloses Spawn.legacyOpening_ne_nil (by decide) (by decide) before after
  · rw [hraw]
    exact hwhole.linesWith_append _ below
  · exact verdictsOn_noLegacySpawn_congr d.id_crlf (Text.map_trim_pieces_crlf d.raw)

/-- The opening in a header, under a line ending of two characters, and twice in one line of a
block: two failures, the same ones as without the carriage return. -/
theorem evaluate_legacySpawns_twice :
    let header : Text := "---\nFirst, read ~/.claude/agents/gsd-a\r\n---\n".toList
    let start : Text := "\x60\x60\x60\n First, read ~/.claude/agents/gsd-b. ".toList
    let finish : Text := "c\n\x60\x60\x60\n".toList
    let block : Text := start ++ Spawn.legacyOpening ++ finish
    let d : Document := ⟨.workflow, "w".toList, [], header ++ block⟩
    let plain : Document := ⟨.workflow, "w".toList, [], (header ++ block).filter (· != '\r')⟩
    let corpus := Corpus.ofDocuments [] [] [d] [] "Write".toList
    let verdicts := noLegacySpawn.verdictsOn corpus {} d
    (Spawn.legacyOpening <:+: d.raw ∧ noLegacySpawn.evaluate corpus {} = .ok verdicts ∧
      verdicts.map (fun v => (v.status, v.line)) = [(.fail, some 2), (.fail, some 5)]) ∧
    (header.IsWhole ∧ d.raw.linesWith Spawn.legacyOpening =
      header.linesWith Spawn.legacyOpening ++
        (block.linesWith Spawn.legacyOpening).map (.shift header.lines.length)) ∧
    (∃ line ∈ d.raw.linesWith Spawn.legacyOpening,
      line.Encloses (header ++ start) Spawn.legacyOpening finish) ∧
    noLegacySpawn.verdictsOn corpus {} plain = verdicts := by
  intro header start finish block d plain corpus verdicts
  obtain ⟨heval, hdocument⟩ := evaluate_legacySpawns corpus {}
  obtain ⟨-, hfail, -, -, hencloses, hparts, -, hendings⟩ := hdocument d
  have hopening : Spawn.legacyOpening <:+: d.raw := ⟨header ++ start, finish, by decide +kernel⟩
  have hwhole : header.IsWhole := by decide +kernel
  refine ⟨⟨hopening, ?_, ?_⟩, ⟨hwhole, hparts header block rfl hwhole⟩,
    hencloses (header ++ start) finish (by decide +kernel), hendings plain rfl (by decide +kernel)⟩
  · have hdocuments : corpus.workflows ++ corpus.commands = [d] := rfl
    rw [heval, hdocuments, List.flatMap_singleton]
  · refine (congrArg (List.map fun v => (v.status, v.line)) (hfail hopening)).trans ?_
    decide +kernel

end Rule

end CorpusLint
