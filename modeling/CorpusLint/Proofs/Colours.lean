import CorpusLint.Inventory
import CorpusLint.Proofs.Report.Failures
import CorpusLint.Proofs.Text.Escapes
import CorpusLint.Proofs.Text.SingleLine
import CorpusLint.Report

/-!
# Colours change nothing else

A coloured text stands between two escape sequences (`Tint.exists_paint`), so that the text without
colours is what is left when they are deleted. That carries over from a part to what is printed
around it (`Text.Shows`), as long as the names and messages in between have no escape character of
their own: the two forms of a report and of an inventory are taken through the same parts, from the
mark of a line to the columns of a row.

Main statement: `withoutEscapes_render`.
-/

namespace CorpusLint

open Text (Shows escape escape_notMem_ofNat notMem_literal)

namespace Tint

/-- A tint is two sequences. -/
theorem exists_paint (tint : Tint) :
    ∃ opening closing : Text, opening.IsEscape ∧ closing.IsEscape ∧
      ∀ t, tint.paint true t = opening ++ t ++ closing := by
  have hcode : tint.code.all Text.isParameter = true := by
    cases tint <;> decide
  refine ⟨escape :: '[' :: (tint.code ++ ['m']), "\x1b[0m".toList,
    ⟨tint.code, 'm', rfl, List.all_eq_true.1 hcode, rfl⟩,
    ⟨['0'], 'm', rfl, List.forall_mem_singleton.2 rfl, rfl⟩, fun t => ?_⟩
  have hopening : "\x1b[".toList = [escape, '['] := rfl
  simp [paint, hopening]

theorem shows_paint (tint : Tint) {t : Text} (h : escape ∉ t) :
    Shows (tint.paint true t) (tint.paint false t) := by
  obtain ⟨opening, closing, hopening, hclosing, hpaint⟩ := tint.exists_paint
  intro rest
  rw [hpaint, List.append_assoc, List.append_assoc, hopening.withoutEscapes_append,
    Text.withoutEscapes_append h, hclosing.withoutEscapes_append]
  rfl

end Tint

/-! ## Reports -/

theorem Rule.escape_notMem_title (r : Rule) : escape ∉ r.title := by
  cases r <;> exact notMem_literal (by decide)

theorem Rule.escape_notMem_id (r : Rule) : escape ∉ r.id := by
  cases r <;> exact notMem_literal (by decide)

theorem Outcome.shows_renderLine (verbose : Bool) (o : Outcome) :
    Shows (o.renderLine true verbose) (o.renderLine false verbose) := by
  have hmark : Shows
      (if o.failed = 0 then Tint.green.paint true "✓".toList else Tint.red.paint true "✗".toList)
      (if o.failed = 0 then Tint.green.paint false "✓".toList
        else Tint.red.paint false "✗".toList) := by
    split
    · exact Tint.green.shows_paint (notMem_literal (by decide))
    · exact Tint.red.shows_paint (notMem_literal (by decide))
  have htitle : escape ∉ ' ' :: o.rule.title :=
    List.not_mem_cons_of_ne_of_not_mem (by decide) o.rule.escape_notMem_title
  have htime : escape ∉ if verbose then " [".toList ++ Text.ofNat o.duration ++ "ms]".toList
      else [] := by
    split
    · refine List.not_mem_append ?_ (notMem_literal (by decide))
      exact List.not_mem_append (notMem_literal (by decide)) (escape_notMem_ofNat _)
    · exact List.not_mem_nil
  -- the mark is the only part in colour, and the others follow as they are printed
  exact hmark.append_same htitle |>.append_same (by decide) |>.append_same (escape_notMem_ofNat _)
    |>.append_same (by decide) |>.append_same (escape_notMem_ofNat _) |>.append_same (by decide)
    |>.append_same htime |>.append_same (by decide)

theorem Verdict.shows_renderFailure {v : Verdict} (hdocument : escape ∉ v.document)
    (hmessage : escape ∉ v.message) : Shows (v.renderFailure true) (v.renderFailure false) := by
  have hfail := Tint.boldRed.shows_paint (t := "FAIL".toList) (by decide)
  have hrule := Tint.cyan.shows_paint v.rule.escape_notMem_id
  have hplace : escape ∉ ' ' :: v.location :=
    List.not_mem_cons_of_ne_of_not_mem (by decide)
      (notMem_location (by decide) (by decide) hdocument)
  exact Text.shows_refl (by decide) |>.append hfail |>.append_same (by decide) |>.append hrule
    |>.append_same hplace |>.append_same (by decide) |>.append_same hmessage
    |>.append_same (by decide)

theorem Summary.escape_notMem_render (s : Summary) : escape ∉ s.render := by
  unfold render
  simp only [List.mem_append, not_or]
  exact ⟨⟨⟨⟨⟨⟨notMem_literal (by decide), escape_notMem_ofNat _⟩, notMem_literal (by decide)⟩,
    escape_notMem_ofNat _⟩, notMem_literal (by decide)⟩, escape_notMem_ofNat _⟩,
    notMem_literal (by decide)⟩

namespace Report

variable {report : Report}
  (h : ∀ v ∈ report.verdicts, escape ∉ v.document ∧ escape ∉ v.message)

include h

theorem shows_renderFailures :
    Shows (report.renderFailures true) (report.renderFailures false) := by
  have hlines : ∀ v ∈ report.failures, Shows (v.renderFailure true) (v.renderFailure false) := by
    intro v hv
    obtain ⟨hdocument, hmessage⟩ := h v (mem_failures.1 hv).1
    exact Verdict.shows_renderFailure hdocument hmessage
  unfold renderFailures
  cases hfound : report.failures with
  | nil => exact Text.shows_refl List.not_mem_nil
  | cons v found =>
    rw [hfound] at hlines
    exact (Text.shows_refl (t := ['\n']) (by decide)).append (Text.shows_flatMap hlines)

theorem shows_render (verbose : Bool) :
    Shows (report.render true verbose) (report.render false verbose) := by
  have hrules := Text.shows_flatMap fun o (_ : o ∈ report.outcomes) => o.shows_renderLine verbose
  exact (hrules.append (shows_renderFailures h)).append_same report.summary.escape_notMem_render

omit h

theorem isWhole_render (colours verbose : Bool) (report : Report) :
    Text.IsWhole (report.render colours verbose) := by
  have hend : ['\n'] <:+ " failed\n".toList := ⟨" failed".toList, rfl⟩
  exact .inr (hend.trans ((List.suffix_append _ _).trans (List.suffix_append _ _)))

end Report

/-! ## Inventories -/

namespace InventoryEntry

theorem escape_notMem_name (kind : AgentClass) : escape ∉ kind.name := by
  cases kind <;> exact notMem_literal (by decide)

/-- The columns of a row: the padding of the class is coloured with it. -/
theorem shows_renderRow (width : Nat) (a : Agent) (hname : escape ∉ (ofAgent a).name)
    (hskills : ∀ skill ∈ (ofAgent a).skills, escape ∉ skill) :
    Shows ((ofAgent a).renderRow true width) ((ofAgent a).renderRow false width) := by
  have hspaces : escape ∉ "  ".toList := by decide
  have hpadded : ∀ {t : Text}, escape ∉ t → ∀ width, escape ∉ t.padTo width :=
    Text.notMem_padTo (by decide)
  have hclass := (tint a.kind).shows_paint (hpadded (escape_notMem_name a.kind) 12)
  have hhash : escape ∉ (ofAgent a).hash.take 12 := by
    intro hmem
    exact absurd (Sha256.mem_hex (List.mem_of_mem_take hmem)) (by decide)
  have hlist : escape ∉ Text.joinWith [','] (ofAgent a).skills :=
    Text.notMem_joinWith (by decide) hskills
  exact Text.shows_refl (hpadded hname width) |>.append_same hspaces |>.append hclass
    |>.append_same hspaces |>.append_same hhash |>.append_same hspaces |>.append_same hlist
    |>.append_same (by decide)

end InventoryEntry

namespace Inventory

theorem escape_notMem_renderTotals (entries : List InventoryEntry) :
    escape ∉ renderTotals entries := by
  unfold renderTotals
  simp only [List.mem_append, List.mem_cons, not_or]
  exact ⟨⟨⟨⟨⟨⟨by decide, escape_notMem_ofNat _⟩, notMem_literal (by decide)⟩,
    escape_notMem_ofNat _⟩, notMem_literal (by decide)⟩, escape_notMem_ofNat _⟩,
    notMem_literal (by decide)⟩

theorem shows_render {corpus : Corpus}
    (h : ∀ e ∈ corpus.inventory, escape ∉ e.name ∧ ∀ skill ∈ e.skills, escape ∉ skill) :
    Shows (render true corpus.inventory) (render false corpus.inventory) := by
  have hrows : ∀ e ∈ corpus.inventory,
      Shows (e.renderRow true (nameWidth corpus.inventory))
        (e.renderRow false (nameWidth corpus.inventory)) := by
    intro e he
    obtain ⟨a, -, rfl⟩ := List.mem_map.1 he
    obtain ⟨hname, hskills⟩ := h _ he
    exact InventoryEntry.shows_renderRow _ a hname hskills
  exact (Text.shows_flatMap hrows).append_same (escape_notMem_renderTotals corpus.inventory)

theorem isWhole_render (colours : Bool) (entries : List InventoryEntry) :
    Text.IsWhole (render colours entries) := by
  have hend : ['\n'] <:+ " read-only\n".toList := ⟨" read-only".toList, rfl⟩
  exact .inr (hend.trans ((List.suffix_append _ _).trans (List.suffix_append _ _)))

end Inventory

/-- **Colours only add escape sequences.** A painted text is the text between two of them. Deleting
them from a printed report or inventory gives what is printed without colours, line for line and
with the same padding, if the documents and messages of the report, and the names and skills of the
inventory, have no escape character. -/
theorem withoutEscapes_render :
    (∀ tint : Tint, ∃ opening closing : Text, opening.IsEscape ∧ closing.IsEscape ∧
      ∀ t, tint.paint true t = opening ++ t ++ closing ∧ tint.paint false t = t) ∧
    (∀ (report : Report) (verbose : Bool),
      (∀ v ∈ report.verdicts, escape ∉ v.document ∧ escape ∉ v.message) →
        Text.withoutEscapes (report.render true verbose) = report.render false verbose ∧
        (Text.pieces (report.render true verbose)).map Text.withoutEscapes =
          Text.pieces (report.render false verbose)) ∧
    ∀ corpus : Corpus,
      (∀ e ∈ corpus.inventory, escape ∉ e.name ∧ ∀ skill ∈ e.skills, escape ∉ skill) →
        Text.withoutEscapes (Inventory.render true corpus.inventory) =
          Inventory.render false corpus.inventory ∧
        (Text.pieces (Inventory.render true corpus.inventory)).map Text.withoutEscapes =
          Text.pieces (Inventory.render false corpus.inventory) := by
  refine ⟨fun tint => ?_, fun report verbose h => ?_, fun corpus h => ?_⟩
  · obtain ⟨opening, closing, hopening, hclosing, hpaint⟩ := tint.exists_paint
    exact ⟨opening, closing, hopening, hclosing, fun t => ⟨hpaint t, rfl⟩⟩
  · have hshows := Report.shows_render h verbose
    exact ⟨hshows.withoutEscapes_eq, hshows.pieces_eq (Report.isWhole_render true verbose report)⟩
  · have hshows := Inventory.shows_render h
    exact ⟨hshows.withoutEscapes_eq, hshows.pieces_eq (Inventory.isWhole_render true _)⟩

/-- A report with one failure, and an inventory with one agent. -/
theorem withoutEscapes_render_failure :
    let failure : Verdict := ⟨.skillsField, .fail, "agent:a".toList, some 2, "m".toList⟩
    let report : Report := ⟨[⟨.skillsField, 3, [failure]⟩]⟩
    let corpus := Corpus.ofDocuments [] [⟨.agent, "gsd-a".toList, [],
      "---\ntools: Write\n- gsd-x-workflow\n---\n".toList⟩] [] [] "Write".toList
    (∀ v ∈ report.verdicts, escape ∉ v.document ∧ escape ∉ v.message) ∧
    (∀ e ∈ corpus.inventory, escape ∉ e.name ∧ ∀ skill ∈ e.skills, escape ∉ skill) ∧
    report.render true true =
      ("\x1b[91m✗\x1b[0m Skills field present (0 passed, 1 failed) [3ms]\n\n" ++
        "  [\x1b[1;91mFAIL\x1b[0m] \x1b[96mskills-field\x1b[0m agent:a:2: m\n\n" ++
        "Summary: 1 rules, 0 passed, 1 failed\n").toList ∧
    Text.withoutEscapes (report.render true true) =
      ("✗ Skills field present (0 passed, 1 failed) [3ms]\n\n" ++
        "  [FAIL] skills-field agent:a:2: m\n\n" ++
        "Summary: 1 rules, 0 passed, 1 failed\n").toList ∧
    Text.withoutEscapes (Inventory.render true corpus.inventory) =
      Inventory.render false corpus.inventory := by
  intro failure report corpus
  obtain ⟨-, hreports, hinventories⟩ := withoutEscapes_render
  have hverdicts : ∀ v ∈ report.verdicts, escape ∉ v.document ∧ escape ∉ v.message := by
    decide +kernel
  have hentries : ∀ e ∈ corpus.inventory, escape ∉ e.name ∧ ∀ skill ∈ e.skills, escape ∉ skill := by
    decide +kernel
  refine ⟨hverdicts, hentries, by decide +kernel, ?_, (hinventories corpus hentries).1⟩
  rw [(hreports report true hverdicts).1]
  decide +kernel

end CorpusLint
