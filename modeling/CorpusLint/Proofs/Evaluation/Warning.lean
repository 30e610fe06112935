import CorpusLint.Check.Heredoc
import CorpusLint.Proofs.Corpus.Documents
import CorpusLint.Proofs.Evaluation.Dependence
import CorpusLint.Proofs.Fence.Division
import CorpusLint.Proofs.Frontmatter.Sections

/-!
# Adding the missing warning

A line that warns against heredocs is no offence wherever it stands: inside a block it is not read,
as a marker of a block it opens or closes one, and outside it is exempt. Behind it there is nothing
left that it could hide or uncover. So the repair of a file-writing agent without the warning is a
line at the end of its text. Such an agent has a header, which the line leaves alone, and the rules
that read all of the text are the two on heredocs.

Main statement: `Rule.evaluate_warned`.
-/

namespace CorpusLint

/-! ## Warnings at the end of a text -/

namespace Heredoc

theorem isExempt_of_warning_infix {line : Text} (h : warning <:+: line) : isExempt line = true := by
  have hmark : "never use".toList <:+: warning :=
    List.IsPrefix.isInfix ⟨" `Bash(cat << 'EOF')` or heredoc".toList, by decide⟩
  rw [isExempt, List.any_eq_true]
  exact ⟨_, List.mem_cons_self, Text.includes_iff.2 (hmark.trans h)⟩

theorem isExempt_of_mem_lines {line : Text} (hline : '\n' ∉ line) (hwarning : warning <:+: line) :
    ∀ l ∈ Text.lines (line ++ ['\n']), isExempt l = true := by
  have hlines : Text.lines (line ++ ['\n']) = [(Text.dropFinish? ['\r'] line).getD line] :=
    Text.lines_append_cons [] hline
  have hreturn : '\r' ∉ warning := by decide
  intro l hl
  rw [hlines, List.mem_singleton] at hl
  rw [hl]
  exact isExempt_of_warning_infix (Text.infix_line hreturn hwarning)

/-- Exempt lines may be added at the end of a text, whatever block is open there. -/
theorem violations_append {d : Document} (h : ['\n'] <:+ d.raw) {more : Text}
    (hexempt : ∀ l ∈ more.lines, isExempt l = true) :
    violations { d with raw := d.raw ++ more } = violations d := by
  -- which of the lines are outside does not matter: none of them is an offence
  have hnone : ∀ current start, (Fence.outside current
      (Text.numberFrom start more.lines)).filter (isOffence ·.text) = [] := by
    intro current start
    rw [List.filter_eq_nil_iff]
    intro line hline
    obtain ⟨i, hi, -⟩ := Text.mem_numberFrom.1 ((Fence.outside_sublist _ _).subset hline)
    simp [isOffence, hexempt _ (List.mem_of_getElem? hi)]
  have hwhole : d.raw.IsWhole := .inr h
  rw [violations, violations, hwhole.unfencedLines_append, List.filter_append, hnone,
    List.append_nil]

theorem missingWarning_of_infix {d : Document} (h : warning <:+: d.raw) :
    missingWarning d = [] := by
  rw [missingWarning, if_pos (Text.includes_iff.2 h)]

end Heredoc

/-! ## The repair -/

/-- A file-writing agent has a header: it declares its tools there. -/
theorem AgentClass.header_ne_nil {capability header : Text}
    (h : ofHeader capability header = .fileWriting) : header ≠ [] := by
  rintro rfl
  cases h

namespace Document

/-- The document with a line at its end. -/
def withLine (d : Document) (line : Text) : Document :=
  { d with raw := d.raw ++ (line ++ ['\n']) }

@[simp] theorem id_withLine (d : Document) (line : Text) : (d.withLine line).id = d.id := rfl

theorem header_withLine {d : Document} (hheader : d.header ≠ []) (hraw : ['\n'] <:+ d.raw)
    (line : Text) : (d.withLine line).header = d.header := by
  have hparting := Frontmatter.nonempty_parting_of_header_ne hheader
  rw [header, withLine, Frontmatter.split_append hparting hraw]
  rfl

theorem warning_infix_withLine (d : Document) {line : Text} (h : Heredoc.warning <:+: line) :
    Heredoc.warning <:+: (d.withLine line).raw := by
  have hline : line <:+: d.raw ++ (line ++ ['\n']) := List.infix_append' d.raw line ['\n']
  exact h.trans hline

end Document

namespace Rule

variable {corpus : Corpus} {settings : RuleSettings} {capability : Text} {d : Document}
  {line : Text}

/-! ## The verdicts on the agent -/

theorem verdictsOn_warning (hwarning : Heredoc.warning <:+: line) :
    antiHeredocInstruction.verdictsOn corpus settings (d.withLine line) =
      [⟨.antiHeredocInstruction, .pass, d.id, none, antiHeredocInstruction.praise⟩] := by
  have hnone : antiHeredocInstruction.violations corpus settings (d.withLine line) = [] :=
    Heredoc.missingWarning_of_infix (d.warning_infix_withLine hwarning)
  rw [verdictsOn, hnone]
  rfl

/-- The other rules find the same wrong with the agent: four of them read its header, and the rule
on heredocs that are written does not count the line. -/
theorem verdictsOn_withLine {r : Rule} (hr : r ≠ .antiHeredocInstruction)
    (hscope : r.scope.covers .fileWriting = true) (hheader : d.header ≠ [])
    (hraw : ['\n'] <:+ d.raw) (hline : '\n' ∉ line) (hwarning : Heredoc.warning <:+: line) :
    r.verdictsOn corpus settings (d.withLine line) = r.verdictsOn corpus settings d := by
  have hsame := Document.header_withLine hheader hraw line
  cases r with
  | antiHeredocInstruction => exact absurd rfl hr
  | noActiveHeredoc =>
    have hviolations : Heredoc.violations (d.withLine line) = Heredoc.violations d :=
      Heredoc.violations_append hraw (Heredoc.isExempt_of_mem_lines hline hwarning)
    simp only [verdictsOn, violations, hviolations, Verdict.group, Document.id_withLine]
  | skillsField | skillNaming | hooksCommented | requiredFields =>
    refine ReadsHeader.verdictsOn_eq ?_ (d.id_withLine line) hsame
    trivial
  | readOnlyParses | noLegacySpawn | spawnTargets | pinnedRoutes => cases hscope

/-! ## The verdicts on the corpus -/

section Agents

variable {before after : List Agent}

theorem exists_evaluate_warning (hkind : AgentClass.ofHeader capability d.header = .fileWriting)
    (hrepaired : AgentClass.ofHeader capability (d.withLine line).header = .fileWriting)
    (hwarning : Heredoc.warning <:+: line)
    (hagents : corpus.agents = before ++ Agent.ofDocument capability d :: after) :
    ∃ front old back,
      antiHeredocInstruction.verdictsOn corpus settings d = [old] ∧
      antiHeredocInstruction.evaluate corpus settings = .ok (front ++ old :: back) ∧
      antiHeredocInstruction.evaluate { corpus with
        agents := before ++ Agent.ofDocument capability (d.withLine line) :: after } settings =
        .ok (front ++
          ⟨.antiHeredocInstruction, .pass, d.id, none, antiHeredocInstruction.praise⟩ :: back) := by
  have honce : antiHeredocInstruction.AsksOnce := trivial
  have hname : (Agent.ofDocument capability (d.withLine line)).name =
      (Agent.ofDocument capability d).name := rfl
  obtain ⟨front, back, hcorpus, hchanged⟩ :=
    exists_evaluate_replace settings honce.ne_pinnedRoutes hagents hname
  have hcovers : antiHeredocInstruction.scope.covers (Agent.ofDocument capability d).kind = true :=
    beq_iff_eq.2 hkind
  have hstillCovers : antiHeredocInstruction.scope.covers
      (Agent.ofDocument capability (d.withLine line)).kind = true := beq_iff_eq.2 hrepaired
  obtain ⟨old, hold⟩ :=
    honce.exists_verdictsOn corpus settings (Agent.ofDocument capability d).document
  have hpass : antiHeredocInstruction.verdictsOn corpus settings
      (Agent.ofDocument capability (d.withLine line)).document = _ := verdictsOn_warning hwarning
  rw [if_pos hcovers, hold] at hcorpus
  rw [if_pos hstillCovers, hpass] at hchanged
  exact ⟨front, old, back, hold, hcorpus, hchanged⟩

theorem evaluate_withLine {r : Rule} (hr : r ≠ .antiHeredocInstruction)
    (hkind : AgentClass.ofHeader capability d.header = .fileWriting) (hraw : ['\n'] <:+ d.raw)
    (hline : '\n' ∉ line) (hwarning : Heredoc.warning <:+: line)
    (hagents : corpus.agents = before ++ Agent.ofDocument capability d :: after) :
    r.evaluate { corpus with
      agents := before ++ Agent.ofDocument capability (d.withLine line) :: after } settings =
        r.evaluate corpus settings := by
  have hheader := AgentClass.header_ne_nil hkind
  have hname : (Agent.ofDocument capability (d.withLine line)).name =
      (Agent.ofDocument capability d).name := rfl
  apply evaluate_replace r hagents hname
  · exact congrArg (AgentClass.ofHeader capability) (Document.header_withLine hheader hraw line)
  · intro hscope
    have hcovers : r.scope.covers .fileWriting = true := by
      rw [← hkind]
      exact hscope
    exact verdictsOn_withLine hr hcovers hheader hraw hline hwarning

end Agents

/-- **Adding the warning changes one verdict.** A file-writing agent whose text ends with a line
feed keeps header and class when a line with the warning is put at its end. The rule on warnings
lets it pass in the place of its verdict so far, and says of the others what it said before. All
other rules evaluate as before, whatever else stands in the line and whatever block is open in front
of it. -/
theorem evaluate_warned (hkind : AgentClass.ofHeader capability d.header = .fileWriting)
    (hraw : ['\n'] <:+ d.raw) (hline : '\n' ∉ line) (hwarning : Heredoc.warning <:+: line)
    (root : Text) (before after workflows commands : List Document) (settings : RuleSettings) :
    let corpus := Corpus.ofDocuments root (before ++ d :: after) workflows commands capability
    let repaired := Corpus.ofDocuments root (before ++ d.withLine line :: after) workflows commands
      capability
    (d.withLine line).header = d.header ∧
      AgentClass.ofHeader capability (d.withLine line).header = .fileWriting ∧
      (∃ front old back,
        antiHeredocInstruction.verdictsOn corpus settings d = [old] ∧
        antiHeredocInstruction.evaluate corpus settings = .ok (front ++ old :: back) ∧
        antiHeredocInstruction.evaluate repaired settings = .ok (front ++
          ⟨.antiHeredocInstruction, .pass, d.id, none, antiHeredocInstruction.praise⟩ :: back)) ∧
      ∀ r : Rule, r ≠ .antiHeredocInstruction →
        r.evaluate repaired settings = r.evaluate corpus settings := by
  intro corpus repaired
  have hsame := Document.header_withLine (AgentClass.header_ne_nil hkind) hraw line
  have hrepairedKind : AgentClass.ofHeader capability (d.withLine line).header = .fileWriting := by
    rw [hsame]
    exact hkind
  have hagents := Corpus.agents_ofDocuments root before after workflows commands d capability
  have hrepaired : repaired = { corpus with agents := repaired.agents } := rfl
  rw [hrepaired, Corpus.agents_ofDocuments root before after workflows commands (d.withLine line)]
  refine ⟨hsame, hrepairedKind, exists_evaluate_warning hkind hrepairedKind hwarning hagents, ?_⟩
  intro r hr
  exact evaluate_withLine hr hkind hraw hline hwarning hagents

/-- An agent with a heredoc and a block that stays open, and a warning that looks like a marker of a
block and writes by heredoc itself. The failure of the second rule stays, the line adds none. -/
theorem evaluate_warned_openBlock :
    let d : Document := ⟨.agent, "gsd-a".toList, [],
      "---\ntools: Write\n---\ncat << EOF > x\n```\n".toList⟩
    let line := "``` cat << EOF > y # ".toList ++ Heredoc.warning
    let corpus := Corpus.ofDocuments [] ([] ++ d :: []) [] [] "Write".toList
    let repaired := Corpus.ofDocuments [] ([] ++ d.withLine line :: []) [] [] "Write".toList
    AgentClass.ofHeader "Write".toList d.header = .fileWriting ∧ ['\n'] <:+ d.raw ∧ '\n' ∉ line ∧
      Heredoc.warning <:+: line ∧
      (∃ front old back, old.status = .fail ∧
        antiHeredocInstruction.evaluate corpus {} = .ok (front ++ old :: back) ∧
        antiHeredocInstruction.evaluate repaired {} = .ok (front ++
          ⟨.antiHeredocInstruction, .pass, d.id, none, antiHeredocInstruction.praise⟩ :: back)) ∧
      noActiveHeredoc.evaluate repaired {} = noActiveHeredoc.evaluate corpus {} ∧
      noActiveHeredoc.verdictsOn corpus {} d = [⟨.noActiveHeredoc, .fail, d.id, some 4,
        "active heredoc pattern: cat << EOF > x".toList⟩] := by
  intro d line corpus repaired
  have hkind : AgentClass.ofHeader "Write".toList d.header = .fileWriting := by decide +kernel
  have hraw : ['\n'] <:+ d.raw := by decide +kernel
  have hline : '\n' ∉ line := by decide +kernel
  have hwarning : Heredoc.warning <:+: line := (List.suffix_append _ _).isInfix
  obtain ⟨-, -, ⟨front, old, back, hold, hbefore, hafter⟩, hothers⟩ :=
    evaluate_warned hkind hraw hline hwarning [] [] [] [] [] {}
  have hfails : (antiHeredocInstruction.verdictsOn corpus {} d).map Verdict.status = [.fail] := by
    decide +kernel
  rw [hold] at hfails
  have hstatus : old.status = .fail := List.singleton_inj.1 hfails
  have hother : noActiveHeredoc ≠ antiHeredocInstruction := by decide
  exact ⟨hkind, hraw, hline, hwarning, ⟨front, old, back, hstatus, hbefore, hafter⟩,
    hothers noActiveHeredoc hother, by decide +kernel⟩

end Rule

end CorpusLint
