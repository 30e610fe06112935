import CorpusLint.Proofs.Check.HeredocForm
import CorpusLint.Proofs.Corpus.Documents
import CorpusLint.Proofs.Evaluation.Dependence
import CorpusLint.Proofs.Fence.Insertion

/-!
# Heredocs that are written

The rule on heredocs fails an agent at each line that has the form of a heredoc, stands outside the
blocks of the text and warns of nothing (`Heredoc.Offends`).

Main statements: the failures on an agent are these lines, and it passes where there is none
(`Rule.evaluate_heredocs`). A fenced block may be put in where the text stands outside of all
others, and only moves the failures behind it down, whatever is in it
(`Rule.evaluate_fencedBlock`).
-/

namespace CorpusLint

namespace Heredoc

/-- A line of the text that writes by heredoc, outside all blocks and without a warning. -/
structure Offends (t : Text) (line : NumberedLine) : Prop where
  outside : ∃ d : Fence.Division, d.IsValid ∧ d.lines = t.lines ∧ line ∈ d.plainLines 1
  not_neverUse : ¬ "never use".toList <:+: line.text
  not_never : ¬ "NEVER".toList <:+: line.text
  writes : IsWriting line.text.trim

theorem isExempt_iff {line : Text} :
    isExempt line = true ↔ "never use".toList <:+: line ∨ "NEVER".toList <:+: line := by
  simp only [isExempt, exemptions, List.any_cons, List.any_nil, Bool.or_false, Bool.or_eq_true,
    Text.includes_iff]

theorem isOffence_iff {line : Text} :
    isOffence line = true ↔
      (¬ "never use".toList <:+: line ∧ ¬ "NEVER".toList <:+: line) ∧ IsWriting line.trim := by
  rw [isOffence, Bool.and_eq_true, writesByHeredoc_iff, Bool.not_eq_true', ← Bool.not_eq_true,
    isExempt_iff, not_or]

theorem mem_filter_isOffence_iff {t : Text} {line : NumberedLine} :
    line ∈ t.unfencedLines.filter (isOffence ·.text) ↔ Offends t line := by
  rw [List.mem_filter, isOffence_iff]
  constructor
  · rintro ⟨hline, ⟨hneverUse, hnever⟩, hwrites⟩
    exact ⟨Text.mem_unfencedLines_iff.1 hline, hneverUse, hnever, hwrites⟩
  · intro h
    exact ⟨Text.mem_unfencedLines_iff.2 h.outside, ⟨h.not_neverUse, h.not_never⟩, h.writes⟩

/-- The violations go down the text with the lines that they name. -/
theorem violations_renumber {d : Document} {a block b : Text} (hclosed : a.ClosesBlocks)
    (hwhole : a.IsWhole) (hblock : block.IsBlock) :
    violations { d with raw := a ++ block ++ b } =
      (violations { d with raw := a ++ b }).map fun w =>
        { w with line := w.line.map (renumber a.lines.length block.lines.length) } := by
  unfold violations
  rw [Text.unfencedLines_renumber hclosed hwhole hblock, List.filter_map, List.map_map,
    List.map_map]
  rfl

end Heredoc

/-- The verdict after `count` lines have been put in behind the first `above` of its document. -/
def Verdict.renumber (above count : Nat) (v : Verdict) : Verdict :=
  { v with line := v.line.map (CorpusLint.renumber above count) }

theorem Verdict.group_renumber (rule : Rule) {d e : Document} (hid : e.id = d.id) (praise : Text)
    (above count : Nat) (violations : List Violation) :
    group rule e praise (violations.map fun w =>
        { w with line := w.line.map (CorpusLint.renumber above count) }) =
      (group rule d praise violations).map (.renumber above count) := by
  cases violations with
  | nil => simp only [List.map_nil, group, hid, List.map_cons, renumber, Option.map_none]
  | cons w violations =>
    simp only [List.map_cons, group, hid, List.map_map, renumber]
    rfl

namespace Rule

/-- **The rule on heredocs flags exactly the offending lines.** It goes through the agents one by
one. The failures on an agent name the lines that offend, from top to bottom, and quote each of them
trimmed. There is a pass where no line offends, and only there. -/
theorem evaluate_heredocs (corpus : Corpus) (settings : RuleSettings) :
    noActiveHeredoc.evaluate corpus settings = .ok (corpus.agents.flatMap fun a =>
      noActiveHeredoc.verdictsOn corpus settings a.document) ∧
    ∀ d : Document, ∃ offences : List NumberedLine,
      (∀ line, line ∈ offences ↔ Heredoc.Offends d.raw line) ∧
      offences.Pairwise (fun line later => line.number < later.number) ∧
      (noActiveHeredoc.verdictsOn corpus settings d).filter Verdict.isFailure =
        offences.map (fun line => ⟨.noActiveHeredoc, .fail, d.id, some line.number,
          "active heredoc pattern: ".toList ++ line.text.trim⟩) ∧
      (((noActiveHeredoc.verdictsOn corpus settings d).filter (!·.isFailure)).length = 1 ↔
        ∀ line, ¬ Heredoc.Offends d.raw line) := by
  have hne : noActiveHeredoc ≠ .pinnedRoutes := by decide
  refine ⟨?_, fun d => ?_⟩
  · rw [evaluate_eq corpus settings hne]
    exact congrArg Except.ok (List.flatMap_map _ _ _)
  · refine ⟨d.raw.unfencedLines.filter (Heredoc.isOffence ·.text),
      fun _ => Heredoc.mem_filter_isOffence_iff, ?_, ?_, ?_⟩
    · exact (Text.pairwise_numberFrom 1 d.raw.lines).sublist
        (List.filter_sublist.trans (Fence.outside_sublist none _))
    · rw [verdictsOn, Verdict.filter_isFailure_group]
      exact List.map_map
    · have hviolations : noActiveHeredoc.violations corpus settings d = [] ↔
          ∀ line, ¬ Heredoc.Offends d.raw line := by
        simp only [← Heredoc.mem_filter_isOffence_iff, ← List.eq_nil_iff_forall_not_mem]
        exact List.map_eq_nil_iff
      rw [verdictsOn, Verdict.filter_not_isFailure_group, ← hviolations]
      split
      · next hnil => exact iff_of_true rfl hnil
      · next hsome => exact iff_of_false Nat.zero_ne_one hsome

/-! ## A block put in -/

section Block

variable {a block : Text}

theorem verdictsOn_block (corpus : Corpus) (settings : RuleSettings) (d : Document)
    (hclosed : a.ClosesBlocks) (hwhole : a.IsWhole) (hblock : block.IsBlock) (b : Text) :
    noActiveHeredoc.verdictsOn corpus settings { d with raw := a ++ block ++ b } =
      (noActiveHeredoc.verdictsOn corpus settings { d with raw := a ++ b }).map
        (.renumber a.lines.length block.lines.length) := by
  have hviolations := Heredoc.violations_renumber (d := d) (b := b) hclosed hwhole hblock
  have hid : Document.id { d with raw := a ++ block ++ b } =
      Document.id { d with raw := a ++ b } := rfl
  simp only [verdictsOn, violations, hviolations]
  exact Verdict.group_renumber noActiveHeredoc hid _ _ _ _

/-- **A block is invisible to the rule on heredocs.** The text stands outside of all blocks where
the first part of it ends, at a line feed or at the start, and a block is put in there. Then the
lines outside blocks are those of the first part and those of the second, which are as many lines
further down as stand above them. The rule says of the agent what it said before, with those lines
moved that the block has moved, and of all others exactly what it said. -/
theorem evaluate_fencedBlock (hclosed : a.ClosesBlocks) (hwhole : a.IsWhole)
    (hblock : block.IsBlock) (b : Text) (d : Document) (root : Text)
    (before after workflows commands : List Document) (capability : Text)
    (settings : RuleSettings) :
    let plain : Document := { d with raw := a ++ b }
    let fenced : Document := { d with raw := a ++ block ++ b }
    let corpus := Corpus.ofDocuments root (before ++ plain :: after) workflows commands capability
    let changed := Corpus.ofDocuments root (before ++ fenced :: after) workflows commands capability
    fenced.raw.unfencedLines =
        a.unfencedLines ++ b.unfencedLines.map (.shift (a ++ block).lines.length) ∧
      ∃ front group back,
        noActiveHeredoc.verdictsOn corpus settings plain = group ∧
        noActiveHeredoc.verdictsOn changed settings fenced =
          group.map (.renumber a.lines.length block.lines.length) ∧
        noActiveHeredoc.evaluate corpus settings = .ok (front ++ (group ++ back)) ∧
        noActiveHeredoc.evaluate changed settings = .ok (front ++
          (group.map (.renumber a.lines.length block.lines.length) ++ back)) := by
  intro plain fenced corpus changed
  have hne : noActiveHeredoc ≠ .pinnedRoutes := by decide
  have hagents := Corpus.agents_ofDocuments root before after workflows commands plain capability
  have hchanged := Corpus.agents_ofDocuments root before after workflows commands fenced capability
  have hname : (Agent.ofDocument capability fenced).name =
      (Agent.ofDocument capability plain).name := rfl
  have hreplaced : changed = { corpus with agents := changed.agents } := rfl
  have hmoved := verdictsOn_block corpus settings d hclosed hwhole hblock b
  obtain ⟨front, back, hplain, hfenced⟩ := exists_evaluate_replace settings hne hagents hname
  rw [← hchanged, ← hreplaced] at hfenced
  refine ⟨Text.unfencedLines_insert hclosed hwhole hblock b, front, _, back, rfl, hmoved, hplain,
    ?_⟩
  rw [hfenced]
  exact congrArg (fun group => Except.ok (front ++ (group ++ back))) hmoved

/-- Between two heredocs that fail, a block whose interior opens with the other marker, ends in runs
that are too short and writes by heredoc. The second failure moves down by its six lines. -/
theorem evaluate_fencedBlock_tildes :
    let a : Text := "\x60\x60\x60\n\x60\x60\x60\ncat << EOF > x\n".toList
    let block : Text := "~~~~ sh\n\x60\x60\x60\ncat << EOF > y\n~~~\n~~~~ x\n~~~~~\n".toList
    let b : Text := "cat <<EOF> z".toList
    let d : Document := ⟨.agent, "gsd-a".toList, [], []⟩
    let corpus := Corpus.ofDocuments [] ([] ++ { d with raw := a ++ b } :: []) [] [] []
    let changed := Corpus.ofDocuments [] ([] ++ { d with raw := a ++ block ++ b } :: []) [] [] []
    a.ClosesBlocks ∧ a.IsWhole ∧ block.IsBlock ∧
      noActiveHeredoc.verdictsOn corpus {} { d with raw := a ++ b } =
        [⟨.noActiveHeredoc, .fail, "agent:gsd-a".toList, some 3,
            "active heredoc pattern: cat << EOF > x".toList⟩,
          ⟨.noActiveHeredoc, .fail, "agent:gsd-a".toList, some 4,
            "active heredoc pattern: cat <<EOF> z".toList⟩] ∧
      noActiveHeredoc.verdictsOn changed {} { d with raw := a ++ block ++ b } =
        [⟨.noActiveHeredoc, .fail, "agent:gsd-a".toList, some 3,
            "active heredoc pattern: cat << EOF > x".toList⟩,
          ⟨.noActiveHeredoc, .fail, "agent:gsd-a".toList, some 10,
            "active heredoc pattern: cat <<EOF> z".toList⟩] := by
  intro a block b d corpus changed
  have hclosed : a.ClosesBlocks :=
    ⟨.block "\x60\x60\x60".toList [] "\x60\x60\x60".toList (.plain "cat << EOF > x".toList .done),
      ⟨⟨⟨'\x60', 3⟩, by decide, by decide, by decide⟩, by decide, trivial⟩, by decide, trivial⟩
  have hwhole : a.IsWhole := .inr ⟨"\x60\x60\x60\n\x60\x60\x60\ncat << EOF > x".toList, rfl⟩
  have hblock : block.IsBlock :=
    ⟨⟨"~~~~ sh\n\x60\x60\x60\ncat << EOF > y\n~~~\n~~~~ x\n~~~~~".toList, rfl⟩,
      "~~~~ sh".toList,
      ["\x60\x60\x60".toList, "cat << EOF > y".toList, "~~~".toList, "~~~~ x".toList],
      "~~~~~".toList,
      ⟨⟨⟨'~', 4⟩, by decide, by decide, by decide⟩, trivial⟩, by decide⟩
  obtain ⟨-, front, group, back, hplain, hfenced, -⟩ :=
    evaluate_fencedBlock hclosed hwhole hblock b d [] [] [] [] [] [] {}
  refine ⟨hclosed, hwhole, hblock, by decide +kernel, ?_⟩
  rw [hfenced, ← hplain]
  decide +kernel

end Block

end Rule

end CorpusLint
