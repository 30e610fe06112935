import CorpusLint.Evaluation
import CorpusLint.Proofs.Frontmatter.Sections
import CorpusLint.Proofs.Spawn.Scan
import CorpusLint.Proofs.Text.LineEndings

/-!
# Documents under both kinds of line endings

`Document.crlf` puts a carriage return in front of every line feed of a document. A document without
carriage returns keeps the lines of its text and of its header, and the parts of both that have no
line ending. The rules read nothing else, apart from the rule on spawn targets: every other one
finds the same things wrong (`violations_crlf`). A target may run over several lines and then
changes with the text; apart from that the scan finds the same spawns in the same lines
(`scan_crlf`).
-/

namespace CorpusLint

/-! ## Spawns -/

namespace Spawn

/-- The same spawn in the changed text. -/
def crlf (s : Spawn) : Spawn :=
  ⟨s.place.crlf, s.target.crlf⟩

theorem crlf_written (target : Text) : (written target).crlf = written target.crlf := by
  have hopening : opening.crlf = opening := rfl
  rw [written, Text.crlf_append, Text.crlf_append, hopening]
  rfl

theorem IsTarget.crlf {target : Text} (h : IsTarget target) : IsTarget target.crlf := by
  refine ⟨fun hnil => h.1 (Text.crlf_eq_nil_iff.1 hnil), fun hq => h.2 ?_⟩
  exact (Text.mem_crlf_iff (by decide)).1 hq

/-- No spawn comes into being: its quotes and its label have no line endings. -/
theorem target?_crlf_eq_none {t : Text} (h : target? t = none) : target? t.crlf = none := by
  cases hchanged : target? t.crlf with
  | none => rfl
  | some changed =>
    obtain ⟨⟨hne, hq⟩, rest, hrest⟩ := target?_eq_some_iff.1 hchanged
    have hsplit : t.crlf = (label ++ '\"' :: changed) ++ '\"' :: rest := by
      rw [← hrest, written_append]
      simp [opening]
    obtain ⟨spawn, after, rfl, hspawn, -⟩ :=
      Text.exists_of_crlf_eq_append_cons (by decide) (by decide) hsplit
    obtain ⟨start, target, rfl, hstart, rfl⟩ :=
      Text.exists_of_crlf_eq_append_cons (by decide) (by decide) hspawn
    have hlabel : start = label := by
      have hfeed : '\n' ∉ start := by
        rw [← Text.mem_crlf_iff (by decide), hstart]
        decide
      rwa [Text.crlf_of_notMem hfeed] at hstart
    have htarget : IsTarget target :=
      ⟨fun hnil => hne (Text.crlf_eq_nil_iff.2 hnil),
        fun hmem => hq ((Text.mem_crlf_iff (by decide)).2 hmem)⟩
    have hfound := target?_written_append htarget after
    rw [written_append, opening, ← hlabel] at hfound
    simp only [List.append_assoc, List.cons_append, List.nil_append] at hfound h
    rw [hfound] at h
    cases h

theorem Scanned.crlf {seen t : Text} {spawns : List Spawn} (h : Scanned seen t spawns) :
    Scanned (Text.crlf seen.reverse).reverse t.crlf (spawns.map Spawn.crlf) := by
  induction h with
  | done seen => exact .done _
  | @found seen rest target _ htarget _ ih =>
    rw [List.reverse_append, List.reverse_reverse, Text.crlf_append, List.reverse_append,
      crlf_written] at ih
    have hfound := Scanned.found htarget.crlf ih
    rw [← crlf_written, ← Text.crlf_append] at hfound
    exact hfound
  | @passed seen t c _ hnone _ ih =>
    have hchanged := target?_crlf_eq_none hnone
    rw [List.reverse_cons, Text.crlf_append, List.reverse_append] at ih
    by_cases hc : c = '\n'
    · subst hc
      exact .passed rfl (.passed rfl ih)
    · rw [Text.crlf_cons _ hc] at hchanged ih ⊢
      exact .passed hchanged ih

/-- **The scan finds the same spawns.** -/
theorem scan_crlf (t : Text) : scan t.crlf = (scan t).map Spawn.crlf :=
  (scanned_iff.1 (scanned_scan t).crlf).symm

end Spawn

/-! ## Documents -/

/-! ## What the rules read -/

namespace Document

/-- The document with a carriage return in front of every line feed. -/
def crlf (d : Document) : Document :=
  { d with raw := d.raw.crlf }

@[simp] theorem id_crlf (d : Document) : d.crlf.id = d.id := rfl

theorem header_crlf (d : Document) : d.crlf.header = d.header.crlf :=
  congrArg Sections.header (Text.split_crlf d.raw)

variable {d : Document}

theorem return_notMem_header (h : '\r' ∉ d.raw) : '\r' ∉ d.header :=
  fun hmem => h ((Frontmatter.infix_header d.raw).subset hmem)

theorem lines_header_crlf (h : '\r' ∉ d.raw) : d.crlf.header.lines = d.header.lines := by
  rw [header_crlf, Text.lines_crlf (return_notMem_header h)]

theorem header_includes_crlf (h : '\r' ∉ d.raw) (part : Text) (hreturn : '\r' ∉ part)
    (hfeed : '\n' ∉ part) : d.crlf.header.includes part = d.header.includes part := by
  rw [header_crlf, Text.includes_crlf (return_notMem_header h) hreturn hfeed]

theorem numberedLines_crlf (h : '\r' ∉ d.raw) :
    d.crlf.raw.numberedLines = d.raw.numberedLines :=
  congrArg (Text.numberFrom 1) (Text.lines_crlf h)

theorem unfencedLines_crlf (h : '\r' ∉ d.raw) :
    d.crlf.raw.unfencedLines = d.raw.unfencedLines :=
  congrArg (Fence.outside none) (numberedLines_crlf h)

theorem skills_crlf (h : '\r' ∉ d.raw) : d.crlf.skills = d.skills := by
  rw [skills, Frontmatter.listItems, lines_header_crlf h]
  rfl

end Document

/-! ## What is wrong with a document -/

section Violations

variable {d : Document}

theorem Heredoc.missingWarning_crlf (h : '\r' ∉ d.raw) :
    missingWarning d.crlf = missingWarning d := by
  have hwarning : d.crlf.raw.includes warning = d.raw.includes warning :=
    Text.includes_crlf h (by decide) (by decide)
  rw [missingWarning, missingWarning, hwarning]

theorem Heredoc.violations_crlf (h : '\r' ∉ d.raw) : violations d.crlf = violations d := by
  rw [violations, violations, Document.unfencedLines_crlf h]

theorem Header.missingSkills_crlf (h : '\r' ∉ d.raw) : missingSkills d.crlf = missingSkills d := by
  rw [missingSkills, missingSkills, Frontmatter.hasField, Frontmatter.hasField,
    Document.lines_header_crlf h]

theorem Header.misnamedSkills_crlf (h : '\r' ∉ d.raw) :
    misnamedSkills d.crlf = misnamedSkills d := by
  rw [misnamedSkills, misnamedSkills, Document.skills_crlf h]

theorem Header.missingHooks_crlf (h : '\r' ∉ d.raw) : missingHooks d.crlf = missingHooks d := by
  have hmark := Document.header_includes_crlf h hooksMark (by decide) (by decide)
  rw [missingHooks, missingHooks, hmark]

theorem Header.missingName_crlf (h : '\r' ∉ d.raw) : missingName d.crlf = missingName d := by
  have hname := Document.header_includes_crlf h "name:".toList (by decide) (by decide)
  rw [missingName, missingName, hname]

theorem Header.missingFields_crlf {required : List Text} (h : '\r' ∉ d.raw)
    (hfields : ∀ field ∈ required, '\r' ∉ field ∧ '\n' ∉ field) :
    missingFields required d.crlf = missingFields required d := by
  have habsent : absentFields required d.crlf.header = absentFields required d.header := by
    refine List.filter_congr fun field hfield => ?_
    obtain ⟨name, hname, rfl⟩ := List.mem_map.1 hfield
    obtain ⟨hreturn, hfeed⟩ := hfields name hname
    rw [Document.header_includes_crlf h _ (by simp [hreturn]) (by simp [hfeed])]
  rw [missingFields, missingFields, habsent]

theorem Spawn.legacy_crlf (h : '\r' ∉ d.raw) : legacy d.crlf = legacy d := by
  rw [legacy, legacy, Document.numberedLines_crlf h]

/-- A target that runs over several lines is unknown before and after. -/
theorem Spawn.contains_crlf {known : List Text} (hknown : ∀ name ∈ known, '\n' ∉ name)
    (target : Text) : known.contains target.crlf = known.contains target := by
  by_cases hfeed : '\n' ∈ target
  · -- neither form can be known
    have hchanged : '\n' ∈ target.crlf := (Text.mem_crlf_iff (by decide)).2 hfeed
    rw [Bool.eq_iff_iff, List.contains_iff_mem, List.contains_iff_mem]
    exact ⟨fun hmem => absurd hchanged (hknown _ hmem), fun hmem => absurd hfeed (hknown _ hmem)⟩
  · rw [Text.crlf_of_notMem hfeed]

/-- The same spawns are unresolved, in the same lines. Only their targets change. -/
theorem Spawn.unresolved_crlf {known : List Text} (hknown : ∀ name ∈ known, '\n' ∉ name)
    (d : Document) : unresolved known d.crlf =
      ((scan d.raw).filter (!known.contains ·.target)).map fun spawn =>
        ⟨some spawn.place.lineNumber, complaint spawn.target.crlf spawn.place.line⟩ := by
  have hpred : ((fun spawn : Spawn => !known.contains spawn.target) ∘ Spawn.crlf) =
      fun spawn => !known.contains spawn.target :=
    funext fun spawn => congrArg Bool.not (contains_crlf hknown spawn.target)
  rw [unresolved, Document.crlf, scan_crlf, List.filter_map, hpred, List.map_map]
  refine List.map_congr_left fun spawn _ => ?_
  simp only [Function.comp, Spawn.crlf, unknownTarget, Cursor.lineNumber_crlf, Cursor.line_crlf]

/-- **Every rule but one finds the same things wrong.** The rule on spawn targets quotes a target,
which may have line endings of its own. -/
theorem Rule.violations_crlf {r : Rule} {settings : RuleSettings} {corpus changed : Corpus}
    (hr : r ≠ .spawnTargets) (h : '\r' ∉ d.raw)
    (hfields : ∀ field ∈ settings.requiredFields, '\r' ∉ field ∧ '\n' ∉ field) :
    r.violations changed settings d.crlf = r.violations corpus settings d := by
  cases r with
  | antiHeredocInstruction => exact Heredoc.missingWarning_crlf h
  | noActiveHeredoc => exact Heredoc.violations_crlf h
  | skillsField => exact Header.missingSkills_crlf h
  | skillNaming => exact Header.misnamedSkills_crlf h
  | hooksCommented => exact Header.missingHooks_crlf h
  | readOnlyParses => exact Header.missingName_crlf h
  | noLegacySpawn => exact Spawn.legacy_crlf h
  | spawnTargets => exact absurd rfl hr
  | pinnedRoutes => rfl
  | requiredFields => exact Header.missingFields_crlf h hfields

end Violations

end CorpusLint
