import CorpusLint.Proofs.Evaluation.Dependence
import CorpusLint.Proofs.Frontmatter.Sections

/-!
# Bodies have no say

The class of an agent, its skills and the verdicts of five rules are read off its header, and the
header ends with the second delimiter line (`Frontmatter.EndsHeader.split_append`). A body may hold
further delimiter lines, fields and list items: two texts that go on differently after their common
header make the same agent as far as the header decides.

Main statement: `Rule.evaluate_body`.
-/

namespace CorpusLint

section Body

variable {front : Text} (hfront : Frontmatter.EndsHeader front) (collection : Collection)
  (name path capability : Text)

include hfront

theorem Document.header_of_endsHeader (body : Text) :
    (Document.mk collection name path (front ++ body)).header =
      (Frontmatter.split front).header := by
  rw [header, hfront.split_append]

theorem Document.body_of_endsHeader (body : Text) :
    (Document.mk collection name path (front ++ body)).body = body := by
  rw [Document.body, hfront.split_append]

/-- **The text after the header has no say.** Two agents of one name whose texts have the part up to
the second delimiter line in common agree in header, class and skills, and each may stand for the
other where a rule is evaluated that reads headers. What follows this line is the body. -/
theorem Rule.evaluate_body (body other : Text) :
    let d : Document := ⟨collection, name, path, front ++ body⟩
    let e : Document := ⟨collection, name, path, front ++ other⟩
    let a := Agent.ofDocument capability d
    let b := Agent.ofDocument capability e
    d.body = body ∧ e.body = other ∧ d.header = e.header ∧ a.kind = b.kind ∧
      (InventoryEntry.ofAgent a).skills = (InventoryEntry.ofAgent b).skills ∧
      ∀ r : Rule, r.ReadsHeader → ∀ (corpus : Corpus) (settings : RuleSettings)
        (before after : List Agent), corpus.agents = before ++ a :: after →
          r.evaluate { corpus with agents := before ++ b :: after } settings =
            r.evaluate corpus settings := by
  intro d e a b
  have hheader : e.header = d.header := by
    rw [Document.header_of_endsHeader hfront, Document.header_of_endsHeader hfront]
  have hkind : b.kind = a.kind := congrArg (AgentClass.ofHeader capability) hheader
  refine ⟨Document.body_of_endsHeader hfront collection name path body,
    Document.body_of_endsHeader hfront collection name path other, hheader.symm, hkind.symm,
    Document.skills_of_header_eq hheader.symm, ?_⟩
  intro r hr corpus settings before after hagents
  have hname : b.name = a.name := rfl
  have hid : b.document.id = a.document.id := rfl
  apply evaluate_replace r hagents hname hkind
  intro _
  exact hr.verdictsOn_eq hid hheader

end Body

/-- A read-only agent whose body declares the write capability and a bad skill between delimiter
lines, and the same agent without a body. -/
theorem Rule.evaluate_body_delimiters :
    let front := "intro\n---\nname: gsd-a\ntools: Read\n- gsd-x\n---  \n".toList
    let body := "---\ntools: Write\n- gsd-y\n---\n---\n".toList
    let d : Document := ⟨.agent, "gsd-a".toList, [], front ++ body⟩
    let e : Document := ⟨.agent, "gsd-a".toList, [], front ++ []⟩
    let a := Agent.ofDocument "Write".toList d
    let b := Agent.ofDocument "Write".toList e
    let corpus : Corpus := ⟨[], [] ++ a :: [], [], []⟩
    Frontmatter.EndsHeader front ∧ d.body = body ∧ a.kind = b.kind ∧ b.kind = .readOnly ∧
      (InventoryEntry.ofAgent a).skills = ["gsd-x".toList] ∧
      skillNaming.evaluate { corpus with agents := [] ++ b :: [] } {} =
        skillNaming.evaluate corpus {} := by
  intro front body d e a b corpus
  have hfront : Frontmatter.EndsHeader front := ⟨by decide, by decide, by decide⟩
  obtain ⟨hbody, -, -, hkind, hskills, hevaluate⟩ :=
    evaluate_body hfront .agent "gsd-a".toList [] "Write".toList body []
  refine ⟨hfront, hbody, hkind, by decide +kernel, ?_, ?_⟩
  · rw [hskills]
    decide +kernel
  · exact hevaluate .skillNaming trivial corpus {} [] [] rfl

end CorpusLint
