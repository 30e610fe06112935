import CorpusLint.Evaluation
import CorpusLint.Proofs.Corpus.Loading
import CorpusLint.Proofs.Text.Separator

/-!
# The documents of a corpus

All documents of a corpus in one list, of which each rule looks at a part. A corpus is *filed* when
every document stands in the list of its own collection. A corpus that is read from a disk is filed
(`filed_load`), and it stays so with every document that is added (`Filed.add`). The word for a
collection has no colon in it, so that an identifier tells collection and name (`Document.id_inj`),
and the documents of a corpus from a disk have identifiers of their own (`nodup_ids_load`).
-/

namespace CorpusLint

namespace Corpus

/-- The documents of a corpus, collection by collection. -/
def documents (corpus : Corpus) : List Document :=
  corpus.agents.map Agent.document ++ corpus.orchestration

theorem documents_ofDocuments (root : Text) (agents workflows commands : List Document)
    (capability : Text) : (ofDocuments root agents workflows commands capability).documents =
      agents ++ (workflows ++ commands) := by
  have hagents : (agents.map (Agent.ofDocument capability)).map Agent.document = agents := by
    rw [List.map_map]
    exact List.map_id agents
  rw [documents, ofDocuments, hagents]
  rfl

theorem agents_ofDocuments (root : Text) (before after workflows commands : List Document)
    (d : Document) (capability : Text) :
    (ofDocuments root (before ++ d :: after) workflows commands capability).agents =
      before.map (Agent.ofDocument capability) ++
        Agent.ofDocument capability d :: after.map (Agent.ofDocument capability) := by
  rw [ofDocuments, List.map_append, List.map_cons]

end Corpus

theorem Scope.documents_sublist (corpus : Corpus) (s : Scope) :
    (s.documents corpus).Sublist corpus.documents := by
  cases s with
  | fileWritingAgents | readOnlyAgents =>
    refine List.Sublist.trans ?_ (List.sublist_append_left _ _)
    exact List.Sublist.map Agent.document List.filter_sublist
  | allAgents => exact List.sublist_append_left _ _
  | orchestration => exact List.sublist_append_right _ _
  | pinnedWorkflows => exact List.nil_sublist _

/-! ## Documents in their collections -/

namespace Corpus

/-- Every document stands in the list of its collection. -/
structure Filed (corpus : Corpus) : Prop where
  agents : ∀ a ∈ corpus.agents, a.document.collection = .agent
  workflows : ∀ d ∈ corpus.workflows, d.collection = .workflow
  commands : ∀ d ∈ corpus.commands, d.collection = .command

theorem filed_ofDocuments {root : Text} {agents workflows commands : List Document}
    {capability : Text} (hagents : ∀ d ∈ agents, d.collection = .agent)
    (hworkflows : ∀ d ∈ workflows, d.collection = .workflow)
    (hcommands : ∀ d ∈ commands, d.collection = .command) :
    (ofDocuments root agents workflows commands capability).Filed :=
  ⟨List.forall_mem_map.2 hagents, hworkflows, hcommands⟩

theorem Filed.add {corpus : Corpus} (h : corpus.Filed) (capability : Text) (d : Document) :
    (corpus.add capability d).Filed := by
  unfold Corpus.add
  split
  · next hd =>
    refine ⟨List.forall_mem_append.2 ⟨h.agents, ?_⟩, h.workflows, h.commands⟩
    exact List.forall_mem_singleton.2 hd
  · next hd =>
    refine ⟨h.agents, List.forall_mem_append.2 ⟨h.workflows, ?_⟩, h.commands⟩
    exact List.forall_mem_singleton.2 hd
  · next hd =>
    refine ⟨h.agents, h.workflows, List.forall_mem_append.2 ⟨h.commands, ?_⟩⟩
    exact List.forall_mem_singleton.2 hd

end Corpus

/-- **A corpus from a disk is filed.** -/
theorem Corpus.filed_load {disk : Disk} {root : Text} {settings : Settings} {corpus : Corpus}
    (h : Corpus.load disk root settings = .ok corpus) : corpus.Filed := by
  obtain ⟨agents, workflows, commands, hagents, hworkflows, hcommands, rfl⟩ := load_eq_ok h
  exact filed_ofDocuments (CollectionSource.collection_of_load hagents)
    (CollectionSource.collection_of_load hworkflows)
    (CollectionSource.collection_of_load hcommands)

/-! ## Identifiers -/

namespace Document

theorem id_inj {d e : Document} (h : d.id = e.id) :
    d.collection = e.collection ∧ d.name = e.name := by
  have hcolon : ∀ c : Collection, ':' ∉ c.name := by
    intro c
    cases c <;> decide
  obtain ⟨hcollection, hname⟩ := Text.append_cons_inj (hcolon d.collection) (hcolon e.collection) h
  refine ⟨?_, hname⟩
  revert hcollection
  cases d.collection <;> cases e.collection <;> decide

theorem nodup_map_id {documents : List Document} (h : (documents.map name).Nodup) :
    (documents.map id).Nodup := by
  rw [List.Nodup, List.pairwise_map] at h ⊢
  apply h.imp
  intro d e hne hid
  exact hne (id_inj hid).2

theorem disjoint_map_id {documents others : List Document} {c c' : Collection}
    (h : ∀ d ∈ documents, d.collection = c) (hothers : ∀ d ∈ others, d.collection = c')
    (hne : c ≠ c') : (documents.map id).Disjoint (others.map id) := by
  intro i hi hother
  obtain ⟨d, hd, rfl⟩ := List.mem_map.1 hi
  obtain ⟨e, he, hid⟩ := List.mem_map.1 hother
  apply hne
  rw [← h d hd, ← hothers e he]
  exact (id_inj hid).1.symm

end Document

/-- **A corpus from a disk has no two documents of one identifier**, whatever directories and file
names its collections share. -/
theorem Corpus.nodup_ids_load {disk : Disk} {root : Text} {settings : Settings} {corpus : Corpus}
    (h : Corpus.load disk root settings = .ok corpus) :
    (corpus.documents.map Document.id).Nodup := by
  obtain ⟨agents, workflows, commands, hagents, hworkflows, hcommands, rfl⟩ := load_eq_ok h
  have hfiledAgents : ∀ d ∈ agents, d.collection = .agent :=
    CollectionSource.collection_of_load hagents
  have hfiledWorkflows : ∀ d ∈ workflows, d.collection = .workflow :=
    CollectionSource.collection_of_load hworkflows
  have hfiledCommands : ∀ d ∈ commands, d.collection = .command :=
    CollectionSource.collection_of_load hcommands
  rw [documents_ofDocuments, List.map_append, List.map_append]
  apply List.Nodup.append
  · exact Document.nodup_map_id (CollectionSource.nodup_names_of_load hagents)
  · apply List.Nodup.append
    · exact Document.nodup_map_id (CollectionSource.nodup_names_of_load hworkflows)
    · exact Document.nodup_map_id (CollectionSource.nodup_names_of_load hcommands)
    · exact Document.disjoint_map_id hfiledWorkflows hfiledCommands (by decide)
  · rw [List.disjoint_append_right]
    exact ⟨Document.disjoint_map_id hfiledAgents hfiledWorkflows (by decide),
      Document.disjoint_map_id hfiledAgents hfiledCommands (by decide)⟩

end CorpusLint
