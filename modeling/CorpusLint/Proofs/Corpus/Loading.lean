import CorpusLint.Corpus.Loading
import CorpusLint.Proofs.Except
import Mathlib.Data.List.Nodup

/-!
# What is read from a disk

A directory lists each name once, and within one collection the name of a file and that of its
document determine each other (`memberName?_eq_some_iff`). So no two documents of a collection have
one name (`nodup_names_of_load`).

Reading a collection fails on a missing directory that is needed and on a member that is not UTF-8
(`load_eq_error_iff`). Of a corpus only the directory of the agents is needed, and its absence is
noticed first (`Corpus.load_eq_error_iff`).
-/

namespace CorpusLint

/-! ## Directories -/

theorem nodup_eraseDups (names : List Text) : names.eraseDups.Nodup := by
  induction hn : names.length using Nat.strongRecOn generalizing names with
  | _ n ih =>
    subst hn
    cases names with
    | nil => simp
    | cons name names =>
      have hlength := List.length_filter_le (fun other => !other == name) names
      rw [List.eraseDups_cons, List.nodup_cons]
      refine ⟨by simp, ih _ ?_ _ rfl⟩
      rw [List.length_cons]
      omega

theorem FileTree.nodup_listing (entries : List (Text × FileTree)) :
    ((listing entries).map Prod.fst).Nodup := by
  unfold listing
  rw [List.map_filterMap]
  apply List.Nodup.filterMap _ (nodup_eraseDups _)
  intro name other found hname hother
  simp only [Option.map_map, Option.mem_def, Option.map_eq_some_iff, Function.comp_apply] at *
  obtain ⟨_, _, rfl⟩ := hname
  obtain ⟨_, _, rfl⟩ := hother
  rfl

theorem Disk.nodup_of_directory? {disk : Disk} {path : Text} {entries : List (Text × FileTree)}
    (h : disk.directory? path = some entries) : (entries.map Prod.fst).Nodup := by
  unfold directory? at h
  split at h
  · obtain rfl := Option.some.inj h
    exact (FileTree.nodup_listing _).sublist (List.filter_sublist.map Prod.fst)
  · cases h

theorem Path.byteSize_le_join (left right : Text) :
    right.byteSize ≤ (Path.join left right).byteSize := by
  unfold join
  split
  · exact Nat.le_refl _
  · split
    · rw [Text.byteSize_append]
      exact Nat.le_add_left _ _
    · rw [Text.byteSize_append, Text.byteSize_cons]
      omega

theorem Disk.fits_of_directory? {disk : Disk} {path : Text} {entries : List (Text × FileTree)}
    (h : disk.directory? path = some entries) :
    ∀ entry ∈ entries, Path.fits (Path.join path entry.1) = true := by
  unfold directory? at h
  split at h
  · obtain rfl := Option.some.inj h
    exact fun entry hentry => (List.mem_filter.1 hentry).2
  · cases h

/-! ## Members -/

namespace CollectionSource

variable {disk : Disk} {source : CollectionSource}

/-- The name of a file is that of its document, a dot and the extension. -/
theorem memberName?_eq_some_iff {fileName name : Text} :
    source.memberName? fileName = some name ↔
      source.start.all (List.isPrefixOf · fileName) = true ∧ name ≠ [] ∧
        fileName = name ++ '.' :: source.extension := by
  unfold memberName?
  constructor
  · intro h
    split at h
    · next hstart =>
      split at h
      · cases h
      · cases h
      · next stem hempty hdrop =>
        obtain rfl := Option.some.inj h
        exact ⟨hstart, hempty, Text.dropFinish?_eq_some_iff.1 hdrop⟩
    · cases h
  · rintro ⟨hstart, hne, hfile⟩
    rw [if_pos hstart, Text.dropFinish?_eq_some_iff.2 hfile]
    cases name with
    | nil => exact absurd rfl hne
    | cons c name => rfl

theorem nodup_members {entries : List (Text × FileTree)} (h : (entries.map Prod.fst).Nodup) :
    ((source.members entries).map Prod.fst).Nodup := by
  rw [List.Nodup, List.pairwise_map] at h ⊢
  unfold members
  rw [List.pairwise_filterMap]
  apply h.imp
  rintro ⟨fileName, node⟩ ⟨otherName, other⟩ hne member hmember more hmore hname
  apply hne
  cases node with
  | directory => cases hmember
  | file bytes =>
    cases other with
    | directory => cases hmore
    | file others =>
      simp only [Option.map_eq_some_iff] at hmember hmore
      obtain ⟨name, hfile, rfl⟩ := hmember
      obtain ⟨again, hother, rfl⟩ := hmore
      obtain rfl : name = again := hname
      rw [(memberName?_eq_some_iff.1 hfile).2.2, (memberName?_eq_some_iff.1 hother).2.2]

/-- A path to a member is short enough, and so is its name. -/
theorem byteSize_of_mem_members {entries : List (Text × FileTree)}
    (h : disk.directory? source.root = some entries) {member : Text × Text × ByteArray}
    (hmember : member ∈ source.members entries) : member.1.byteSize ≤ Path.maxBytes := by
  obtain ⟨⟨fileName, node⟩, hentry, hnode⟩ := List.mem_filterMap.1 hmember
  cases node with
  | directory => cases hnode
  | file bytes =>
    obtain ⟨name, hname, rfl⟩ := Option.map_eq_some_iff.1 hnode
    obtain ⟨-, -, hfile⟩ := memberName?_eq_some_iff.1 hname
    have hfits := of_decide_eq_true (Disk.fits_of_directory? h _ hentry)
    calc name.byteSize ≤ fileName.byteSize := by simp [hfile]
      _ ≤ (Path.join source.root fileName).byteSize := Path.byteSize_le_join _ _
      _ ≤ Path.maxBytes := hfits

/-- Some member of the directory is not UTF-8. -/
def HoldsUnreadable (disk : Disk) (source : CollectionSource) : Prop :=
  ∃ entries, disk.directory? source.root = some entries ∧
    ∃ member ∈ source.members entries, Text.ofUtf8? member.2.2 = none

/-! ## Reading them -/

theorem read_eq_ok_iff {name fileName : Text} {bytes : ByteArray} {d : Document} :
    source.read (name, fileName, bytes) = .ok d ↔ ∃ raw, Text.ofUtf8? bytes = some raw ∧
      d = ⟨source.collection, name, Path.join source.root fileName, raw⟩ := by
  simp only [read]
  cases Text.ofUtf8? bytes with
  | none => simp
  | some raw => simp [eq_comm]

theorem read_eq_error_iff {member : Text × Text × ByteArray} {failure : Failure} :
    source.read member = .error failure ↔
      Text.ofUtf8? member.2.2 = none ∧ failure = .invalidUtf8 := by
  obtain ⟨name, fileName, bytes⟩ := member
  simp only [read]
  cases Text.ofUtf8? bytes with
  | none => simp [eq_comm]
  | some raw => simp

theorem mapM_read_cons (member : Text × Text × ByteArray)
    (members : List (Text × Text × ByteArray)) :
    (member :: members).mapM source.read =
      match source.read member, members.mapM source.read with
      | .error failure, _ => .error failure
      | .ok _, .error failure => .error failure
      | .ok d, .ok others => .ok (d :: others) := by
  rw [List.mapM_cons]
  cases source.read member with
  | error failure => rfl
  | ok d => cases members.mapM source.read <;> rfl

theorem mapM_read_eq_error_iff {members : List (Text × Text × ByteArray)} {failure : Failure} :
    members.mapM source.read = .error failure ↔
      (∃ member ∈ members, Text.ofUtf8? member.2.2 = none) ∧ failure = .invalidUtf8 := by
  induction members with
  | nil => simp [pure, Except.pure]
  | cons member members ih =>
    have hreadable : ∀ d, source.read member = .ok d → Text.ofUtf8? member.2.2 ≠ none := by
      intro d hread hnone
      rw [read_eq_error_iff.2 ⟨hnone, rfl⟩] at hread
      cases hread
    rw [mapM_read_cons, List.exists_mem_cons_iff]
    split
    · next cause hread =>
      obtain ⟨hnone, rfl⟩ := read_eq_error_iff.1 hread
      simp [hnone, eq_comm]
    · next d cause hread hrest => simp only [hreadable d hread, false_or, ← ih, hrest]
    · next d others hread hrest =>
      rw [hrest] at ih
      simp only [hreadable d hread, false_or, ← ih, reduceCtorEq]

theorem filed_of_mapM_read {members : List (Text × Text × ByteArray)} {documents : List Document}
    (h : members.mapM source.read = .ok documents) :
    documents.map Document.name = members.map Prod.fst ∧
      ∀ d ∈ documents, d.collection = source.collection := by
  have hread := except_mapM_eq_ok_iff.1 h
  clear h
  induction hread with
  | nil => simp
  | @cons member d members documents hread _ ih =>
    obtain ⟨name, fileName, bytes⟩ := member
    obtain ⟨raw, -, rfl⟩ := read_eq_ok_iff.1 hread
    rw [List.map_cons, List.map_cons, ih.1]
    exact ⟨rfl, List.forall_mem_cons.2 ⟨rfl, ih.2⟩⟩

/-! ## Collections -/

/-- What a collection is read from: the members of its directory, or nothing. -/
theorem load_eq_ok {documents : List Document} (h : source.load disk = .ok documents) :
    (disk.directory? source.root = none ∧ documents = []) ∨
      ∃ entries found, disk.directory? source.root = some entries ∧
        (source.members entries).mapM source.read = .ok found ∧
        documents = found.mergeSort fun d e => d.name.le e.name := by
  unfold load at h
  cases hentries : disk.directory? source.root with
  | none =>
    simp only [hentries] at h
    split at h
    · cases h
    · exact .inl ⟨rfl, (Except.ok.inj h).symm⟩
  | some entries =>
    simp only [hentries] at h
    cases hread : (source.members entries).mapM source.read with
    | error failure =>
      rw [hread] at h
      cases h
    | ok found =>
      rw [hread] at h
      exact .inr ⟨entries, found, rfl, hread, (Except.ok.inj h).symm⟩

theorem collection_of_load {documents : List Document} (h : source.load disk = .ok documents) :
    ∀ d ∈ documents, d.collection = source.collection := by
  intro d hd
  rcases load_eq_ok h with ⟨-, rfl⟩ | ⟨entries, found, -, hread, rfl⟩
  · cases hd
  · exact (filed_of_mapM_read hread).2 d (List.mem_mergeSort.1 hd)

/-- No two documents of a collection have one name. -/
theorem nodup_names_of_load {documents : List Document} (h : source.load disk = .ok documents) :
    (documents.map Document.name).Nodup := by
  rcases load_eq_ok h with ⟨-, rfl⟩ | ⟨entries, found, hentries, hread, rfl⟩
  · exact List.nodup_nil
  · have hperm := (List.mergeSort_perm found fun d e => d.name.le e.name).map Document.name
    rw [hperm.nodup_iff, (filed_of_mapM_read hread).1]
    exact nodup_members (Disk.nodup_of_directory? hentries)

theorem byteSize_name_of_load {documents : List Document} (h : source.load disk = .ok documents) :
    ∀ d ∈ documents, d.name.byteSize ≤ Path.maxBytes := by
  intro d hd
  rcases load_eq_ok h with ⟨-, rfl⟩ | ⟨entries, found, hentries, hread, rfl⟩
  · cases hd
  · have hname := List.mem_map_of_mem (f := Document.name) (List.mem_mergeSort.1 hd)
    rw [(filed_of_mapM_read hread).1] at hname
    obtain ⟨member, hmember, hsame⟩ := List.mem_map.1 hname
    rw [← hsame]
    exact byteSize_of_mem_members hentries hmember

theorem load_eq_error_iff {failure : Failure} :
    source.load disk = .error failure ↔
      (disk.directory? source.root = none ∧ source.required = true ∧
        failure = .missingDirectory source.collection source.root) ∨
      (source.HoldsUnreadable disk ∧ failure = .invalidUtf8) := by
  unfold load HoldsUnreadable
  cases disk.directory? source.root with
  | none =>
    cases source.required with
    | true => simp [eq_comm]
    | false => simp
  | some entries =>
    have hread := @mapM_read_eq_error_iff source (source.members entries) failure
    simp only [reduceCtorEq, false_and, false_or, Option.some.injEq, exists_eq_left']
    rw [← hread]
    cases (source.members entries).mapM source.read <;> simp [Except.map]

theorem HoldsUnreadable.isSome_directory (h : source.HoldsUnreadable disk) :
    (disk.directory? source.root).isSome := by
  obtain ⟨entries, hentries, -⟩ := h
  rw [hentries]
  rfl

theorem not_holdsUnreadable_of_load {documents : List Document}
    (h : source.load disk = .ok documents) : ¬ source.HoldsUnreadable disk := by
  intro hunreadable
  rw [load_eq_error_iff.2 (.inr ⟨hunreadable, rfl⟩)] at h
  cases h

theorem isSome_directory_of_load {documents : List Document} (hrequired : source.required = true)
    (h : source.load disk = .ok documents) : (disk.directory? source.root).isSome := by
  rw [Option.isSome_iff_ne_none]
  intro hnone
  rw [load_eq_error_iff.2 (.inl ⟨hnone, hrequired, rfl⟩)] at h
  cases h

/-- A collection that may be missing fails on its members only. -/
theorem load_eq_error_of_optional {failure : Failure} (hoptional : source.required = false)
    (h : source.load disk = .error failure) :
    source.HoldsUnreadable disk ∧ failure = .invalidUtf8 := by
  rcases load_eq_error_iff.1 h with ⟨-, hrequired, -⟩ | hunreadable
  · rw [hoptional] at hrequired
    cases hrequired
  · exact hunreadable

end CollectionSource

/-! ## Corpora -/

namespace CollectionSettings

/-- The three collections, in the order in which they are read. -/
def sources (s : CollectionSettings) (root : Text) : List CollectionSource :=
  [s.agentSource root, s.workflowSource root, s.commandSource root]

end CollectionSettings

namespace Corpus

variable {disk : Disk} {root : Text} {settings : Settings} {corpus : Corpus}

theorem load_eq_ok (h : load disk root settings = .ok corpus) :
    ∃ agents workflows commands,
      (settings.collections.agentSource root).load disk = .ok agents ∧
      (settings.collections.workflowSource root).load disk = .ok workflows ∧
      (settings.collections.commandSource root).load disk = .ok commands ∧
      corpus = ofDocuments root agents workflows commands settings.rules.writeCapability := by
  unfold load at h
  split at h
  · cases h
  · next agents hagents =>
    split at h
    · cases h
    · next workflows hworkflows =>
      split at h
      · cases h
      · next commands hcommands =>
        exact ⟨agents, workflows, commands, hagents, hworkflows, hcommands,
          (Except.ok.inj h).symm⟩

theorem byteSize_name_of_load (h : load disk root settings = .ok corpus) :
    ∀ a ∈ corpus.agents, a.name.byteSize ≤ Path.maxBytes := by
  obtain ⟨agents, _, _, hagents, -, -, rfl⟩ := load_eq_ok h
  exact List.forall_mem_map.2 (CollectionSource.byteSize_name_of_load hagents)

theorem load_eq_error_iff {failure : Failure} :
    load disk root settings = .error failure ↔
      (disk.directory? (settings.collections.agentSource root).root = none ∧
        failure = .missingDirectory .agent (settings.collections.agentSource root).root) ∨
      ((disk.directory? (settings.collections.agentSource root).root).isSome ∧
        (∃ source ∈ settings.collections.sources root, source.HoldsUnreadable disk) ∧
        failure = .invalidUtf8) := by
  have hsources : (∃ source ∈ settings.collections.sources root, source.HoldsUnreadable disk) ↔
      (settings.collections.agentSource root).HoldsUnreadable disk ∨
        (settings.collections.workflowSource root).HoldsUnreadable disk ∨
        (settings.collections.commandSource root).HoldsUnreadable disk := by
    simp [CollectionSettings.sources]
  rw [hsources]
  unfold load
  cases hagents : (settings.collections.agentSource root).load disk with
  | error cause =>
    rcases CollectionSource.load_eq_error_iff.1 hagents with ⟨hnone, -, rfl⟩ | ⟨hunreadable, rfl⟩
    · have hcollection : (settings.collections.agentSource root).collection = .agent := rfl
      rw [Except.error.injEq, eq_comm, hcollection]
      simp [hnone]
    · have hsome := hunreadable.isSome_directory
      have hne := Option.isSome_iff_ne_none.1 hsome
      rw [Except.error.injEq, eq_comm]
      simp [hunreadable, hsome, hne]
  | ok agents =>
    have hsome := CollectionSource.isSome_directory_of_load rfl hagents
    have hne := Option.isSome_iff_ne_none.1 hsome
    have hread := CollectionSource.not_holdsUnreadable_of_load hagents
    simp only [hne, hsome, hread, false_and, false_or, true_and]
    cases hworkflows : (settings.collections.workflowSource root).load disk with
    | error cause =>
      obtain ⟨hunreadable, rfl⟩ := CollectionSource.load_eq_error_of_optional rfl hworkflows
      rw [Except.error.injEq, eq_comm]
      simp [hunreadable]
    | ok workflows =>
      have hread := CollectionSource.not_holdsUnreadable_of_load hworkflows
      simp only [hread, false_or]
      cases hcommands : (settings.collections.commandSource root).load disk with
      | error cause =>
        obtain ⟨hunreadable, rfl⟩ := CollectionSource.load_eq_error_of_optional rfl hcommands
        rw [Except.error.injEq, eq_comm]
        simp [hunreadable]
      | ok commands =>
        have hread := CollectionSource.not_holdsUnreadable_of_load hcommands
        simp [hread]

end Corpus

end CorpusLint
