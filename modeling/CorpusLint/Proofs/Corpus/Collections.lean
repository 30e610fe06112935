import CorpusLint.Proofs.Corpus.Loading
import CorpusLint.Proofs.Sorting
import CorpusLint.Proofs.Text.Utf8

/-!
# The documents of a collection

A file is a member of a collection by its name, whatever else lies in the directory and in whatever
order (`CollectionSource.IsMember`). What is read is decided by the members: there is a document for
each, sorted by the bytes of its name, unless the bytes of one of them are no text
(`load_eq_ok_iff`).

Main statement: `CollectionSource.load_exact`.
-/

namespace CorpusLint

/-! ## Entries of a directory -/

theorem mem_of_lookup_eq_some {entries : List (Text × FileTree)} {name : Text} {node : FileTree}
    (h : entries.lookup name = some node) : (name, node) ∈ entries := by
  obtain ⟨before, after, rfl, -⟩ := List.lookup_eq_some_iff.1 h
  exact List.mem_append_right _ List.mem_cons_self

theorem FileTree.mem_listing_iff {entries : List (Text × FileTree)} {name : Text}
    {node : FileTree} : (name, node) ∈ listing entries ↔ entries.lookup name = some node := by
  unfold listing
  rw [List.mem_filterMap]
  constructor
  · rintro ⟨other, -, h⟩
    obtain ⟨found, hfound, hpair⟩ := Option.map_eq_some_iff.1 h
    obtain ⟨rfl, rfl⟩ := Prod.mk.inj hpair
    exact hfound
  · intro h
    have hname : name ∈ entries.map (·.1) := List.mem_map.2 ⟨_, mem_of_lookup_eq_some h, rfl⟩
    refine ⟨name, List.mem_eraseDups.2 hname, ?_⟩
    rw [h, Option.map_some]

/-- A path may stay where it is any number of times. -/
theorem FileTree.walk_replicate_dot (count : Nat) (components : List Text)
    (entries : List (Text × FileTree)) (above : List FileTree) :
    walk (List.replicate count ['.'] ++ components) (directory entries) above =
      walk components (directory entries) above := by
  induction count with
  | zero => rfl
  | succ count ih =>
    rw [List.replicate_succ, List.cons_append, ← ih]
    rfl

/-- Where no name occurs twice, each leads to its own node, in whatever order the entries are. -/
theorem lookup_eq_some_iff_mem {entries : List (Text × FileTree)}
    (h : (entries.map Prod.fst).Nodup) {name : Text} {node : FileTree} :
    entries.lookup name = some node ↔ (name, node) ∈ entries := by
  refine ⟨mem_of_lookup_eq_some, fun hnode => ?_⟩
  cases hfound : entries.lookup name with
  | none =>
    have hne := List.lookup_eq_none_iff.1 hfound _ hnode
    simp at hne
  | some found =>
    have hpair := List.inj_on_of_nodup_map h (mem_of_lookup_eq_some hfound) hnode rfl
    exact congrArg some (Prod.mk.inj hpair).2

namespace CollectionSource

variable {disk : Disk} {source : CollectionSource} {contents others : List (Text × FileTree)}
  {documents : List Document}

/-! ## Members -/

/-- The name of the file that a document of this name is read from. -/
def fileName (source : CollectionSource) (name : Text) : Text :=
  name ++ '.' :: source.extension

/-- Among the contents of the directory there is a file for the document of this name, which a path
from there is short enough for, and it has these bytes. -/
structure IsMember (source : CollectionSource) (contents : List (Text × FileTree)) (name : Text)
    (bytes : ByteArray) : Prop where
  file : contents.lookup (source.fileName name) = some (.file bytes)
  fits : Path.fits (Path.join source.root (source.fileName name)) = true
  start : ∀ start, source.start = some start → start <+: source.fileName name
  ne_nil : name ≠ []

/-- The document is one of the collection: it is read from the member of its name. -/
def Holds (source : CollectionSource) (contents : List (Text × FileTree)) (d : Document) : Prop :=
  ∃ bytes, source.IsMember contents d.name bytes ∧ d.raw.utf8 = bytes.data.toList ∧
    d.collection = source.collection ∧ d.path = Path.join source.root (source.fileName d.name)

/-- The bytes of some member are no text. -/
def IsUnreadable (source : CollectionSource) (contents : List (Text × FileTree)) : Prop :=
  ∃ name bytes, source.IsMember contents name bytes ∧ ∀ t : Text, t.utf8 ≠ bytes.data.toList

theorem start_all_iff {fileName : Text} :
    source.start.all (List.isPrefixOf · fileName) = true ↔
      ∀ start, source.start = some start → start <+: fileName := by
  cases source.start with
  | none => simp
  | some start => simp

theorem exists_directory? (hroot : disk source.root = some (.directory contents)) :
    ∃ entries, disk.directory? source.root = some entries ∧ ∀ name fileName bytes,
      (name, fileName, bytes) ∈ source.members entries ↔
        fileName = source.fileName name ∧ source.IsMember contents name bytes := by
  refine ⟨_, by rw [Disk.directory?, hroot], fun name file bytes => ?_⟩
  unfold members
  rw [List.mem_filterMap]
  constructor
  · rintro ⟨⟨listed, node⟩, hnode, h⟩
    obtain ⟨hlisted, hfits⟩ := List.mem_filter.1 hnode
    cases node with
    | directory => cases h
    | file found =>
      obtain ⟨stem, hstem, htriple⟩ := Option.map_eq_some_iff.1 h
      obtain ⟨rfl, hpair⟩ := Prod.mk.inj htriple
      obtain ⟨rfl, rfl⟩ := Prod.mk.inj hpair
      obtain ⟨hstart, hne, hname⟩ := memberName?_eq_some_iff.1 hstem
      obtain rfl : listed = source.fileName stem := hname
      exact ⟨rfl, FileTree.mem_listing_iff.1 hlisted, hfits, start_all_iff.1 hstart, hne⟩
  · rintro ⟨rfl, hmember⟩
    refine ⟨(source.fileName name, .file bytes), List.mem_filter.2 ⟨?_, hmember.fits⟩, ?_⟩
    · exact FileTree.mem_listing_iff.2 hmember.file
    · have hname := memberName?_eq_some_iff.2
        ⟨start_all_iff.2 hmember.start, hmember.ne_nil, rfl⟩
      exact Option.map_eq_some_iff.2 ⟨name, hname, rfl⟩

theorem IsMember.eq_of_name {name : Text} {bytes more : ByteArray}
    (h : source.IsMember contents name bytes) (hmore : source.IsMember contents name more) :
    bytes = more := by
  have hfile := h.file.symm.trans hmore.file
  exact FileTree.file.inj (Option.some.inj hfile)

/-- A member has the same bytes in whatever order the directory lists its contents. -/
theorem isMember_iff_of_perm (hperm : contents.Perm others)
    (hnodup : (contents.map Prod.fst).Nodup) {name : Text} {bytes : ByteArray} :
    source.IsMember others name bytes ↔ source.IsMember contents name bytes := by
  have hlookup : others.lookup (source.fileName name) = some (.file bytes) ↔
      contents.lookup (source.fileName name) = some (.file bytes) := by
    rw [lookup_eq_some_iff_mem hnodup,
      lookup_eq_some_iff_mem ((hperm.map Prod.fst).nodup_iff.1 hnodup), hperm.mem_iff]
  constructor
  · rintro ⟨hfile, hfits, hstart, hne⟩
    exact ⟨hlookup.1 hfile, hfits, hstart, hne⟩
  · rintro ⟨hfile, hfits, hstart, hne⟩
    exact ⟨hlookup.2 hfile, hfits, hstart, hne⟩

/-! ## Documents -/

theorem Holds.eq_of_name {d e : Document} (hd : source.Holds contents d)
    (he : source.Holds contents e) (hname : d.name = e.name) : d = e := by
  obtain ⟨bytes, hmember, hraw, hcollection, hpath⟩ := hd
  obtain ⟨more, hmore, hrawMore, hcollectionMore, hpathMore⟩ := he
  obtain ⟨c, name, path, raw⟩ := d
  obtain ⟨c', name', path', raw'⟩ := e
  dsimp only at *
  subst hname hcollection hpath hcollectionMore hpathMore
  obtain rfl := hmember.eq_of_name hmore
  rw [Text.utf8_inj.1 (hraw.trans hrawMore.symm)]

theorem holdsUnreadable_iff (hroot : disk source.root = some (.directory contents)) :
    source.HoldsUnreadable disk ↔ source.IsUnreadable contents := by
  obtain ⟨entries, hentries, hmembers⟩ := exists_directory? hroot
  unfold HoldsUnreadable IsUnreadable
  simp only [hentries, Option.some.injEq, exists_eq_left']
  constructor
  · rintro ⟨⟨name, file, bytes⟩, hlisted, hnone⟩
    exact ⟨name, bytes, ((hmembers _ _ _).1 hlisted).2, Text.ofUtf8?_eq_none_iff.1 hnone⟩
  · rintro ⟨name, bytes, hmember, hnone⟩
    exact ⟨_, (hmembers _ _ _).2 ⟨rfl, hmember⟩, Text.ofUtf8?_eq_none_iff.2 hnone⟩

theorem mem_of_load (hroot : disk source.root = some (.directory contents))
    (h : source.load disk = .ok documents) {d : Document} :
    d ∈ documents ↔ source.Holds contents d := by
  obtain ⟨entries, hentries, hmembers⟩ := exists_directory? hroot
  rcases load_eq_ok h with ⟨hnone, -⟩ | ⟨listed, found, hlisted, hread, rfl⟩
  · rw [hentries] at hnone
    cases hnone
  · obtain rfl := Option.some.inj (hentries.symm.trans hlisted)
    rw [List.mem_mergeSort, mem_of_except_mapM_eq_ok hread]
    constructor
    · rintro ⟨⟨name, file, bytes⟩, hlisted, hd⟩
      obtain ⟨rfl, hmember⟩ := (hmembers _ _ _).1 hlisted
      obtain ⟨raw, hraw, rfl⟩ := read_eq_ok_iff.1 hd
      exact ⟨bytes, hmember, Text.ofUtf8?_eq_some_iff.1 hraw, rfl, rfl⟩
    · rintro ⟨bytes, hmember, hraw, hcollection, hpath⟩
      refine ⟨_, (hmembers _ _ _).2 ⟨rfl, hmember⟩, read_eq_ok_iff.2 ⟨d.raw, ?_, ?_⟩⟩
      · exact Text.ofUtf8?_eq_some_iff.2 hraw
      · rw [← hcollection, ← hpath]

theorem pairwise_of_load (h : source.load disk = .ok documents) :
    documents.Pairwise fun d e => d.name.utf8 < e.name.utf8 := by
  have hnodup := nodup_names_of_load h
  rw [List.Nodup, List.pairwise_map] at hnodup
  rcases load_eq_ok h with ⟨-, rfl⟩ | ⟨entries, found, -, -, rfl⟩
  · exact List.Pairwise.nil
  · have hle : (fun d e : Document => d.name.le e.name) = fun d e => decide (d.name ≤ e.name) := by
      funext d e
      rw [Bool.eq_iff_iff, Text.le_iff, decide_eq_true_eq]
    rw [hle] at hnodup ⊢
    refine ((Sorting.pairwise_mergeSort found).and hnodup).imp ?_
    rintro d e ⟨hde, hne⟩
    exact Text.utf8_lt_utf8 (lt_of_le_of_ne hde hne)

/-- Lists that increase and hold the same documents are equal. -/
theorem eq_of_pairwise {found : List Document}
    (hfound : found.Pairwise fun d e => d.name.utf8 < e.name.utf8)
    (hdocuments : documents.Pairwise fun d e => d.name.utf8 < e.name.utf8)
    (h : ∀ d, d ∈ found ↔ d ∈ documents) : found = documents := by
  have hnodup : ∀ rows : List Document,
      rows.Pairwise (fun d e => d.name.utf8 < e.name.utf8) → rows.Nodup := by
    intro rows hrows
    refine hrows.imp ?_
    rintro d e hde rfl
    exact List.lt_irrefl _ hde
  refine List.Perm.eq_of_pairwise (fun d e _ _ hde hed => ?_) hfound hdocuments
    ((List.perm_ext_iff_of_nodup (hnodup _ hfound) (hnodup _ hdocuments)).2 h)
  exact absurd hed (List.lt_asymm hde)

/-- **What is read is decided by the members** of the directory. -/
theorem load_eq_ok_iff (hroot : disk source.root = some (.directory contents)) :
    source.load disk = .ok documents ↔ ¬ source.IsUnreadable contents ∧
      documents.Pairwise (fun d e => d.name.utf8 < e.name.utf8) ∧
        ∀ d, d ∈ documents ↔ source.Holds contents d := by
  constructor
  · intro h
    refine ⟨fun hunreadable => ?_, pairwise_of_load h, fun d => mem_of_load hroot h⟩
    exact not_holdsUnreadable_of_load h ((holdsUnreadable_iff hroot).2 hunreadable)
  · rintro ⟨hreadable, hpairwise, hmem⟩
    obtain ⟨entries, hentries, -⟩ := exists_directory? hroot
    cases h : source.load disk with
    | error failure =>
      rcases load_eq_error_iff.1 h with ⟨hnone, -⟩ | ⟨hunreadable, -⟩
      · rw [hentries] at hnone
        cases hnone
      · exact absurd ((holdsUnreadable_iff hroot).1 hunreadable) hreadable
    | ok found =>
      refine congrArg Except.ok (eq_of_pairwise (pairwise_of_load h) hpairwise fun d => ?_)
      rw [mem_of_load hroot h, hmem]

theorem load_eq_error_iff_isUnreadable (hroot : disk source.root = some (.directory contents))
    {failure : Failure} : source.load disk = .error failure ↔
      source.IsUnreadable contents ∧ failure = .invalidUtf8 := by
  obtain ⟨entries, hentries, -⟩ := exists_directory? hroot
  rw [load_eq_error_iff, holdsUnreadable_iff hroot, hentries]
  simp only [reduceCtorEq, false_and, false_or]

theorem load_congr {other : Disk} (hroot : disk source.root = some (.directory contents))
    (hother : other source.root = some (.directory others))
    (h : ∀ name bytes, source.IsMember others name bytes ↔ source.IsMember contents name bytes) :
    source.load other = source.load disk := by
  have hunreadable : source.IsUnreadable others ↔ source.IsUnreadable contents := by
    simp only [IsUnreadable, h]
  have hholds : ∀ d, source.Holds others d ↔ source.Holds contents d := by
    intro d
    simp only [Holds, h]
  cases hload : source.load disk with
  | error failure =>
    rw [load_eq_error_iff_isUnreadable hroot] at hload
    rwa [load_eq_error_iff_isUnreadable hother, hunreadable]
  | ok documents =>
    rw [load_eq_ok_iff hroot] at hload
    simpa only [load_eq_ok_iff hother, hunreadable, hholds] using hload

theorem load_of_missing (hroot : ∀ contents, disk source.root ≠ some (.directory contents)) :
    source.load disk =
      if source.required then .error (.missingDirectory source.collection source.root)
      else .ok [] := by
  have hnone : disk.directory? source.root = none := by
    unfold Disk.directory?
    split
    · next contents hsome => exact absurd hsome (hroot contents)
    · rfl
  rw [load, hnone]

theorem existsUnique_of_load (hroot : disk source.root = some (.directory contents))
    (h : source.load disk = .ok documents) {name : Text} {bytes : ByteArray}
    (hmember : source.IsMember contents name bytes) :
    ∃! d, d ∈ documents ∧ d.name = name := by
  have hreadable := ((load_eq_ok_iff hroot).1 h).1
  have hraw : ∃ raw : Text, raw.utf8 = bytes.data.toList := by
    by_contra hnone
    exact hreadable ⟨name, bytes, hmember, not_exists.1 hnone⟩
  obtain ⟨raw, hraw⟩ := hraw
  refine ⟨⟨source.collection, name, Path.join source.root (source.fileName name), raw⟩,
    ⟨(mem_of_load hroot h).2 ⟨bytes, hmember, hraw, rfl, rfl⟩, rfl⟩, ?_⟩
  rintro d ⟨hd, rfl⟩
  exact ((mem_of_load hroot h).1 hd).eq_of_name ⟨bytes, hmember, hraw, rfl, rfl⟩ rfl

/-- **Reading a collection is exact and free of order.** From a directory there is one document for
each member, with its name and text, and they are sorted by the bytes of the names. A member whose
bytes are no text is all that makes the reading fail, and that is a failure to read. Neither the
order of the contents nor those among them that are no members change the result. Where there is no
directory, one that is needed is reported as not found, and else there are no documents. -/
theorem load_exact (source : CollectionSource) (disk : Disk) :
    (∀ contents, disk source.root = some (.directory contents) →
      ((∃ failure, source.load disk = .error failure) ↔ source.IsUnreadable contents) ∧
      (∀ failure, source.load disk = .error failure → failure.kind = .io) ∧
      (∀ documents, source.load disk = .ok documents →
        documents.Pairwise (fun d e => d.name.utf8 < e.name.utf8) ∧
        (∀ d, d ∈ documents ↔ source.Holds contents d) ∧
        ∀ name bytes, source.IsMember contents name bytes → ∃! d, d ∈ documents ∧ d.name = name) ∧
      ∀ (other : Disk) others, other source.root = some (.directory others) →
        ((∀ name bytes,
            source.IsMember others name bytes ↔ source.IsMember contents name bytes) ∨
          (contents.map Prod.fst).Nodup ∧ contents.Perm others) →
        source.load other = source.load disk) ∧
    ((∀ contents, disk source.root ≠ some (.directory contents)) →
      (source.required = true →
        ∃ failure, source.load disk = .error failure ∧ failure.kind = .notFound) ∧
      (source.required = false → source.load disk = .ok [])) := by
  refine ⟨fun contents hroot => ⟨?_, ?_, fun documents h => ⟨?_, ?_, ?_⟩, ?_⟩,
    fun hroot => ⟨?_, ?_⟩⟩
  · simp only [load_eq_error_iff_isUnreadable hroot, exists_and_left, exists_eq, and_true]
  · intro failure h
    obtain ⟨-, rfl⟩ := (load_eq_error_iff_isUnreadable hroot).1 h
    rfl
  · exact pairwise_of_load h
  · exact fun d => mem_of_load hroot h
  · exact fun name bytes hmember => existsUnique_of_load hroot h hmember
  · rintro other others hother (hsame | ⟨hnodup, hperm⟩)
    · exact load_congr hroot hother hsame
    · exact load_congr hroot hother fun _ _ => isMember_iff_of_perm hperm hnodup
  · intro hrequired
    rw [load_of_missing hroot, if_pos hrequired]
    exact ⟨_, rfl, rfl⟩
  · intro hrequired
    rw [load_of_missing hroot, hrequired]
    rfl

/-- The start of the names overlaps the extension. Three more files are no members: one begins
otherwise, one has no extension and one nothing in front of it, and neither of them is UTF-8. The
other directory has its contents in the opposite order. -/
theorem load_exact_overlap :
    let source : CollectionSource := ⟨.agent, "d".toList, some "a.".toList, "x.md".toList, true⟩
    let contents : List (Text × FileTree) :=
      [("b.x.md".toList, .file ⟨#[255]⟩), ("a.b.x.md".toList, .file ⟨#[50]⟩),
        ("a.d".toList, .file ⟨#[255]⟩), ("a.c.x.md".toList, .directory []),
        ("a.x.md".toList, .file ⟨#[195, 169]⟩), (".x.md".toList, .file ⟨#[255]⟩)]
    let tree : FileTree := .directory [("d".toList, .directory contents)]
    let turned : FileTree := .directory [("d".toList, .directory contents.reverse)]
    tree.disk source.root = some (.directory contents) ∧
      source.load turned.disk = .ok
        [⟨.agent, "a".toList, "d/a.x.md".toList, "é".toList⟩,
          ⟨.agent, "a.b".toList, "d/a.b.x.md".toList, "2".toList⟩] ∧
      source.load tree.disk = source.load turned.disk ∧
      ∃ failure, source.load (FileTree.directory []).disk = .error failure ∧
        failure.kind = .notFound := by
  intro source contents tree turned
  have hroot : tree.disk source.root = some (.directory contents) := rfl
  have hturned : turned.disk source.root = some (.directory contents.reverse) := rfl
  have hnodup : (contents.map Prod.fst).Nodup := by decide
  have hnone : ∀ others,
      (FileTree.directory []).disk source.root ≠ some (.directory others) := by
    intro others h
    cases h
  have hsame := ((load_exact source tree.disk).1 contents hroot).2.2.2 turned.disk _ hturned
    (.inr ⟨hnodup, (List.reverse_perm contents).symm⟩)
  have hmembers : (turned.disk.directory? source.root).map source.members =
      some [("a".toList, "a.x.md".toList, ⟨#[195, 169]⟩),
        ("a.b".toList, "a.b.x.md".toList, ⟨#[50]⟩)] := rfl
  obtain ⟨entries, hentries, hlisted⟩ := Option.map_eq_some_iff.1 hmembers
  have hread : (source.members entries).mapM source.read = .ok
      [⟨.agent, "a".toList, "d/a.x.md".toList, "é".toList⟩,
        ⟨.agent, "a.b".toList, "d/a.b.x.md".toList, "2".toList⟩] := by
    rw [hlisted]
    exact except_mapM_eq_ok_iff.2 (.cons
      (read_eq_ok_iff.2 ⟨"é".toList, Text.ofUtf8?_eq_some_iff.2 rfl, rfl⟩)
      (.cons (read_eq_ok_iff.2 ⟨"2".toList, Text.ofUtf8?_eq_some_iff.2 rfl, rfl⟩) .nil))
  refine ⟨hroot, ?_, hsame.symm, ((load_exact source _).2 hnone).1 rfl⟩
  rw [load, hentries]
  dsimp only
  rw [hread]
  exact congrArg Except.ok (List.mergeSort_of_pairwise (by decide))

/-- A path that stays where it is two thousand times is short enough for the directory, and too long
for the file that lies in it. The file is passed over, though its name and its bytes are those of a
member. -/
theorem load_overlong :
    let root : Text := (List.replicate 2000 "./".toList).flatten ++ "d".toList
    let source : CollectionSource := ⟨.agent, root, none, "md".toList, true⟩
    let name : Text := List.replicate 200 'a'
    let contents : List (Text × FileTree) := [(source.fileName name, .file ⟨#[120]⟩)]
    let tree : FileTree := .directory [("d".toList, .directory contents)]
    tree.disk source.root = some (.directory contents) ∧
      contents.lookup (name ++ ".md".toList) = some (.file ⟨#[120]⟩) ∧
      Text.utf8 "x".toList = (ByteArray.mk #[120]).data.toList ∧
      source.load tree.disk = .ok [] := by
  intro root source name contents tree
  have hsplit : root.splitOn '/' = List.replicate 2000 ['.'] ++ ["d".toList] := by decide +kernel
  have hroot : tree.disk source.root = some (.directory contents) := by
    have hleads : ¬ (root = [] || root.head? = some '/' || !Path.fits root) = true := by
      decide +kernel
    change tree.disk root = _
    rw [FileTree.disk, if_neg hleads, hsplit, FileTree.walk_replicate_dot]
    rfl
  have hlong : Path.fits (Path.join root (source.fileName name)) = false := by decide +kernel
  have hnone : ∀ found bytes, ¬ source.IsMember contents found bytes := by
    intro found bytes hmember
    have hentry := List.mem_singleton.1 (mem_of_lookup_eq_some hmember.file)
    have hname : source.fileName found = source.fileName name := (Prod.mk.inj hentry).1
    have hfits := hmember.fits
    rw [hname, hlong] at hfits
    cases hfits
  refine ⟨hroot, ?_, rfl, ?_⟩
  · have hname : source.fileName name = name ++ ".md".toList := rfl
    rw [← hname]
    exact List.lookup_cons_self
  rw [load_eq_ok_iff hroot]
  refine ⟨?_, List.Pairwise.nil, fun d => ?_⟩
  · rintro ⟨found, bytes, hmember, -⟩
    exact hnone found bytes hmember
  · refine iff_of_false List.not_mem_nil ?_
    rintro ⟨bytes, hmember, -⟩
    exact hnone d.name bytes hmember

end CollectionSource

end CorpusLint
