import CorpusLint.Inventory
import CorpusLint.Proofs.Corpus.Loading
import CorpusLint.Proofs.Evaluation.Groups
import CorpusLint.Proofs.Text.SingleLine
import CorpusLint.Proofs.Text.Slice

/-!
# The table of an inventory

Names are padded by characters to a width that is counted in bytes. No text has more characters than
bytes, so that every padded name is as wide as its column and the columns after it begin at the same
place in every row (`Agent.isRow_renderRow`). Of the steps to a table only the padding can fail
(`Inventory.render?_inventory`): each character of a digest is one byte, and the agents of a class
are among all agents. It takes a name longer than any that is read from a disk to make the column
too wide (`Corpus.byteSize_name_of_load`).

Main statement: `Inventory.columns_aligned`.
-/

namespace CorpusLint

open Text (IsPiece isPiece_lineFeed lineFeed_notMem_ofNat notMem_literal)

namespace Text

/-! ## Columns and bytes -/

variable {t : Text} {width : ℕ}

theorem length_padTo (h : t.length ≤ width) : (t.padTo width).length = width := by
  rw [padTo, List.length_append, List.length_replicate]
  omega

/-- A column and the spaces behind it are a wider column. -/
theorem padTo_append_spaces (h : t.length ≤ width) (n : ℕ) :
    t.padTo width ++ List.replicate n ' ' = t.padTo (width + n) := by
  have hspaces : width + n - t.length = width - t.length + n := by omega
  rw [padTo, padTo, List.append_assoc, List.replicate_append_replicate, hspaces]

theorem byteSize_eq_length (h : ∀ c ∈ t, c.utf8Size = 1) : t.byteSize = t.length := by
  induction t with
  | nil => rfl
  | cons c t ih =>
    obtain ⟨hc, ht⟩ := List.forall_mem_cons.1 h
    rw [byteSize_cons, hc, ih ht, List.length_cons, Nat.add_comm]

theorem byteSize_replicate (n : ℕ) (c : Char) :
    byteSize (List.replicate n c) = n * c.utf8Size := by
  induction n with
  | zero => rw [List.replicate_zero, byteSize_nil, Nat.zero_mul]
  | succ n ih => rw [List.replicate_succ, byteSize_cons, ih, Nat.succ_mul, Nat.add_comm]

/-- Where characters are single bytes, a slice counts characters. -/
theorem slice?_zero_eq_take (h : ∀ c ∈ t, c.utf8Size = 1) {n : ℕ} (hn : n ≤ t.length) :
    t.slice? 0 n = some (t.take n) := by
  have hsize : byteSize (t.take n) = n := by
    rw [byteSize_eq_length fun c hc => h c (List.mem_of_mem_take hc), List.length_take]
    exact Nat.min_eq_left hn
  have hslice := slice?_zero (t.take n) (t.drop n)
  rwa [List.take_append_drop, hsize] at hslice

end Text

theorem Sha256.slice?_hex (t : Text) : (hex t).slice? 0 12 = some ((hex t).take 12) := by
  have hdigits : "0123456789abcdef".toList.all (·.utf8Size = 1) = true := by decide
  have hlength : 12 ≤ (hex t).length := by
    rw [length_hex]
    decide
  refine Text.slice?_zero_eq_take (fun c hc => ?_) hlength
  exact of_decide_eq_true (List.all_eq_true.1 hdigits c (mem_hex hc))

/-! ## Rows -/

namespace Agent

variable {a : Agent} {width : ℕ}

/-- The row of an agent: its name in a column of `width` characters, its class in a column of 12,
the beginning of the digest, and the skills, each two spaces behind what it follows. -/
structure IsRow (width : ℕ) (a : Agent) (row : Text) : Prop where
  fits : a.name.length ≤ width
  name : row.take (width + 2) = a.name ++ List.replicate (width + 2 - a.name.length) ' '
  kind : (row.drop (width + 2)).take 14 =
    a.kind.name ++ List.replicate (14 - a.kind.name.length) ' '
  rest : row.drop (width + 2 + 14) = (Sha256.hex a.document.raw).take 12 ++ "  ".toList ++
    Text.joinWith [','] a.document.skills ++ ['\n']

theorem isRow_renderRow (h : a.name.length ≤ width) :
    a.IsRow width ((InventoryEntry.ofAgent a).renderRow false width) := by
  have hkind : a.kind.name.length ≤ 12 := by cases a.kind <;> decide
  -- The two spaces behind a column are taken as a part of it.
  have hspaces : List.replicate 2 ' ' = "  ".toList := rfl
  have hparts : (InventoryEntry.ofAgent a).renderRow false width =
      a.name.padTo width ++ "  ".toList ++ a.kind.name.padTo 12 ++ "  ".toList ++
        (Sha256.hex a.document.raw).take 12 ++ "  ".toList ++
        Text.joinWith [','] a.document.skills ++ ['\n'] := rfl
  have hcolumns : (InventoryEntry.ofAgent a).renderRow false width =
      a.name.padTo (width + 2) ++ (a.kind.name.padTo (12 + 2) ++
        ((Sha256.hex a.document.raw).take 12 ++ "  ".toList ++
          Text.joinWith [','] a.document.skills ++ ['\n'])) := by
    rw [hparts, ← Text.padTo_append_spaces h, ← Text.padTo_append_spaces hkind, hspaces]
    simp only [List.append_assoc]
  have hname : (a.name.padTo (width + 2)).length = width + 2 :=
    Text.length_padTo (Nat.le_add_right_of_le h)
  have hclass : (a.kind.name.padTo (12 + 2)).length = 14 :=
    Text.length_padTo (Nat.le_add_right_of_le hkind)
  rw [hcolumns]
  refine ⟨h, ?_, ?_, ?_⟩
  · exact List.take_left' hname
  · rw [List.drop_left' hname]
    exact List.take_left' hclass
  · rw [← List.drop_drop, List.drop_left' hname]
    exact List.drop_left' hclass

theorem isPiece_renderRow (hname : '\n' ∉ a.name) :
    IsPiece ((InventoryEntry.ofAgent a).renderRow false width) := by
  have hkind : '\n' ∉ a.kind.name := by
    cases a.kind <;> exact notMem_literal (by decide)
  have hhash : '\n' ∉ (Sha256.hex a.document.raw).take 12 := by
    intro hmem
    exact absurd (Sha256.mem_hex (List.mem_of_mem_take hmem)) (by decide)
  have hskills : ∀ skill ∈ a.document.skills, '\n' ∉ skill :=
    fun skill hskill => Frontmatter.notMem_of_mem_listItems (List.mem_filter.1 hskill).1
  have hpadded : ∀ {t : Text}, '\n' ∉ t → ∀ width, '\n' ∉ t.padTo width :=
    Text.notMem_padTo (by decide)
  refine ⟨_, ?_, rfl⟩
  simp only [List.mem_append, not_or]
  exact ⟨⟨⟨⟨⟨⟨hpadded hname _, by decide⟩, hpadded hkind _⟩, by decide⟩, hhash⟩, by decide⟩,
    Text.notMem_joinWith (by decide) hskills⟩

theorem renderRow?_ofAgent (colours : Bool) (width : ℕ) (a : Agent) :
    (InventoryEntry.ofAgent a).renderRow? colours width =
      if width ≤ Text.maxWidth then some ((InventoryEntry.ofAgent a).renderRow colours width)
      else none := by
  have hslice : (InventoryEntry.ofAgent a).hash.slice? 0 12 =
      some ((InventoryEntry.ofAgent a).hash.take 12) := Sha256.slice?_hex _
  rw [InventoryEntry.renderRow?, hslice, Text.padTo?]
  split <;> rfl

end Agent

/-! ## Totals -/

namespace Corpus

variable (corpus : Corpus)

theorem length_agentsOf :
    (corpus.agentsOf .fileWriting).length + (corpus.agentsOf .readOnly).length =
      corpus.agents.length := by
  rw [← List.length_append]
  exact corpus.agentsOf_append_perm.length_eq

theorem countP_inventory (kind : AgentClass) :
    corpus.inventory.countP (·.kind == kind) = (corpus.agentsOf kind).length := by
  rw [List.countP_eq_length_filter, corpus.filter_inventory, List.length_map]

theorem length_inventory : corpus.inventory.length = corpus.agents.length :=
  List.length_map _

/-- The line of the totals: how many agents there are, and how many of each class. -/
def totalsLine : Text :=
  Text.ofNat corpus.agents.length ++ " agents: ".toList ++
    Text.ofNat (corpus.agentsOf .fileWriting).length ++ " file-writing, ".toList ++
    Text.ofNat (corpus.agentsOf .readOnly).length ++ " read-only\n".toList

theorem isPiece_totalsLine : IsPiece corpus.totalsLine := by
  have hend : " read-only\n".toList = " read-only".toList ++ ['\n'] := by decide
  refine ⟨_, ?_, (congrArg _ hend).trans (List.append_assoc _ _ _).symm⟩
  simp only [List.mem_append, not_or]
  exact ⟨⟨⟨⟨⟨lineFeed_notMem_ofNat _, notMem_literal (by decide)⟩, lineFeed_notMem_ofNat _⟩,
    notMem_literal (by decide)⟩, lineFeed_notMem_ofNat _⟩, notMem_literal (by decide)⟩

theorem renderTotals_inventory :
    Inventory.renderTotals corpus.inventory = '\n' :: corpus.totalsLine := by
  have hreaders : corpus.agents.length - (corpus.agentsOf .fileWriting).length =
      (corpus.agentsOf .readOnly).length := by
    have hsum := corpus.length_agentsOf
    omega
  rw [Inventory.renderTotals, countP_inventory, length_inventory, hreaders]
  rfl

theorem pieces_renderTotals :
    Text.pieces (Inventory.renderTotals corpus.inventory) = [['\n'], corpus.totalsLine] := by
  rw [renderTotals_inventory, ← List.singleton_append, isPiece_lineFeed.pieces_append,
    corpus.isPiece_totalsLine.pieces_eq]

end Corpus

/-! ## Tables -/

namespace Inventory

theorem nameWidth_le_iff {entries : List InventoryEntry} {n : ℕ} :
    nameWidth entries ≤ n ↔ ∀ e ∈ entries, e.name.byteSize ≤ n := by
  induction entries with
  | nil => exact iff_of_true (Nat.zero_le n) (List.forall_mem_nil _)
  | cons e entries ih =>
    have hcons : nameWidth (e :: entries) = max e.name.byteSize (nameWidth entries) := rfl
    rw [hcons, Nat.max_le, ih, List.forall_mem_cons]

theorem renderTotals?_eq (entries : List InventoryEntry) :
    renderTotals? entries = some (renderTotals entries) :=
  if_pos List.countP_le_length

variable {corpus : Corpus}

/-- The width of the names is the size of the longest one. -/
theorem nameWidth_inventory_le_iff {n : ℕ} :
    nameWidth corpus.inventory ≤ n ↔ ∀ a ∈ corpus.agents, a.name.byteSize ≤ n :=
  nameWidth_le_iff.trans List.forall_mem_map

theorem length_name_le {a : Agent} (ha : a ∈ corpus.agents) :
    a.name.length ≤ nameWidth corpus.inventory :=
  (Text.length_le_byteSize a.name).trans (nameWidth_inventory_le_iff.1 le_rfl a ha)

theorem mapM_renderRow? {colours : Bool} {width : ℕ} (h : width ≤ Text.maxWidth) :
    corpus.inventory.mapM (InventoryEntry.renderRow? colours width) =
      some (corpus.inventory.map (InventoryEntry.renderRow colours width)) := by
  have hrow : InventoryEntry.renderRow? colours width ∘ InventoryEntry.ofAgent =
      fun a => pure ((InventoryEntry.ofAgent a).renderRow colours width) := by
    funext a
    exact (a.renderRow?_ofAgent colours width).trans (if_pos h)
  rw [Corpus.inventory, List.mapM_map, hrow, List.mapM_pure, List.map_map]
  rfl

/-- The first row fails already. -/
theorem mapM_renderRow?_eq_none {colours : Bool} {width : ℕ} (h : ¬ width ≤ Text.maxWidth)
    (hne : corpus.agents ≠ []) :
    corpus.inventory.mapM (InventoryEntry.renderRow? colours width) = none := by
  obtain ⟨a, agents, hagents⟩ := List.exists_cons_of_ne_nil hne
  rw [Corpus.inventory, hagents, List.map_cons, List.mapM_cons, a.renderRow?_ofAgent, if_neg h]
  rfl

/-- There is a table exactly where the column of names is not too wide. -/
theorem render?_inventory (colours : Bool) (corpus : Corpus) :
    render? colours corpus.inventory =
      if nameWidth corpus.inventory ≤ Text.maxWidth then some (render colours corpus.inventory)
      else none := by
  unfold render?
  split
  · next hwidth =>
    rw [mapM_renderRow? hwidth, renderTotals?_eq, Option.bind_some, Option.map_some, render,
      List.flatMap_def]
  · next hwidth =>
    have hne : corpus.agents ≠ [] := by
      intro hnil
      exact hwidth (nameWidth_inventory_le_iff.2 (by simp [hnil]))
    rw [mapM_renderRow?_eq_none hwidth hne, Option.bind_none]

theorem render?_eq_none_iff {colours : Bool} :
    render? colours corpus.inventory = none ↔
      ∃ a ∈ corpus.agents, Text.maxWidth < a.name.byteSize := by
  rw [render?_inventory, ite_eq_right_iff]
  simp only [reduceCtorEq, imp_false, nameWidth_inventory_le_iff, not_forall, not_le, exists_prop]

/-- What is printed of a corpus from a disk is its table. -/
theorem render?_of_load {disk : Disk} {root : Text} {settings : Settings} (colours : Bool)
    (h : Corpus.load disk root settings = .ok corpus) :
    render? colours corpus.inventory = some (render colours corpus.inventory) := by
  rw [render?_inventory, if_pos]
  refine nameWidth_inventory_le_iff.2 fun a ha => ?_
  exact (Corpus.byteSize_name_of_load h a ha).trans (by decide)

theorem pieces_render (h : ∀ a ∈ corpus.agents, '\n' ∉ a.name) :
    Text.pieces (render false corpus.inventory) =
      corpus.inventory.map (InventoryEntry.renderRow false (nameWidth corpus.inventory)) ++
        [['\n'], corpus.totalsLine] := by
  have hrows : ∀ e ∈ corpus.inventory,
      IsPiece (e.renderRow false (nameWidth corpus.inventory)) :=
    List.forall_mem_map.2 fun a ha => Agent.isPiece_renderRow (h a ha)
  rw [render, Text.pieces_flatMap_append hrows, corpus.pieces_renderTotals]

theorem forall₂_isRow (corpus : Corpus) :
    List.Forall₂ (Agent.IsRow (nameWidth corpus.inventory)) corpus.agents
      (corpus.inventory.map (InventoryEntry.renderRow false (nameWidth corpus.inventory))) := by
  have hrow : ∀ a ∈ corpus.agents, a.IsRow (nameWidth corpus.inventory)
      ((InventoryEntry.ofAgent a).renderRow false (nameWidth corpus.inventory)) :=
    fun a ha => Agent.isRow_renderRow (length_name_le ha)
  generalize nameWidth corpus.inventory = width at hrow
  rwa [Corpus.inventory, List.map_map, List.forall₂_map_right_iff, List.forall₂_same]

/-- **An inventory is a table of aligned columns.** There is a table unless a name has more bytes
than a column is wide, and no name that is read from a disk has. If no name has a line feed, there
is one row for each agent in the order of the corpus: in all of them the class begins two characters
behind the size of the longest name, and the digest 14 characters later. A digest has 64 hexadecimal
digits, so that its first bytes are its first characters. The last line counts the agents of both
classes, which together are all agents. -/
theorem columns_aligned (corpus : Corpus) :
    (render? false corpus.inventory = none ↔
      ∃ a ∈ corpus.agents, Text.maxWidth < a.name.byteSize) ∧
    (∀ disk root settings, Corpus.load disk root settings = .ok corpus →
      render? false corpus.inventory = some (render false corpus.inventory)) ∧
    (∀ n, nameWidth corpus.inventory ≤ n ↔ ∀ a ∈ corpus.agents, a.name.byteSize ≤ n) ∧
    (∀ e ∈ corpus.inventory, e.hash.length = 64 ∧ (∀ c ∈ e.hash, c ∈ "0123456789abcdef".toList) ∧
      e.hash.slice? 0 12 = some (e.hash.take 12)) ∧
    (corpus.agentsOf .fileWriting).length + (corpus.agentsOf .readOnly).length =
      corpus.agents.length ∧
    ((∀ a ∈ corpus.agents, '\n' ∉ a.name ∧ a.name.byteSize ≤ Text.maxWidth) →
      ∃ table rows, render? false corpus.inventory = some table ∧
        Text.pieces table = rows ++ [['\n'], corpus.totalsLine] ∧
        List.Forall₂ (Agent.IsRow (nameWidth corpus.inventory)) corpus.agents rows) := by
  refine ⟨render?_eq_none_iff, fun disk root settings => render?_of_load false,
    fun n => nameWidth_inventory_le_iff, ?_, corpus.length_agentsOf, fun h => ?_⟩
  · refine List.forall_mem_map.2 fun a _ => ⟨Sha256.length_hex _, fun c => Sha256.mem_hex, ?_⟩
    exact Sha256.slice?_hex _
  · have hwidth := nameWidth_inventory_le_iff.2 fun a ha => (h a ha).2
    refine ⟨_, _, ?_, pieces_render fun a ha => (h a ha).1, forall₂_isRow corpus⟩
    rw [render?_inventory, if_pos hwidth]

/-- Two agents, one of them alone on a disk. The longest name has eight bytes and six characters,
and both classes begin behind ten characters. -/
theorem columns_aligned_accented :
    let header : Text := "---\ntools: Write\n---\n".toList
    let writer : Document := ⟨.agent, "gsd-éé".toList, "./agents/gsd-éé.md".toList, header⟩
    let reader : Document := ⟨.agent, "gsd-abc".toList, [], []⟩
    let tree : FileTree := .directory [("agents".toList, .directory
      [("gsd-éé.md".toList, .file ⟨header.utf8.toArray⟩)])]
    let alone := Corpus.ofDocuments ".".toList [writer] [] [] "Write".toList
    let corpus := Corpus.ofDocuments ".".toList [reader, writer] [] [] "Write".toList
    Corpus.load tree.disk ".".toList {} = .ok alone ∧
      render? false alone.inventory = some (render false alone.inventory) ∧
      (∀ a ∈ corpus.agents, '\n' ∉ a.name ∧ a.name.byteSize ≤ Text.maxWidth) ∧
      ∃ table rows, render? false corpus.inventory = some table ∧
        Text.pieces table = rows ++ [['\n'], "2 agents: 1 file-writing, 1 read-only\n".toList] ∧
        rows.map (fun row => (row.take 10, (row.drop 10).take 14)) =
          [("gsd-abc   ".toList, "read-only     ".toList),
            ("gsd-éé    ".toList, "file-writing  ".toList)] := by
  intro header writer reader tree alone corpus
  have hload : Corpus.load tree.disk ".".toList {} = .ok alone := by decide +kernel
  have hnames : ∀ a ∈ corpus.agents, '\n' ∉ a.name ∧ a.name.byteSize ≤ Text.maxWidth := by
    decide +kernel
  have hwidth : nameWidth corpus.inventory = 8 := by decide +kernel
  have htotals : corpus.totalsLine = "2 agents: 1 file-writing, 1 read-only\n".toList := by
    decide +kernel
  obtain ⟨-, -, -, -, -, htable⟩ := columns_aligned corpus
  obtain ⟨table, rows, hsome, hpieces, hrows⟩ := htable hnames
  rw [hwidth] at hrows
  rw [htotals] at hpieces
  refine ⟨hload, (columns_aligned alone).2.1 _ _ _ hload, hnames, table, rows, hsome, hpieces, ?_⟩
  cases hrows with
  | cons hfirst hrest =>
    cases hrest with
    | cons hsecond hnone =>
      cases hnone
      simp only [List.map_cons, List.map_nil]
      rw [hfirst.name, hfirst.kind, hsecond.name, hsecond.kind]
      decide +kernel

/-- A name with one byte more than a column is wide, and no table. -/
theorem columns_overlong :
    let corpus := Corpus.ofDocuments [] [⟨.agent, List.replicate 65536 'a', [], []⟩] [] []
      "Write".toList
    (∀ a ∈ corpus.agents, '\n' ∉ a.name) ∧ render? false corpus.inventory = none := by
  intro corpus
  have hname : ∀ a ∈ corpus.agents, a.name = List.replicate 65536 'a' := by
    intro a ha
    rw [List.mem_singleton.1 ha]
    rfl
  refine ⟨fun a ha hmem => ?_, ?_⟩
  · rw [hname a ha] at hmem
    exact absurd (List.eq_of_mem_replicate hmem) (by decide)
  · refine render?_eq_none_iff.2 ⟨_, List.mem_singleton_self _, ?_⟩
    rw [hname _ (List.mem_singleton_self _), Text.byteSize_replicate]
    decide

end Inventory

end CorpusLint
