import CorpusLint.Fence
import CorpusLint.Proofs.Text.Separator
import CorpusLint.Text.Cursor

/-!
# Slices and cursors agree

A line can be found by slices of the stored form or by walking from a cursor. Both fail at the same
offsets, those inside a character or past the end, and give the same line elsewhere
(`lineAt?_eq`, `lineNumberAt?_eq`). The slice behind the run of a fence always exists
(`Fence.runBySlice?_eq`).
-/

namespace CorpusLint

namespace Text

/-! ## Cuts and slices -/

theorem byteSize_reverse (t : Text) : byteSize t.reverse = byteSize t := by
  induction t with
  | nil => rfl
  | cons c t ih =>
    rw [List.reverse_cons, byteSize_append, ih]
    simp [Nat.add_comm]

theorem cutAt?_append (a b : Text) : cutAt? (a ++ b) (byteSize a) = some (a, b) := by
  induction a with
  | nil => cases b <;> rfl
  | cons c a ih =>
    have hpos := Char.utf8Size_pos c
    obtain ⟨n, hn⟩ : ∃ n, byteSize (c :: a) = n + 1 :=
      Nat.exists_eq_succ_of_ne_zero (by rw [byteSize_cons]; omega)
    have hle : c.utf8Size ≤ n + 1 := by
      rw [← hn, byteSize_cons]
      omega
    have hsize : n + 1 - c.utf8Size = byteSize a := by
      rw [← hn, byteSize_cons]
      omega
    rw [hn, List.cons_append, cutAt?, if_pos hle, hsize, ih]
    rfl

theorem of_cutAt?_eq_some {t a b : Text} {n : Nat} (h : cutAt? t n = some (a, b)) :
    t = a ++ b ∧ byteSize a = n := by
  induction t generalizing n a with
  | nil =>
    cases n with
    | zero =>
      cases h
      exact ⟨rfl, rfl⟩
    | succ n => cases h
  | cons c t ih =>
    cases n with
    | zero =>
      cases h
      exact ⟨rfl, rfl⟩
    | succ n =>
      rw [cutAt?] at h
      split at h
      · next hle =>
        obtain ⟨⟨before, after⟩, hcut, hcons⟩ := Option.map_eq_some_iff.1 h
        obtain ⟨rfl, rfl⟩ := Prod.mk.inj hcons
        obtain ⟨rfl, hsize⟩ := ih hcut
        refine ⟨rfl, ?_⟩
        rw [byteSize_cons, hsize]
        omega
      · cases h

/-- A cut is a division of the text, and its offset is the size of the first half. -/
theorem cutAt?_eq_some_iff {t a b : Text} {n : Nat} :
    cutAt? t n = some (a, b) ↔ t = a ++ b ∧ byteSize a = n := by
  constructor
  · exact of_cutAt?_eq_some
  · rintro ⟨rfl, rfl⟩
    exact cutAt?_append a b

theorem slice?_eq_some_iff {t s : Text} {start stop : Nat} :
    slice? t start stop = some s ↔
      ∃ a b, t = a ++ s ++ b ∧ byteSize a = start ∧ byteSize (a ++ s) = stop := by
  unfold slice?
  constructor
  · intro h
    split at h
    · obtain ⟨⟨before, after⟩, hcut, h⟩ := Option.bind_eq_some_iff.1 h
      obtain ⟨⟨a, b⟩, hinner, rfl⟩ := Option.map_eq_some_iff.1 h
      obtain ⟨rfl, hstop⟩ := cutAt?_eq_some_iff.1 hcut
      obtain ⟨rfl, hstart⟩ := cutAt?_eq_some_iff.1 hinner
      exact ⟨a, after, rfl, hstart, hstop⟩
    · cases h
  · rintro ⟨a, b, rfl, rfl, rfl⟩
    have hstop : cutAt? (a ++ s ++ b) (byteSize (a ++ s)) = some (a ++ s, b) :=
      cutAt?_eq_some_iff.2 ⟨rfl, rfl⟩
    have hstart : cutAt? (a ++ s) (byteSize a) = some (a, s) := cutAt?_eq_some_iff.2 ⟨rfl, rfl⟩
    have hle : byteSize a ≤ byteSize (a ++ s) := by simp
    rw [if_pos hle, hstop, Option.bind_some]
    change ((a ++ s).cutAt? (byteSize a)).map (·.2) = some s
    rw [hstart, Option.map_some]

theorem slice?_append (a s b : Text) :
    slice? (a ++ s ++ b) (byteSize a) (byteSize (a ++ s)) = some s :=
  slice?_eq_some_iff.2 ⟨a, b, rfl, rfl, rfl⟩

/-! ## The line feeds around an offset -/

theorem firstLineFeed?_of_notMem {t : Text} (h : '\n' ∉ t) : firstLineFeed? t = none := by
  induction t with
  | nil => rfl
  | cons c t ih =>
    obtain ⟨hc, ht⟩ := List.ne_and_not_mem_of_not_mem_cons h
    simp [firstLineFeed?, Ne.symm hc, ih ht]

theorem firstLineFeed?_append {a : Text} (b : Text) (h : '\n' ∉ a) :
    firstLineFeed? (a ++ '\n' :: b) = some (byteSize a) := by
  induction a with
  | nil => rfl
  | cons c a ih =>
    obtain ⟨hc, ha⟩ := List.ne_and_not_mem_of_not_mem_cons h
    simp [firstLineFeed?, Ne.symm hc, ih ha]

theorem lastLineFeed?_of_notMem {t : Text} (h : '\n' ∉ t) : lastLineFeed? t = none := by
  induction t with
  | nil => rfl
  | cons c t ih =>
    obtain ⟨hc, ht⟩ := List.ne_and_not_mem_of_not_mem_cons h
    simp [lastLineFeed?, Ne.symm hc, ih ht]

theorem lastLineFeed?_append (a : Text) {b : Text} (h : '\n' ∉ b) :
    lastLineFeed? (a ++ '\n' :: b) = some (byteSize a) := by
  induction a with
  | nil => simp [lastLineFeed?, lastLineFeed?_of_notMem h]
  | cons c a ih => simp [lastLineFeed?, ih]

end Text

/-! ## Cursors -/

namespace Cursor

theorem afterBytes?_eq (seen t : Text) (offset : Nat) :
    afterBytes? seen offset t =
      (t.cutAt? offset).map fun cut => ⟨cut.1.reverse ++ seen, cut.2⟩ := by
  induction t generalizing seen offset with
  | nil => cases offset <;> simp [afterBytes?, Text.cutAt?]
  | cons c t ih =>
    cases offset with
    | zero => simp [afterBytes?, Text.cutAt?]
    | succ n =>
      simp only [afterBytes?, Text.cutAt?, Nat.add_eq_zero_iff, Nat.one_ne_zero, and_false,
        if_false, ih]
      split
      · rw [Option.map_map]
        congr 1
        funext cut
        obtain ⟨before, after⟩ := cut
        simp
      · rfl

theorem atByte?_eq (t : Text) (offset : Nat) :
    atByte? t offset = (t.cutAt? offset).map fun cut => ⟨cut.1.reverse, cut.2⟩ := by
  rw [atByte?, afterBytes?_eq]
  simp

/-- The line of a cursor, from behind the last line feed before it to the next one. -/
theorem line_eq (before after : Text) :
    line ⟨before.reverse, after⟩ =
      (((before.reverse.takeWhile (· != '\n')).reverse ++
        after.takeWhile (· != '\n')).reverse.dropWhile (· == '\r')).reverse := rfl

end Cursor

namespace Text

theorem slice?_zero (a b : Text) : slice? (a ++ b) 0 (byteSize a) = some a :=
  slice?_append [] a b

theorem slice?_byteSize (a b : Text) :
    slice? (a ++ b) (byteSize a) (byteSize (a ++ b)) = some b := by
  simpa using slice?_append a b []

theorem slice?_zero_of_cutAt? {t : Text} {offset : Nat} (h : cutAt? t offset = none) :
    slice? t 0 offset = none := by
  rw [slice?, if_pos (Nat.zero_le _), h, Option.bind_none]

/-- Counting the line feeds of the slice before an offset gives the number of the cursor's line. -/
theorem lineNumberAt?_eq (t : Text) (offset : Nat) :
    t.lineNumberAt? offset = (Cursor.atByte? t offset).map Cursor.lineNumber := by
  rw [Cursor.atByte?_eq, lineNumberAt?]
  cases hcut : t.cutAt? offset with
  | none => rw [slice?_zero_of_cutAt? hcut, Option.map_none, Option.map_none, Option.map_none]
  | some cut =>
    obtain ⟨before, after⟩ := cut
    obtain ⟨rfl, rfl⟩ := cutAt?_eq_some_iff.1 hcut
    simp [slice?_zero, Cursor.lineNumber, List.count_reverse]

/-- What stands before an offset ends with the beginning of a line. -/
theorem exists_line_start (before : Text) :
    ∃ above start, before = above ++ start ∧
      (lastLineFeed? before).elim 0 (· + 1) = byteSize above ∧
      (before.reverse.takeWhile (· != '\n')).reverse = start := by
  by_cases h : '\n' ∈ before
  · obtain ⟨start, above, hsplit, hstart⟩ :=
      List.eq_append_cons_of_mem (List.mem_reverse.2 h)
    have hbefore : before = above.reverse ++ '\n' :: start.reverse := by
      rw [← List.reverse_reverse before, hsplit]
      simp
    have hnot : '\n' ∉ start.reverse := fun hmem => hstart (List.mem_reverse.1 hmem)
    refine ⟨above.reverse ++ ['\n'], start.reverse, by simp [hbefore], ?_, ?_⟩
    · rw [hbefore, lastLineFeed?_append _ hnot, byteSize_append]
      rfl
    · rw [hsplit, takeWhile_bne_append_cons hstart]
  · refine ⟨[], before, rfl, ?_, ?_⟩
    · rw [lastLineFeed?_of_notMem h]
      rfl
    · rw [takeWhile_bne_of_notMem fun hmem => h (List.mem_reverse.1 hmem), List.reverse_reverse]

/-- What stands behind an offset begins with the end of a line. -/
theorem exists_line_end (before after : Text) :
    ∃ rest, after = after.takeWhile (· != '\n') ++ rest ∧
      (firstLineFeed? after).elim (byteSize (before ++ after)) (byteSize before + ·) =
        byteSize (before ++ after.takeWhile (· != '\n')) := by
  by_cases h : '\n' ∈ after
  · obtain ⟨finish, rest, rfl, hfinish⟩ := List.eq_append_cons_of_mem h
    rw [takeWhile_bne_append_cons hfinish, firstLineFeed?_append rest hfinish]
    exact ⟨'\n' :: rest, rfl, (byteSize_append _ _).symm⟩
  · rw [takeWhile_bne_of_notMem h, firstLineFeed?_of_notMem h]
    exact ⟨[], (List.append_nil after).symm, rfl⟩

/-- **Cutting a line out of the stored form** fails only where there is no cursor, and gives the
cursor's line. -/
theorem lineAt?_eq (t : Text) (offset : Nat) :
    t.lineAt? offset = (Cursor.atByte? t offset).map Cursor.line := by
  rw [Cursor.atByte?_eq]
  cases hcut : t.cutAt? offset with
  | none => rw [lineAt?, slice?_zero_of_cutAt? hcut, Option.map_none, Option.map_none]; rfl
  | some cut =>
    obtain ⟨before, after⟩ := cut
    obtain ⟨rfl, rfl⟩ := cutAt?_eq_some_iff.1 hcut
    obtain ⟨above, start, hbefore, hstart, hline⟩ := exists_line_start before
    obtain ⟨rest, hafter, hstop⟩ := exists_line_end before after
    have hslice : slice? (before ++ after) (byteSize above)
        (byteSize (before ++ after.takeWhile (· != '\n'))) =
          some (start ++ after.takeWhile (· != '\n')) := by
      refine slice?_eq_some_iff.2 ⟨above, rest, ?_, rfl, ?_⟩
      · calc before ++ after = before ++ (after.takeWhile (· != '\n') ++ rest) := by rw [← hafter]
          _ = above ++ (start ++ after.takeWhile (· != '\n')) ++ rest := by simp [hbefore]
      · simp [hbefore]
    simp only [lineAt?, slice?_zero, slice?_byteSize, Option.bind_some, hstart, hstop, hslice,
      Option.map_some, Cursor.line_eq, hline]

end Text

namespace Cursor

theorem atByte?_text (place : Cursor) : atByte? place.text place.seen.byteSize = some place := by
  have hcut : place.text.cutAt? place.seen.byteSize = some (place.seen.reverse, place.rest) :=
    Text.cutAt?_eq_some_iff.2 ⟨rfl, Text.byteSize_reverse _⟩
  rw [atByte?_eq, hcut, Option.map_some, List.reverse_reverse]

/-- The slices from which the line of a place is read exist. -/
theorem lineNumberAt?_text (place : Cursor) :
    place.text.lineNumberAt? place.seen.byteSize = some place.lineNumber := by
  rw [Text.lineNumberAt?_eq, atByte?_text, Option.map_some]

theorem lineAt?_text (place : Cursor) :
    place.text.lineAt? place.seen.byteSize = some place.line := by
  rw [Text.lineAt?_eq, atByte?_text, Option.map_some]

end Cursor

namespace Text

theorem byteSize_takeWhile_beq {c : Char} (hc : c.utf8Size = 1) (t : Text) :
    byteSize (t.takeWhile (· == c)) = (t.takeWhile (· == c)).length := by
  induction t with
  | nil => rfl
  | cons d t ih =>
    by_cases hd : d = c
    · subst hd
      simp only [beq_self_eq_true, List.takeWhile_cons_of_pos, byteSize_cons, hc, ih,
        List.length_cons]
      omega
    · have hbeq : (d == c) = false := by simpa using hd
      simp [hbeq]

end Text

/-! ## Fences -/

namespace Fence

theorem utf8Size_of_isMarker {c : Char} (h : isMarker c = true) : c.utf8Size = 1 := by
  rcases Bool.or_eq_true_iff.1 h with h | h
  · rw [eq_of_beq h]
    rfl
  · rw [eq_of_beq h]
    rfl

/-- The slice behind the run of a fence exists on every line: the markers take one byte each. -/
theorem runBySlice?_eq (line : Text) : runBySlice? line = some (run? line) := by
  unfold runBySlice? run?
  cases line.trimStart with
  | nil => rfl
  | cons c t =>
    by_cases hmarker : isMarker c = true
    · have hsize := utf8Size_of_isMarker hmarker
      have hrun := Text.byteSize_takeWhile_beq hsize t
      have hsplit := List.takeWhile_append_dropWhile (p := (· == c)) (l := t)
      have hlength : Text.byteSize (c :: t) - Text.byteSize (t.dropWhile (· == c)) =
          (t.takeWhile (· == c)).length + 1 := by
        have htotal := congrArg Text.byteSize hsplit
        rw [Text.byteSize_append, hrun] at htotal
        rw [Text.byteSize_cons, hsize]
        omega
      have hslice : Text.slice? (c :: t) ((t.takeWhile (· == c)).length + 1)
          (Text.byteSize (c :: t)) = some (t.dropWhile (· == c)) := by
        refine Text.slice?_eq_some_iff.2 ⟨c :: t.takeWhile (· == c), [], ?_, ?_, ?_⟩
        · simp [hsplit]
        · rw [Text.byteSize_cons, hsize, hrun]
          omega
        · rw [List.cons_append, hsplit]
      simp only [List.head?_cons, Option.filter_some, hmarker, if_true, beq_self_eq_true,
        List.dropWhile_cons_of_pos, hlength, Bool.true_and, decide_eq_true_eq]
      split
      · rw [hslice, Option.map_some]
      · rfl
    · have hfalse : isMarker c = false := by simpa using hmarker
      simp [Option.filter_some, hfalse]

end Fence

end CorpusLint
