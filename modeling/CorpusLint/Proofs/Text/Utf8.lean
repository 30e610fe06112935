import CorpusLint.Disk
import CorpusLint.Text.Basic
import Mathlib.Data.Char
import Mathlib.Data.List.Lex
import Mathlib.Order.Lattice

/-!
# The order and the bytes of texts

Texts are compared as lists of characters are: it is a linear order. Where one character comes
before another, the bytes of the two differ, and the first ones that do are in the same order
(`encode_append_lt`). So texts compare as their bytes do (`utf8_lt_iff`). What is read from bytes is
the text that has them, if there is one (`ofUtf8?_eq_some_iff`).
-/

namespace CorpusLint

/-! ## The order of texts -/

namespace Text

theorem not_le_iff {a b : Text} : ¬ le a b = true ↔ List.Lex (· < ·) b a := by
  induction a generalizing b with
  | nil => simp [le]
  | cons c a ih =>
    cases b with
    | nil => simp [le]
    | cons d b =>
      rw [List.cons_lex_cons_iff, ← ih, le]
      split
      · next h => simp [h]
      · next h =>
        have hne : ¬ d = c := fun e => h e.symm
        simp only [decide_eq_true_eq, not_lt, le_iff_lt_or_eq, hne, false_and, or_false]

theorem le_iff {a b : Text} : le a b = true ↔ a ≤ b := by
  rw [← not_lt, ← not_iff_not, not_not]
  exact not_le_iff

end Text

/-! ## Bytes -/

namespace Text

/-! ## The order of bytes -/

/-- Bytes that begin with different ones compare as those. -/
theorem bytes_lt_of_lt {m n : Nat} (h : m < n) (hn : n < 256) (s t : List UInt8) :
    List.Lex (· < ·) (UInt8.ofNat m :: s) (UInt8.ofNat n :: t) := by
  refine .rel ?_
  rw [UInt8.lt_iff_toNat_lt, UInt8.toNat_ofNat', UInt8.toNat_ofNat']
  omega

/-- Bytes that may begin with the same one compare as the others then do. -/
theorem bytes_lt_of_le {m n : Nat} {s t : List UInt8} (h : m ≤ n) (hn : n < 256)
    (hrest : m = n → List.Lex (· < ·) s t) :
    List.Lex (· < ·) (UInt8.ofNat m :: s) (UInt8.ofNat n :: t) := by
  rcases Nat.lt_or_eq_of_le h with hlt | rfl
  · exact bytes_lt_of_lt hlt hn s t
  · exact .cons (hrest rfl)

theorem toNat_val_lt (c : Char) : c.val.toNat < 1114112 := by
  rcases c.valid with h | ⟨-, h⟩
  · exact Nat.lt_trans h (by decide)
  · exact h

/-- The bytes of a character stand for the digits of its number, the most significant first, and of
more bytes the first one is greater. -/
theorem encode_append_lt {c d : Char} (h : c < d) (s t : List UInt8) :
    List.Lex (· < ·) (String.utf8EncodeChar c ++ s) (String.utf8EncodeChar d ++ t) := by
  have hlt : c.val.toNat < d.val.toNat := h
  have hmax := toNat_val_lt d
  simp only [String.utf8EncodeChar]
  generalize c.val.toNat = m at hlt
  generalize d.val.toNat = n at hlt hmax
  by_cases hone : m ≤ 127
  · rw [if_pos hone]
    split
    · exact bytes_lt_of_lt hlt (by omega) _ _
    · split
      · exact bytes_lt_of_lt (by omega) (by omega) _ _
      · split
        · exact bytes_lt_of_lt (by omega) (by omega) _ _
        · exact bytes_lt_of_lt (by omega) (by omega) _ _
  · have hn : ¬ n ≤ 127 := by omega
    rw [if_neg hone, if_neg hn]
    by_cases htwo : m ≤ 2047
    · rw [if_pos htwo]
      split
      · refine bytes_lt_of_le (by omega) (by omega) fun _ => ?_
        exact bytes_lt_of_lt (by omega) (by omega) _ _
      · split
        · exact bytes_lt_of_lt (by omega) (by omega) _ _
        · exact bytes_lt_of_lt (by omega) (by omega) _ _
    · have hn : ¬ n ≤ 2047 := by omega
      rw [if_neg htwo, if_neg hn]
      by_cases hthree : m ≤ 65535
      · rw [if_pos hthree]
        split
        · refine bytes_lt_of_le (by omega) (by omega) fun _ => ?_
          refine bytes_lt_of_le (by omega) (by omega) fun _ => ?_
          exact bytes_lt_of_lt (by omega) (by omega) _ _
        · exact bytes_lt_of_lt (by omega) (by omega) _ _
      · have hn : ¬ n ≤ 65535 := by omega
        rw [if_neg hthree, if_neg hn]
        refine bytes_lt_of_le (by omega) (by omega) fun _ => ?_
        refine bytes_lt_of_le (by omega) (by omega) fun _ => ?_
        refine bytes_lt_of_le (by omega) (by omega) fun _ => ?_
        exact bytes_lt_of_lt (by omega) (by omega) _ _

theorem utf8_lt_utf8 {a b : Text} (h : a < b) : a.utf8 < b.utf8 := by
  change List.Lex (· < ·) a b at h
  change List.Lex (· < ·) a.utf8 b.utf8
  induction h with
  | @nil d b =>
    obtain ⟨x, bytes, hd⟩ := List.exists_cons_of_ne_nil (@String.utf8EncodeChar_ne_nil d)
    rw [utf8, utf8, List.flatMap_cons, hd]
    exact .nil
  | cons _ ih => exact List.Lex.append_left (· < ·) ih _
  | rel h => exact encode_append_lt h _ _

/-- **Texts compare as their bytes do.** -/
theorem utf8_lt_iff {a b : Text} : a.utf8 < b.utf8 ↔ a < b := by
  refine ⟨fun h => ?_, utf8_lt_utf8⟩
  rcases lt_trichotomy a b with hlt | rfl | hgt
  · exact hlt
  · exact absurd h (List.lt_irrefl _)
  · exact absurd h (List.lt_asymm (utf8_lt_utf8 hgt))

/-- No two texts have the same bytes. -/
theorem utf8_inj {a b : Text} : a.utf8 = b.utf8 ↔ a = b := by
  refine ⟨fun h => ?_, congrArg utf8⟩
  have hirrefl := List.lt_irrefl b.utf8
  have hle : ¬ a < b := by rwa [← utf8_lt_iff, h]
  have hge : ¬ b < a := by rwa [← utf8_lt_iff, h]
  exact le_antisymm (not_lt.1 hge) (not_lt.1 hle)

/-- The bytes of a text as numbers. -/
def byteNumbers (t : Text) : List ℕ :=
  t.utf8.map UInt8.toNat

theorem map_toNat_lt {s t : List UInt8} (h : s < t) : s.map UInt8.toNat < t.map UInt8.toNat := by
  change List.Lex (· < ·) s t at h
  change List.Lex (· < ·) _ _
  induction h with
  | nil => exact .nil
  | cons _ ih => exact .cons ih
  | rel h => exact .rel (UInt8.lt_iff_toNat_lt.1 h)

theorem strictMono_byteNumbers : StrictMono byteNumbers :=
  fun _ _ h => map_toNat_lt (utf8_lt_utf8 h)

/-! ## Reading bytes -/

theorem utf8Encode_eq_iff {t : Text} {bytes : ByteArray} :
    List.utf8Encode t = bytes ↔ t.utf8 = bytes.data.toList := by
  rw [ByteArray.ext_iff, List.utf8Encode, List.data_toByteArray, ← Array.toList_inj]
  rfl

/-- The text that is read from a file is the one with its bytes. -/
theorem ofUtf8?_eq_some_iff {bytes : ByteArray} {t : Text} :
    ofUtf8? bytes = some t ↔ t.utf8 = bytes.data.toList := by
  rw [← utf8Encode_eq_iff, ofUtf8?, Option.map_eq_some_iff, String.fromUTF8?]
  constructor
  · rintro ⟨s, hs, rfl⟩
    split at hs
    · obtain rfl := Option.some.inj hs
      rw [← String.toByteArray_ofList, String.ofList_toList]
      rfl
    · cases hs
  · rintro rfl
    have hvalid : (List.utf8Encode t).IsValidUTF8 := ⟨t, rfl⟩
    have hread : String.fromUTF8 (List.utf8Encode t) hvalid = String.ofList t :=
      String.toByteArray_inj.1 String.toByteArray_ofList.symm
    exact ⟨_, dif_pos hvalid, by rw [hread, String.toList_ofList]⟩

theorem ofUtf8?_eq_none_iff {bytes : ByteArray} :
    ofUtf8? bytes = none ↔ ∀ t : Text, t.utf8 ≠ bytes.data.toList := by
  simp only [Option.eq_none_iff_forall_ne_some, ne_eq, ofUtf8?_eq_some_iff]

end Text

end CorpusLint
