import CorpusLint.Text.Basic
import Mathlib.Data.List.Basic
import Mathlib.Data.List.TakeWhile

/-!
# Texts cut at a separator

What stands before the first occurrence of a character and behind the last one. A number is written
in digits, so that any other character separates it from what stands before (`ofNat_injective`,
`notMem_ofNat`).
-/

namespace CorpusLint

namespace Text

variable {c : Char} {a b t : Text}

theorem takeWhile_bne_of_notMem (h : c ∉ t) : t.takeWhile (· != c) = t := by
  rw [List.takeWhile_eq_self_iff]
  intro d hd
  have hdc : d ≠ c := fun e => h (e ▸ hd)
  simpa using hdc

theorem notMem_takeWhile_bne (c : Char) (t : Text) : c ∉ t.takeWhile (· != c) := by
  intro hmem
  simpa using List.mem_takeWhile_imp hmem

/-- What stands behind a separator is not looked at. -/
theorem takeWhile_bne_append : (a ++ c :: b).takeWhile (· != c) = a.takeWhile (· != c) := by
  induction a with
  | nil => simp
  | cons d a ih => simp only [List.cons_append, List.takeWhile_cons, ih]

theorem takeWhile_bne_append_cons (h : c ∉ a) : (a ++ c :: b).takeWhile (· != c) = a := by
  rw [takeWhile_bne_append, takeWhile_bne_of_notMem h]

/-- The first separator splits a text in one way. -/
theorem append_cons_inj {u v : Text} (ha : c ∉ a) (hb : c ∉ b) (h : a ++ c :: u = b ++ c :: v) :
    a = b ∧ u = v := by
  have hab : a = b := by
    rw [← takeWhile_bne_append_cons (b := u) ha, h, takeWhile_bne_append_cons hb]
  subst hab
  rw [List.append_cancel_left_eq] at h
  exact ⟨rfl, (List.cons.inj h).2⟩

/-- So does the last one. -/
theorem append_cons_inj_last {u v : Text} (hu : c ∉ u) (hv : c ∉ v)
    (h : a ++ c :: u = b ++ c :: v) : a = b ∧ u = v := by
  have hreverse := congrArg List.reverse h
  simp only [List.reverse_append, List.reverse_cons, List.append_assoc, List.singleton_append]
    at hreverse
  have hparts := append_cons_inj (fun hmem => hu (List.mem_reverse.1 hmem))
    (fun hmem => hv (List.mem_reverse.1 hmem)) hreverse
  exact ⟨List.reverse_inj.1 hparts.2, List.reverse_inj.1 hparts.1⟩

/-! ## Numbers -/

theorem notMem_ofNat (h : c.isDigit = false) (n : Nat) : c ∉ ofNat n := by
  intro hmem
  rw [Nat.isDigit_of_mem_toDigits (by decide) (by decide) hmem] at h
  cases h

theorem ofNat_injective {m n : Nat} (h : ofNat m = ofNat n) : m = n := by
  unfold ofNat at h
  rw [← Nat.ofDigitChars_ten_toDigits (n := m), h, Nat.ofDigitChars_ten_toDigits]

end Text

end CorpusLint
