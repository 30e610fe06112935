/-!
# Texts

A text is the list of its characters, so that every scan of the library is a recursion on a list
and every law about it an induction. This module holds what the others share: parts of a text,
measures in characters and in bytes, decimal numbers, and the order of texts.

Main statements: `includes` decides the relation "is a contiguous part of" (`includes_iff`), and a
text has at most as many characters as bytes (`length_le_byteSize`).
-/

namespace CorpusLint

/-- A text is the list of its characters. -/
abbrev Text := List Char

namespace Text

/-! ## Parts -/

/-- Whether `part` stands somewhere in `whole`, as one contiguous piece. -/
def includes : Text → Text → Bool
  | [], part => part.isEmpty
  | c :: whole, part => part.isPrefixOf (c :: whole) || includes whole part

@[simp] theorem includes_iff {whole part : Text} :
    includes whole part = true ↔ part <:+: whole := by
  induction whole with
  | nil => simp [includes]
  | cons c whole ih => simp [includes, ih, List.infix_cons_iff]

/-- What follows `start` in `t`, if `t` begins with it. -/
def dropStart? : Text → Text → Option Text
  | [], t => some t
  | _ :: _, [] => none
  | c :: start, d :: t => if c = d then dropStart? start t else none

/-- What precedes `finish` in `t`, if `t` ends with it. -/
def dropFinish? (finish t : Text) : Option Text :=
  (dropStart? finish.reverse t.reverse).map List.reverse

theorem dropStart?_eq_some_iff {start t rest : Text} :
    dropStart? start t = some rest ↔ t = start ++ rest := by
  induction start generalizing t with
  | nil => simp [dropStart?]
  | cons c start ih =>
    cases t with
    | nil => simp [dropStart?]
    | cons d t =>
      by_cases h : c = d
      · subst h
        simpa [dropStart?] using ih (t := t)
      · simp [dropStart?, h, Ne.symm h]

theorem dropFinish?_eq_some_iff {finish t rest : Text} :
    dropFinish? finish t = some rest ↔ t = rest ++ finish := by
  have h := @dropStart?_eq_some_iff finish.reverse t.reverse rest.reverse
  rw [← List.reverse_append, List.reverse_inj] at h
  rw [← h]
  simp only [dropFinish?, Option.map_eq_some_iff]
  constructor
  · rintro ⟨r, hr, rfl⟩
    simpa using hr
  · intro hr
    exact ⟨rest.reverse, hr, by simp⟩

/-- The parts written one after another, with `separator` between neighbours. -/
def joinWith (separator : Text) (parts : List Text) : Text :=
  separator.intercalate parts

@[simp] theorem joinWith_singleton (separator part : Text) : joinWith separator [part] = part :=
  List.intercalate_singleton

theorem joinWith_cons_cons (separator part next : Text) (parts : List Text) :
    joinWith separator (part :: next :: parts) =
      part ++ separator ++ joinWith separator (next :: parts) :=
  List.intercalate_cons_cons

/-! ## Measures -/

def byteSize : Text → Nat
  | [] => 0
  | c :: t => c.utf8Size + byteSize t

@[simp] theorem byteSize_nil : byteSize [] = 0 := rfl

@[simp] theorem byteSize_cons (c : Char) (t : Text) :
    byteSize (c :: t) = c.utf8Size + byteSize t := rfl

@[simp] theorem byteSize_append (s t : Text) : byteSize (s ++ t) = byteSize s + byteSize t := by
  induction s with
  | nil => simp
  | cons c s ih => simp [ih, Nat.add_assoc]

theorem length_le_byteSize (t : Text) : t.length ≤ byteSize t := by
  induction t with
  | nil => simp
  | cons c t ih =>
    have := Char.utf8Size_pos c
    simp only [List.length_cons, byteSize_cons]
    omega

/-- The bytes of the text's UTF-8 form. -/
def utf8 (t : Text) : List UInt8 :=
  t.flatMap String.utf8EncodeChar

/-- The text followed by the spaces that bring it to `width` characters. A longer text is kept. -/
def padTo (width : Nat) (t : Text) : Text :=
  t ++ List.replicate (width - t.length) ' '

/-- How wide a column of text can be. -/
def maxWidth : Nat := 65535

/-- The text in a column of `width` characters, if there is a column as wide as that. -/
def padTo? (width : Nat) (t : Text) : Option Text :=
  if width ≤ maxWidth then some (t.padTo width) else none

/-! ## Numbers and order -/

/-- The decimal form of a number, without leading zeros. -/
def ofNat (n : Nat) : Text :=
  Nat.toDigits 10 n

/-- The decimal form of a number, with a minus sign below zero. -/
def ofInt (n : Int) : Text :=
  if n < 0 then '-' :: ofNat n.natAbs else ofNat n.natAbs

/-- Whether `a` comes no later than `b`: character by character, each by its code point. It is the
order of the two UTF-8 forms, byte by byte. -/
def le : Text → Text → Bool
  | [], _ => true
  | _ :: _, [] => false
  | c :: a, d :: b => if c = d then le a b else decide (c < d)

end Text

end CorpusLint
