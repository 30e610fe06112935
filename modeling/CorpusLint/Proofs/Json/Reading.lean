import CorpusLint.Json.Basic
import CorpusLint.Toml.Quotation
import Mathlib.Data.List.DropRight
import Mathlib.Data.Nat.Digits.Defs

/-!
# Printed values are read back

A reader of JSON: strings with all their escapes, natural numbers, arrays and objects, with blanks
between them. Of a printed value it reads the value itself, with its fields in their order, so that
what a report says can be taken from what is printed.

The lemma that carries the file is `readValue?_pretty`: a printed value is read off the front of a
text, whatever follows it that is no digit.
-/

namespace CorpusLint

namespace Json

/-! ## The reader -/

/-- The characters that may stand between the parts of a value. -/
def isGap (c : Char) : Bool :=
  c == ' ' || c == '\n' || c == '\r' || c == '\t'

def skipGap (t : Text) : Text :=
  t.dropWhile isGap

/-- The character that a letter stands for behind a backslash. -/
def unescape? : Char → Option Char
  | '\"' => some '\"'
  | '\\' => some '\\'
  | '/' => some '/'
  | 'b' => some '\x08'
  | 'f' => some '\x0c'
  | 'n' => some '\n'
  | 'r' => some '\r'
  | 't' => some '\t'
  | _ => none

/-- A string behind its first quote, and what follows its last one. -/
def readString? : Text → Option (Text × Text)
  | [] => none
  | '\"' :: t => some ([], t)
  | '\\' :: 'u' :: a :: b :: c :: d :: t =>
    (Toml.codePoint? 4 [a, b, c, d]).bind fun (char, _) =>
      (readString? t).map (Prod.map (char :: ·) id)
  | '\\' :: c :: t =>
    (unescape? c).bind fun char => (readString? t).map (Prod.map (char :: ·) id)
  | c :: t =>
    if c.toNat < 0x20 then none else (readString? t).map (Prod.map (c :: ·) id)

/-- A natural number, and what follows its digits. -/
def readNumber? (t : Text) : Option (Nat × Text) :=
  match t.takeWhile Char.isDigit with
  | [] => none
  | digits => some (Nat.ofDigitChars 10 digits 0, t.dropWhile Char.isDigit)

mutual

/-- A value, and what follows it. The first argument bounds the number of steps. -/
def readValue? : Nat → Text → Option (Json × Text)
  | 0, _ => none
  | fuel + 1, t =>
    match skipGap t with
    | '\"' :: t => (readString? t).map (Prod.map text id)
    | '[' :: t =>
      match skipGap t with
      | ']' :: t => some (array [], t)
      | t => (readItems? fuel t).map (Prod.map array id)
    | '\x7b' :: t =>
      match skipGap t with
      | '\x7d' :: t => some (object [], t)
      | t => (readFields? fuel t).map (Prod.map object id)
    | t => (readNumber? t).map (Prod.map number id)

/-- One element or more, and what follows their bracket. -/
def readItems? : Nat → Text → Option (List Json × Text)
  | 0, _ => none
  | fuel + 1, t =>
    (readValue? fuel t).bind fun (item, t) =>
      match skipGap t with
      | ',' :: t => (readItems? fuel t).map (Prod.map (item :: ·) id)
      | ']' :: t => some ([item], t)
      | _ => none

/-- One field or more, and what follows their brace. -/
def readFields? : Nat → Text → Option (List (Text × Json) × Text)
  | 0, _ => none
  | fuel + 1, t =>
    match skipGap t with
    | '\"' :: t =>
      (readString? t).bind fun (name, t) =>
        match skipGap t with
        | ':' :: t =>
          (readValue? fuel t).bind fun (value, t) =>
            match skipGap t with
            | ',' :: t => (readFields? fuel t).map (Prod.map ((name, value) :: ·) id)
            | '\x7d' :: t => some ([(name, value)], t)
            | _ => none
        | _ => none
    | _ => none

end

/-- The value that a text is the printed form of, in whatever layout. -/
def parse? (t : Text) : Option Json :=
  match readValue? t.length t with
  | some (value, rest) => if skipGap rest = [] then some value else none
  | none => none

/-! ## Strings -/

theorem codePoint?_control : ∀ n < 0x20,
    Toml.codePoint? 4 ['0', '0', Nat.digitChar (n / 16), Nat.digitChar (n % 16)] =
      some (Char.ofNat n, []) := by
  decide

theorem readString?_control {c : Char} (h : c.toNat < 0x20) (t : Text) :
    readString? ("\\u00".toList ++ [Nat.digitChar (c.toNat / 16), Nat.digitChar (c.toNat % 16)] ++
      t) = (readString? t).map (Prod.map (c :: ·) id) := by
  have hstart : "\\u00".toList = ['\\', 'u', '0', '0'] := rfl
  have hcode := codePoint?_control c.toNat h
  rw [Char.ofNat_toNat] at hcode
  simp only [hstart, List.cons_append, List.nil_append, readString?, hcode, Option.bind_some]

theorem readString?_cons {c : Char} (hquote : c ≠ '\"') (hbackslash : c ≠ '\\')
    (h : ¬ c.toNat < 0x20) (t : Text) :
    readString? (c :: t) = (readString? t).map (Prod.map (c :: ·) id) := by
  rw [readString?, if_neg h]
  · exact hquote
  · exact fun _ _ _ _ _ hc _ => hbackslash hc
  · exact fun _ _ hc _ => hbackslash hc

/-- An escaped character is read as the character. -/
theorem readString?_escape (c : Char) (t : Text) :
    readString? (escape c ++ t) = (readString? t).map (Prod.map (c :: ·) id) := by
  unfold escape
  split
  case h_8 hquote hbackslash _ _ _ _ _ =>
    split
    · next hcontrol => exact readString?_control hcontrol t
    · next hcontrol => exact readString?_cons hquote hbackslash hcontrol t
  all_goals rfl

theorem readString?_flatMap (s t : Text) :
    readString? (s.flatMap escape ++ '\"' :: t) = some (s, t) := by
  induction s with
  | nil => rfl
  | cons c s ih =>
    rw [List.flatMap_cons, List.append_assoc, readString?_escape, ih]
    rfl

/-! ## Numbers -/

/-- A text that goes on without a digit. -/
def EndsNumber (t : Text) : Prop :=
  ∀ c ∈ t.head?, c.isDigit = false

theorem ofNat_ne_nil (n : Nat) : Text.ofNat n ≠ [] :=
  Nat.toDigits_ne_nil

theorem isDigit_of_mem_ofNat {n : Nat} {c : Char} (h : c ∈ Text.ofNat n) : c.isDigit = true :=
  Nat.isDigit_of_mem_toDigits (by decide) (by decide) h

theorem readNumber?_ofNat (n : Nat) {t : Text} (h : EndsNumber t) :
    readNumber? (Text.ofNat n ++ t) = some (n, t) := by
  have hdigits : ∀ c ∈ Text.ofNat n, c.isDigit = true := fun c => isDigit_of_mem_ofNat
  have hstop : t.takeWhile Char.isDigit = [] ∧ t.dropWhile Char.isDigit = t := by
    cases t with
    | nil => exact ⟨rfl, rfl⟩
    | cons c t =>
      have hc := h c rfl
      simp [hc]
  have htake : (Text.ofNat n ++ t).takeWhile Char.isDigit = Text.ofNat n := by
    rw [List.takeWhile_append_of_pos hdigits, hstop.1, List.append_nil]
  have hdrop : (Text.ofNat n ++ t).dropWhile Char.isDigit = t := by
    rw [List.dropWhile_append_of_pos hdigits, hstop.2]
  rw [readNumber?, htake, hdrop]
  split
  · next hnil => exact absurd hnil (ofNat_ne_nil n)
  · rw [Text.ofNat, Nat.ofDigitChars_ten_toDigits]

/-! ## Values -/

theorem isGap_of_isDigit {c : Char} (h : c.isDigit = true) : isGap c = false := by
  cases hgap : isGap c with
  | false => rfl
  | true =>
    simp only [isGap, Bool.or_eq_true, beq_iff_eq] at hgap
    rcases hgap with ((rfl | rfl) | rfl) | rfl <;> cases h

theorem skipGap_indent (level : Nat) (t : Text) : skipGap (indent level ++ t) = skipGap t := by
  refine List.dropWhile_append_of_pos fun c hc => ?_
  rcases List.mem_cons.1 hc with rfl | hc
  · rfl
  · rw [List.eq_of_mem_replicate hc]
    rfl

theorem skipGap_skipGap (t : Text) : skipGap (skipGap t) = skipGap t :=
  List.dropWhile_idempotent _ _

/-- What a printed value begins with. -/
theorem pretty_eq_cons (level : Nat) (v : Json) :
    ∃ c t, pretty level v = c :: t ∧ isGap c = false ∧ c ≠ ']' := by
  match v with
  | number n =>
    obtain ⟨c, t, ht⟩ := List.exists_cons_of_ne_nil (ofNat_ne_nil n)
    have hdigit : c.isDigit = true := isDigit_of_mem_ofNat (n := n) (ht ▸ List.mem_cons_self)
    refine ⟨c, t, ht, isGap_of_isDigit hdigit, ?_⟩
    rintro rfl
    cases hdigit
  | text s => exact ⟨'\"', _, rfl, rfl, by decide⟩
  | array [] => exact ⟨'[', _, rfl, rfl, by decide⟩
  | array (_ :: _) => exact ⟨'[', _, rfl, rfl, by decide⟩
  | object [] => exact ⟨'\x7b', _, rfl, rfl, by decide⟩
  | object (_ :: _) => exact ⟨'\x7b', _, rfl, rfl, by decide⟩

theorem skipGap_pretty_append (level : Nat) (v : Json) (t : Text) :
    skipGap (pretty level v ++ t) = pretty level v ++ t := by
  obtain ⟨c, s, hs, hgap, -⟩ := pretty_eq_cons level v
  rw [hs, List.cons_append, skipGap, List.dropWhile_cons_of_neg (by simp [hgap])]

theorem readValue?_skipGap (fuel : Nat) (t : Text) :
    readValue? fuel (skipGap t) = readValue? fuel t := by
  cases fuel with
  | zero => rfl
  | succ fuel => rw [readValue?, readValue?, skipGap_skipGap]

theorem readValue?_indent (fuel level : Nat) (t : Text) :
    readValue? fuel (indent level ++ t) = readValue? fuel t := by
  rw [← readValue?_skipGap, skipGap_indent, readValue?_skipGap]

theorem readItems?_skipGap (fuel : Nat) (t : Text) :
    readItems? fuel (skipGap t) = readItems? fuel t := by
  cases fuel with
  | zero => rfl
  | succ fuel => rw [readItems?, readItems?, readValue?_skipGap]

theorem readFields?_skipGap (fuel : Nat) (t : Text) :
    readFields? fuel (skipGap t) = readFields? fuel t := by
  cases fuel with
  | zero => rfl
  | succ fuel => rw [readFields?, readFields?, skipGap_skipGap]

theorem length_indent (level : Nat) : (indent level).length = 2 * level + 1 := by
  rw [indent, List.length_cons, List.length_replicate]

theorem endsNumber_indent (level : Nat) (t : Text) : EndsNumber (indent level ++ t) := by
  rintro c ⟨⟩
  rfl

theorem endsNumber_cons {c : Char} (h : c.isDigit = false) (t : Text) : EndsNumber (c :: t) := by
  rintro d ⟨⟩
  exact h

theorem length_pretty_pos (level : Nat) (v : Json) : 0 < (pretty level v).length := by
  obtain ⟨c, t, ht, -⟩ := pretty_eq_cons level v
  rw [ht]
  exact Nat.succ_pos _

/-! ## One step of the reader -/

section

variable {fuel close : Nat} {t rest more name : Text} {item value : Json} {items : List Json}
  {fields : List (Text × Json)}

theorem readValue?_number (n : Nat) (ht : EndsNumber t) :
    readValue? (fuel + 1) (Text.ofNat n ++ t) = some (number n, t) := by
  have hgap : skipGap (Text.ofNat n ++ t) = Text.ofNat n ++ t :=
    skipGap_pretty_append 0 (number n) t
  have hfirst : ∀ c s, Text.ofNat n ++ t = c :: s → c.isDigit = true := by
    intro c s hcons
    obtain ⟨d, digits, hdigits⟩ := List.exists_cons_of_ne_nil (ofNat_ne_nil n)
    have hdc : d = c := by
      rw [hdigits] at hcons
      exact (List.cons.inj hcons).1
    exact isDigit_of_mem_ofNat (n := n) (hdc ▸ hdigits ▸ List.mem_cons_self)
  rw [readValue?, hgap]
  split
  · next hquote => cases hfirst _ _ hquote
  · next hbracket => cases hfirst _ _ hbracket
  · next hbrace => cases hfirst _ _ hbrace
  · rw [readNumber?_ofNat n ht]
    rfl

theorem readValue?_array (hstart : (skipGap t).head? ≠ some ']')
    (h : readItems? fuel t = some (items, rest)) :
    readValue? (fuel + 1) ('[' :: t) = some (array items, rest) := by
  change (match skipGap t with
    | ']' :: t => some (array [], t)
    | t => (readItems? fuel t).map (Prod.map array id)) = _
  split
  · next heq => exact absurd (by rw [heq]; rfl) hstart
  · rw [readItems?_skipGap, h]
    rfl

theorem readValue?_object (hstart : (skipGap t).head? ≠ some '\x7d')
    (h : readFields? fuel t = some (fields, rest)) :
    readValue? (fuel + 1) ('\x7b' :: t) = some (object fields, rest) := by
  change (match skipGap t with
    | '\x7d' :: t => some (object [], t)
    | t => (readFields? fuel t).map (Prod.map object id)) = _
  split
  · next heq => exact absurd (by rw [heq]; rfl) hstart
  · rw [readFields?_skipGap, h]
    rfl

theorem readItems?_last (h : readValue? fuel t = some (item, indent close ++ ']' :: rest)) :
    readItems? (fuel + 1) t = some ([item], rest) := by
  simp only [readItems?, h, Option.bind_some, skipGap_indent]
  rfl

theorem readItems?_cons (h : readValue? fuel t = some (item, ',' :: more))
    (hmore : readItems? fuel more = some (items, rest)) :
    readItems? (fuel + 1) t = some (item :: items, rest) := by
  rw [readItems?, h, Option.bind_some]
  change (readItems? fuel more).map _ = _
  rw [hmore]
  rfl

theorem quote_append (s t : Text) : quote s ++ t = '\"' :: (s.flatMap escape ++ '\"' :: t) := by
  simp [quote]

theorem skipGap_quote (s t : Text) :
    skipGap ('\"' :: (s.flatMap escape ++ t)) = '\"' :: (s.flatMap escape ++ t) :=
  rfl

theorem skipGap_colon (t : Text) : skipGap (": ".toList ++ t) = ':' :: ' ' :: t :=
  rfl

theorem readValue?_space (fuel : Nat) (t : Text) :
    readValue? fuel (' ' :: t) = readValue? fuel t := by
  have hspace : skipGap (' ' :: t) = skipGap t := rfl
  rw [← readValue?_skipGap, hspace, readValue?_skipGap]

theorem readFields?_last (level : Nat)
    (h : readValue? fuel t = some (value, indent close ++ '\x7d' :: rest)) :
    readFields? (fuel + 1) (indent level ++ (quote name ++ (": ".toList ++ t))) =
      some ([(name, value)], rest) := by
  simp only [readFields?, skipGap_indent, quote_append, skipGap_quote, readString?_flatMap,
    Option.bind_some, skipGap_colon, readValue?_space, h]
  rfl

theorem readFields?_cons (level : Nat) (h : readValue? fuel t = some (value, ',' :: more))
    (hmore : readFields? fuel more = some (fields, rest)) :
    readFields? (fuel + 1) (indent level ++ (quote name ++ (": ".toList ++ t))) =
      some ((name, value) :: fields, rest) := by
  simp only [readFields?, skipGap_indent, quote_append, skipGap_quote, readString?_flatMap,
    Option.bind_some, skipGap_colon, readValue?_space, h]
  change (readFields? fuel more).map _ = _
  rw [hmore]
  rfl

end

/-! ## Printed values -/

theorem pretty_array (level : Nat) (item : Json) (items : List Json) (t : Text) :
    pretty level (array (item :: items)) ++ t =
      '[' :: (prettyItems (level + 1) (item :: items) ++ (indent level ++ ']' :: t)) := by
  simp [pretty]

theorem pretty_object (level : Nat) (field : Text × Json) (fields : List (Text × Json)) (t : Text) :
    pretty level (object (field :: fields)) ++ t =
      '\x7b' :: (prettyFields (level + 1) (field :: fields) ++ (indent level ++ '\x7d' :: t)) := by
  simp [pretty]

theorem prettyItems_singleton (level : Nat) (item : Json) (t : Text) :
    prettyItems level [item] ++ t = indent level ++ (pretty level item ++ t) := by
  simp [prettyItems]

theorem prettyItems_cons (level : Nat) (item next : Json) (items : List Json) (t : Text) :
    prettyItems level (item :: next :: items) ++ t =
      indent level ++ (pretty level item ++ ',' :: (prettyItems level (next :: items) ++ t)) := by
  simp [prettyItems]

theorem prettyFields_singleton (level : Nat) (name : Text) (value : Json) (t : Text) :
    prettyFields level [(name, value)] ++ t =
      indent level ++ (quote name ++ (": ".toList ++ (pretty level value ++ t))) := by
  simp [prettyFields]

theorem prettyFields_cons (level : Nat) (name : Text) (value : Json) (next : Text × Json)
    (fields : List (Text × Json)) (t : Text) :
    prettyFields level ((name, value) :: next :: fields) ++ t =
      indent level ++ (quote name ++ (": ".toList ++ (pretty level value ++
        ',' :: (prettyFields level (next :: fields) ++ t)))) := by
  simp [prettyFields]

/-- The brackets of an array are not taken for those of an empty one. -/
theorem head?_skipGap_prettyItems (level : Nat) (item : Json) (items : List Json) (t : Text) :
    (skipGap (prettyItems level (item :: items) ++ t)).head? ≠ some ']' := by
  obtain ⟨c, s, hs, -, hc⟩ := pretty_eq_cons level item
  obtain ⟨u, hu⟩ : ∃ u, prettyItems level (item :: items) ++ t =
      indent level ++ (pretty level item ++ u) := by
    cases items with
    | nil => exact ⟨_, prettyItems_singleton level item t⟩
    | cons next items => exact ⟨_, prettyItems_cons level item next items t⟩
  rw [hu, skipGap_indent, skipGap_pretty_append, hs]
  exact fun h => hc (Option.some.inj h)

theorem head?_skipGap_prettyFields (level : Nat) (field : Text × Json)
    (fields : List (Text × Json)) (t : Text) :
    (skipGap (prettyFields level (field :: fields) ++ t)).head? ≠ some '\x7d' := by
  obtain ⟨u, hu⟩ : ∃ u, prettyFields level (field :: fields) ++ t =
      indent level ++ (quote field.1 ++ u) := by
    cases fields with
    | nil => exact ⟨_, prettyFields_singleton level field.1 field.2 t⟩
    | cons next fields => exact ⟨_, prettyFields_cons level field.1 field.2 next fields t⟩
  rw [hu, skipGap_indent, quote_append, skipGap_quote]
  exact fun h => absurd (Option.some.inj h) (by decide)

mutual

/-- A printed value is read, with as many steps as it has characters. -/
theorem readValue?_pretty (v : Json) (level fuel : Nat) (t : Text)
    (hfuel : (pretty level v).length ≤ fuel) (ht : EndsNumber t) :
    readValue? fuel (pretty level v ++ t) = some (v, t) := by
  have hpos := length_pretty_pos level v
  obtain ⟨fuel, rfl⟩ : ∃ n, fuel = n + 1 := ⟨fuel - 1, by omega⟩
  match v with
  | number n => exact readValue?_number n ht
  | text s =>
    rw [pretty, quote_append, readValue?, skipGap_quote]
    change (readString? _).map _ = _
    rw [readString?_flatMap]
    rfl
  | array [] => rfl
  | array (item :: items) =>
    have hlength := congrArg List.length (pretty_array level item items [])
    simp only [List.append_nil, List.length_cons, List.length_append] at hlength
    rw [pretty_array]
    exact readValue?_array (head?_skipGap_prettyItems _ item items _)
      (readItems?_pretty item items (level + 1) fuel level t (by omega))
  | object [] => rfl
  | object (field :: fields) =>
    have hlength := congrArg List.length (pretty_object level field fields [])
    simp only [List.append_nil, List.length_cons, List.length_append] at hlength
    rw [pretty_object]
    exact readValue?_object (head?_skipGap_prettyFields _ field fields _)
      (readFields?_pretty field fields (level + 1) fuel level t (by omega))
termination_by fuel

theorem readItems?_pretty (item : Json) (items : List Json) (level fuel close : Nat) (t : Text)
    (hfuel : (prettyItems level (item :: items)).length ≤ fuel) :
    readItems? fuel (prettyItems level (item :: items) ++ (indent close ++ ']' :: t)) =
      some (item :: items, t) := by
  match items with
  | [] =>
    have hlength := congrArg List.length (prettyItems_singleton level item [])
    simp only [List.append_nil, List.length_append, length_indent] at hlength
    obtain ⟨fuel, rfl⟩ : ∃ n, fuel = n + 1 := ⟨fuel - 1, by omega⟩
    have hitem := readValue?_pretty item level fuel (indent close ++ ']' :: t) (by omega)
      (endsNumber_indent close _)
    rw [prettyItems_singleton]
    exact readItems?_last ((readValue?_indent fuel level _).trans hitem)
  | next :: items =>
    have hlength := congrArg List.length (prettyItems_cons level item next items [])
    simp only [List.append_nil, List.length_append, List.length_cons, length_indent] at hlength
    obtain ⟨fuel, rfl⟩ : ∃ n, fuel = n + 1 := ⟨fuel - 1, by omega⟩
    have hitem := readValue?_pretty item level fuel
      (',' :: (prettyItems level (next :: items) ++ (indent close ++ ']' :: t))) (by omega)
      (endsNumber_cons rfl _)
    rw [prettyItems_cons]
    exact readItems?_cons ((readValue?_indent fuel level _).trans hitem)
      (readItems?_pretty next items level fuel close t (by omega))
termination_by fuel

theorem readFields?_pretty (field : Text × Json) (fields : List (Text × Json))
    (level fuel close : Nat) (t : Text)
    (hfuel : (prettyFields level (field :: fields)).length ≤ fuel) :
    readFields? fuel (prettyFields level (field :: fields) ++ (indent close ++ '\x7d' :: t)) =
      some (field :: fields, t) := by
  obtain ⟨name, value⟩ := field
  match fields with
  | [] =>
    have hlength := congrArg List.length (prettyFields_singleton level name value [])
    simp only [List.append_nil, List.length_append, length_indent] at hlength
    obtain ⟨fuel, rfl⟩ : ∃ n, fuel = n + 1 := ⟨fuel - 1, by omega⟩
    have hvalue := readValue?_pretty value level fuel (indent close ++ '\x7d' :: t) (by omega)
      (endsNumber_indent close _)
    rw [prettyFields_singleton]
    exact readFields?_last level hvalue
  | next :: fields =>
    have hlength := congrArg List.length (prettyFields_cons level name value next fields [])
    simp only [List.append_nil, List.length_append, List.length_cons, length_indent] at hlength
    obtain ⟨fuel, rfl⟩ : ∃ n, fuel = n + 1 := ⟨fuel - 1, by omega⟩
    have hvalue := readValue?_pretty value level fuel
      (',' :: (prettyFields level (next :: fields) ++ (indent close ++ '\x7d' :: t))) (by omega)
      (endsNumber_cons rfl _)
    rw [prettyFields_cons]
    exact readFields?_cons level hvalue
      (readFields?_pretty next fields level fuel close t (by omega))
termination_by fuel

end

theorem endsNumber_of_skipGap {t : Text} (h : skipGap t = []) : EndsNumber t := by
  intro c hc
  have hgap : isGap c = true := List.dropWhile_eq_nil_iff.1 h c (List.mem_of_mem_head? hc)
  cases hdigit : c.isDigit with
  | false => rfl
  | true => rw [isGap_of_isDigit hdigit] at hgap; cases hgap

/-- **What is printed of a value is read back as the value**, with or without an end of line. -/
theorem parse?_render_append (v : Json) {t : Text} (h : skipGap t = []) :
    parse? (render v ++ t) = some v := by
  have hread : readValue? (render v ++ t).length (render v ++ t) = some (v, t) :=
    readValue?_pretty v 0 _ t (by simp [render]) (endsNumber_of_skipGap h)
  simp only [parse?, hread]
  exact if_pos h

/-- Different values are printed differently. -/
theorem render_injective {v w : Json} (h : render v = render w) : v = w := by
  have hv := parse?_render_append v (t := []) rfl
  rw [h, parse?_render_append w (t := []) rfl] at hv
  exact (Option.some.inj hv).symm

end Json

end CorpusLint
