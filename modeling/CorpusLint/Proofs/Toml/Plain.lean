import CorpusLint.Toml.Document

/-!
# Values as they are written

The readers cut a text into statements and give the values in them as they are written. What they
take for a value without brackets or braces is neither an array nor a table (`Expr.Plain`), so that
every table of a document comes from its statements or from fields in braces
(`plain_of_statementsFrom`).
-/

namespace CorpusLint

namespace Toml

/-! ## Values without brackets -/

/-- Whether a value is neither an array nor a table. -/
def Value.isScalar : Value → Bool
  | array _ | table _ => false
  | _ => true

section

variable {t : Text} {v : Value}

theorem isScalar_radixInteger? {base : Nat} (h : radixInteger? base t = some v) :
    v.isScalar = true := by
  unfold radixInteger? at h
  split at h
  · cases h
  · obtain rfl := Option.some.inj h
    rfl
  · obtain ⟨n, -, rfl⟩ := Option.map_eq_some_iff.1 h
    rfl

theorem isScalar_integer (negative : Bool) (digits : Text) :
    (integer negative digits).isScalar = true := by
  unfold integer
  split <;> rfl

theorem isScalar_float? {negative : Bool} (h : float? negative t = some v) :
    v.isScalar = true := by
  unfold float? at h
  dsimp only at h
  split at h
  · cases h
  · split at h
    · split at h <;> obtain rfl := Option.some.inj h <;> rfl
    · cases h

theorem isScalar_decimal? (h : decimal? t = some v) : v.isScalar = true := by
  unfold decimal? at h
  dsimp only at h
  split at h
  · obtain rfl := Option.some.inj h
    rfl
  · split at h
    · obtain rfl := Option.some.inj h
      rfl
    · split at h
      · cases h
      · split at h
        · obtain ⟨digits, -, h⟩ := Option.bind_eq_some_iff.1 h
          exact isScalar_float? h
        · split at h
          · obtain ⟨digits, -, rfl⟩ := Option.map_eq_some_iff.1 h
            exact isScalar_integer _ _
          · cases h

theorem isScalar_word? (h : word? t = some v) : v.isScalar = true := by
  unfold word? at h
  split at h
  · obtain rfl := Option.some.inj h
    rfl
  · split at h
    · obtain rfl := Option.some.inj h
      rfl
    · split at h
      · obtain rfl := Option.some.inj h
        rfl
      · split at h
        · exact isScalar_radixInteger? h
        · exact isScalar_radixInteger? h
        · exact isScalar_radixInteger? h
        · exact isScalar_decimal? h

theorem isScalar_scalar? {rest : Text} (h : scalar? t = some (v, rest)) : v.isScalar = true := by
  unfold scalar? at h
  split at h
  · obtain ⟨s, -, hs⟩ := Option.map_eq_some_iff.1 h
    obtain ⟨rfl, -⟩ := Prod.mk.inj hs
    rfl
  · obtain ⟨s, -, hs⟩ := Option.map_eq_some_iff.1 h
    obtain ⟨rfl, -⟩ := Prod.mk.inj hs
    rfl
  · obtain ⟨w, hw, hrest⟩ := Option.map_eq_some_iff.1 h
    obtain ⟨rfl, -⟩ := Prod.mk.inj hrest
    exact isScalar_word? hw

end

/-! ## Values with brackets -/

/-- A value as it is written, whose parts without brackets have none. -/
inductive Expr.Plain : Expr → Prop
  | scalar {v : Value} (h : v.isScalar = true) : Plain (.scalar v)
  | array {items : List Expr} (h : ∀ e ∈ items, Plain e) : Plain (.array items)
  | table {fields : List (Path × Expr)} (h : ∀ f ∈ fields, Plain f.2) : Plain (.table fields)

section

variable {expr : Text → Option (Expr × Text)}
  (hexpr : ∀ {t e rest}, expr t = some (e, rest) → e.Plain)

include hexpr

theorem plain_of_itemsFrom {fuel : Nat} {t rest : Text} {items : List Expr}
    (h : itemsFrom expr fuel t = some (items, rest)) : ∀ e ∈ items, e.Plain := by
  induction fuel generalizing t items with
  | zero => cases h
  | succ fuel ih =>
    unfold itemsFrom at h
    split at h
    · cases h
      exact List.forall_mem_nil _
    · split at h
      · cases h
      · next item after hitem =>
        split at h
        · obtain ⟨⟨others, last⟩, hothers, hcons⟩ := Option.map_eq_some_iff.1 h
          obtain ⟨rfl, rfl⟩ := Prod.mk.inj hcons
          exact List.forall_mem_cons.2 ⟨hexpr hitem, ih hothers⟩
        · cases h
          exact List.forall_mem_singleton.2 (hexpr hitem)
        · cases h

theorem plain_of_assignment? {skip : Text → Text} {t rest : Text} {field : Path × Expr}
    (h : assignment? skip expr t = some (field, rest)) : field.2.Plain := by
  unfold assignment? at h
  split at h
  · cases h
  · split at h
    · obtain ⟨⟨e, last⟩, he, hfield⟩ := Option.map_eq_some_iff.1 h
      obtain ⟨rfl, -⟩ := Prod.mk.inj hfield
      exact hexpr he
    · cases h

theorem plain_of_fieldsFrom {fuel : Nat} {t rest : Text} {fields : List (Path × Expr)}
    (h : fieldsFrom expr fuel t = some (fields, rest)) : ∀ f ∈ fields, f.2.Plain := by
  induction fuel generalizing t fields with
  | zero => cases h
  | succ fuel ih =>
    unfold fieldsFrom at h
    split at h
    · cases h
      exact List.forall_mem_nil _
    · split at h
      · cases h
      · next field after hfield =>
        have hplain := plain_of_assignment? hexpr hfield
        split at h
        · obtain ⟨⟨others, last⟩, hothers, hcons⟩ := Option.map_eq_some_iff.1 h
          obtain ⟨rfl, rfl⟩ := Prod.mk.inj hcons
          exact List.forall_mem_cons.2 ⟨hplain, ih hothers⟩
        · cases h
          exact List.forall_mem_singleton.2 hplain
        · cases h

end

theorem plain_of_expr? {depth : Nat} {t rest : Text} {e : Expr}
    (h : expr? depth t = some (e, rest)) : e.Plain := by
  induction depth generalizing t rest e with
  | zero =>
    obtain ⟨⟨v, last⟩, hv, he⟩ := Option.map_eq_some_iff.1 h
    obtain ⟨rfl, -⟩ := Prod.mk.inj he
    exact .scalar (isScalar_scalar? hv)
  | succ depth ih =>
    unfold expr? at h
    split at h
    · obtain ⟨⟨items, last⟩, hitems, he⟩ := Option.map_eq_some_iff.1 h
      obtain ⟨rfl, -⟩ := Prod.mk.inj he
      exact .array (plain_of_itemsFrom ih hitems)
    · obtain ⟨⟨fields, last⟩, hfields, he⟩ := Option.map_eq_some_iff.1 h
      obtain ⟨rfl, -⟩ := Prod.mk.inj he
      exact .table (plain_of_fieldsFrom ih hfields)
    · obtain ⟨⟨v, last⟩, hv, he⟩ := Option.map_eq_some_iff.1 h
      obtain ⟨rfl, -⟩ := Prod.mk.inj he
      exact .scalar (isScalar_scalar? hv)

/-- The value that a statement gives, if any, is plain. -/
def Statement.Plain : Statement → Prop
  | header _ | element _ => True
  | assignment _ e => e.Plain

theorem plain_of_statement? {t rest : Text} {s : Statement}
    (h : statement? t = some (s, rest)) : s.Plain := by
  unfold statement? at h
  split at h
  · split at h
    · cases h
      trivial
    · cases h
  · split at h
    · cases h
      trivial
    · cases h
  · obtain ⟨⟨⟨path, e⟩, last⟩, hfield, hs⟩ := Option.map_eq_some_iff.1 h
    obtain ⟨rfl, -⟩ := Prod.mk.inj hs
    exact plain_of_assignment? plain_of_expr? hfield

theorem plain_of_statementsFrom {fuel : Nat} {t : Text} {statements : List Statement}
    (h : statementsFrom fuel t = some statements) : ∀ s ∈ statements, s.Plain := by
  induction fuel generalizing t statements with
  | zero => cases h
  | succ fuel ih =>
    unfold statementsFrom at h
    split at h
    · cases h
      exact List.forall_mem_nil _
    · split at h
      · cases h
      · next s rest hs =>
        have hplain := plain_of_statement? hs
        split at h
        · cases h
          exact List.forall_mem_singleton.2 hplain
        · split at h
          · cases h
          · obtain ⟨others, hothers, rfl⟩ := Option.map_eq_some_iff.1 h
            exact List.forall_mem_cons.2 ⟨hplain, ih hothers⟩

end Toml

end CorpusLint
