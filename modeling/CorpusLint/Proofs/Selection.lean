import CorpusLint.Validation
import Mathlib.Data.List.Basic

/-!
# Unknown identifiers

A selection is refused for an identifier that is none of the catalog, and for nothing else. The
disabled rules are looked through first, and then those that were asked for: the first unknown
identifier of the two lists, one after the other, is the one that is named
(`select_eq_error_iff`).
-/

namespace CorpusLint

namespace Rule

/-- Whether some rule has this identifier. -/
def isKnown (id : Text) : Bool :=
  catalog.any (·.id == id)

theorem isKnown_iff {id : Text} : isKnown id = true ↔ ∃ r : Rule, r.id = id := by
  simp [isKnown, mem_catalog]

theorem isKnown_of_parse {id : Text} {r : Rule} (h : parse id = .ok r) : isKnown id = true :=
  isKnown_iff.2 ⟨r, parse_eq_ok_iff.1 h⟩

theorem parse_eq_error_iff {id : Text} {failure : Failure} :
    parse id = .error failure ↔ isKnown id = false ∧ failure = .unknownRule id := by
  unfold parse
  cases hfind : catalog.find? (fun r => r.id == id) with
  | none =>
    have hunknown : isKnown id = false := by
      rw [isKnown, List.any_eq_false]
      exact List.find?_eq_none.1 hfind
    simp [hunknown, eq_comm]
  | some r =>
    have hknown : isKnown id = true := isKnown_iff.2 ⟨r, by simpa using List.find?_some hfind⟩
    simp [hknown]

theorem parseAll_eq_error_iff {ids : List Text} {failure : Failure} :
    parseAll ids = .error failure ↔
      ∃ id, ids.find? (!isKnown ·) = some id ∧ failure = .unknownRule id := by
  induction ids with
  | nil => simp [parseAll]
  | cons id ids ih =>
    unfold parseAll
    cases hparse : parse id with
    | error cause =>
      obtain ⟨hunknown, rfl⟩ := parse_eq_error_iff.1 hparse
      rw [List.find?_cons_of_pos (by simp [hunknown])]
      simp [eq_comm]
    | ok r =>
      rw [List.find?_cons_of_neg (by simp [isKnown_of_parse hparse]), ← ih]
      cases parseAll ids <;> simp

theorem find?_isKnown_of_parseAll {ids : List Text} {rules : List Rule}
    (h : parseAll ids = .ok rules) : ids.find? (!isKnown ·) = none := by
  rw [Option.eq_none_iff_forall_not_mem]
  intro id hid
  rw [parseAll_eq_error_iff.2 ⟨id, hid, rfl⟩] at h
  cases h

theorem select_eq_error_iff {settings : RuleSettings} {only : List Text} {failure : Failure} :
    select settings only = .error failure ↔
      ∃ id, (settings.disabled ++ only).find? (!isKnown ·) = some id ∧
        failure = .unknownRule id := by
  rw [List.find?_append]
  unfold select
  cases hdisabled : parseAll settings.disabled with
  | error cause =>
    obtain ⟨id, hid, rfl⟩ := parseAll_eq_error_iff.1 hdisabled
    simp [hid, eq_comm]
  | ok disabled =>
    rw [find?_isKnown_of_parseAll hdisabled, Option.none_or]
    cases only with
    | nil => simp
    | cons id ids =>
      rw [← parseAll_eq_error_iff]
      cases hnamed : parseAll (id :: ids) <;> simp [hnamed]

end Rule

end CorpusLint
