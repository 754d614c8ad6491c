import ClusterAudit.Proofs.Dict
import ClusterAudit.Selector

/-!
# What selectors select

An object is selected if it carries all labels that are asked for, of which there must be one, or
meets one of the requirements (`Selector.selects_iff`). Requirements are alternatives: more of them
select more, in whatever order they stand and however often. Labels add conditions: more of them
select less, but for the first one, before which they select nothing. A selector that selects
nothing for lack of both covers everything. A requirement that asks for a value keeps being met as
an object gets more labels (`Requirement.holds_of_extends`): `Selector.selects_laws`.
-/

namespace ClusterAudit

/-! ## Labels -/

namespace Labels

variable {labels labels' asked : Labels} {key value : String}

/-- Labels that an object carries and others that it carries besides. -/
def Extends (labels' labels : Labels) : Prop :=
  ∀ key value, labels.get? key = some value → labels'.get? key = some value

/-- A label with a new key is one besides the others. -/
theorem extends_insert (h : labels.get? key = none) (value : String) :
    Extends (labels.insert key value) labels := by
  intro k v hget
  rwa [Dict.get?_insert_of_ne]
  rintro rfl
  rw [h] at hget
  cases hget

end Labels

/-- Labels match if some are asked for, and all of these are there. -/
theorem labelsMatch_iff {labels asked : Labels} :
    labelsMatch labels asked ↔ asked.isEmpty = false ∧ Labels.Extends labels asked := by
  have hall : asked.all (fun key value => labels.get? key == some value) ↔
      Labels.Extends labels asked := by
    rw [Dict.all, List.all_eq_true]
    constructor
    · intro hasked key value hget
      exact beq_iff_eq.1 (hasked (key, value) (Dict.mem_entries_iff.2 hget))
    · intro hasked e he
      exact beq_iff_eq.2 (hasked e.1 e.2 (Dict.mem_entries_iff.1 he))
  rw [labelsMatch, Bool.and_eq_true, hall, Bool.not_eq_true']

/-! ## Requirements -/

namespace Requirement

variable {labels labels' : Labels} {r : Requirement}

/-- Asking for none of some values is the contrary of asking for one of them. -/
theorem holds_notIn (key : String) (values : List String) (labels : Labels) :
    holds ⟨key, .notIn, values⟩ labels = !holds ⟨key, .isIn, values⟩ labels := by
  rw [holds, holds]
  cases labels.get? key <;> rfl

/-- Asking for the lack of a value is the contrary of asking for one. -/
theorem holds_absent (key : String) (values : List String) (labels : Labels) :
    holds ⟨key, .absent, values⟩ labels = !holds ⟨key, .present, values⟩ labels := by
  rw [holds, holds]
  cases labels.get? key <;> rfl

/-- Whether a requirement asks for a value, and not for the lack of one. -/
def IsPositive (r : Requirement) : Prop := r.operator ≠ .notIn ∧ r.operator ≠ .absent

instance (r : Requirement) : Decidable r.IsPositive := inferInstanceAs (Decidable (_ ∧ _))

/-- A requirement that asks for a value is met by labels that have one. -/
theorem exists_value (hr : r.IsPositive) (hholds : r.holds labels) :
    ∃ value, labels.get? r.key = some value := by
  obtain ⟨key, operator, values⟩ := r
  cases hget : labels.get? key with
  | some value => exact ⟨value, rfl⟩
  | none =>
    rw [holds, hget] at hholds
    cases operator with
    | isIn | present => cases hholds
    | notIn => exact absurd rfl hr.1
    | absent => exact absurd rfl hr.2

/-- A value that is asked for is still there among more labels. -/
theorem holds_of_extends (hr : r.IsPositive) (h : Labels.Extends labels' labels)
    (hholds : r.holds labels) : r.holds labels' := by
  obtain ⟨value, hvalue⟩ := exists_value hr hholds
  rw [holds, hvalue] at hholds
  rw [holds, h r.key value hvalue]
  exact hholds

end Requirement

/-! ## Selectors -/

namespace Selector

variable {s : Selector} {labels labels' asked : Labels} {key : String}

/-- An object is selected by its labels, or by a requirement that it meets. -/
theorem selects_iff : s.selects labels ↔
    labelsMatch labels s.matchLabels ∨ ∃ r ∈ s.matchExpressions, r.holds labels := by
  rw [selects, Bool.or_eq_true, List.any_eq_true]

/-- What is selected is covered by a selector that asks for something. -/
theorem selects_eq (selector : Selector) (labels : Labels) :
    selector.selects labels = (!selector.isEmpty && selector.covers labels) := by
  obtain ⟨pairs, requirements⟩ := selector
  cases hpairs : pairs.isEmpty with
  | false => simp [covers, isEmpty, hpairs]
  | true => cases requirements <;> simp [covers, isEmpty, selects, labelsMatch, hpairs]

/-- The selector that asks for nothing covers everything. -/
theorem covers_empty (labels : Labels) : empty.covers labels := rfl

/-- A selector that asks for labels covers those who carry them all. -/
theorem covers_labels_iff (h : asked.isEmpty = false) : covers ⟨asked, []⟩ labels ↔
    ∀ key value, asked.get? key = some value → labels.get? key = some value := by
  have hmatch : labelsMatch labels asked ↔ Labels.Extends labels asked := by
    rw [labelsMatch_iff, and_iff_right h]
  rw [← Labels.Extends, ← hmatch]
  simp [covers, isEmpty, selects, h]

/-- Only the selector that asks for nothing is empty. -/
theorem isEmpty_iff : s.isEmpty ↔ s = empty := by
  rw [isEmpty, Bool.and_eq_true, Dict.isEmpty, List.isEmpty_iff, List.isEmpty_iff]
  obtain ⟨asked, requirements⟩ := s
  constructor
  · rintro ⟨hasked, hrequirements⟩
    exact congrArg₂ mk (Dict.ext_entries hasked) hrequirements
  · rintro heq
    cases heq
    exact ⟨rfl, rfl⟩

/-- Selecting and covering differ for the selector that asks for nothing. -/
theorem covers_eq_selects_iff : s.covers labels = s.selects labels ↔ s ≠ empty := by
  rw [selects_eq, ne_eq, ← isEmpty_iff]
  cases hempty : s.isEmpty with
  | true => simp [covers, hempty]
  | false => simp

/-- With more requirements an object stays selected. -/
theorem selects_of_subset {requirements : List Requirement} (h : s.matchExpressions ⊆ requirements)
    (hselects : s.selects labels) : selects { s with matchExpressions := requirements } labels := by
  rw [selects_iff] at hselects ⊢
  exact hselects.imp_right fun ⟨r, hr, hholds⟩ => ⟨r, h hr, hholds⟩

/-- Requirements are looked at as a set. -/
theorem selects_congr {requirements : List Requirement}
    (h : ∀ r, r ∈ requirements ↔ r ∈ s.matchExpressions) :
    selects { s with matchExpressions := requirements } labels = s.selects labels := by
  rw [Bool.eq_iff_iff, selects_iff, selects_iff]
  simp only [h]

/-- So they are by what covers an object. -/
theorem covers_congr {requirements : List Requirement}
    (h : ∀ r, r ∈ requirements ↔ r ∈ s.matchExpressions) :
    covers { s with matchExpressions := requirements } labels = s.covers labels := by
  have hempty : requirements.isEmpty = s.matchExpressions.isEmpty := by
    rw [Bool.eq_iff_iff, List.isEmpty_iff, List.isEmpty_iff, List.eq_nil_iff_forall_not_mem,
      List.eq_nil_iff_forall_not_mem]
    simp only [h]
  rw [covers, covers, selects_congr h, isEmpty, isEmpty, hempty]

/-- With one label more to carry, and one at least before, no other object is selected. -/
theorem selects_of_withLabel {value : String} (hasked : s.matchLabels.isEmpty = false)
    (hkey : s.matchLabels.get? key = none) (h : (s.withLabel key value).selects labels) :
    s.selects labels := by
  rw [selects_iff] at h ⊢
  refine h.imp_left fun hmatch => labelsMatch_iff.2 ⟨hasked, fun k v hget => ?_⟩
  exact (labelsMatch_iff.1 hmatch).2 k v (Labels.extends_insert hkey value k v hget)

/-- An object with more labels stays selected if no requirement asks for the lack of a value. -/
theorem selects_of_extends (hpositive : ∀ r ∈ s.matchExpressions, r.IsPositive)
    (h : Labels.Extends labels' labels) (hselects : s.selects labels) : s.selects labels' := by
  rw [selects_iff, labelsMatch_iff] at hselects
  rw [selects_iff, labelsMatch_iff]
  rcases hselects with ⟨hasked, hlabels⟩ | ⟨r, hr, hholds⟩
  · exact .inl ⟨hasked, fun key value hget => h key value (hlabels key value hget)⟩
  · exact .inr ⟨r, hr, Requirement.holds_of_extends (hpositive r hr) h hholds⟩

/-- One requirement more, wherever it is put, deselects no object. One label more to carry, with a
new key, selects none, if there was one before. Covering differs from selecting for the selector
that asks for nothing, and for no other. Asking for none of some values is the contrary of asking
for one of them, and asking for the lack of a value that of asking for one. The order and the
repetition of requirements do not matter. If none of them asks for the lack of a value or of some
values, an object that gets a label with a new key is not deselected. -/
theorem selects_laws (s : Selector) (labels : Labels) :
    (∀ before r after, s.matchExpressions = before ++ after → s.selects labels →
      selects { s with matchExpressions := before ++ r :: after } labels) ∧
    (∀ key value, s.matchLabels.isEmpty = false → s.matchLabels.get? key = none →
      (s.withLabel key value).selects labels → s.selects labels) ∧
    (s.covers labels = s.selects labels ↔ s ≠ empty) ∧
    (∀ key values,
      Requirement.holds ⟨key, .notIn, values⟩ labels =
        !Requirement.holds ⟨key, .isIn, values⟩ labels ∧
      Requirement.holds ⟨key, .absent, values⟩ labels =
        !Requirement.holds ⟨key, .present, values⟩ labels) ∧
    (∀ requirements, (∀ r, r ∈ requirements ↔ r ∈ s.matchExpressions) →
      selects { s with matchExpressions := requirements } labels = s.selects labels ∧
      covers { s with matchExpressions := requirements } labels = s.covers labels) ∧
    ∀ key value, (∀ r ∈ s.matchExpressions, r.operator ≠ .notIn ∧ r.operator ≠ .absent) →
      labels.get? key = none → s.selects labels → s.selects (labels.insert key value) := by
  refine ⟨fun before r after hcut => selects_of_subset fun o ho => ?_,
    fun key value => selects_of_withLabel, covers_eq_selects_iff,
    fun key values => ⟨Requirement.holds_notIn key values labels,
      Requirement.holds_absent key values labels⟩,
    fun requirements h => ⟨selects_congr h, covers_congr h⟩,
    fun key value hpositive hkey =>
      selects_of_extends hpositive (Labels.extends_insert hkey value)⟩
  rw [hcut, List.mem_append] at ho
  exact List.mem_append.2 (ho.imp_right (List.mem_cons_of_mem r))

/-- A selector that asks for a label or, instead, for a value of another one. -/
def eitherOr : Selector := ⟨.ofList [("app", "a")], [⟨"env", .isIn, ["prod"]⟩]⟩

/-- An object that meets the requirement stays selected with another one in front of it, with the
requirement written twice, and with a label that is not the one asked for; and it is selected since
it is so with one label more to carry. -/
theorem selects_laws_eitherOr :
    let labels : Labels := .ofList [("env", "prod")]
    let team : Requirement := ⟨"team", .present, []⟩
    let twice := eitherOr.matchExpressions ++ eitherOr.matchExpressions
    (eitherOr.matchExpressions = [] ++ eitherOr.matchExpressions ∧ eitherOr.selects labels ∧
      selects { eitherOr with matchExpressions := team :: eitherOr.matchExpressions } labels) ∧
    (eitherOr.matchLabels.isEmpty = false ∧ eitherOr.matchLabels.get? "zone" = none ∧
      (eitherOr.withLabel "zone" "1").selects labels ∧ eitherOr.selects labels) ∧
    ((∀ r, r ∈ twice ↔ r ∈ eitherOr.matchExpressions) ∧
      selects { eitherOr with matchExpressions := twice } labels = eitherOr.selects labels) ∧
    ((∀ r ∈ eitherOr.matchExpressions, r.operator ≠ .notIn ∧ r.operator ≠ .absent) ∧
      labels.get? "app" = none ∧ eitherOr.selects (labels.insert "app" "b")) := by
  intro labels team twice
  obtain ⟨hmore, hlabel, -, -, hset, hextend⟩ := selects_laws eitherOr labels
  have hselects : eitherOr.selects labels := by decide
  have htwice : ∀ r, r ∈ twice ↔ r ∈ eitherOr.matchExpressions := fun r => by
    rw [List.mem_append, or_self]
  exact ⟨⟨rfl, hselects, hmore [] team _ rfl hselects⟩,
    ⟨by decide, by decide, by decide, hlabel "zone" "1" (by decide) (by decide) (by decide)⟩,
    ⟨htwice, (hset twice htwice).1⟩,
    ⟨by decide, by decide, hextend "app" "b" (by decide) (by decide) hselects⟩⟩

/-- The first label to carry selects objects, and a requirement that asks for the lack of a value
deselects them when they get one. -/
example :
    let labels : Labels := .ofList [("app", "a")]
    let bare : Selector := ⟨∅, [⟨"env", .absent, []⟩]⟩
    empty.selects labels = false ∧ (empty.withLabel "app" "a").selects labels ∧
      bare.selects labels ∧ bare.selects (labels.insert "env" "prod") = false := by decide

end Selector

end ClusterAudit
