import ClusterAudit.Config.Codec
import ClusterAudit.Proofs.RoundTrip.Document

/-!
# Reading configurations back

Configurations are read through the view of JSON documents, whose lists and dictionaries are read
like any others (`view_list`, `view_dict`). A number stays a number and a text a text: an expression
is read back as it was written.
-/

namespace ClusterAudit

open Json

/-! ## The view of JSON documents -/

namespace Json

variable {α : Type} (read : Json → Option α)

/-- Lists are read item by item. -/
theorem view_list : view.list read = listOf read := by
  have aux : ∀ items, View.readEach read items = decodeItems read items := by
    intro items
    induction items with
    | nil => rfl
    | cons item rest ih =>
      rw [View.readEach, decodeItems, ih]
      rfl
  funext j
  cases j with
  | list items => exact aux items
  | _ => rfl

/-- Dictionaries are read value by value. -/
theorem view_dict : view.dict read = dictOf read := by
  have aux : ∀ fields, View.readValues read fields = decodeFields read fields := by
    intro fields
    induction fields with
    | nil => rfl
    | cons f rest ih =>
      rw [View.readValues, decodeFields, ih]
      rfl
  funext j
  cases j with
  | record fields =>
    have hdict : view.dict read (.record fields) =
        (View.readValues read fields).bind fun l => some (Dict.ofList l) := rfl
    rw [hdict, aux, dictOf, Option.map_eq_bind]
    rfl
  | _ => rfl

/-- Records are looked at by their fields. -/
theorem view_fields? : view.fields? = fields? := rfl

/-- Names are looked at as texts. -/
theorem view_name? : view.name? = variant? := rfl

/-- Numbers are looked at as numbers without sign. -/
theorem view_written?_int (n : Int) : view.written? (.int n) = Written.ofInt? n := rfl

end Json

variable {c : Json → Json} (h : Rearranges c)
include h

/-! ## Suppressions -/

/-- An expression is read back as it was written. -/
theorem Written.undoes : Undoes c view.written? ofWritten
  | .number n => by
    have hrange : (0 : Int) ≤ n.toNat ∧ (n.toNat : Int) < UInt64.size :=
      ⟨Int.natCast_nonneg _, Int.ofNat_lt.2 n.toNat_lt⟩
    rw [ofWritten, h.int, view_written?_int, ofInt?, if_pos hrange, Int.toNat_natCast,
      UInt64.ofNat_toNat]
  | .text s => by
    rw [ofWritten, h.text]
    rfl

/-- Expressions are read back. -/
theorem Written.undoes_list : Undoes c view.expressions (ofList ofWritten) := by
  rw [View.expressions, view_list]
  exact (Written.undoes h).listOf h

/-- A rule is read back. -/
theorem RuleDraft.undoes : Undoes c (RuleDraft.read view) RuleDraft.toJson := by
  intro r
  have hpairs : Undoes c (view.dict view.expressions) (ofDict (ofList ofWritten)) := by
    rw [view_dict]
    exact (Written.undoes_list h).dictOf h
  rw [RuleDraft.read, toJson, view_fields?, h.fields?_record (by rfl) (by decide)]
  simp [View.field, Written.undoes_list h _, hpairs _]

/-- The suppressions of a kind are read back. -/
theorem KindDraft.undoes : Undoes c (KindDraft.read view) KindDraft.toJson := by
  intro k
  have hinstances : Undoes c (view.list (RuleDraft.read view)) (ofList RuleDraft.toJson) := by
    rw [view_list]
    exact (RuleDraft.undoes h).listOf h
  rw [KindDraft.read, toJson, view_fields?, h.fields?_record (by rfl) (by decide)]
  simp [View.field, Written.undoes_list h _, hinstances _]

/-- All suppressions are read back. -/
theorem ExclusionsDraft.undoes : Undoes c ExclusionsDraft.ofJson? ExclusionsDraft.toJson := by
  intro e
  have hkinds : Undoes c (view.dict (KindDraft.read view)) (ofDict KindDraft.toJson) := by
    rw [view_dict]
    exact (KindDraft.undoes h).dictOf h
  rw [ofJson?, ExclusionsDraft.read, toJson, view_fields?, h.fields?_record (by rfl) (by decide)]
  simp [View.field, RuleDraft.undoes h _, hkinds _]

/-! ## Configurations -/

/-- The severity under a code is read back. -/
theorem Severity.undoes_override :
    Undoes c (Severity.readOverride view) fun s => .record [("severity", .text s.name)] := by
  intro s
  have hseverity : Severity.ofName? s.name = some s := by cases s <;> rfl
  rw [readOverride, view_fields?, view_name?, h.fields?_record (by rfl) (by decide)]
  simp [h.undoes_variant _, hseverity]

/-- A configuration is read back. -/
theorem Config.undoes : Undoes c Config.ofJson? Config.toJson := by
  intro config
  have hcodes : Undoes c (view.dict (Severity.readOverride view))
      (ofDict fun s => .record [("severity", .text s.name)]) := by
    rw [view_dict]
    exact (Severity.undoes_override h).dictOf h
  have hexcludes : Undoes c (ExclusionsDraft.read view) ExclusionsDraft.toJson :=
    ExclusionsDraft.undoes h
  rw [ofJson?, Config.read, toJson, view_fields?, h.fields?_record (by rfl) (by decide)]
  simp [View.field, hexcludes _, hcodes _]

end ClusterAudit
