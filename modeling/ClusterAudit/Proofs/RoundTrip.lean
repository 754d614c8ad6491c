import ClusterAudit.Finding.Codec
import ClusterAudit.Proofs.RoundTrip.Config
import ClusterAudit.Proofs.RoundTrip.Resource
import ClusterAudit.Proofs.Text.Numeral

/-!
# Reading undoes writing

Outcomes and tallies are dictionaries whose keys are written as texts: a code as its decimal digits,
which spell no other code (`Code.ofDigits?_text`). So the order of the texts is not that of the
codes, and reading puts them back in place. `ofJson?_toJson` says of resources, configurations,
outcomes and tallies that reading gives back exactly what was written.
-/

namespace ClusterAudit

open Json

/-! ## Digits of codes -/

/-- The digits of a code spell it. -/
theorem Code.ofDigits?_text (code : Code) : ofDigits? code.text = some code := by
  have hnumber : Text.number? 10 code.text.toList = some code.number.toNat :=
    Text.number?_toString code.number.toNat
  have hcode : ofNat? code.number.toNat = some code := by
    rw [ofNat?, if_pos code.number.toNat_lt, UInt32.ofNat_toNat]
  rw [ofDigits?, hnumber]
  simp [hcode]

/-- Different codes have different digits. -/
theorem Code.text_injective : Code.text.Injective := fun a b h =>
  Option.some.inj ((ofDigits?_text a).symm.trans ((congrArg ofDigits? h).trans (ofDigits?_text b)))

variable {c : Json → Json} (h : Rearranges c)
include h

/-! ## Outcomes -/

/-- A severity is read back. -/
theorem Severity.undoes : Undoes c Severity.ofJson? Severity.toJson := by
  intro s
  have hseverity : ofName? s.name = some s := by cases s <;> rfl
  rw [ofJson?, toJson, h.undoes_variant]
  exact hseverity

/-- A code is read back. -/
theorem Code.undoes : Undoes c Code.ofJson? Code.toJson := by
  intro code
  exact congrArg (Option.map Code.mk) (h.undoes_uint32 code.number)

/-- A finding is read back, also where the code is left out. -/
theorem Finding.undoes : Undoes c Finding.ofJson? Finding.toJson := by
  rintro ⟨group, severity, message, code⟩
  cases code with
  | none =>
    have hnames : ["group", "severity", "message"].Nodup := by decide
    rw [ofJson?, toJson, h.fields?_of_nodup (by exact hnames)]
    simp [Json.optional, h.undoes_text _, Severity.undoes h _]
  | some code =>
    have hcode : Json.optional Code.ofJson? (some (c code.toJson)) = some (some code) :=
      (Code.undoes h).optional h rfl (some code)
    rw [ofJson?, toJson, h.fields?_record (by rfl) (by decide)]
    simp [h.undoes_text _, Severity.undoes h _, hcode]

/-- An outcome is read back. -/
theorem Outcome.undoes : Undoes c Outcome.ofJson? Outcome.toJson := by
  intro o
  have hkey : Function.LeftInverse Fqn.mk Fqn.text := fun _ => rfl
  obtain ⟨fields, bindings, heq, hfields, hobjects⟩ :=
    ((Finding.undoes h).listOf h).exists_ofList h hkey o.objects
  rw [toJson, heq, ofJson?, hfields]
  exact congrArg (fun objects => some (Outcome.mk objects)) hobjects

/-! ## Tallies -/

/-- A count is read back. -/
theorem Count.undoes : Undoes c Count.ofJson? Count.toJson := by
  intro n
  rw [ofJson?, toJson, h.nat?_ofNat n.lt]
  exact dif_pos n.lt

/-- A code tally is read back, in the order of the codes. -/
theorem CodeTally.undoes : Undoes c CodeTally.ofJson? CodeTally.toJson := by
  intro t
  obtain ⟨l, fields, hperm, heq, hfields⟩ :=
    (Count.undoes h).exists_fields h Code.text_injective t.counts
  have hcodes : decodeCodes (l.map fun e => (e.1.text, e.2)) = some l := by
    clear hperm heq hfields
    induction l with
    | nil => rfl
    | cons e rest ih => simp [decodeCodes, Code.ofDigits?_text, ih]
  rw [toJson, heq, ofJson?, hfields]
  simp [hcodes, Dict.ofList_eq_of_perm hperm]

/-- A namespace tally is read back. -/
theorem NamespaceTally.undoes : Undoes c NamespaceTally.ofJson? NamespaceTally.toJson := by
  intro t
  exact congrArg (Option.map NamespaceTally.mk) ((CodeTally.undoes h).dictOf h t.spaces)

/-- A kind tally is read back. -/
theorem KindTally.undoes : Undoes c KindTally.ofJson? KindTally.toJson := by
  intro t
  have hkey : Function.LeftInverse Kind.mk Kind.text := fun _ => rfl
  obtain ⟨fields, bindings, heq, hfields, hkinds⟩ :=
    (NamespaceTally.undoes h).exists_ofList h hkey t.kinds
  rw [toJson, heq, ofJson?, hfields]
  exact congrArg (fun kinds => some (KindTally.mk kinds)) hkinds

omit h

/-! ## Round trips -/

/-- Resources, configurations, outcomes and tallies are read back as they were written, be it from
a text, which has the fields in the order in which they are written, or from a value, which has them
in the order of their names. -/
theorem ofJson?_toJson :
    (∀ r : Resource, Resource.ofJson? r.toJson = some r ∧
      Resource.ofJson? r.toJson.canonical = some r) ∧
    (∀ config : Config, Config.ofJson? config.toJson = some config ∧
      Config.ofJson? config.toJson.canonical = some config) ∧
    (∀ o : Outcome, Outcome.ofJson? o.toJson = some o ∧
      Outcome.ofJson? o.toJson.canonical = some o) ∧
    ∀ t : KindTally, KindTally.ofJson? t.toJson = some t ∧
      KindTally.ofJson? t.toJson.canonical = some t :=
  ⟨fun r => ⟨Resource.undoes rearranges_id r, Resource.undoes rearranges_canonical r⟩,
    fun config => ⟨Config.undoes rearranges_id config, Config.undoes rearranges_canonical config⟩,
    fun o => ⟨Outcome.undoes rearranges_id o, Outcome.undoes rearranges_canonical o⟩,
    fun t => ⟨KindTally.undoes rearranges_id t, KindTally.undoes rearranges_canonical t⟩⟩

end ClusterAudit
