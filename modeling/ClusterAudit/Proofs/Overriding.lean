import ClusterAudit.Config.Effect
import ClusterAudit.Proofs.Dict
import ClusterAudit.Proofs.Text.Numeral
import ClusterAudit.Proofs.Text.Order
import Mathlib.Data.List.Induction

/-!
# Overridden severities

The keys of a configuration's severities denote codes as numerals do (`Config.Denotes`), so several
of them may denote one code. They are taken in the order of their octets, each with what the smaller
ones left, up to the first that is at fault (`Config.Settles`). One key more either stops there or
governs its code from then on (`Config.Settles.snoc`), and so of all the keys that denote a code the
greatest counts. What overriding leads to is determined by that:
`Config.applyOverrides_settles_in_order`.
-/

namespace ClusterAudit

namespace Glossary

variable (g : Glossary) (code : Code) (severity : Severity)

/-- A code that is not known is not overridden. -/
theorem overrideSeverity_of_none (h : g.get? code = none) :
    g.overrideSeverity code severity = (g, false) :=
  if_neg (by rw [Dict.contains, show g.codes.get? code = none from h]; exact Bool.false_ne_true)

/-- A code that is known is overridden. -/
theorem overrideSeverity_of_isSome (h : (g.get? code).isSome) : g.overrideSeverity code severity =
    ({ g with codes := g.codes.modify code ({ · with severity }) }, true) :=
  if_pos h

/-- The label does not change with a severity. -/
@[simp] theorem label_overrideSeverity : (g.overrideSeverity code severity).1.label = g.label := by
  rw [overrideSeverity]
  split <;> rfl

/-- The overridden code has the new severity, if it is known; no other code is changed. -/
theorem get?_overrideSeverity (other : Code) : (g.overrideSeverity code severity).1.get? other =
    if other = code then (g.get? code).map ({ · with severity }) else g.get? other := by
  cases h : g.get? code with
  | none =>
    rw [g.overrideSeverity_of_none code severity h]
    split
    · rename_i heq
      rw [heq, h]
      rfl
    · rfl
  | some spec =>
    rw [g.overrideSeverity_of_isSome code severity (by rw [h]; rfl), ← h]
    split
    · subst other
      exact Dict.get?_modify_self ..
    · exact Dict.get?_modify_of_ne ‹_› _

variable {g code severity}

/-- The overridden code has the new severity, if it is known. -/
theorem severity?_overrideSeverity_self (h : (g.get? code).isSome) (severity : Severity) :
    (g.overrideSeverity code severity).1.severity? code = some severity := by
  obtain ⟨spec, hspec⟩ := Option.isSome_iff_exists.1 h
  rw [severity?, get?_overrideSeverity, if_pos rfl, hspec]
  rfl

/-- Every other code keeps its severity. -/
theorem severity?_overrideSeverity_of_ne {other : Code} (h : other ≠ code) :
    (g.overrideSeverity code severity).1.severity? other = g.severity? other := by
  rw [severity?, get?_overrideSeverity, if_neg h, severity?]

/-- Glossaries with the same label, the same templates and the same severities are the same. -/
theorem ext_severity? {g' : Glossary} (hlabel : g.label = g'.label)
    (htemplate : ∀ code, (g.get? code).map (·.template) = (g'.get? code).map (·.template))
    (hseverity : ∀ code, g.severity? code = g'.severity? code) : g = g' := by
  have hcodes : g.codes = g'.codes := by
    refine Dict.ext_get? fun code => ?_
    have ht := htemplate code
    have hs := hseverity code
    rw [severity?, severity?] at hs
    show g.get? code = g'.get? code
    generalize g.get? code = x, g'.get? code = y at ht hs
    cases x with
    | none => cases y with
      | none => rfl
      | some _ => cases hs
    | some spec => cases y with
      | none => cases hs
      | some spec' =>
        rw [Option.map_some, Option.map_some, Option.some.injEq] at ht hs
        exact congrArg some (by cases spec; cases spec'; exact congrArg₂ CodeSpec.mk ht hs)
  cases g
  cases g'
  exact congrArg₂ mk hlabel hcodes

end Glossary

namespace Config

/-! ## Keys that denote codes -/

/-- A text denotes a code if it spells the code's number in decimal digits, after a plus sign or
without one, with blanks around. -/
def Denotes (raw : String) (code : Code) : Prop :=
  ∃ before sign digits after, raw.toList = before ++ (sign ++ digits) ++ after ∧
    (∀ c ∈ before, Text.isBlank c) ∧ (∀ c ∈ after, Text.isBlank c) ∧
    (sign = [] ∨ sign = ['+']) ∧ digits ≠ [] ∧ (∀ d ∈ digits, d.isDigit) ∧
    Nat.ofDigitChars 10 digits 0 = code.number.toNat

/-- The code of a key is the one that it denotes. -/
theorem codeOfKey?_eq_some_iff {raw : String} {code : Code} :
    codeOfKey? raw = some code ↔ Denotes raw code := by
  rw [codeOfKey?, Option.bind_eq_some_iff]
  constructor
  · rintro ⟨n, hn, hcode⟩
    obtain ⟨hlt, sign, digits, htrim, hsign, hne, hdigits, hvalue⟩ :=
      Text.natural?_eq_some_iff.1 hn
    obtain ⟨before, after, hraw, hbefore, hafter⟩ := Text.exists_eq_append_trimList raw.toList
    rw [Code.ofNat?, if_pos hlt] at hcode
    refine ⟨before, sign, digits, after, htrim ▸ hraw, hbefore, hafter, hsign, hne, hdigits, ?_⟩
    rw [hvalue, ← Option.some.inj hcode]
    exact (UInt32.toNat_ofNat_of_lt' hlt).symm
  · rintro ⟨before, sign, digits, after, hraw, hbefore, hafter, hsign, hne, hdigits, hvalue⟩
    have hcore : ∀ c ∈ sign ++ digits, ¬ Text.isBlank c := by
      intro c hc
      rcases List.mem_append.1 hc with hc | hc
      · rcases hsign with rfl | rfl
        · cases hc
        · rw [List.mem_singleton.1 hc]
          decide
      · exact Text.not_isBlank_of_isDigit (hdigits c hc)
    refine ⟨code.number.toNat, ?_, ?_⟩
    · rw [hraw, Text.trimList_append hbefore hcore hafter]
      exact Text.natural?_eq_some_iff.2
        ⟨code.number.toNat_lt, sign, digits, rfl, hsign, hne, hdigits, hvalue⟩
    · rw [Code.ofNat?, if_pos code.number.toNat_lt, UInt32.ofNat_toNat]

/-- A text denotes one code at most. -/
theorem Denotes.unique {raw : String} {code other : Code} (h : Denotes raw code)
    (h' : Denotes raw other) : code = other :=
  Option.some.inj ((codeOfKey?_eq_some_iff.2 h).symm.trans (codeOfKey?_eq_some_iff.2 h'))

/-! ## What is left of a glossary -/

section
variable {g g' g'' : Glossary} {l : List (String × Severity)} {e o : String × Severity}
  {code other : Code} {error : ConfigError}

/-- Each override is before the next in the order of the octets of their keys. -/
def Ascending (l : List (String × Severity)) : Prop :=
  l.Pairwise fun a b => Text.octets a.1 < Text.octets b.1

/-- Of the overrides whose keys denote a code, the one with the greatest key. -/
structure Governs (l : List (String × Severity)) (code : Code) (e : String × Severity) : Prop where
  mem : e ∈ l
  denotes : Denotes e.1 code
  greatest : ∀ o ∈ l, Denotes o.1 code → Text.octets o.1 ≤ Text.octets e.1

/-- A glossary after overrides: every code that one of them denotes has the severity of the greatest
key that does, and all else is as it was. -/
structure Overridden (l : List (String × Severity)) (g g' : Glossary) : Prop where
  label : g'.label = g.label
  templates : ∀ code, (g'.get? code).map (·.template) = (g.get? code).map (·.template)
  governed : ∀ code e, Governs l code e → g'.severity? code = some e.2
  other : ∀ code, (∀ e ∈ l, ¬ Denotes e.1 code) → g'.severity? code = g.severity? code

/-- An override of a greater key governs its code. -/
theorem governs_snoc (hcode : Denotes e.1 code)
    (hlast : ∀ o ∈ l, Text.octets o.1 < Text.octets e.1) : Governs (l ++ [e]) code e where
  mem := by simp
  denotes := hcode
  greatest o ho _ := by
    rcases List.mem_append.1 ho with ho | ho
    · exact List.le_of_lt (hlast o ho)
    · rw [List.mem_singleton.1 ho]
      exact List.le_refl _

/-- No other override governs that code. -/
theorem Governs.eq_of_snoc (h : Governs (l ++ [e]) code o) (hcode : Denotes e.1 code)
    (hlast : ∀ o ∈ l, Text.octets o.1 < Text.octets e.1) : o = e := by
  rcases List.mem_append.1 h.mem with ho | ho
  · exact absurd (hlast o ho) (h.greatest e (by simp) hcode)
  · exact List.mem_singleton.1 ho

/-- The other codes are governed by what governed them before. -/
theorem governs_snoc_iff (hcode : ¬ Denotes e.1 code) :
    Governs (l ++ [e]) code o ↔ Governs l code o := by
  have hmem : ∀ o ∈ l ++ [e], Denotes o.1 code → o ∈ l := fun o ho hd =>
    (List.mem_append.1 ho).resolve_right fun hmem => hcode (List.mem_singleton.1 hmem ▸ hd)
  constructor
  · exact fun h => ⟨hmem o h.mem h.denotes, h.denotes, fun o' ho' =>
      h.greatest o' (List.mem_append_left _ ho')⟩
  · exact fun h => ⟨List.mem_append_left _ h.mem, h.denotes, fun o' ho' hd =>
      h.greatest o' (hmem o' ho' hd) hd⟩

/-- In an ascending list some override has the greatest of the keys that denote a code. -/
theorem exists_governs (hl : Ascending l) (h : ∃ e ∈ l, Denotes e.1 code) :
    ∃ e, Governs l code e := by
  induction l using List.reverseRecOn with
  | nil =>
    obtain ⟨e, he, -⟩ := h
    cases he
  | append_singleton l last ih =>
    obtain ⟨hinit, -, hlast⟩ := List.pairwise_append.1 hl
    by_cases hd : Denotes last.1 code
    · exact ⟨last, governs_snoc hd fun o ho => hlast o ho last List.mem_cons_self⟩
    · obtain ⟨e, he, hcode⟩ := h
      have hmem : e ∈ l := (List.mem_append.1 he).resolve_right fun hmem =>
        hd (List.mem_singleton.1 hmem ▸ hcode)
      obtain ⟨top, htop⟩ := ih hinit ⟨e, hmem, hcode⟩
      exact ⟨top, (governs_snoc_iff hd).2 htop⟩

namespace Overridden

/-- Nothing is changed without overrides. -/
theorem nil (g : Glossary) : Overridden [] g g :=
  ⟨rfl, fun _ => rfl, fun _ _ h => absurd h.mem List.not_mem_nil, fun _ _ => rfl⟩

/-- The same codes are known. -/
theorem isSome_get? (h : Overridden l g g') (code : Code) :
    (g'.get? code).isSome = (g.get? code).isSome := by
  simpa using congrArg Option.isSome (h.templates code)

/-- An override of a greater key governs its code from then on. -/
theorem snoc (h : Overridden l g g') (hcode : Denotes e.1 code) (hknown : (g.get? code).isSome)
    (hlast : ∀ o ∈ l, Text.octets o.1 < Text.octets e.1) :
    Overridden (l ++ [e]) g (g'.overrideSeverity code e.2).1 where
  label := by rw [Glossary.label_overrideSeverity, h.label]
  templates other := by
    rw [Glossary.get?_overrideSeverity, ← h.templates]
    split
    · subst other
      rw [Option.map_map]
      rfl
    · rfl
  governed other o ho := by
    by_cases heq : other = code
    · subst heq
      obtain rfl := ho.eq_of_snoc hcode hlast
      exact Glossary.severity?_overrideSeverity_self ((h.isSome_get? other).trans hknown) o.2
    · rw [Glossary.severity?_overrideSeverity_of_ne heq]
      exact h.governed other o ((governs_snoc_iff fun hd => heq (hd.unique hcode)).1 ho)
  other other hnone := by
    have hne : other ≠ code := fun heq => hnone e (by simp) (heq ▸ hcode)
    rw [Glossary.severity?_overrideSeverity_of_ne hne]
    exact h.other other fun o ho => hnone o (List.mem_append_left _ ho)

/-- The overrides determine the glossary. -/
theorem unique (hl : Ascending l) (h : Overridden l g g') (h' : Overridden l g g'') :
    g' = g'' := by
  refine Glossary.ext_severity? (h.label.trans h'.label.symm)
    (fun code => (h.templates code).trans (h'.templates code).symm) fun code => ?_
  by_cases hcode : ∃ e ∈ l, Denotes e.1 code
  · obtain ⟨e, he⟩ := exists_governs hl hcode
    rw [h.governed code e he, h'.governed code e he]
  · have hnone : ∀ e ∈ l, ¬ Denotes e.1 code := fun e he hd => hcode ⟨e, he, hd⟩
    rw [h.other code hnone, h'.other code hnone]

end Overridden

/-! ## Up to the first key at fault -/

/-- A key that denotes a code of the glossary. -/
def Accepted (g : Glossary) (raw : String) : Prop :=
  ∃ code, Denotes raw code ∧ (g.get? code).isSome

/-- What is wrong with a key: it denotes no code, or one that the glossary lacks. -/
inductive Fault (g : Glossary) (raw : String) : ConfigError → Prop
  | noCode (h : ∀ code, ¬ Denotes raw code) : Fault g raw (.invalidCode raw)
  | unknown {code : Code} (h : Denotes raw code) (hnone : g.get? code = none) :
    Fault g raw (.unknownCode code)

/-- Nothing is wrong with an accepted key. -/
theorem Accepted.not_fault {raw : String} (h : Accepted g raw) : ¬ Fault g raw error := by
  obtain ⟨code, hcode, hknown⟩ := h
  intro hfault
  cases hfault with
  | noCode h => exact h code hcode
  | unknown h hnone =>
    rw [hcode.unique h, hnone] at hknown
    cases hknown

/-- One thing is wrong with a key at most. -/
theorem Fault.unique {raw : String} {error' : ConfigError} (h : Fault g raw error)
    (h' : Fault g raw error') : error = error' := by
  cases h with
  | noCode h => cases h' with
    | noCode => rfl
    | unknown h' => exact absurd h' (h _)
  | unknown h => cases h' with
    | noCode h' => exact absurd h (h' _)
    | unknown h' => rw [h.unique h']

/-- Overrides leave the faults of keys. -/
theorem Fault.of_overridden {raw : String} (hfault : Fault g raw error) (h : Overridden l g g') :
    Fault g' raw error := by
  cases hfault with
  | noCode hcode => exact .noCode hcode
  | @unknown code hcode hnone =>
    refine .unknown hcode (Option.not_isSome_iff_eq_none.1 ?_)
    rw [h.isSome_get?, hnone]
    exact Bool.false_ne_true

/-- What overrides lead to: all keys are accepted, and the glossary has all overrides; or one is at
fault, all smaller ones are accepted, and the glossary has the overrides of these. -/
inductive Settles (g : Glossary) (l : List (String × Severity)) :
    Glossary → Option ConfigError → Prop
  | all {g' : Glossary} (hall : ∀ e ∈ l, Accepted g e.1) (h : Overridden l g g') :
    Settles g l g' none
  | stopped {g' : Glossary} {error : ConfigError} (e : String × Severity) (hmem : e ∈ l)
    (hfault : Fault g e.1 error)
    (hfirst : ∀ o ∈ l, Text.octets o.1 < Text.octets e.1 → Accepted g o.1)
    (h : Overridden (l.filter fun o => Text.octets o.1 < Text.octets e.1) g g') :
    Settles g l g' (some error)

/-- Overrides go on behind an accepted key. -/
theorem overrideEach_of_known (h : Denotes e.1 code) (hknown : (g.get? code).isSome) :
    overrideEach g (e :: l) = overrideEach (g.overrideSeverity code e.2).1 l := by
  rw [overrideEach, codeOfKey?_eq_some_iff.2 h]
  dsimp only
  rw [g.overrideSeverity_of_isSome code e.2 hknown]

/-- A key is accepted or at fault. -/
theorem accepted_or_fault (g : Glossary) (raw : String) :
    Accepted g raw ∨ ∃ error, Fault g raw error := by
  by_cases h : ∃ code, Denotes raw code
  · obtain ⟨code, hcode⟩ := h
    cases hget : g.get? code with
    | none => exact .inr ⟨_, .unknown hcode hget⟩
    | some spec => exact .inl ⟨code, hcode, by rw [hget]; rfl⟩
  · exact .inr ⟨_, .noCode fun code hd => h ⟨code, hd⟩⟩

/-- Overrides stop at a key at fault. -/
theorem overrideEach_of_fault (h : Fault g e.1 error) :
    overrideEach g (e :: l) = (g, some error) := by
  cases h with
  | noCode h =>
    have hcode : codeOfKey? e.1 = none :=
      Option.eq_none_iff_forall_ne_some.2 fun code hsome => h code (codeOfKey?_eq_some_iff.1 hsome)
    rw [overrideEach, hcode]
  | unknown h hnone =>
    rw [overrideEach, codeOfKey?_eq_some_iff.2 h]
    dsimp only
    rw [g.overrideSeverity_of_none _ e.2 hnone]

/-- Overrides that go on with what others left, unless these were stopped. -/
def resume : Glossary × Option ConfigError → List (String × Severity) →
    Glossary × Option ConfigError
  | (g, none), l => overrideEach g l
  | (g, some error), _ => (g, some error)

/-- Overrides are made one after the other. -/
theorem overrideEach_append (g : Glossary) (l m : List (String × Severity)) :
    overrideEach g (l ++ m) = resume (overrideEach g l) m := by
  induction l generalizing g with
  | nil => rfl
  | cons e rest ih =>
    rw [List.cons_append]
    rcases accepted_or_fault g e.1 with ⟨code, hcode, hknown⟩ | ⟨error, hfault⟩
    · rw [overrideEach_of_known hcode hknown, overrideEach_of_known hcode hknown, ih]
    · rw [overrideEach_of_fault hfault, overrideEach_of_fault hfault]
      rfl

namespace Settles

/-- One key more is at fault, or its code is overridden. -/
theorem snoc (h : Settles g l g' none) (hlast : ∀ o ∈ l, Text.octets o.1 < Text.octets e.1) :
    Settles g (l ++ [e]) (overrideEach g' [e]).1 (overrideEach g' [e]).2 := by
  obtain ⟨hall, h⟩ := h
  rcases accepted_or_fault g e.1 with haccepted | ⟨error, hfault⟩
  · obtain ⟨code, hcode, hknown⟩ := id haccepted
    rw [overrideEach_of_known hcode ((h.isSome_get? code).trans hknown)]
    refine .all (fun o ho => ?_) (h.snoc hcode hknown hlast)
    rcases List.mem_append.1 ho with ho | ho
    · exact hall o ho
    · exact List.mem_singleton.1 ho ▸ haccepted
  · have hsmaller : (l ++ [e]).filter (fun o => Text.octets o.1 < Text.octets e.1) = l := by
      rw [List.filter_append, List.filter_eq_self.2 fun o ho => decide_eq_true (hlast o ho)]
      simp [List.lt_irrefl]
    rw [overrideEach_of_fault (hfault.of_overridden h)]
    refine .stopped e (by simp) hfault (fun o ho hlt => hall o ?_) (hsmaller.symm ▸ h)
    exact hsmaller ▸ List.mem_filter.2 ⟨ho, decide_eq_true hlt⟩

/-- Behind a fault nothing more is done. -/
theorem keep (h : Settles g l g' (some error))
    (hlast : ∀ o ∈ l, Text.octets o.1 < Text.octets e.1) :
    Settles g (l ++ [e]) g' (some error) := by
  cases h with
  | stopped e' hmem hfault hfirst h =>
    have hgreater : ¬ Text.octets e.1 < Text.octets e'.1 := List.lt_asymm (hlast e' hmem)
    have hsmaller : (l ++ [e]).filter (fun o => Text.octets o.1 < Text.octets e'.1) =
        l.filter fun o => Text.octets o.1 < Text.octets e'.1 := by
      rw [List.filter_append, List.filter_singleton, decide_eq_false hgreater]
      exact List.append_nil _
    refine .stopped e' (List.mem_append_left _ hmem) hfault (fun o ho hlt => ?_) (hsmaller.symm ▸ h)
    rcases List.mem_append.1 ho with ho | ho
    · exact hfirst o ho hlt
    · exact absurd (List.mem_singleton.1 ho ▸ hlt) hgreater

/-- What overrides lead to is one thing only. -/
theorem unique {x x' : Option ConfigError} (hl : Ascending l) (h : Settles g l g' x)
    (h' : Settles g l g'' x') : g' = g'' ∧ x = x' := by
  cases h with
  | all hall h => cases h' with
    | all _ h' => exact ⟨h.unique hl h', rfl⟩
    | stopped e hmem hfault => exact absurd hfault (hall e hmem).not_fault
  | stopped e hmem hfault hfirst h => cases h' with
    | all hall => exact absurd hfault (hall e hmem).not_fault
    | stopped e' hmem' hfault' hfirst' h' =>
      -- of two keys at fault with only accepted ones below neither is the smaller one
      obtain hlt | heq | hlt := Text.octets_lt_or_eq_or_lt e.1 e'.1
      · exact absurd hfault (hfirst' e hmem hlt).not_fault
      · rw [heq] at hfault h
        exact ⟨h.unique (hl.filter _) h', congrArg some (hfault.unique hfault')⟩
      · exact absurd hfault' (hfirst e' hmem' hlt).not_fault

end Settles

/-- Overriding leads to what it should. -/
theorem settles_overrideEach (hl : Ascending l) :
    Settles g l (overrideEach g l).1 (overrideEach g l).2 := by
  induction l using List.reverseRecOn with
  | nil => exact .all (List.forall_mem_nil _) (.nil g)
  | append_singleton l e ih =>
    obtain ⟨hinit, -, hlast⟩ := List.pairwise_append.1 hl
    have hlast : ∀ o ∈ l, Text.octets o.1 < Text.octets e.1 :=
      fun o ho => hlast o ho e List.mem_cons_self
    have hsettles := ih hinit
    rw [overrideEach_append]
    generalize overrideEach g l = left at hsettles ⊢
    obtain ⟨g', _ | error⟩ := left
    · exact hsettles.snoc hlast
    · exact hsettles.keep hlast

end

/-! ## Configurations -/

/-- The severities of a configuration are listed in the order of the octets of their keys. -/
theorem ascending_severities (c : Config) : Ascending c.severities.entries :=
  c.severities.ascending.imp fun hlt => (Text.compare_eq_lt_iff _ _).1 hlt

/-- What overriding leads to is what it should lead to. -/
theorem applyOverrides_eq_iff_settles (c : Config) (g g' : Glossary) (x : Option ConfigError) :
    c.applyOverrides g = (g', x) ↔ Settles g c.severities.entries g' x := by
  have h := settles_overrideEach (g := g) c.ascending_severities
  constructor
  · intro heq
    rw [applyOverrides] at heq
    rwa [heq] at h
  · intro h'
    obtain ⟨hg, hx⟩ := h.unique c.ascending_severities h'
    exact Prod.ext hg hx

/-- Nothing stops the overrides if every key is accepted. -/
theorem applyOverrides_snd_eq_none_iff (c : Config) (g : Glossary) :
    (c.applyOverrides g).2 = none ↔ ∀ raw ∈ c.severities.keys, Accepted g raw := by
  have h : Settles g c.severities.entries (c.applyOverrides g).1 (c.applyOverrides g).2 :=
    settles_overrideEach c.ascending_severities
  rw [Dict.keys, List.forall_mem_map]
  generalize (c.applyOverrides g).1 = g', (c.applyOverrides g).2 = x at h ⊢
  cases h with
  | all hall => exact iff_of_true rfl hall
  | stopped e hmem hfault =>
    exact iff_of_false (Option.some_ne_none _) fun hall => (hall e hmem).not_fault hfault

/-- The glossary of a configuration is there if nothing stops the overrides of the builtin one. -/
theorem glossary_eq_ok_iff (c : Config) (g : Glossary) :
    c.glossary = .ok g ↔ c.applyOverrides .builtin = (g, none) := by
  rw [glossary]
  split <;> simp_all

/-- Otherwise there is what stopped them, and no glossary. -/
theorem glossary_eq_error_iff (c : Config) (error : ConfigError) :
    c.glossary = .error error ↔ ∃ g, c.applyOverrides .builtin = (g, some error) := by
  rw [glossary]
  split <;> simp_all

/-- Keys are taken in the order of their octets: wherever the list is cut, the smaller ones come
first and the others go on with what these leave. If every key denotes a code of the glossary,
nothing stops this, and each code that is denoted has the severity of the greatest key that denotes
it. Otherwise it stops at the smallest key that denotes none, and says what is wrong with it; the
glossary then has the overrides of the smaller keys, and the configuration has no glossary. -/
theorem applyOverrides_settles_in_order (c : Config) :
    (∀ g before after, c.severities.entries = before ++ after →
      (∀ a ∈ before, ∀ b ∈ after, Text.octets a.1 < Text.octets b.1) ∧
      c.applyOverrides g = resume (overrideEach g before) after) ∧
    (∀ g, (c.applyOverrides g).2 = none ↔ ∀ raw ∈ c.severities.keys, Accepted g raw) ∧
    (∀ g g' x, c.applyOverrides g = (g', x) ↔ Settles g c.severities.entries g' x) ∧
    (∀ g', c.glossary = .ok g' ↔ Settles .builtin c.severities.entries g' none) ∧
    ∀ error, c.glossary = .error error ↔
      ∃ g', Settles .builtin c.severities.entries g' (some error) := by
  refine ⟨fun g before after hcut => ?_, c.applyOverrides_snd_eq_none_iff,
    c.applyOverrides_eq_iff_settles, fun g' => ?_, fun error => ?_⟩
  · have hascending := c.ascending_severities
    rw [hcut] at hascending
    refine ⟨(List.pairwise_append.1 hascending).2.2, ?_⟩
    rw [applyOverrides, hcut, overrideEach_append]
  · rw [glossary_eq_ok_iff, applyOverrides_eq_iff_settles]
  · rw [glossary_eq_error_iff]
    exact exists_congr fun g' => c.applyOverrides_eq_iff_settles .builtin g' (some error)

/-- Three keys that denote the builtin code 101, one that denotes no builtin code, and one that
denotes none at all. -/
def repeated : Config := ⟨.empty, .ofList
  [("101", .ok), ("0101", .info), (" +101", .error), ("4242", .ok), ("x", .warn)]⟩

/-- Keys that denote one code are not ordered as numbers, and a key at fault keeps the greater ones
from being looked at. -/
theorem applyOverrides_settles_in_order_repeated :
    let entries := repeated.severities.entries
    let changed := (repeated.applyOverrides .builtin).1
    entries = [(" +101", .error), ("0101", .info)] ++ entries.drop 2 ∧
    repeated.applyOverrides .builtin =
      resume (overrideEach .builtin [(" +101", .error), ("0101", .info)]) (entries.drop 2) ∧
    Settles .builtin entries changed (some (.unknownCode 4242)) ∧
    Glossary.builtin.changes changed = [(101, .ok)] ∧
    repeated.glossary = .error (.unknownCode 4242) := by
  intro entries changed
  have hcut : entries = [(" +101", .error), ("0101", .info)] ++ entries.drop 2 := by decide
  have hstopped : repeated.applyOverrides .builtin = (changed, some (.unknownCode 4242)) :=
    Prod.ext rfl (by decide)
  obtain ⟨hresume, -, hsettles, -, herror⟩ := applyOverrides_settles_in_order repeated
  have hsettled := (hsettles _ _ _).1 hstopped
  exact ⟨hcut, (hresume _ _ _ hcut).2, hsettled, by decide, (herror _).2 ⟨_, hsettled⟩⟩

end Config

end ClusterAudit
