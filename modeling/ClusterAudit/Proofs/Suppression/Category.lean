import ClusterAudit.Proofs.Suppression.Growth

/-!
# Rules read category by category

What it takes for a category to fit a subject is said once, from its expressions alone
(`Rule.Fits`). A category that stands alone as a rule (`Rule.only`) matches what it fits, whichever
way the rule is asked, and a rule matches in some or in all of its categories as these do
(`Rule.ReadsByCategory`).

The guards against empty subjects change no verdict: no category fits a subject without content,
whatever its patterns accept. `Exclusions.Fits` is the verdict without any of them, and
`Exclusions.isExcluded_iff_fits` that it is the verdict.
-/

namespace ClusterAudit

namespace Rule

/-- The rule with one of its categories and no other. -/
def only (r : Rule) : Category → Rule
  | .fqns => { empty with fqns := r.fqns }
  | .labels => { empty with labels := r.labels }
  | .annotations => { empty with annotations := r.annotations }
  | .containers => { empty with containers := r.containers }
  | .codes => { empty with codes := r.codes }

/-- Some expression under a key matches the value that is present under the same key. -/
def FitsPairs (asked : Dict String Expressions) (present : Labels) : Prop :=
  ∃ key es value, asked.get? key = some es ∧ present.get? key = some value ∧
    ∃ x ∈ es, x.isMatch value

/-- A category fits a subject: one of its expressions matches the name of the object, if that is not
empty; the value of a label or annotation; the name of some container; or the digits of the code, if
there is one. -/
inductive Fits (r : Rule) (s : Subject) : Category → Prop
  | fqns {x : Expression} (hx : x ∈ r.fqns) (hfqn : s.fqn.isEmpty = false)
    (hmatch : x.isMatch s.fqn.text) : Fits r s .fqns
  | labels (h : FitsPairs r.labels s.labels) : Fits r s .labels
  | annotations (h : FitsPairs r.annotations s.annotations) : Fits r s .annotations
  | containers {x : Expression} (hx : x ∈ r.containers) {name : String}
    (hname : name ∈ s.containers) (hmatch : x.isMatch name) : Fits r s .containers
  | codes {x : Expression} (hx : x ∈ r.codes) {code : Code} (hcode : s.code = some code)
    (hmatch : x.isMatch code.text) : Fits r s .codes

variable {r : Rule} {s : Subject} {c d : Category}

/-! ## One category -/

/-- Pairs fit as they match. -/
theorem matchesPairs_iff_fitsPairs {asked : Dict String Expressions} {present : Labels} :
    matchesPairs asked present ↔ FitsPairs asked present := by
  simp only [matchesPairs_iff, FitsPairs, Expressions.holds, List.any_eq_true]

/-- A category accepts the subjects that it fits. -/
theorem accepts_iff_fits : r.accepts s c ↔ r.Fits s c := by
  cases c with
  | fqns =>
    rw [accepts, matchesFqn, Bool.and_eq_true, Bool.not_eq_true', Expressions.holds,
      List.any_eq_true]
    constructor
    · rintro ⟨hfqn, x, hx, hmatch⟩
      exact .fqns hx hfqn hmatch
    · intro h
      cases h with
      | fqns hx hfqn hmatch => exact ⟨hfqn, _, hx, hmatch⟩
  | labels =>
    rw [accepts, matchesPairs_iff_fitsPairs]
    exact ⟨.labels, fun h => by cases h with | labels h => exact h⟩
  | annotations =>
    rw [accepts, matchesPairs_iff_fitsPairs]
    exact ⟨.annotations, fun h => by cases h with | annotations h => exact h⟩
  | containers =>
    rw [accepts, matchesContainers, Expressions.holdsAny, List.any_eq_true]
    constructor
    · rintro ⟨name, hname, hholds⟩
      obtain ⟨x, hx, hmatch⟩ := List.any_eq_true.1 hholds
      exact .containers hx hname hmatch
    · intro h
      cases h with
      | containers hx hname hmatch => exact ⟨_, hname, List.any_eq_true.2 ⟨_, hx, hmatch⟩⟩
  | codes =>
    rw [accepts, matchesCode]
    constructor
    · intro h
      cases hcode : s.code with
      | none => simp [hcode] at h
      | some code =>
        rw [hcode, Option.map_some, Option.getD_some] at h
        obtain ⟨x, hx, hmatch⟩ := List.any_eq_true.1 h
        exact .codes hx hcode hmatch
    · intro h
      cases h with
      | codes hx hcode hmatch =>
        rw [hcode, Option.map_some, Option.getD_some]
        exact List.any_eq_true.2 ⟨_, hx, hmatch⟩

/-- Pairs that fit are there, and so are those that they fit. -/
theorem FitsPairs.isEmpty_eq {asked : Dict String Expressions} {present : Labels}
    (h : FitsPairs asked present) : asked.isEmpty = false ∧ present.isEmpty = false := by
  obtain ⟨key, es, value, hes, hvalue, -⟩ := h
  exact ⟨Dict.isEmpty_eq_false hes, Dict.isEmpty_eq_false hvalue⟩

/-- A rule has the categories of it that fit something. -/
theorem Fits.has (h : r.Fits s c) : r.has c := by
  cases h with
  | fqns hx => simp [Rule.has, List.ne_nil_of_mem hx]
  | labels h => simp [Rule.has, h.isEmpty_eq.1]
  | annotations h => simp [Rule.has, h.isEmpty_eq.1]
  | containers hx => simp [Rule.has, List.ne_nil_of_mem hx]
  | codes hx => simp [Rule.has, List.ne_nil_of_mem hx]

/-- What a category fits has something to see. -/
theorem Fits.isEmpty_eq (h : r.Fits s c) : s.isEmpty = false := by
  cases h with
  | fqns _ hfqn => simp [Subject.isEmpty, hfqn]
  | labels h => simp [Subject.isEmpty, h.isEmpty_eq.2]
  | annotations h => simp [Subject.isEmpty, h.isEmpty_eq.2]
  | containers _ hname => simp [Subject.isEmpty, List.ne_nil_of_mem hname]
  | codes _ hcode => simp [Subject.isEmpty, hcode]

/-! ## Whole rules -/

/-- A rule matches in some category if one of them fits. -/
theorem matchesAny_iff_fits : r.matchesAny s ↔ ∃ c, r.Fits s c := by
  rw [matchesAny_iff]
  constructor
  · rintro ⟨-, c, -, haccepts⟩
    exact ⟨c, accepts_iff_fits.1 haccepts⟩
  · rintro ⟨c, hfits⟩
    exact ⟨hfits.isEmpty_eq, c, hfits.has, accepts_iff_fits.2 hfits⟩

/-- A rule matches in every category if it has some and they all fit. -/
theorem matchesAll_iff_fits :
    r.matchesAll s ↔ r.isEmpty = false ∧ ∀ c, r.has c → r.Fits s c := by
  rw [matchesAll_iff]
  constructor
  · rintro ⟨hr, -, hall⟩
    exact ⟨hr, fun c hc => accepts_iff_fits.1 (hall c hc)⟩
  · rintro ⟨hr, hall⟩
    obtain ⟨c, hc⟩ := isEmpty_eq_false_iff.1 hr
    exact ⟨hr, (hall c hc).isEmpty_eq, fun d hd => accepts_iff_fits.2 (hall d hd)⟩

/-- A category alone has that category, if the rule has it, and no other. -/
theorem has_only_iff : (r.only c).has d ↔ c = d ∧ r.has c := by
  cases c <;> cases d <;> simp [only, empty, has, Dict.isEmpty_iff]

/-- It fits what it fits in the rule. -/
theorem fits_only_iff : (r.only c).Fits s d ↔ c = d ∧ r.Fits s c := by
  rw [← accepts_iff_fits, ← accepts_iff_fits]
  constructor
  · intro h
    obtain ⟨rfl, -⟩ := has_only_iff.1 (accepts_iff_fits.1 h).has
    cases c <;> exact ⟨rfl, h⟩
  · rintro ⟨rfl, h⟩
    cases c <;> exact h

/-- A category alone matches in some category what it fits. -/
theorem matchesAny_only_iff : (r.only c).matchesAny s ↔ r.Fits s c := by
  rw [matchesAny_iff_fits]
  constructor
  · rintro ⟨d, hd⟩
    exact (fits_only_iff.1 hd).2
  · intro h
    exact ⟨c, fits_only_iff.2 ⟨rfl, h⟩⟩

/-- Where a rule has a single category it matches in all categories what it matches in some. -/
theorem matchesAll_eq_of_unique (h : ∃! c, r.has c) (s : Subject) :
    r.matchesAll s = r.matchesAny s := by
  obtain ⟨c, hc, hunique⟩ := h
  rw [Bool.eq_iff_iff, matchesAll_iff_fits, matchesAny_iff_fits]
  constructor
  · rintro ⟨-, hall⟩
    exact ⟨c, hall c hc⟩
  · rintro ⟨d, hd⟩
    obtain rfl := hunique d hd.has
    exact ⟨isEmpty_eq_false_iff.2 ⟨d, hc⟩, fun e he => hunique e he ▸ hd⟩

/-- A category alone matches in all categories what it fits. -/
theorem matchesAll_only_iff : (r.only c).matchesAll s ↔ r.Fits s c := by
  cases hc : r.has c with
  | true =>
    have hunique : ∃! d, (r.only c).has d :=
      ⟨c, has_only_iff.2 ⟨rfl, hc⟩, fun d hd => (has_only_iff.1 hd).1.symm⟩
    rw [matchesAll_eq_of_unique hunique, matchesAny_only_iff]
  | false =>
    -- without the category there is no rule to ask
    refine iff_of_false (fun h => ?_) fun h => by simp [h.has] at hc
    obtain ⟨d, hd⟩ := isEmpty_eq_false_iff.1 (matchesAll_iff_fits.1 h).1
    rw [(has_only_iff.1 hd).2] at hc
    cases hc

/-- A rule and a subject by the categories of the rule, each taken alone as a rule: a category
matches what it fits; the rule matches in some category if one that it has does, and in every
category if it has some and all that it has do; so what matches in every category matches in some,
and where there is a single category the two are the same. -/
structure ReadsByCategory (r : Rule) (s : Subject) : Prop where
  matchesAny_only : ∀ c, (r.only c).matchesAny s ↔ r.Fits s c
  matchesAll_only : ∀ c, (r.only c).matchesAll s ↔ r.Fits s c
  matchesAny : r.matchesAny s ↔ ∃ c, r.has c ∧ (r.only c).matchesAny s
  matchesAll : r.matchesAll s ↔ r.isEmpty = false ∧ ∀ c, r.has c → (r.only c).matchesAll s
  matchesAny_of_all : r.matchesAll s → r.matchesAny s
  eq_of_unique : (∃! c, r.has c) → r.matchesAll s = r.matchesAny s

/-- Every rule is read category by category. -/
theorem readsByCategory (r : Rule) (s : Subject) : r.ReadsByCategory s where
  matchesAny_only _ := matchesAny_only_iff
  matchesAll_only _ := matchesAll_only_iff
  matchesAny := by
    rw [matchesAny_iff_fits]
    exact exists_congr fun c => by
      rw [matchesAny_only_iff, and_iff_right_of_imp Fits.has]
  matchesAll := by simp only [matchesAll_iff_fits (r := r), matchesAll_only_iff]
  matchesAny_of_all h := by
    obtain ⟨hr, hall⟩ := matchesAll_iff_fits.1 h
    obtain ⟨c, hc⟩ := isEmpty_eq_false_iff.1 hr
    exact matchesAny_iff_fits.2 ⟨c, hall c hc⟩
  eq_of_unique h := matchesAll_eq_of_unique h s

end Rule

/-! ## Verdicts without guards -/

/-- The rules of a kind fit a subject: all categories of a rule that has some do, or an expression
for codes matches the digits of the code. -/
def KindRules.Fits (k : KindRules) (s : Subject) : Prop :=
  (∃ r ∈ k.instances, r.isEmpty = false ∧ ∀ c, r.has c → r.Fits s c) ∨
    ∃ code, s.code = some code ∧ ∃ x ∈ k.codes, x.isMatch code.text

/-- Suppressions fit a subject: some category of the global rule does, or the rules of its kind do.
-/
def Exclusions.Fits (e : Exclusions) (s : Subject) : Prop :=
  (∃ c, e.global.Fits s c) ∨ ∃ k, e.rulesOf s.kind = some k ∧ k.Fits s

/-- What the rules of a kind fit has something to see. -/
theorem KindRules.Fits.isEmpty_eq {k : KindRules} {s : Subject} (h : k.Fits s) :
    s.isEmpty = false := by
  rcases h with ⟨r, -, hr, hall⟩ | ⟨code, hcode, -⟩
  · obtain ⟨c, hc⟩ := Rule.isEmpty_eq_false_iff.1 hr
    exact (hall c hc).isEmpty_eq
  · simp [Subject.isEmpty, hcode]

/-- The rules of a kind match what they fit. -/
theorem KindRules.holds_iff_fits {k : KindRules} {s : Subject} : k.holds s ↔ k.Fits s := by
  have hmatch : ((∃ r ∈ k.instances, r.matchesAll s) ∨
      ∃ code, s.code = some code ∧ k.codes.holds code.text) ↔ k.Fits s := by
    simp only [Fits, Rule.matchesAll_iff_fits, Expressions.holds, List.any_eq_true]
  rw [holds_iff, hmatch]
  exact and_iff_right_of_imp Fits.isEmpty_eq

namespace Exclusions

/-- Rules are read category by category, a subject without content is matched by no rule and fitted
by none of its categories, and the rules of a kind and all suppressions give the verdicts that they
give without guards. -/
theorem isExcluded_iff_fits :
    (∀ (r : Rule) (s : Subject), r.ReadsByCategory s) ∧
    (∀ (r : Rule) (kind : Kind), let s : Subject := ⟨kind, ⟨""⟩, ∅, ∅, [], Option.none⟩
      r.matchesAny s = false ∧ r.matchesAll s = false ∧ ∀ c, ¬ r.Fits s c) ∧
    (∀ (k : KindRules) (s : Subject), k.holds s ↔ k.Fits s) ∧
    ∀ (e : Exclusions) (s : Subject), e.isExcluded s ↔ e.Fits s := by
  refine ⟨Rule.readsByCategory, fun r kind => ?_, fun k s => KindRules.holds_iff_fits,
    fun e s => ?_⟩
  · intro s
    have hnone : ∀ c, ¬ r.Fits s c := fun c h => Bool.noConfusion h.isEmpty_eq
    refine ⟨Bool.eq_false_iff.2 fun h => ?_, Bool.eq_false_iff.2 fun h => ?_, hnone⟩
    · obtain ⟨c, hc⟩ := Rule.matchesAny_iff_fits.1 h
      exact hnone c hc
    · obtain ⟨hr, hall⟩ := Rule.matchesAll_iff_fits.1 h
      obtain ⟨c, hc⟩ := Rule.isEmpty_eq_false_iff.1 hr
      exact hnone c (hall c hc)
  · rw [isExcluded_iff, Rule.matchesAny_iff_fits]
    simp only [KindRules.holds_iff_fits]
    refine and_iff_right_of_imp ?_
    rintro (⟨c, hc⟩ | ⟨k, -, hk⟩)
    · exact hc.isEmpty_eq
    · exact hk.isEmpty_eq

/-- The rule with a pattern that matches every text for names, and a label key without expressions.
-/
def catchAll : Rule :=
  { Rule.empty with fqns := [.pattern ((Pattern.compile? "^").get (by decide))],
                    labels := (∅ : Dict String Expressions).insert "app" [] }

/-- The rule matches a pod in some category and not in all of them, though its pattern alone does.
Without content there is nothing to match, for all that the pattern matches the empty text. -/
theorem isExcluded_iff_fits_catchAll :
    let pod : Subject := ⟨.pods, ⟨"a/x"⟩, ∅, ∅, [], some 200⟩
    let blank : Subject := ⟨.pods, ⟨""⟩, ∅, ∅, [], Option.none⟩
    let e := none.withKind .pods ⟨[], [catchAll.only .fqns]⟩
    catchAll.ReadsByCategory pod ∧ catchAll.matchesAny pod ∧ catchAll.matchesAll pod = false ∧
    (∃! c, (catchAll.only .fqns).has c) ∧ (catchAll.only .fqns).matchesAll pod ∧ e.Fits pod ∧
    catchAll.fqns.holds "" ∧ catchAll.matchesAny blank = false ∧ ¬ e.Fits blank := by
  intro pod blank e
  obtain ⟨hreads, hblank, -, hverdict⟩ := isExcluded_iff_fits
  have hunique : ∃! c, (catchAll.only .fqns).has c :=
    ⟨.fqns, by decide, fun c hc => (Rule.has_only_iff.1 hc).1.symm⟩
  have halone : (catchAll.only .fqns).matchesAny pod := by decide
  rw [← (hreads _ _).eq_of_unique hunique] at halone
  exact ⟨hreads _ _, by decide, by decide, hunique, halone, (hverdict e pod).1 (by decide),
    by decide, (hblank catchAll .pods).1, fun h => absurd ((hverdict e blank).2 h) (by decide)⟩

end Exclusions

end ClusterAudit
