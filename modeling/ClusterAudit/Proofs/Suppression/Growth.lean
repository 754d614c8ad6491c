import ClusterAudit.Proofs.Store.Replay
import ClusterAudit.Proofs.Suppression.Removal
import Mathlib.Data.List.Basic
import Mathlib.Logic.Relation

/-!
# More rules silence more

A rule is described category by category: which of them it has, and which of them accept a subject
(`Rule.matchesAny_iff`, `Rule.matchesAll_iff`). A category with one more expression accepts what it
accepted before (`Rule.Grows.accepts`). So a global rule may grow in any category, but a rule of a
kind only in those that it has: one more category is one more condition, and the rule matches no
subject that it did not match before (`Rule.AgreesBut.matchesAll`).

`Exclusions.Grows` lists the ways in which suppressions grow in one step. What is silenced stays
silenced along any sequence of steps (`Exclusions.isExcluded_of_grown`), and the findings of a run
become fewer.
-/

namespace ClusterAudit

/-! ## Expressions -/

/-- One expression is added, anywhere among the others. -/
def Expressions.Grows (es es' : Expressions) : Prop :=
  ∃ (x : Expression) (before after : Expressions), es = before ++ after ∧ es' = before ++ x :: after

namespace Expressions.Grows

variable {es es' : Expressions}

/-- There are some expressions afterwards. -/
theorem isEmpty_eq (h : es.Grows es') : es'.isEmpty = false := by
  obtain ⟨x, before, after, -, rfl⟩ := h
  simp

/-- What matched before matches afterwards. -/
theorem holds (h : es.Grows es') {value : String} (hes : es.holds value) : es'.holds value := by
  obtain ⟨x, before, after, rfl, rfl⟩ := h
  rw [Expressions.holds, List.any_append, Bool.or_eq_true] at hes
  rw [Expressions.holds, List.any_append, List.any_cons, Bool.or_eq_true, Bool.or_eq_true]
  exact hes.imp_right .inr

/-- One of the texts that matched before matches afterwards. -/
theorem holdsAny (h : es.Grows es') {values : List String} (hes : es.holdsAny values) :
    es'.holdsAny values := by
  obtain ⟨value, hvalue, hholds⟩ := List.any_eq_true.1 hes
  exact List.any_eq_true.2 ⟨value, hvalue, h.holds hholds⟩

end Expressions.Grows

/-- One expression is added under a key, which may be a new one. -/
def Rule.PairsGrow (d d' : Dict String Expressions) : Prop :=
  ∃ (key : String) (es' : Expressions), Expressions.Grows ((d.get? key).getD []) es' ∧
    d' = d.insert key es'

namespace Rule

/-- Pairs match if a key is present with a value that its expressions accept. -/
theorem matchesPairs_iff {asked : Dict String Expressions} {present : Labels} :
    matchesPairs asked present ↔ ∃ key es value,
      asked.get? key = some es ∧ present.get? key = some value ∧ es.holds value := by
  rw [matchesPairs, Dict.any, List.any_eq_true]
  constructor
  · rintro ⟨⟨key, es⟩, hmem, hholds⟩
    cases hvalue : present.get? key with
    | none => simp [hvalue] at hholds
    | some value =>
      exact ⟨key, es, value, Dict.mem_entries_iff.1 hmem, hvalue, by simpa [hvalue] using hholds⟩
  · rintro ⟨key, es, value, hes, hvalue, hholds⟩
    exact ⟨(key, es), Dict.mem_entries_iff.2 hes, by simpa [hvalue] using hholds⟩

namespace PairsGrow

variable {d d' : Dict String Expressions}

/-- Some key is bound afterwards. -/
theorem isEmpty_eq (h : PairsGrow d d') : d'.isEmpty = false := by
  obtain ⟨key, es', -, rfl⟩ := h
  exact Dict.isEmpty_eq_false (Dict.get?_insert_self d key es')

/-- Pairs that matched before match afterwards. -/
theorem matchesPairs (h : PairsGrow d d') {present : Labels} (hd : matchesPairs d present) :
    Rule.matchesPairs d' present := by
  obtain ⟨key, es', hgrows, rfl⟩ := h
  obtain ⟨k, es, value, hes, hvalue, hholds⟩ := matchesPairs_iff.1 hd
  rw [matchesPairs_iff]
  by_cases hk : k = key
  · subst hk
    rw [hes, Option.getD_some] at hgrows
    exact ⟨k, es', value, Dict.get?_insert_self d k es', hvalue, hgrows.holds hholds⟩
  · exact ⟨k, es, value, (Dict.get?_insert_of_ne hk es').trans hes, hvalue, hholds⟩

end PairsGrow

/-! ## Categories of a rule -/

/-- What a rule may constrain. -/
inductive Category where
  | fqns
  | labels
  | annotations
  | containers
  | codes
  deriving DecidableEq

namespace Category

/-- Some category has a property if one of the five has. -/
theorem exists_iff {p : Category → Prop} :
    (∃ c, p c) ↔ p .fqns ∨ p .labels ∨ p .annotations ∨ p .containers ∨ p .codes := by
  constructor
  · rintro ⟨c, hc⟩
    cases c <;> simp [hc]
  · rintro (h | h | h | h | h)
    exacts [⟨_, h⟩, ⟨_, h⟩, ⟨_, h⟩, ⟨_, h⟩, ⟨_, h⟩]

/-- Every category has a property if each of the five has. -/
theorem forall_iff {p : Category → Prop} :
    (∀ c, p c) ↔ p .fqns ∧ p .labels ∧ p .annotations ∧ p .containers ∧ p .codes := by
  constructor
  · intro h
    exact ⟨h _, h _, h _, h _, h _⟩
  · rintro ⟨hfqns, hlabels, hannotations, hcontainers, hcodes⟩ c
    cases c <;> assumption

end Category

/-- Whether the rule has the category. -/
def has (r : Rule) : Category → Bool
  | .fqns => !r.fqns.isEmpty
  | .labels => !r.labels.isEmpty
  | .annotations => !r.annotations.isEmpty
  | .containers => !r.containers.isEmpty
  | .codes => !r.codes.isEmpty

/-- Whether the category accepts a subject. -/
def accepts (r : Rule) (s : Subject) : Category → Bool
  | .fqns => r.matchesFqn s
  | .labels => matchesPairs r.labels s.labels
  | .annotations => matchesPairs r.annotations s.annotations
  | .containers => r.matchesContainers s
  | .codes => r.matchesCode s

variable {r r' : Rule} {c : Category} {s : Subject}

/-- A rule is empty if it has no category. -/
theorem isEmpty_iff : r.isEmpty ↔ ∀ c, r.has c = false := by
  simp [Category.forall_iff, isEmpty, has, and_assoc]

/-- A rule that is not empty has some category. -/
theorem isEmpty_eq_false_iff : r.isEmpty = false ↔ ∃ c, r.has c := by
  rw [← Bool.not_eq_true, isEmpty_iff]
  simp

/-- A rule matches in some category if it has one that accepts the subject. -/
theorem matchesAny_iff : r.matchesAny s ↔ s.isEmpty = false ∧ ∃ c, r.has c ∧ r.accepts s c := by
  have hempty : r.isEmpty → ¬ ∃ c, r.has c ∧ r.accepts s c := by
    rintro hr ⟨c, hc, -⟩
    rw [isEmpty_eq_false_iff.2 ⟨c, hc⟩] at hr
    cases hr
  rw [matchesAny]
  cases hs : s.isEmpty with
  | true => simp
  | false =>
    cases hr : r.isEmpty with
    | true => simpa using hempty hr
    | false => simp [Category.exists_iff, has, accepts, or_assoc]

/-- A rule matches in every category if it has some and all that it has accept the subject. -/
theorem matchesAll_iff : r.matchesAll s ↔
    r.isEmpty = false ∧ s.isEmpty = false ∧ ∀ c, r.has c → r.accepts s c := by
  have hcategory : ∀ a b : Bool, (a || b) = true ↔ ((!a) = true → b = true) := by decide
  rw [matchesAll]
  cases hs : s.isEmpty with
  | true => simp
  | false =>
    cases hr : r.isEmpty with
    | true => simp
    | false =>
      simp only [Bool.or_self, Bool.false_eq_true, if_false, true_and, Bool.and_eq_true, hcategory,
        and_assoc, Category.forall_iff, has, accepts]

/-! ## Growth of a rule -/

/-- Two rules agree in every category but one. -/
structure AgreesBut (c : Category) (r r' : Rule) : Prop where
  fqns : c ≠ .fqns → r'.fqns = r.fqns
  labels : c ≠ .labels → r'.labels = r.labels
  annotations : c ≠ .annotations → r'.annotations = r.annotations
  containers : c ≠ .containers → r'.containers = r.containers
  codes : c ≠ .codes → r'.codes = r.codes

namespace AgreesBut

/-- The rules have the same other categories. -/
theorem has_eq (h : AgreesBut c r r') {d : Category} (hd : c ≠ d) : r'.has d = r.has d := by
  cases d with
  | fqns => rw [has, has, h.fqns hd]
  | labels => rw [has, has, h.labels hd]
  | annotations => rw [has, has, h.annotations hd]
  | containers => rw [has, has, h.containers hd]
  | codes => rw [has, has, h.codes hd]

/-- Every other category accepts the same subjects. -/
theorem accepts_eq (h : AgreesBut c r r') {d : Category} (hd : c ≠ d) (s : Subject) :
    r'.accepts s d = r.accepts s d := by
  cases d with
  | fqns => rw [accepts, accepts, matchesFqn, matchesFqn, h.fqns hd]
  | labels => rw [accepts, accepts, h.labels hd]
  | annotations => rw [accepts, accepts, h.annotations hd]
  | containers => rw [accepts, accepts, matchesContainers, matchesContainers, h.containers hd]
  | codes => rw [accepts, accepts, matchesCode, matchesCode, h.codes hd]

/-- A rule with some category that gets one more matches no subject that it did not match. -/
theorem matchesAll (h : AgreesBut c r r') (hr : r.isEmpty = false) (hc : r.has c = false)
    (hs : r'.matchesAll s) : r.matchesAll s := by
  obtain ⟨-, hsubject, hall⟩ := matchesAll_iff.1 hs
  refine matchesAll_iff.2 ⟨hr, hsubject, fun d hd => ?_⟩
  have hne : c ≠ d := by
    rintro rfl
    rw [hc] at hd
    cases hd
  rw [← h.accepts_eq hne]
  exact hall d (by rwa [h.has_eq hne])

end AgreesBut

/-- One expression is added to a category of a rule, for labels and annotations under some key. -/
inductive Grows : Category → Rule → Rule → Prop
  | fqns {r : Rule} {es : Expressions} (h : r.fqns.Grows es) : Grows .fqns r { r with fqns := es }
  | labels {r : Rule} {d : Dict String Expressions} (h : PairsGrow r.labels d) :
    Grows .labels r { r with labels := d }
  | annotations {r : Rule} {d : Dict String Expressions} (h : PairsGrow r.annotations d) :
    Grows .annotations r { r with annotations := d }
  | containers {r : Rule} {es : Expressions} (h : r.containers.Grows es) :
    Grows .containers r { r with containers := es }
  | codes {r : Rule} {es : Expressions} (h : r.codes.Grows es) :
    Grows .codes r { r with codes := es }

namespace Grows

/-- The other categories stay as they are. -/
theorem agreesBut (h : Grows c r r') : AgreesBut c r r' := by
  cases h <;> constructor <;> simp

/-- The rule has the category afterwards. -/
theorem has (h : Grows c r r') : r'.has c := by
  cases h with
  | fqns h => simp [Rule.has, h.isEmpty_eq]
  | labels h => simp [Rule.has, h.isEmpty_eq]
  | annotations h => simp [Rule.has, h.isEmpty_eq]
  | containers h => simp [Rule.has, h.isEmpty_eq]
  | codes h => simp [Rule.has, h.isEmpty_eq]

/-- What a category accepted before it accepts afterwards. -/
theorem accepts (h : Grows c r r') {d : Category} (hd : r.accepts s d) : r'.accepts s d := by
  by_cases hne : c = d
  · subst hne
    cases h with
    | fqns h =>
      obtain ⟨hfqn, hholds⟩ := (Bool.and_eq_true_iff).1 hd
      exact Bool.and_eq_true_iff.2 ⟨hfqn, h.holds hholds⟩
    | labels h => exact h.matchesPairs hd
    | annotations h => exact h.matchesPairs hd
    | containers h => exact h.holdsAny hd
    | codes h =>
      simp only [Rule.accepts, matchesCode] at hd ⊢
      cases hcode : s.code with
      | none => simp [hcode] at hd
      | some code =>
        simp only [hcode, Option.map_some, Option.getD_some] at hd ⊢
        exact h.holds hd
  · rwa [h.agreesBut.accepts_eq hne]

/-- A rule that matched in some category does so afterwards. -/
theorem matchesAny (h : Grows c r r') (hr : r.matchesAny s) : r'.matchesAny s := by
  obtain ⟨hs, d, hd, haccepts⟩ := matchesAny_iff.1 hr
  refine matchesAny_iff.2 ⟨hs, d, ?_, h.accepts haccepts⟩
  by_cases hne : c = d
  · subst hne
    exact h.has
  · rwa [h.agreesBut.has_eq hne]

/-- A rule that matched in every category does so afterwards, if it had the one that grows. -/
theorem matchesAll (h : Grows c r r') (hc : r.has c) (hr : r.matchesAll s) : r'.matchesAll s := by
  obtain ⟨-, hs, hall⟩ := matchesAll_iff.1 hr
  refine matchesAll_iff.2 ⟨isEmpty_eq_false_iff.2 ⟨c, h.has⟩, hs, fun d hd => h.accepts ?_⟩
  by_cases hne : c = d
  · subst hne
    exact hall c hc
  · exact hall d (by rwa [h.agreesBut.has_eq hne] at hd)

end Grows

end Rule

/-! ## Growth of suppressions -/

/-- The suppressions of a kind grow by an expression for codes, by a rule at the end, or by an
expression in a category that a rule has. -/
inductive KindRules.Grows : KindRules → KindRules → Prop
  | codes {codes codes' : Expressions} {instances : List Rule} (h : codes.Grows codes') :
    Grows ⟨codes, instances⟩ ⟨codes', instances⟩
  | append {codes : Expressions} {instances : List Rule} (r : Rule) :
    Grows ⟨codes, instances⟩ ⟨codes, instances ++ [r]⟩
  | rule {codes : Expressions} {before after : List Rule} {c : Rule.Category} {r r' : Rule}
    (hc : r.has c) (h : Rule.Grows c r r') :
    Grows ⟨codes, before ++ r :: after⟩ ⟨codes, before ++ r' :: after⟩

/-- The rules of a kind match a subject with something to see, by a rule or by its code. -/
theorem KindRules.holds_iff {k : KindRules} {s : Subject} : k.holds s ↔
    s.isEmpty = false ∧ ((∃ r ∈ k.instances, r.matchesAll s) ∨
      ∃ code, s.code = some code ∧ k.codes.holds code.text) := by
  rw [holds]
  cases hs : s.isEmpty with
  | true => simp
  | false =>
    cases hcode : s.code with
    | none => simp
    | some code => simp

/-- What the rules of a kind matched before they match afterwards. -/
theorem KindRules.Grows.holds {k k' : KindRules} (h : k.Grows k') {s : Subject} (hk : k.holds s) :
    k'.holds s := by
  obtain ⟨hs, hmatch⟩ := holds_iff.1 hk
  refine holds_iff.2 ⟨hs, ?_⟩
  cases h with
  | codes h => exact hmatch.imp_right fun ⟨code, hcode, hholds⟩ => ⟨code, hcode, h.holds hholds⟩
  | append r =>
    exact hmatch.imp_left fun ⟨q, hq, hmatches⟩ => ⟨q, List.mem_append_left _ hq, hmatches⟩
  | @rule codes before after c r r' hc h =>
    refine hmatch.imp_left fun ⟨q, hq, hmatches⟩ => ?_
    rcases List.mem_append.1 hq with hq | hq
    · exact ⟨q, List.mem_append_left _ hq, hmatches⟩
    · rcases List.mem_cons.1 hq with rfl | hq
      · exact ⟨r', List.mem_append_right _ List.mem_cons_self, h.matchesAll hc hmatches⟩
      · exact ⟨q, List.mem_append_right _ (List.mem_cons_of_mem _ hq), hmatches⟩

namespace Exclusions

/-- The suppressions with other rules for a kind. -/
def withKind (e : Exclusions) (kind : Kind) (k : KindRules) : Exclusions :=
  { e with kinds := e.kinds.insert kind k }

/-- Suppressions grow by an expression in any category of the global rule, in the rules of a kind,
or by rules for a kind that had none. -/
inductive Grows : Exclusions → Exclusions → Prop
  | global {e : Exclusions} {c : Rule.Category} {r : Rule} (h : Rule.Grows c e.global r) :
    Grows e { e with global := r }
  | kind {e : Exclusions} {kind : Kind} {k k' : KindRules} (hkind : e.rulesOf kind = some k)
    (h : k.Grows k') : Grows e (e.withKind kind k')
  | newKind {e : Exclusions} {kind : Kind} (hkind : e.rulesOf kind = Option.none)
    (k : KindRules) :
    Grows e (e.withKind kind k)

/-- A finding is silenced if there is something to see of it and the global rule or the rules of its
kind match. -/
theorem isExcluded_iff {e : Exclusions} {s : Subject} : e.isExcluded s ↔
    s.isEmpty = false ∧ (e.global.matchesAny s ∨ ∃ k, e.rulesOf s.kind = some k ∧ k.holds s) := by
  rw [isExcluded]
  cases hs : s.isEmpty with
  | true => simp
  | false =>
    cases hglobal : e.global.matchesAny s with
    | true => simp
    | false => cases hkind : e.rulesOf s.kind <;> simp

/-- What is silenced stays silenced when suppressions grow. -/
theorem Grows.isExcluded {e e' : Exclusions} (h : e.Grows e') {s : Subject}
    (he : e.isExcluded s) : e'.isExcluded s := by
  obtain ⟨hs, hmatch⟩ := isExcluded_iff.1 he
  refine isExcluded_iff.2 ⟨hs, ?_⟩
  cases h with
  | global h => exact hmatch.imp_left h.matchesAny
  | @kind kind k k' hkind h =>
    refine hmatch.imp_right fun ⟨old, hold, hholds⟩ => ?_
    by_cases hsame : s.kind = kind
    · rw [hsame, hkind] at hold
      obtain rfl := Option.some.inj hold
      exact ⟨k', by rw [hsame]; exact Dict.get?_insert_self e.kinds kind k', h.holds hholds⟩
    · exact ⟨old, (Dict.get?_insert_of_ne hsame k').trans hold, hholds⟩
  | @newKind kind hkind k =>
    refine hmatch.imp_right fun ⟨old, hold, hholds⟩ => ?_
    have hother : s.kind ≠ kind := by
      rintro rfl
      rw [hkind] at hold
      cases hold
    exact ⟨old, (Dict.get?_insert_of_ne hother k).trans hold, hholds⟩

/-- What is silenced stays silenced along any sequence of steps. -/
theorem isExcluded_of_grown {e e' : Exclusions} (h : Relation.ReflTransGen Grows e e')
    {s : Subject} (he : e.isExcluded s) : e'.isExcluded s := by
  induction h with
  | refl => exact he
  | tail _ hstep ih => exact hstep.isExcluded ih

end Exclusions

/-! ## Runs -/

/-- What some rules silence others silence that exclude no less. -/
theorem Issue.silenced_of_le {e e' : Exclusions} (h : ∀ s, e.isExcluded s → e'.isExcluded s)
    {i : Issue} (hi : i.silenced e) : i.silenced e' := by
  rw [silenced] at hi ⊢
  cases hs : i.subject with
  | none =>
    rw [hs] at hi
    cases hi
  | some s =>
    rw [hs] at hi
    exact h s hi

/-- Of some issues fewer are left, in the same order, where no less is excluded. -/
theorem Issue.kept_sublist {e e' : Exclusions} (h : ∀ s, e.isExcluded s → e'.isExcluded s)
    (issues : List Issue) (fqn : Fqn) :
    (kept e' issues fqn).Sublist (kept e issues fqn) := by
  refine (List.monotone_filter_right issues fun i hi => ?_).map _
  obtain ⟨hfqn, hloud⟩ := Bool.and_eq_true_iff.1 hi
  refine Bool.and_eq_true_iff.2 ⟨hfqn, ?_⟩
  rw [Bool.not_eq_true', Bool.eq_false_iff] at hloud ⊢
  exact mt (silenced_of_le h) hloud

/-- A run reports fewer findings of every object, in the same order, where no less is excluded. -/
theorem Runner.findings_sublist {e e' : Exclusions} (h : ∀ s, e.isExcluded s → e'.isExcluded s)
    (checks : List Check) (g : Glossary) (s : Snapshot) (kind : Kind) (fqn : Fqn) :
    ((run ⟨checks, g, e'⟩ s).findings kind fqn).Sublist
      ((run ⟨checks, g, e⟩ s).findings kind fqn) := by
  rw [(follows_run checks g e' s).findings_eq, (follows_run checks g e s).findings_eq]
  exact Issue.kept_sublist h _ fqn

namespace Exclusions

/-- Suppressions that grew by any steps exclude what they excluded, and a run under them lists the
same objects and fewer findings of each, in the same order. The other way round, a rule with some
category that gets one more matches no subject in all its categories that it did not match. -/
theorem excludes_more_of_grown :
    (∀ e e' : Exclusions, Relation.ReflTransGen Grows e e' →
      (∀ s, e.isExcluded s → e'.isExcluded s) ∧
      ∀ checks g snapshot,
        (Runner.run ⟨checks, g, e'⟩ snapshot).objects =
          (Runner.run ⟨checks, g, e⟩ snapshot).objects ∧
        ∀ kind fqn, ((Runner.run ⟨checks, g, e'⟩ snapshot).findings kind fqn).Sublist
          ((Runner.run ⟨checks, g, e⟩ snapshot).findings kind fqn)) ∧
    ∀ (c : Rule.Category) (r r' : Rule), r.isEmpty = false → r.has c = false →
      Rule.AgreesBut c r r' → ∀ s, r'.matchesAll s → r.matchesAll s := by
  refine ⟨fun e e' h => ?_, fun c r r' hr hc h s => h.matchesAll hr hc⟩
  have hexcluded : ∀ s, e.isExcluded s → e'.isExcluded s := fun s => isExcluded_of_grown h
  exact ⟨hexcluded, fun checks g snapshot =>
    ⟨(Runner.follows_run checks g e' snapshot).objects_eq (Runner.follows_run checks g e snapshot),
      Runner.findings_sublist hexcluded checks g snapshot⟩⟩

/-- A rule for one object. -/
def object : Rule := { Rule.empty with fqns := [.literal "a/x"] }

/-- The rule, for pods, with some codes. -/
def ofCodes (codes : Expressions) : Exclusions := none.withKind .pods ⟨[], [{ object with codes }]⟩

/-- A pod without labels that uses the default account has one finding left under a rule for the
code of the other, and none when the rule grows by the code of the one. The rule for its name that
gets containers still matches with one container, and no longer with another. -/
theorem excludes_more_of_grown_ofCodes :
    let e := ofCodes [.literal "200"]
    let e' := ofCodes [.literal "200", .literal "300"]
    let run := fun e => Runner.run ⟨Runner.builtinChecks, .builtin, e⟩
      (.replay .builtin [Change.ofLoad .pods [.pod (.ofMeta (.named "a" "x"))]])
    let r := { object with containers := [.literal "c"] }
    let subject : String → Subject := fun name => ⟨.pods, ⟨"a/x"⟩, ∅, ∅, [name], some 200⟩
    Relation.ReflTransGen Grows e e' ∧
    ((run e').findings .pods ⟨"a/x"⟩).Sublist ((run e).findings .pods ⟨"a/x"⟩) ∧
    ((run e).findings .pods ⟨"a/x"⟩).map (·.code) = [some 300] ∧
    ((run e').findings .pods ⟨"a/x"⟩).map (·.code) = [] ∧
    object.isEmpty = false ∧ object.has .containers = false ∧ Rule.AgreesBut .containers object r ∧
    r.matchesAll (subject "c") ∧ object.matchesAll (subject "c") ∧
    r.matchesAll (subject "d") = false ∧ object.matchesAll (subject "d") := by
  intro e e' run r subject
  have hrule : Rule.Grows .codes { object with codes := [.literal "200"] }
      { object with codes := [.literal "200", .literal "300"] } :=
    .codes ⟨.literal "300", [.literal "200"], [], rfl, rfl⟩
  have hkind : KindRules.Grows ⟨[], [{ object with codes := [.literal "200"] }]⟩
      ⟨[], [{ object with codes := [.literal "200", .literal "300"] }]⟩ :=
    @KindRules.Grows.rule [] [] [] _ _ _ rfl hrule
  have hrules : e.rulesOf .pods = some ⟨[], [{ object with codes := [.literal "200"] }]⟩ := rfl
  have hgrown : Relation.ReflTransGen Grows e e' := by
    have hstep := Grows.kind hrules hkind
    exact .single hstep
  have hr : Rule.AgreesBut .containers object r := by constructor <;> simp [r]
  obtain ⟨hgrows, hbut⟩ := excludes_more_of_grown
  exact ⟨hgrown, ((hgrows e e' hgrown).2 _ _ _).2 _ _, by decide, by decide, by decide, by decide,
    hr, by decide, hbut .containers object r (by decide) (by decide) hr _ (by decide), by decide,
    by decide⟩

end Exclusions

end ClusterAudit
