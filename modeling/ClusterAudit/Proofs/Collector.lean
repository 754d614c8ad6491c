import ClusterAudit.Proofs.Suppression.Collecting
import Mathlib.Data.List.Forall2

/-!
# What a collector keeps

A collector is asked to register objects, to report findings and to record failures, in any order
(`Call`). `Collector.run` makes calls one after the other and logs each with its answer. What a
single call can do is said once, by `Collector.Takes`; the invariant of a run is
`Collector.Recalls`: the outcome holds what the log tells, and nothing else.
`Collector.recalls_calls` puts this together with what decides about the answers.
-/

namespace ClusterAudit

/-- The finding of a code with arguments, as a glossary words it. -/
structure Finding.Of (g : Glossary) (group : String) (code : Code) (args : List String)
    (f : Finding) : Prop where
  group_eq : f.group = group
  code_eq : f.code = some code
  severity_eq : g.severity? code = some f.severity
  message_eq : g.render code args = some f.message

/-! ## Calls and answers -/

/-- What is asked of a collector. -/
inductive Call where
  /-- Register an object. -/
  | init (fqn : Fqn)
  /-- Report a finding about an object as a whole. -/
  | addCode (t : Target) (code : Code) (args : List String)
  /-- Report a finding about a part of an object. -/
  | addSubCode (t : Target) (code : Code) (group : String) (args : List String)
  /-- Record a failure about an object. -/
  | addError (t : Target) (text : String)
  deriving DecidableEq

/-- What a collector answers. -/
inductive Answer where
  /-- The call is of a sort that always succeeds. -/
  | done
  /-- Whether the finding was recorded. -/
  | flag (b : Bool)
  | refused (e : IssueError)
  deriving DecidableEq

namespace Call

/-- The object that is named. -/
def fqn : Call → Fqn
  | init fqn => fqn
  | addCode t _ _ | addSubCode t _ _ _ | addError t _ => t.fqn

/-- Whether the call registers its object. -/
def registers : Call → Bool
  | init _ | addError .. => true
  | addCode .. | addSubCode .. => false

/-- Whether the call records a failure. -/
def isFailure : Call → Bool
  | addError .. => true
  | init _ | addCode .. | addSubCode .. => false

/-- Whether a call with its answer adds a finding: a failure does, and a finding that was recorded.
-/
def adds (q : Call × Answer) : Bool := q.1.isFailure || q.2 = .flag true

/-- The finding that a call makes if it adds one. -/
def Makes (g : Glossary) : Call → Finding → Prop
  | init _, _ => False
  | addCode _ code args, f => f.Of g rootGroup code args
  | addSubCode _ code group args, f => f.Of g group code args
  | addError _ text, f => f = ⟨rootGroup, .error,
      (g.render Glossary.internalError [text]).getD text, some Glossary.internalError⟩

end Call

namespace Collector

/-- What becomes of a collector that says whether a finding was recorded, or why it is refused: then
the collector stays as it is. -/
def answer (c : Collector) : Except IssueError (Collector × Bool) → Collector × Answer
  | .ok (c, b) => (c, .flag b)
  | .error e => (c, .refused e)

/-- The collector after a call, and its answer. -/
def call (c : Collector) : Call → Collector × Answer
  | .init fqn => (c.init fqn, .done)
  | .addCode t code args => c.answer (c.addCode t code args)
  | .addSubCode t code group args => c.answer (c.addSubCode t code group args)
  | .addError t text => (c.addError t text, .done)

/-- The collector and the log after one more call. -/
def next (p : Collector × List (Call × Answer)) (q : Call) : Collector × List (Call × Answer) :=
  let (c, a) := p.1.call q
  (c, p.2 ++ [(q, a)])

/-- The collector after calls, and the log of these calls with their answers. -/
def run (c : Collector) (calls : List Call) : Collector × List (Call × Answer) :=
  calls.foldl next (c, [])

/-! ## One finding -/

section record
variable {c c' : Collector} {t : Target} {code : Code} {group : String} {subject : Subject}
  {args : List String} {b : Bool}

/-- A finding is refused for an object that is not registered, and then for an unknown code; what is
not refused is recorded unless it is silenced. -/
theorem answer_record : (c.answer (c.record t code group subject args)).2 =
    if !c.outcome.contains t.fqn then .refused (.unregistered t.kind t.fqn)
    else if (c.glossary.get? code).isNone then .refused (.unknownCode code)
    else .flag (!c.exclusions.isExcluded subject) := by
  rw [record]
  split
  · rfl
  · cases hspec : c.glossary.get? code with
    | none =>
      have hs : c.glossary.severity? code = none := by rw [Glossary.severity?, hspec]; rfl
      rw [hs]
      rfl
    | some spec =>
      have hs : c.glossary.severity? code = some spec.severity := by
        rw [Glossary.severity?, hspec]
        rfl
      obtain ⟨message, hm⟩ := c.glossary.exists_render (by rw [hs]; rfl) args
      rw [hs, hm]
      dsimp only
      split
      · rename_i hsilenced
        rw [hsilenced]
        rfl
      · rename_i hkept
        rw [Bool.not_eq_true] at hkept
        rw [hkept]
        rfl

/-- A finding that is silenced changes nothing, and one that is recorded is added to its object,
which is registered. -/
theorem eq_of_record (h : c.record t code group subject args = .ok (c', b)) :
    if b then c.outcome.contains t.fqn ∧ ∃ f : Finding, f.Of c.glossary group code args ∧
      c' = { c with outcome := c.outcome.push t.fqn f }
    else c' = c := by
  rw [record] at h
  split at h
  · cases h
  · rename_i hcontains
    split at h
    · cases h
    · rename_i severity hs
      split at h
      · cases h
        rfl
      · split at h
        · cases h
        · rename_i message hm
          cases h
          exact ⟨by simpa using hcontains, _, ⟨rfl, rfl, hs, hm⟩, rfl⟩

/-- A refused or silenced finding leaves the collector as it is. -/
theorem eq_of_answer_record
    (h : (c.answer (c.record t code group subject args)).2 ≠ .flag true) :
    (c.answer (c.record t code group subject args)).1 = c := by
  cases hr : c.record t code group subject args with
  | error e => rfl
  | ok out =>
    obtain ⟨c', b⟩ := out
    cases b with
    | true => exact absurd (by rw [hr]; rfl) h
    | false => exact eq_of_record hr

end record

/-! ## One call -/

/-- What a call with its answer can do: it registers its object if it is of that sort, and adds the
findings it makes, one or none, after those of its object. -/
structure Takes (c c' : Collector) (q : Call × Answer) (made : List Finding) : Prop where
  glossary : c'.glossary = c.glossary
  exclusions : c'.exclusions = c.exclusions
  contains : ∀ f, c'.outcome.contains f ↔ c.outcome.contains f ∨ q.1.registers ∧ q.1.fqn = f
  findings : ∀ f, (c'.outcome.get? f).getD [] =
    (c.outcome.get? f).getD [] ++ if q.1.fqn = f then made else []
  count : c'.outcome.findingCount =
    c.outcome.findingCount + ([q].countP (·.2 = .flag true) + [q].countP (·.1.isFailure))
  made : List.Forall₂ (fun q f => q.1.Makes c.glossary f) (if Call.adds q then [q] else []) made

section finding
variable {c : Collector} {q : Call} (hregisters : q.registers = false)
  (hfailure : q.isFailure = false)
include hregisters hfailure

/-- A finding that is not recorded leaves everything as it is. -/
theorem takes_nothing {a : Answer} (ha : a ≠ .flag true) : c.Takes c (q, a) [] where
  glossary := rfl
  exclusions := rfl
  contains f := by simp [hregisters]
  findings f := by simp
  count := by simp [ha, hfailure]
  made := by
    have hadds : Call.adds (q, a) = false := by simp [Call.adds, hfailure, ha]
    rw [hadds]
    exact .nil

/-- A finding that is recorded is added to its object, which is registered. -/
theorem takes_push {x : Finding} (hcontains : c.outcome.contains q.fqn)
    (hmakes : q.Makes c.glossary x) :
    c.Takes { c with outcome := c.outcome.push q.fqn x } (q, .flag true) [x] where
  glossary := rfl
  exclusions := rfl
  contains f := by simp [hregisters, Outcome.contains_push]
  findings f := by
    obtain ⟨fs, hfs⟩ : ∃ fs, c.outcome.get? q.fqn = some fs := Option.isSome_iff_exists.1 hcontains
    rw [Outcome.get?_push]
    by_cases hf : f = q.fqn
    · subst hf
      simp [hfs]
    · simp [hf, Ne.symm hf]
  count := by
    rw [Outcome.findingCount_push hcontains]
    simp [hfailure]
  made := by
    have hadds : Call.adds (q, .flag true) := by simp [Call.adds]
    rw [if_pos hadds]
    exact .cons hmakes .nil

/-- A finding is taken as it is answered. -/
theorem exists_takes_record {t : Target} {code : Code} {group : String} {subject : Subject}
    {args : List String} (hfqn : q.fqn = t.fqn)
    (hmakes : ∀ f : Finding, f.Of c.glossary group code args → q.Makes c.glossary f) :
    let out := c.answer (c.record t code group subject args)
    ∃ made, c.Takes out.1 (q, out.2) made := by
  intro out
  cases hr : c.record t code group subject args with
  | error e =>
    have hout : out = (c, .refused e) := congrArg c.answer hr
    rw [hout]
    exact ⟨[], takes_nothing hregisters hfailure nofun⟩
  | ok p =>
    obtain ⟨c', b⟩ := p
    have hout : out = (c', .flag b) := congrArg c.answer hr
    have hr := eq_of_record hr
    rw [hout]
    cases b with
    | false =>
      obtain rfl : c' = c := hr
      exact ⟨[], takes_nothing hregisters hfailure nofun⟩
    | true =>
      obtain ⟨hcontains, f, hof, rfl⟩ := hr
      rw [← hfqn] at hcontains ⊢
      exact ⟨[f], takes_push hregisters hfailure hcontains (hmakes f hof)⟩

end finding

/-- Every call is taken as it is answered. -/
theorem exists_takes_call (c : Collector) (q : Call) :
    ∃ made, c.Takes (c.call q).1 (q, (c.call q).2) made := by
  cases q with
  | init fqn =>
    refine ⟨[], rfl, rfl, fun f => ?_, fun f => ?_, Outcome.findingCount_init _ _, .nil⟩
    · show (c.outcome.init fqn).contains f ↔ _
      rw [Outcome.contains_init]
      simp [Call.registers, Call.fqn]
    · show ((c.outcome.init fqn).get? f).getD [] = _
      rw [Outcome.get?_init]
      split <;> simp
  | addCode t code args => exact exists_takes_record rfl rfl rfl fun _ hf => hf
  | addSubCode t code group args => exact exists_takes_record rfl rfl rfl fun _ hf => hf
  | addError t text =>
    have hinit : (c.outcome.init t.fqn).contains t.fqn :=
      (Outcome.contains_init _ _ _).2 (.inr rfl)
    refine ⟨[_], rfl, rfl, fun f => ?_, fun f => ?_, ?_, .cons rfl .nil⟩
    · show (Outcome.push _ t.fqn _).contains f ↔ _
      rw [Outcome.contains_push, Outcome.contains_init]
      simp [Call.registers, Call.fqn]
    · show ((Outcome.push _ t.fqn _).get? f).getD [] = _
      rw [Outcome.get?_push, Outcome.get?_init]
      by_cases hf : f = t.fqn
      · subst hf
        simp [Call.fqn]
      · simp [hf, Call.fqn, Ne.symm hf]
    · exact (Outcome.findingCount_push hinit _).trans
        (congrArg (· + 1) (Outcome.findingCount_init _ _))

/-! ## Runs -/

/-- The outcome holds what a log tells: the objects that were named by a registration or a failure,
and of each object one finding for each call that added one to it, in order. -/
structure Recalls (g : Glossary) (e : Exclusions) (c : Collector) (log : List (Call × Answer)) :
    Prop where
  glossary : c.glossary = g
  exclusions : c.exclusions = e
  contains : ∀ f, c.outcome.contains f ↔ ∃ q ∈ log, q.1.registers ∧ q.1.fqn = f
  findings : ∀ f, List.Forall₂ (fun q x => q.1.Makes g x)
    (log.filter fun q => Call.adds q && q.1.fqn = f) ((c.outcome.get? f).getD [])
  count : c.outcome.findingCount = log.countP (·.2 = .flag true) + log.countP (·.1.isFailure)

variable {g : Glossary} {e : Exclusions} {c c' : Collector} {log : List (Call × Answer)}

/-- A new collector has nothing to recall. -/
theorem recalls_create (kind : Kind) (g : Glossary) (e : Exclusions) :
    Recalls g e (create kind g e) [] where
  glossary := rfl
  exclusions := rfl
  contains f := by simp [create, Outcome.contains_eq, show (∅ : Outcome).get? f = none from rfl]
  findings _ := .nil
  count := rfl

/-- One more call is recalled as it is answered. -/
theorem Recalls.takes (h : Recalls g e c log) {q : Call × Answer} {made : List Finding}
    (ht : c.Takes c' q made) : Recalls g e c' (log ++ [q]) where
  glossary := ht.glossary.trans h.glossary
  exclusions := ht.exclusions.trans h.exclusions
  contains f := by
    rw [ht.contains, h.contains]
    simp [or_and_right, exists_or]
  findings f := by
    rw [List.filter_append, ht.findings]
    refine List.rel_append (h.findings f) ?_
    have hmade := ht.made
    rw [h.glossary] at hmade
    by_cases hf : q.1.fqn = f
    · simpa [List.filter_cons, hf] using hmade
    · simp [hf]
  count := by
    rw [ht.count, h.count, List.countP_append, List.countP_append]
    exact Nat.add_add_add_comm ..

/-- A run is recalled, call by call. -/
theorem Recalls.foldl (calls : List Call) {p : Collector × List (Call × Answer)}
    (h : Recalls g e p.1 p.2) :
    Recalls g e (calls.foldl next p).1 (calls.foldl next p).2 := by
  induction calls generalizing p with
  | nil => exact h
  | cons q rest ih =>
    obtain ⟨made, ht⟩ := exists_takes_call p.1 q
    exact ih (h.takes ht)

/-- The log has the calls of a run, in order. -/
theorem map_fst_run (c : Collector) (calls : List Call) : (run c calls).2.map (·.1) = calls := by
  have aux : ∀ (calls : List Call) (p : Collector × List (Call × Answer)),
      (calls.foldl next p).2.map (·.1) = p.2.map (·.1) ++ calls := by
    intro calls
    induction calls with
    | nil => exact fun p => (List.append_nil _).symm
    | cons q rest ih =>
      intro p
      rw [List.foldl_cons, ih]
      simp [next]
  exact aux calls (c, [])

/-- A call that is not answered with true, and is not of a sort that always succeeds, leaves the
collector as it is. -/
theorem eq_of_call {c : Collector} {q : Call} (htrue : (c.call q).2 ≠ .flag true)
    (hdone : (c.call q).2 ≠ .done) : (c.call q).1 = c := by
  cases q with
  | init | addError => exact absurd rfl hdone
  | addCode | addSubCode => exact eq_of_answer_record htrue

/-- After any calls of a new collector: an object is registered exactly if a registration or a
failure named it; its findings are, in order, one for each call on it that was answered with true
and one for each failure; so the number of findings is that of these answers and calls; a finding is
refused for an object that is not registered, else for a code that is not in the glossary, and else
recorded exactly if the rules do not silence it; and a call that is refused or answered with false
changes nothing. -/
theorem recalls_calls (kind : Kind) (g : Glossary) (e : Exclusions) (calls : List Call) :
    let c := (run (create kind g e) calls).1
    let log := (run (create kind g e) calls).2
    log.map (·.1) = calls ∧
    (∀ fqn, c.outcome.contains fqn ↔ ∃ q ∈ calls, q.registers ∧ q.fqn = fqn) ∧
    (∀ fqn, List.Forall₂ (fun q f => q.1.Makes g f)
      (log.filter fun q => Call.adds q && q.1.fqn = fqn) ((c.outcome.get? fqn).getD [])) ∧
    c.outcome.findingCount = log.countP (·.2 = .flag true) + calls.countP (·.isFailure) ∧
    (∀ t code args, (c.call (.addCode t code args)).2 =
      if !c.outcome.contains t.fqn then .refused (.unregistered t.kind t.fqn)
      else if (g.get? code).isNone then .refused (.unknownCode code)
      else .flag (!e.isExcluded (t.subject code))) ∧
    (∀ t code group args, (c.call (.addSubCode t code group args)).2 =
      if !c.outcome.contains t.fqn then .refused (.unregistered t.kind t.fqn)
      else if (g.get? code).isNone then .refused (.unknownCode code)
      else .flag (!e.isExcluded { t.subject code with containers := [group] })) ∧
    ∀ q, (c.call q).2 = .flag false ∨ (∃ error, (c.call q).2 = .refused error) →
      (c.call q).1 = c := by
  intro c log
  have h : Recalls g e c log := (recalls_create kind g e).foldl calls
  have hcalls : log.map (·.1) = calls := map_fst_run _ calls
  refine ⟨hcalls, fun fqn => ?_, h.findings, ?_, fun t code args => ?_,
    fun t code group args => ?_, fun q hq => ?_⟩
  · rw [h.contains, ← hcalls]
    simp only [List.mem_map, exists_exists_and_eq_and]
  · rw [h.count, ← hcalls, List.countP_map]
    rfl
  · rw [← h.glossary, ← h.exclusions]
    exact answer_record
  · rw [← h.glossary, ← h.exclusions]
    exact answer_record
  · rcases hq with hq | ⟨error, hq⟩
    · exact eq_of_call (by rw [hq]; decide) (by rw [hq]; decide)
    · exact eq_of_call (by rw [hq]; nofun) (by rw [hq]; nofun)

end Collector

end ClusterAudit
