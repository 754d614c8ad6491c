import ClusterAudit.Proofs.Outcome
import ClusterAudit.Runner

/-!
# What checks report before anything is suppressed

An `Issue` is a finding as it is reported, together with what suppression rules are shown of it; a
failure inside a check is shown to none. `Verdict.issues` lists those of a verdict without asking
any rule: the remarks up to the first that a collector refuses, then the failure. `Reports` says
that an outcome holds the reported issues with the silenced ones left out; registering an object,
adding a finding and merging outcomes keep it so.
-/

namespace ClusterAudit

/-- A finding as it is reported. -/
structure Issue where
  fqn : Fqn
  /-- What suppression rules see; nothing for a failure inside a check. -/
  subject : Option Subject
  finding : Finding
  deriving DecidableEq

namespace Issue

/-- Whether a suppression rule silences the issue; failures are never silenced. -/
def silenced (e : Exclusions) (i : Issue) : Bool := i.subject.any e.isExcluded

/-- A failure inside a check. -/
def failure (g : Glossary) (fqn : Fqn) (text : String) : Issue :=
  ⟨fqn, none, ⟨rootGroup, .error, (g.render Glossary.internalError [text]).getD text,
    some Glossary.internalError⟩⟩

/-- The findings of an object that are left when the silenced ones are left out. -/
def kept (e : Exclusions) (issues : List Issue) (fqn : Fqn) : List Finding :=
  (issues.filter fun i => i.fqn = fqn && !i.silenced e).map (·.finding)

end Issue

/-! ## Issues of verdicts -/

/-- What suppression rules see of a remark: of one about a part of the object that part is the only
container. -/
def Remark.subject (r : Remark) : Subject :=
  match r.group with
  | none => r.target.subject r.code
  | some group => { r.target.subject r.code with containers := [group] }

/-- The issue that a remark reports; its object must be registered and its code known. -/
def Remark.issue (g : Glossary) (registered : List Fqn) (r : Remark) : Except IssueError Issue :=
  if r.target.fqn ∉ registered then .error (.unregistered r.target.kind r.target.fqn)
  else match g.severity? r.code, g.render r.code r.args with
    | some severity, some message =>
      .ok ⟨r.target.fqn, some r.subject, ⟨r.group.getD rootGroup, severity, message, some r.code⟩⟩
    | _, _ => .error (.unknownCode r.code)

/-- The issues that remarks report up to the first that is refused, and why that one is. -/
def Remark.issues (g : Glossary) (registered : List Fqn) :
    List Remark → List Issue × Option IssueError
  | [] => ([], none)
  | r :: rest => match r.issue g registered with
    | .ok i =>
      let (issues, refused) := Remark.issues g registered rest
      (i :: issues, refused)
    | .error e => ([], some e)

/-- The issues of a verdict on an object: those of its remarks, then the failure, be it of a remark
or of the check. -/
def Verdict.issues (g : Glossary) (registered : List Fqn) (t : Target) (v : Verdict) : List Issue :=
  match Remark.issues g registered v.remarks with
  | (issues, some e) => issues ++ [.failure g t.fqn (AuditError.issue e).message]
  | (issues, none) => issues ++ (v.failure.map fun e => .failure g t.fqn e.message).toList

/-- The issues of the verdicts on objects, each registered with its verdict. -/
def Verdict.issuesOfAll (g : Glossary) (registered : List Fqn) :
    List (Target × Verdict) → List Issue
  | [] => []
  | (t, v) :: rest =>
    v.issues g (registered ++ [t.fqn]) t ++ issuesOfAll g (registered ++ [t.fqn]) rest

/-! ## Outcomes that report them -/

/-- An outcome registers some objects and holds the issues reported about them, in order, with
exactly the silenced ones left out. -/
structure Reports (e : Exclusions) (o : Outcome) (registered : List Fqn) (issues : List Issue) :
    Prop where
  registered_of_mem : ∀ i ∈ issues, i.fqn ∈ registered
  get? : ∀ fqn, o.get? fqn =
    if fqn ∈ registered then some (Issue.kept e issues fqn) else none

namespace Reports

variable {e : Exclusions} {o other : Outcome} {registered others : List Fqn}
  {issues more : List Issue}

/-- Nothing is reported at first. -/
theorem empty : Reports e ∅ [] [] := ⟨nofun, fun _ => rfl⟩

/-- Exactly the registered objects are listed. -/
theorem contains_iff (h : Reports e o registered issues) (fqn : Fqn) :
    o.contains fqn ↔ fqn ∈ registered := by
  rw [Outcome.contains_eq, h.get?]
  split <;> simp_all

/-- An object that is not registered has no issues. -/
theorem kept_eq_nil (h : Reports e o registered issues) {fqn : Fqn} (hfqn : fqn ∉ registered) :
    Issue.kept e issues fqn = [] := by
  rw [Issue.kept, List.map_eq_nil_iff, List.filter_eq_nil_iff]
  intro i hi hkept
  have hi := h.registered_of_mem i hi
  simp_all

/-- What is left of issues and more issues is what is left of each. -/
theorem kept_append (fqn : Fqn) : Issue.kept e (issues ++ more) fqn =
    Issue.kept e issues fqn ++ Issue.kept e more fqn := by
  rw [Issue.kept, Issue.kept, Issue.kept, List.filter_append, List.map_append]

/-- One more object is registered. -/
theorem init (h : Reports e o registered issues) (fqn : Fqn) :
    Reports e (o.init fqn) (registered ++ [fqn]) issues := by
  refine ⟨fun i hi => List.mem_append_left _ (h.registered_of_mem i hi), fun f => ?_⟩
  rw [Outcome.get?_init, h.get?]
  by_cases hf : f = fqn
  · subst hf
    rw [if_pos rfl, if_pos (List.mem_append_right _ List.mem_cons_self)]
    split
    · rfl
    · rename_i hmem
      rw [h.kept_eq_nil hmem]
      rfl
  · simp [hf]

/-- An issue that is not silenced is added. -/
theorem push (h : Reports e o registered issues) {i : Issue} (hi : i.fqn ∈ registered)
    (hs : i.silenced e = false) :
    Reports e (o.push i.fqn i.finding) registered (issues ++ [i]) := by
  refine ⟨fun j hj => ?_, fun f => ?_⟩
  · rcases List.mem_append.1 hj with hj | hj
    · exact h.registered_of_mem j hj
    · rwa [List.mem_singleton.1 hj]
  · rw [Outcome.get?_push, h.get?, kept_append]
    by_cases hf : f = i.fqn
    · subst hf
      simp [hi, Issue.kept, hs]
    · simp [hf, Issue.kept, Ne.symm hf]

/-- A silenced issue is left out. -/
theorem skip (h : Reports e o registered issues) {i : Issue} (hi : i.fqn ∈ registered)
    (hs : i.silenced e = true) : Reports e o registered (issues ++ [i]) := by
  refine ⟨fun j hj => ?_, fun f => ?_⟩
  · rcases List.mem_append.1 hj with hj | hj
    · exact h.registered_of_mem j hj
    · rwa [List.mem_singleton.1 hj]
  · rw [h.get?, kept_append]
    simp [Issue.kept, hs]

/-- Merged outcomes report what each of them does, one after the other. -/
theorem merge (h : Reports e o registered issues) (h' : Reports e other others more) :
    Reports e (o.merge other) (registered ++ others) (issues ++ more) := by
  refine ⟨fun i hi => ?_, fun f => ?_⟩
  · rcases List.mem_append.1 hi with hi | hi
    · exact List.mem_append_left _ (h.registered_of_mem i hi)
    · exact List.mem_append_right _ (h'.registered_of_mem i hi)
  · rw [Outcome.get?_merge, h'.get?, h.get?, kept_append]
    by_cases hf : f ∈ registered <;> by_cases hf' : f ∈ others <;>
      simp [hf, hf', h.kept_eq_nil, h'.kept_eq_nil]

end Reports

end ClusterAudit
