import ClusterAudit.Proofs.Missing

/-!
# Pods, point by point

The check of pods goes through a list of points on each pod (`PodCheck.points`). A point is what may
be said under a code of the pod or one of its containers, and holds or not; whether a request
exceeds its limit cannot be told if one of the two cannot be read. Findings raise the points
(`Finding.Raise`): there is one for each point that holds, in order, up to the first that cannot be
told, and that one ends them as a failure. Points of one sort exclude each other
(`PodCheck.Exclusive`).

`Schedule.raises_points` says that the findings of every stored pod raise its points.
-/

namespace ClusterAudit

/-! ## Points -/

/-- Something that may be said of an object. -/
structure Point where
  /-- The part of the object that is meant; nothing for the object as a whole. -/
  group : Option String
  code : Code
  args : List String
  /-- Whether it is to be said, or why that cannot be told. -/
  holds : Except AuditError Bool

namespace Point

/-- A point on an object as a whole. -/
def whole (code : Code) (args : List String) (holds : Bool) : Point := ⟨none, code, args, .ok holds⟩

/-- A point on a part of an object. -/
def part (group : String) (code : Code) (holds : Bool) : Point := ⟨some group, code, [], .ok holds⟩

/-- The codes of the points that hold. -/
def codes (points : List Point) : List Code :=
  (points.filter fun q => q.holds.toOption == some true).map (·.code)

theorem codes_append (points more : List Point) :
    codes (points ++ more) = codes points ++ codes more := by
  rw [codes, List.filter_append, List.map_append]
  rfl

theorem codes_whole (code : Code) (args : List String) (holds : Bool) (rest : List Point) :
    codes (whole code args holds :: rest) = (if holds then [code] else []) ++ codes rest := by
  cases holds <;> rfl

theorem codes_part (group : String) (code : Code) (holds : Bool) (rest : List Point) :
    codes (part group code holds :: rest) = (if holds then [code] else []) ++ codes rest := by
  cases holds <;> rfl

theorem codes_nil : codes [] = [] := rfl

end Point

namespace Finding

/-- A failure inside a check, as a glossary words it. -/
structure IsFailure (g : Glossary) (e : AuditError) (f : Finding) : Prop where
  group_eq : f.group = rootGroup
  code_eq : f.code = some Glossary.internalError
  severity_eq : f.severity = .error
  message_eq : g.render Glossary.internalError [e.message] = some f.message

/-- Findings raise points in order: there is one for every point that holds and none for those that
do not, up to the first that cannot be told, which ends them as a failure. -/
inductive Raise (g : Glossary) : List Point → List Finding → Prop
  | nil : Raise g [] []
  | pass {q : Point} {points : List Point} {fs : List Finding} (h : q.holds = .ok false)
    (hrest : Raise g points fs) : Raise g (q :: points) fs
  | find {q : Point} {points : List Point} {f : Finding} {fs : List Finding}
    (h : q.holds = .ok true) (hf : f.Of g (q.group.getD rootGroup) q.code q.args)
    (hrest : Raise g points fs) : Raise g (q :: points) (f :: fs)
  | fail {q : Point} {points : List Point} {e : AuditError} {f : Finding}
    (h : q.holds = .error e) (hf : f.IsFailure g e) : Raise g (q :: points) [f]

end Finding

/-! ## The points on a pod -/

namespace PodCheck

/-- The pod carries no labels. -/
def labelPoint (p : Pod) : Point := .whole 200 [] p.metadata.labels.isEmpty

/-- An owner is missing. -/
def ownerPoint (s : Snapshot) (p : Pod) (o : OwnerReference) : Point :=
  .whole 208 [o.kind, (Fqn.join p.metadata.space o.name).text]
    ((Reference.owner p.metadata.space o).missing s)

/-- The account is the default one; it is another one and missing. -/
def accountPoints (s : Snapshot) (p : Pod) : List Point :=
  let account := Fqn.join p.metadata.space p.serviceAccountName
  let isDefault : Bool := p.serviceAccountName ∈ ["", defaultAccount]
  [.whole 300 [] isDefault,
   .whole 1300 [account.text] (!isDefault && (Reference.account account).missing s)]

/-- The image has neither tag nor digest; it has the moving tag and no digest. -/
def imagePoints (c : Container) : List Point :=
  let tag := Image.tag? c.image
  let digest := Image.isPinned c.image
  [.part c.name 100 (tag = none && !digest), .part c.name 101 (tag = some "latest" && !digest)]

/-- Both probes are absent; the first alone is; the second alone is. -/
def probePoints (c : Container) : List Point :=
  let liveness := c.livenessProbe.isSome
  let readiness := c.readinessProbe.isSome
  [.part c.name 102 (!liveness && !readiness), .part c.name 103 (!liveness && readiness),
   .part c.name 104 (liveness && !readiness)]

/-- Whether a quantity exceeds another, where both can be read. -/
def exceeds (read : String → Except QuantityError Nat) (request limit : String) :
    Except QuantityError Bool := do
  let requested ← read request
  let limited ← read limit
  .ok (limited < requested)

/-- The request for a resource exceeds its limit, where both are given. -/
def ratioPoint? (fqn : Fqn) (c : Container) (resource : String)
    (read : String → Except QuantityError Nat) (code : Code) : Option Point := do
  let request ← c.resources.requests.get? resource
  let limit ← c.resources.limits.get? resource
  some ⟨some c.name, code, [request, limit], (exceeds read request limit).mapError fun e =>
    .unexpectedShape fqn.text ("container " ++ c.name ++ ": " ++ resource ++ " " ++ e.message)⟩

/-- There are neither requests nor limits; there are requests alone; a request for CPU exceeds its
limit; one for memory does. -/
def resourcePoints (fqn : Fqn) (c : Container) : List Point :=
  let requests := c.resources.requests
  let limits := c.resources.limits
  [.part c.name 106 (requests.isEmpty && limits.isEmpty),
   .part c.name 107 (!requests.isEmpty && limits.isEmpty)] ++
    (ratioPoint? fqn c "cpu" Quantity.cpuMillis 109).toList ++
    (ratioPoint? fqn c "memory" Quantity.memoryBytes 110).toList

/-- The points on a container; those on probes if it keeps running. -/
def containerPoints (fqn : Fqn) (keepsRunning : Bool) (c : Container) : List Point :=
  imagePoints c ++ (if keepsRunning then probePoints c else []) ++ resourcePoints fqn c

/-- The points on a pod: on its labels, its owners, its account, the containers that run before the
others, and those that keep running. -/
def points (s : Snapshot) (p : Pod) : List Point :=
  [labelPoint p] ++ p.metadata.owners.map (ownerPoint s p) ++ accountPoints s p ++
    p.initContainers.flatMap (containerPoints p.metadata.fqn false) ++
    p.containers.flatMap (containerPoints p.metadata.fqn true)

end PodCheck

/-! ## Verdicts on points -/

/-- What is said on a point. -/
def Point.verdict (t : Target) (q : Point) : Verdict :=
  .onResult q.holds fun holds => if holds then ⟨[⟨t, q.code, q.group, q.args⟩], none⟩ else .clean

theorem Point.verdict_whole (t : Target) (code : Code) (args : List String) (holds : Bool) :
    (whole code args holds).verdict t = if holds then .note t code args else .clean := rfl

theorem Point.verdict_part (t : Target) (group : String) (code : Code) (holds : Bool) :
    (part group code holds).verdict t = if holds then .noteIn t group code [] else .clean := rfl

namespace Verdict

/-- What is said on points one after the other. -/
def ofPoints (t : Target) (points : List Point) : Verdict := concat (points.map (·.verdict t))

section points
variable {t : Target}

theorem ofPoints_cons (q : Point) (points : List Point) :
    ofPoints t (q :: points) = q.verdict t ++ ofPoints t points := rfl

theorem ofPoints_singleton (q : Point) : ofPoints t [q] = q.verdict t := append_clean _

theorem ofPoints_append (points more : List Point) :
    ofPoints t (points ++ more) = ofPoints t points ++ ofPoints t more := by
  rw [ofPoints, List.map_append, concat_append]
  rfl

/-- What is said on the points of several things is said of one thing after the other. -/
theorem ofPoints_flatMap {α : Type} (l : List α) (f : α → List Point) :
    ofPoints t (l.flatMap f) = concat (l.map fun x => ofPoints t (f x)) := by
  induction l with
  | nil => rfl
  | cons x rest ih =>
    rw [List.flatMap_cons, ofPoints_append, ih]
    rfl

end points

end Verdict

namespace PodCheck

open Verdict

variable (t : Target) (c : Container)

theorem onImage_eq : onImage t c = ofPoints t (imagePoints c) := by
  rw [onImage, imagePoints, ofPoints_cons, ofPoints_singleton, Point.verdict_part,
    Point.verdict_part]
  cases Image.isPinned c.image with
  | true => simp
  | false =>
    cases Image.tag? c.image with
    | none => simp
    | some tag =>
      by_cases hlatest : tag = "latest"
      · simp [hlatest]
      · simp [hlatest]

theorem onProbes_eq : onProbes t c = ofPoints t (probePoints c) := by
  rw [onProbes, probePoints, ofPoints_cons, ofPoints_cons, ofPoints_singleton, Point.verdict_part,
    Point.verdict_part, Point.verdict_part]
  cases c.livenessProbe <;> cases c.readinessProbe <;> simp

/-- What is said of two quantities is said on the point that the one exceeds the other. -/
theorem onRatio_eq {fqn : Fqn} (ht : t.fqn = fqn) (resource : String)
    (read : String → Except QuantityError Nat) (code : Code) :
    onRatio t c resource read code =
      ofPoints t (ratioPoint? fqn c resource read code).toList := by
  subst ht
  rw [onRatio, ratioPoint?]
  cases c.resources.requests.get? resource with
  | none => rfl
  | some request =>
    cases c.resources.limits.get? resource with
    | none => rfl
    | some limit =>
      simp only [Option.bind_eq_bind, Option.bind_some, Option.toList_some, ofPoints_singleton,
        Point.verdict, quantity, exceeds]
      cases read request with
      | error e => rfl
      | ok requested =>
        cases read limit with
        | error e => rfl
        | ok limited =>
          simp [onResult, Except.mapError, bind, Except.bind, noteIn]

/-- Without limits there is nothing to compare. -/
theorem ratioPoint?_of_limits {c : Container} (h : c.resources.limits.isEmpty) (fqn : Fqn)
    (resource : String) (read : String → Except QuantityError Nat) (code : Code) :
    ratioPoint? fqn c resource read code = none := by
  rw [ratioPoint?, Dict.isEmpty_iff.1 h resource]
  cases c.resources.requests.get? resource <;> rfl

theorem onResources_eq {fqn : Fqn} (ht : t.fqn = fqn) :
    onResources t c = ofPoints t (resourcePoints fqn c) := by
  rw [onResources, resourcePoints, ofPoints_append, ofPoints_append, onRatio_eq t c ht,
    onRatio_eq t c ht, ofPoints_cons, ofPoints_singleton, Point.verdict_part, Point.verdict_part]
  cases hlimits : c.resources.limits.isEmpty with
  | true =>
    rw [ratioPoint?_of_limits hlimits, ratioPoint?_of_limits hlimits]
    cases c.resources.requests.isEmpty <;> rfl
  | false => simp

theorem onContainer_eq {fqn : Fqn} (ht : t.fqn = fqn) :
    onContainer t c = ofPoints t (containerPoints fqn true c) := by
  rw [onContainer, containerPoints, ofPoints_append, ofPoints_append, onImage_eq, onProbes_eq,
    onResources_eq t c ht]
  rfl

theorem onInitContainer_eq {fqn : Fqn} (ht : t.fqn = fqn) :
    onInitContainer t c = ofPoints t (containerPoints fqn false c) := by
  rw [onInitContainer, containerPoints, ofPoints_append, ofPoints_append, onImage_eq,
    onResources_eq t c ht, append_assoc]
  rfl

section tables
variable {s : Snapshot} (h : s.HasTables) (p : Pod)
include h

theorem onOwner_eq (o : OwnerReference) : onOwner s t p o = (ownerPoint s p o).verdict t := by
  obtain ⟨lookup, hlookup⟩ := h.resolveOwner p.metadata.space o
  rw [ownerPoint, Point.verdict_whole, Reference.missing, onOwner, hlookup]
  cases lookup <;> rfl

theorem onAccount_eq {loaded : Bool} (hloaded : s.isLoaded .serviceAccounts = .ok loaded) :
    onAccount s loaded t p = ofPoints t (accountPoints s p) := by
  obtain ⟨stored, hstored⟩ := h.get? (by decide : Kind.serviceAccounts ∈ Kind.builtin)
    (.join p.metadata.space p.serviceAccountName)
  have hmissing : (Reference.account (.join p.metadata.space p.serviceAccountName)).missing s =
      (loaded && stored.isNone) := by
    rw [Reference.missing, hloaded, hstored]
    cases loaded <;> cases stored <;> rfl
  rw [accountPoints, ofPoints_cons, ofPoints_singleton, Point.verdict_whole, Point.verdict_whole,
    hmissing]
  unfold onAccount
  extract_lets name account
  by_cases hdefault : p.serviceAccountName ∈ ["", defaultAccount]
  · have hname : name = defaultAccount := by
      rcases List.mem_pair.1 hdefault with h | h <;> simp [name, h]
    rw [if_pos hname, decide_eq_true hdefault]
    rfl
  · obtain ⟨hempty, hother⟩ := not_or.1 (mt List.mem_pair.2 hdefault)
    have hname : name = p.serviceAccountName := if_neg (by simpa using hempty)
    have haccount : account = .join p.metadata.space p.serviceAccountName :=
      congrArg (Fqn.join p.metadata.space) hname
    rw [if_neg (hname ▸ hother), haccount, hstored, decide_eq_false hdefault]
    cases loaded <;> cases stored <;> rfl

/-- The verdict on a pod is what is said on its points. -/
theorem verdict_eq {loaded : Bool} (hloaded : s.isLoaded .serviceAccounts = .ok loaded) :
    verdict s loaded (target p) p = ofPoints (target p) (points s p) := by
  have hlabels : onLabels (target p) p = ofPoints (target p) [labelPoint p] := by
    rw [ofPoints_singleton]
    rfl
  have howners : concat (p.metadata.owners.map (onOwner s (target p) p)) =
      ofPoints (target p) (p.metadata.owners.map (ownerPoint s p)) := by
    rw [ofPoints, List.map_map]
    exact congrArg concat (List.map_congr_left fun o _ => onOwner_eq (target p) h p o)
  rw [verdict, points, ofPoints_append, ofPoints_append, ofPoints_append, ofPoints_append, hlabels,
    howners, onAccount_eq (target p) h p hloaded, ofPoints_flatMap, ofPoints_flatMap]
  refine congrArg₂ (· ++ ·) (congrArg _ (congrArg concat ?_)) (congrArg concat ?_)
  · exact List.map_congr_left fun c _ => onInitContainer_eq (target p) c rfl
  · exact List.map_congr_left fun c _ => onContainer_eq (target p) c rfl

end tables

/-- Points of one sort exclude each other, and those on a container are about that container. -/
structure Exclusive (s : Snapshot) (p : Pod) : Prop where
  account : Point.codes (accountPoints s p) ∈ [[], [300], [1300]]
  image : ∀ c, Point.codes (imagePoints c) ∈ [[], [100], [101]]
  probes : ∀ c, Point.codes (probePoints c) ∈ [[], [102], [103], [104]]
  resources : ∀ c, Point.codes (resourcePoints p.metadata.fqn c) ∈
    [[], [106], [107], [109], [110], [109, 110]]
  group : ∀ keepsRunning c, ∀ q ∈ containerPoints p.metadata.fqn keepsRunning c,
    q.group = some c.name

/-- A comparison is about the container. -/
theorem group_ratioPoint {fqn : Fqn} {c : Container} {resource : String}
    {read : String → Except QuantityError Nat} {code : Code} {q : Point}
    (h : q ∈ (ratioPoint? fqn c resource read code).toList) : q.group = some c.name := by
  rw [Option.mem_toList, ratioPoint?, Option.bind_eq_bind, Option.bind_eq_some_iff] at h
  obtain ⟨request, -, h⟩ := h
  obtain ⟨limit, -, h⟩ := Option.bind_eq_some_iff.1 h
  cases h
  rfl

/-- A comparison adds its code or nothing. -/
theorem codes_ratioPoint (fqn : Fqn) (c : Container) (resource : String)
    (read : String → Except QuantityError Nat) (code : Code) :
    Point.codes (ratioPoint? fqn c resource read code).toList ∈ [[], [code]] := by
  rw [ratioPoint?]
  cases c.resources.requests.get? resource with
  | none => simp [Point.codes]
  | some request =>
    cases c.resources.limits.get? resource with
    | none => simp [Point.codes]
    | some limit =>
      cases hexceeds : exceeds read request limit with
      | error e => simp [Point.codes, hexceeds, Except.mapError, Except.toOption]
      | ok b => cases b <;> simp [Point.codes, hexceeds, Except.mapError, Except.toOption]

theorem codes_resourcePoints (fqn : Fqn) (c : Container) :
    Point.codes (resourcePoints fqn c) ∈ [[], [106], [107], [109], [110], [109, 110]] := by
  rw [resourcePoints, Point.codes_append, Point.codes_append, Point.codes_part, Point.codes_part]
  cases hlimits : c.resources.limits.isEmpty with
  | true =>
    rw [ratioPoint?_of_limits hlimits, ratioPoint?_of_limits hlimits]
    cases c.resources.requests.isEmpty <;> decide
  | false =>
    have hcpu := codes_ratioPoint fqn c "cpu" Quantity.cpuMillis 109
    have hmemory := codes_ratioPoint fqn c "memory" Quantity.memoryBytes 110
    rw [List.mem_pair] at hcpu hmemory
    rcases hcpu with hcpu | hcpu <;> rcases hmemory with hmemory | hmemory <;>
      simp [hcpu, hmemory, Point.codes_nil]

theorem exclusive (s : Snapshot) (p : Pod) : Exclusive s p where
  account := by
    rw [accountPoints, Point.codes_whole, Point.codes_whole, Point.codes_nil]
    generalize (Reference.account _).missing s = missing
    cases decide (p.serviceAccountName ∈ ["", defaultAccount]) <;> cases missing <;> decide
  image c := by
    rw [imagePoints, Point.codes_part, Point.codes_part, Point.codes_nil]
    cases Image.isPinned c.image with
    | true => simp
    | false =>
      cases Image.tag? c.image with
      | none => decide
      | some tag => by_cases hlatest : tag = "latest" <;> simp [hlatest]
  probes c := by
    rw [probePoints, Point.codes_part, Point.codes_part, Point.codes_part, Point.codes_nil]
    cases c.livenessProbe.isSome <;> cases c.readinessProbe.isSome <;> decide
  resources c := codes_resourcePoints p.metadata.fqn c
  group keepsRunning c q hq := by
    rw [containerPoints, List.mem_append, List.mem_append] at hq
    rcases hq with (hq | hq) | hq
    · simp only [imagePoints, List.mem_pair] at hq
      rcases hq with rfl | rfl <;> rfl
    · split at hq
      · simp only [probePoints, List.mem_cons, List.not_mem_nil, or_false] at hq
        rcases hq with rfl | rfl | rfl <;> rfl
      · cases hq
    · simp only [resourcePoints, List.mem_append, List.mem_pair] at hq
      rcases hq with ((rfl | rfl) | hq) | hq
      · rfl
      · rfl
      · exact group_ratioPoint hq
      · exact group_ratioPoint hq

end PodCheck

/-! ## Findings on points -/

/-- The finding that is recorded for a failure words it. -/
theorem Finding.isFailure_failure {g : Glossary}
    (hg : (g.severity? Glossary.internalError).isSome) (fqn : Fqn) (e : AuditError) :
    (Issue.failure g fqn e.message).finding.IsFailure g e := by
  obtain ⟨message, hmessage⟩ := g.exists_render hg [e.message]
  refine ⟨rfl, rfl, rfl, ?_⟩
  show _ = some ((g.render _ _).getD _)
  rw [hmessage]
  rfl

/-- Findings that tell the remarks on points, and then the failure, raise the points. -/
theorem Finding.raise_of_told {g : Glossary} (hg : (g.severity? Glossary.internalError).isSome)
    {t : Target} {fqn : Fqn} {points : List Point} {told : List Finding}
    (h : List.Forall₂ (Remark.Told g) (Verdict.ofPoints t points).remarks told) :
    Raise g points (told ++ ((Verdict.ofPoints t points).failure.map
      fun e => (Issue.failure g fqn e.message).finding).toList) := by
  induction points generalizing told with
  | nil =>
    obtain rfl := List.forall₂_nil_left_iff.1 h
    exact .nil
  | cons q rest ih =>
    rw [Verdict.ofPoints_cons, Point.verdict] at h ⊢
    cases hq : q.holds with
    | error e =>
      rw [hq] at h
      obtain rfl := List.forall₂_nil_left_iff.1 h
      exact .fail hq (isFailure_failure hg fqn e)
    | ok holds =>
      rw [hq] at h
      cases holds with
      | false => exact .pass hq (ih h)
      | true =>
        obtain ⟨f, told, hf, hrest, rfl⟩ := List.forall₂_cons_left_iff.1 h
        exact .find hq hf (ih hrest)

namespace Schedule

/-- After every schedule on the builtin registry, in the published snapshot and in every one that
was opened for reading: under a glossary that has all builtin codes, and where nothing is
suppressed, the findings that the check of pods has of a stored pod raise the points on it in order,
up to the first that cannot be told. -/
theorem raises_points (schedule : Schedule) {g : Glossary} (hg : g.CoversBuiltin) {s : Snapshot}
    (hs : s ∈ (reach .builtin schedule).store.published :: (reach .builtin schedule).readers) :
    ∃ o, (Check.pods.look s).map (Check.collect .pods g .none) = .ok o ∧
      ∀ p, s.get? .pods p.metadata.fqn = .ok (some (.pod p)) →
        ∃ fs, o.get? p.metadata.fqn = some fs ∧ Finding.Raise g (PodCheck.points s p) fs ∧
          PodCheck.Exclusive s p := by
  have hreplay := (follows_run .builtin schedule).eq_replay hs
  have htables : s.HasTables := hreplay ▸ Snapshot.hasTables_replay _
  obtain ⟨loaded, hloaded⟩ := htables.isLoaded (by decide : Kind.serviceAccounts ∈ Kind.builtin)
  obtain ⟨l, hl, htold⟩ := Check.exists_told_onRecords hreplay
    (by decide : Registry.builtin.contains .pods) hg (fun _ _ => Resource.fqn_of_asPod)
    (fun p => (PodCheck.says_verdict s loaded (PodCheck.target p) p).mono (by decide))
  refine ⟨Check.collect .pods g .none l, ?_, fun p hp => ?_⟩
  · rw [Check.look_pods, hloaded]
    exact congrArg (Except.map _) hl
  · obtain ⟨told, htold, hget⟩ := htold (.pod p) p rfl hp
    rw [PodCheck.verdict_eq htables p hloaded] at htold hget
    exact ⟨_, hget, Finding.raise_of_told (hg _ (by decide)) htold, PodCheck.exclusive s p⟩

/-- A pod without labels and account. A container that runs first asks for more CPU than it may use;
of two others the first has a limit on memory that cannot be read. -/
def untidyPod : Pod :=
  { Pod.ofMeta (.named "a" "x") with
    initContainers := [((Container.named "first" "i:latest").withRequest "cpu" "2").withLimit
      "cpu" "1"]
    containers := [(((Container.named "app" "i").withProbes.withRequest "memory" "1").withLimit
      "memory" "one"), .named "side" "i"] }

/-- A client loads the pod. -/
def loadsUntidy : Schedule := [(0, .load .pods [.pod untidyPod]), (0, .proceed), (0, .proceed)]

/-- What is wrong with the pod is found up to the limit that cannot be read, and nothing after. -/
theorem raises_points_untidyPod :
    let s := (reach .builtin loadsUntidy).store.published
    Glossary.builtin.CoversBuiltin ∧ s.get? .pods ⟨"a/x"⟩ = .ok (some (.pod untidyPod)) ∧
    ∃ o fs, (Check.pods.look s).map (Check.collect .pods .builtin .none) = .ok o ∧
      o.get? ⟨"a/x"⟩ = some fs ∧ Finding.Raise .builtin (PodCheck.points s untidyPod) fs ∧
      PodCheck.Exclusive s untidyPod ∧
      fs.map (·.code) = [200, 300, 101, 109, 100, 666].map some := by
  intro s
  have hglossary := Glossary.coversBuiltin_builtin
  have hpod : s.get? .pods ⟨"a/x"⟩ = .ok (some (.pod untidyPod)) := by decide
  obtain ⟨o, ho, hraises⟩ := raises_points loadsUntidy hglossary List.mem_cons_self
  obtain ⟨fs, hfs, hraise, hexclusive⟩ := hraises untidyPod hpod
  have hcodes : (((Check.pods.look s).map (Check.collect .pods .builtin .none)).toOption.bind
      fun o => (o.get? ⟨"a/x"⟩).map fun fs => fs.map (·.code)) =
      some ([200, 300, 101, 109, 100, 666].map some) := by decide +kernel
  rw [ho] at hcodes
  have hfs' : o.get? ⟨"a/x"⟩ = some fs := hfs
  simp only [Except.toOption, Option.bind_some, hfs', Option.map_some, Option.some.injEq] at hcodes
  exact ⟨hglossary, hpod, o, fs, ho, hfs, hraise, hexclusive, hcodes⟩

end Schedule

end ClusterAudit
