import ClusterAudit.Proofs.Suppression.Document
import ClusterAudit.Proofs.Text.Order

/-!
# The first expression at fault

What is wrong with an expression is said by its text (`Expression.Fault`). Suppressions are compiled
part by part, and every part scans a list of texts up to the first that is at fault. Put together
these lists hold every expression of the document (`ExclusionsDraft.mem_texts_iff`), each under the
scope that it stands in and in the order in which they are read, and compiling reports the first
fault of them all (`ExclusionsDraft.compile_eq_error_iff`).
-/

namespace ClusterAudit

/-! ## Texts at fault -/

/-- What is wrong with a text as an expression: nothing stands behind the marker, or no pattern
does. -/
inductive Expression.Fault : String → ExpressionError → Prop
  | empty : Fault patternMarker .emptyPattern
  | invalid {source : String} (hne : source ≠ "") (hinvalid : Pattern.compile? source = none) :
    Fault (patternMarker ++ source) (.invalidPattern source)

namespace Expression

/-- What follows the marker and is no pattern is not read. -/
theorem parse_append {source : String} (hne : source ≠ "")
    (hinvalid : Pattern.compile? source = none) :
    parse (patternMarker ++ source) = .error (.invalidPattern source) := by
  have hdrop := Text.dropStart?_append patternMarker.toList source.toList
  rw [parse, String.toList_append, hdrop]
  split
  · rename_i heq
    cases heq
  · rename_i heq
    exact absurd (String.toList_eq_nil_iff.1 (Option.some.inj heq)) hne
  · rename_i rest _ heq
    obtain rfl := Option.some.inj heq
    rw [String.ofList_toList, hinvalid]

/-- An expression is not read if its text is at fault, and the fault is the error. -/
theorem parse_eq_error_iff {raw : String} {cause : ExpressionError} :
    parse raw = .error cause ↔ Fault raw cause := by
  constructor
  · intro h
    rw [parse] at h
    split at h
    · cases h
    · rename_i hsource
      have hraw : raw = patternMarker := by
        rw [← String.toList_inj, ← Text.append_of_dropStart? hsource, List.append_nil]
      cases h
      exact hraw ▸ .empty
    · rename_i source hne hsource
      split at h
      · cases h
      · rename_i hinvalid
        have hraw : raw = patternMarker ++ String.ofList source := by
          rw [← String.toList_inj, ← Text.append_of_dropStart? hsource, String.toList_append,
            String.toList_ofList]
        cases h
        exact hraw ▸ .invalid (fun h => hne (by simpa using congrArg String.toList h)) hinvalid
  · intro h
    cases h with
    | empty => rfl
    | invalid hne hinvalid => exact parse_append hne hinvalid

end Expression

/-! ## Suppressions as lists of texts -/

/-- The texts of a rule in the order in which they are read. -/
def RuleDraft.texts (r : RuleDraft) : List String :=
  (r.fqns ++ r.containers ++ r.codes ++ r.labels.entries.flatMap (·.2) ++
    r.annotations.entries.flatMap (·.2)).map Written.raw

/-- The texts of the suppressions of a kind, each under its scope, in the order in which they are
read. -/
def KindDraft.texts (k : KindDraft) (kind : String) : List (String × String) :=
  k.codes.map (fun w => ("linters." ++ kind ++ ".codes", w.raw)) ++
    k.instances.zipIdx.flatMap fun (r, i) =>
      r.texts.map ("linters." ++ kind ++ ".instances[" ++ toString i ++ "]", ·)

/-- All texts, each under its scope, in the order in which they are read. -/
def ExclusionsDraft.texts (d : ExclusionsDraft) : List (String × String) :=
  d.global.texts.map ("global", ·) ++ d.kinds.entries.flatMap fun k => k.2.texts k.1

/-- An expression is written in a rule. -/
inductive RuleDraft.Writes (r : RuleDraft) (w : Written) : Prop
  | fqns (h : w ∈ r.fqns)
  | containers (h : w ∈ r.containers)
  | codes (h : w ∈ r.codes)
  | labels {key : String} {ws : List Written} (hget : r.labels.get? key = some ws) (h : w ∈ ws)
  | annotations {key : String} {ws : List Written} (hget : r.annotations.get? key = some ws)
    (h : w ∈ ws)

/-- An expression is written in suppressions, under a scope. -/
inductive ExclusionsDraft.Writes (d : ExclusionsDraft) (w : Written) : String → Prop
  | global (h : d.global.Writes w) : Writes d w "global"
  | codes {kind : String} {k : KindDraft} (hkind : d.kinds.get? kind = some k) (h : w ∈ k.codes) :
    Writes d w ("linters." ++ kind ++ ".codes")
  | instances {kind : String} {k : KindDraft} {i : Nat} {r : RuleDraft}
    (hkind : d.kinds.get? kind = some k) (hr : k.instances[i]? = some r) (h : r.Writes w) :
    Writes d w ("linters." ++ kind ++ ".instances[" ++ toString i ++ "]")

/-- The lists of a dictionary hold what one of its keys is bound to. -/
theorem Dict.mem_flatMap_entries {α : Type} {d : Dict String (List α)} {a : α} :
    a ∈ d.entries.flatMap (·.2) ↔ ∃ key l, d.get? key = some l ∧ a ∈ l := by
  rw [List.mem_flatMap]
  constructor
  · rintro ⟨⟨key, l⟩, he, ha⟩
    exact ⟨key, l, Dict.mem_entries_iff.1 he, ha⟩
  · rintro ⟨key, l, hget, ha⟩
    exact ⟨(key, l), Dict.mem_entries_iff.2 hget, ha⟩

/-- The texts of a rule are those of the expressions in it. -/
theorem RuleDraft.mem_texts_iff {r : RuleDraft} {raw : String} :
    raw ∈ r.texts ↔ ∃ w, r.Writes w ∧ w.raw = raw := by
  rw [texts, List.mem_map]
  refine exists_congr fun w => and_congr_left' ?_
  simp only [List.mem_append, Dict.mem_flatMap_entries]
  constructor
  · rintro ((((h | h) | h) | ⟨key, ws, hget, h⟩) | ⟨key, ws, hget, h⟩)
    exacts [.fqns h, .containers h, .codes h, .labels hget h, .annotations hget h]
  · intro h
    cases h with
    | fqns h => exact .inl (.inl (.inl (.inl h)))
    | containers h => exact .inl (.inl (.inl (.inr h)))
    | codes h => exact .inl (.inl (.inr h))
    | labels hget h => exact .inl (.inr ⟨_, _, hget, h⟩)
    | annotations hget h => exact .inr ⟨_, _, hget, h⟩

/-- All texts are those of the expressions, each under its scope. -/
theorem ExclusionsDraft.mem_texts_iff {d : ExclusionsDraft} {scope raw : String} :
    (scope, raw) ∈ d.texts ↔ ∃ w, d.Writes w scope ∧ w.raw = raw := by
  rw [texts, List.mem_append, List.mem_map, List.mem_flatMap]
  constructor
  · rintro (⟨_, hraw, heq⟩ | ⟨⟨kind, k⟩, he, h⟩)
    · obtain ⟨w, hw, rfl⟩ := RuleDraft.mem_texts_iff.1 hraw
      cases heq
      exact ⟨w, .global hw, rfl⟩
    · have hkind := Dict.mem_entries_iff.1 he
      rw [KindDraft.texts, List.mem_append, List.mem_map, List.mem_flatMap] at h
      rcases h with ⟨w, hw, heq⟩ | ⟨⟨r, i⟩, hr, h⟩
      · cases heq
        exact ⟨w, .codes hkind hw, rfl⟩
      · obtain ⟨_, hraw, heq⟩ := List.mem_map.1 h
        obtain ⟨w, hw, rfl⟩ := RuleDraft.mem_texts_iff.1 hraw
        cases heq
        exact ⟨w, .instances hkind (List.mem_zipIdx_iff_getElem?.1 hr) hw, rfl⟩
  · rintro ⟨w, h, rfl⟩
    cases h with
    | global h => exact .inl ⟨w.raw, RuleDraft.mem_texts_iff.2 ⟨w, h, rfl⟩, rfl⟩
    | @codes kind k hkind h =>
      refine .inr ⟨(kind, k), Dict.mem_entries_iff.2 hkind, ?_⟩
      exact List.mem_append_left _ (List.mem_map_of_mem h)
    | @instances kind k i r hkind hr h =>
      refine .inr ⟨(kind, k), Dict.mem_entries_iff.2 hkind, ?_⟩
      refine List.mem_append_right _ (List.mem_flatMap.2 ⟨(r, i), ?_, ?_⟩)
      · exact List.mem_zipIdx_iff_getElem?.2 hr
      · exact List.mem_map_of_mem (RuleDraft.mem_texts_iff.2 ⟨w, h, rfl⟩)

/-! ## Suppressions are compiled up to the first fault -/

/-- The error of a text as an expression, if it is none. -/
def Expression.error? (raw : String) : Option ExpressionError := ClusterAudit.error? (parse raw)

/-- The error of a text under a scope, if it is no expression. -/
def ConfigError.ofText? (t : String × String) : Option ConfigError :=
  (Expression.error? t.2).map (.invalidRule t.1)

/-- Expressions are read up to the first fault. -/
theorem Expressions.scans_parse (raws : List String) :
    Scans Expression.error? raws (parse raws) := by
  induction raws with
  | nil => exact .ok _ _
  | cons raw rest ih =>
    have hfirst : Scans Expression.error? [raw] (Expression.parse raw) := by
      rw [Scans, List.findSome?_singleton]
      rfl
    exact hfirst.bind fun x => ih.bind_ok _

/-- A rule is built up to the first fault in names, containers, codes, labels and annotations. -/
theorem Rule.scans_build (fqns containers codes : List String)
    (labels annotations : Dict String (List String)) :
    Scans Expression.error?
      (fqns ++ (containers ++ (codes ++
        (labels.entries.flatMap (·.2) ++ annotations.entries.flatMap (·.2)))))
      (build fqns containers codes labels annotations) := by
  refine ((Expressions.scans_parse fqns).bind_ok _).bind fun _ => ?_
  refine ((Expressions.scans_parse containers).bind_ok _).bind fun _ => ?_
  refine ((Expressions.scans_parse codes).bind_ok _).bind fun _ => ?_
  refine Scans.bind (Scans.foldlM (fun _ e => ?_) _) fun _ => Scans.foldlM (fun _ e => ?_) _
  · exact (Expressions.scans_parse e.2).bind_ok _
  · exact (Expressions.scans_parse e.2).bind_ok _

/-- A rule is compiled up to the first of its texts at fault. -/
theorem RuleDraft.scans_compile (r : RuleDraft) : Scans Expression.error? r.texts r.compile := by
  have hpairs : ∀ d : Dict String (List Written),
      (d.map (·.map Written.raw)).entries.flatMap (·.2) =
        (d.entries.flatMap (·.2)).map Written.raw := fun d => by
    rw [Dict.map, Dict.mapWithKey, List.flatMap_map, List.map_flatMap]
  have h := Rule.scans_build (r.fqns.map Written.raw) (r.containers.map Written.raw)
    (r.codes.map Written.raw) (r.labels.map (·.map Written.raw))
    (r.annotations.map (·.map Written.raw))
  simp only [hpairs, ← List.map_append, ← List.append_assoc] at h
  exact h

/-- A scope is added to what is found. -/
theorem Scans.inScope {α : Type} {raws : List String} {x : Except ExpressionError α}
    (h : Scans Expression.error? raws x) (scope : String) :
    Scans ConfigError.ofText? (raws.map (scope, ·)) (ConfigError.inScope scope x) := by
  have herror : error? (ConfigError.inScope scope x) =
      (error? x).map (ConfigError.invalidRule scope) := by
    cases x <;> rfl
  rw [Scans, herror, h, List.findSome?_map, List.map_findSome?]
  rfl

/-- Rules are compiled one after the other, each under its place. -/
theorem RuleDraft.scans_compileEach (scope : String) (i : Nat) (rs : List RuleDraft) :
    Scans ConfigError.ofText?
      ((rs.zipIdx i).flatMap fun (r, i) => r.texts.map (scope ++ "[" ++ toString i ++ "]", ·))
      (compileEach scope i rs) := by
  induction rs generalizing i with
  | nil => exact .ok _ _
  | cons r rest ih =>
    rw [List.zipIdx_cons, List.flatMap_cons]
    exact (r.scans_compile.inScope _).bind fun _ => (ih (i + 1)).bind_ok _

/-- The suppressions of a kind are compiled up to the first of their texts at fault. -/
theorem KindDraft.scans_compile (k : KindDraft) (kind : String) :
    Scans ConfigError.ofText? (k.texts kind) (k.compile kind) := by
  have hcodes := (Expressions.scans_parse (k.codes.map Written.raw)).inScope
    ("linters." ++ kind ++ ".codes")
  have hinstances := RuleDraft.scans_compileEach ("linters." ++ kind ++ ".instances") 0 k.instances
  have hscope : "linters." ++ kind ++ ".instances" ++ "[" = "linters." ++ kind ++ ".instances[" :=
    String.append_assoc
  rw [List.map_map] at hcodes
  rw [hscope] at hinstances
  exact hcodes.bind fun _ => hinstances.bind_ok _

/-- Suppressions are compiled up to the first of their texts at fault. -/
theorem ExclusionsDraft.scans_compile (d : ExclusionsDraft) :
    Scans ConfigError.ofText? d.texts d.compile := by
  refine (d.global.scans_compile.inScope "global").bind fun _ => ?_
  refine (Scans.foldlM (fun _ k => ?_) _).bind_ok _
  exact (k.2.scans_compile k.1).bind_ok _

/-! ## What is reported -/

/-- A text has an error under a scope if it is at fault. -/
theorem ConfigError.ofText?_eq_some_iff {t : String × String} {e : ConfigError} :
    ofText? t = some e ↔ ∃ cause, Expression.Fault t.2 cause ∧ e = .invalidRule t.1 cause := by
  rw [ofText?, Option.map_eq_some_iff]
  refine exists_congr fun cause => ?_
  rw [Expression.error?, error?_eq_some_iff, Expression.parse_eq_error_iff, eq_comm (a := e)]

/-- A text has no error if it is not at fault. -/
theorem ConfigError.ofText?_eq_none_iff {t : String × String} :
    ofText? t = none ↔ ∀ cause, ¬ Expression.Fault t.2 cause := by
  rw [Option.eq_none_iff_forall_ne_some]
  constructor
  · intro h cause hcause
    exact h _ (ofText?_eq_some_iff.2 ⟨cause, hcause, rfl⟩)
  · intro h e he
    obtain ⟨cause, hcause, -⟩ := ofText?_eq_some_iff.1 he
    exact h cause hcause

namespace ExclusionsDraft

/-- All rules as they are written. -/
def rules (d : ExclusionsDraft) : List RuleDraft :=
  d.global :: d.kinds.entries.flatMap fun k => k.2.instances

/-- Suppressions do not compile if some expression in them is at fault, wherever it is written. The
error then has the scope and the cause of the first such expression in the order in which they are
read, which takes kinds and the keys of labels and annotations by their octets. -/
theorem compile_eq_error_iff (d : ExclusionsDraft) :
    ((∃ e, d.compile = .error e) ↔
      ∃ scope w cause, d.Writes w scope ∧ Expression.Fault w.raw cause) ∧
    (∀ e, d.compile = .error e ↔ ∃ before scope raw after cause,
      d.texts = before ++ (scope, raw) :: after ∧ Expression.Fault raw cause ∧
      e = .invalidRule scope cause ∧ ∀ t ∈ before, ∀ c, ¬ Expression.Fault t.2 c) ∧
    (∀ scope raw, (scope, raw) ∈ d.texts ↔ ∃ w, d.Writes w scope ∧ w.raw = raw) ∧
    (d.kinds.keys.Pairwise fun a b => Text.octets a < Text.octets b) ∧
    ∀ r ∈ d.rules, (r.labels.keys.Pairwise fun a b => Text.octets a < Text.octets b) ∧
      r.annotations.keys.Pairwise fun a b => Text.octets a < Text.octets b := by
  have hkeys : ∀ {β : Type} (d : Dict String β),
      d.keys.Pairwise fun a b => Text.octets a < Text.octets b := fun d =>
    d.ascending_keys.imp fun h => (Text.compare_eq_lt_iff _ _).1 h
  refine ⟨?_, fun e => ?_, fun scope raw => mem_texts_iff, hkeys _, fun r _ => ⟨hkeys _, hkeys _⟩⟩
  · simp only [d.scans_compile.exists_eq_error_iff, ConfigError.ofText?_eq_some_iff]
    constructor
    · rintro ⟨⟨scope, raw⟩, ht, e, cause, hcause, -⟩
      obtain ⟨w, hw, rfl⟩ := mem_texts_iff.1 ht
      exact ⟨scope, w, cause, hw, hcause⟩
    · rintro ⟨scope, w, cause, hw, hcause⟩
      exact ⟨(scope, w.raw), mem_texts_iff.2 ⟨w, hw, rfl⟩, _, cause, hcause, rfl⟩
  · rw [d.scans_compile.eq_error_iff]
    simp only [ConfigError.ofText?_eq_some_iff, ConfigError.ofText?_eq_none_iff]
    constructor
    · rintro ⟨before, ⟨scope, raw⟩, after, htexts, ⟨cause, hcause, rfl⟩, hbefore⟩
      exact ⟨before, scope, raw, after, cause, htexts, hcause, rfl, hbefore⟩
    · rintro ⟨before, scope, raw, after, cause, htexts, hcause, rfl, hbefore⟩
      exact ⟨before, (scope, raw), after, htexts, ⟨cause, hcause, rfl⟩, hbefore⟩

/-- A number for all kinds. For pods a number and two rules, of which the second has an empty
pattern for one label and no pattern for another label and an annotation. For services an empty
pattern. -/
def faulty : ExclusionsDraft :=
  ⟨{ RuleDraft.empty with codes := [.number 102] },
    .ofList [("services", ⟨[.text "rx:"], []⟩), ("pods", ⟨[.number 300],
      [.empty, { RuleDraft.empty with
        labels := .ofList [("tier", [.text "rx:("]), ("app", [.text "web", .text "rx:"])],
        annotations := .ofList [("app", [.text "rx:)"])] }]⟩)]⟩

/-- The empty pattern for the label is reported, which is read before the others at fault. -/
theorem compile_eq_error_faulty :
    faulty.compile = .error (.invalidRule "linters.pods.instances[1]" .emptyPattern) ∧
    faulty.texts.map (·.2) = ["102", "300", "web", "rx:", "rx:(", "rx:)", "rx:"] := by
  refine ⟨((compile_eq_error_iff faulty).2.1 _).2 ⟨faulty.texts.take 3, "linters.pods.instances[1]",
    "rx:", faulty.texts.drop 4, .emptyPattern, by decide, .empty, rfl, ?_⟩, by decide⟩
  have hread : ∀ t ∈ faulty.texts.take 3, Expression.error? t.2 = none := by decide
  intro t ht c hc
  have hnone := hread t ht
  rw [Expression.error?, Expression.parse_eq_error_iff.2 hc] at hnone
  cases hnone

end ExclusionsDraft

end ClusterAudit
