import ClusterAudit.Config.Effect
import ClusterAudit.Finding.Codec
import ClusterAudit.Proofs.Result
import ClusterAudit.Proofs.RoundTrip.Config
import ClusterAudit.Proofs.Text.Numeral
import Mathlib.Data.List.Forall2

/-!
# Suppressions as documents

Compiled suppressions keep what was written: an expression has its text (`Expression.raw_of_parse`)
and rules have their document (`Exclusions.draft`), with digits in place of a number. A document and
the same with its numbers spelled out compile alike (`ExclusionsDraft.compile_spelled`), and the
document of compiled rules is the one that they are compiled from, spelled out
(`ExclusionsDraft.draft_of_compile`). So rules that are written and read back compile to themselves.
-/

namespace ClusterAudit

/-! ## Expressions -/

/-- A pattern keeps its text. -/
theorem Pattern.source_of_compile? {source : String} {p : Pattern} (h : compile? source = some p) :
    p.source = source := by
  rw [compile?] at h
  split at h
  · cases h
    rfl
  · cases h

namespace Expression

/-- An expression keeps the text that it is parsed from. -/
theorem raw_of_parse {raw : String} {x : Expression} (h : parse raw = .ok x) : x.raw = raw := by
  rw [parse] at h
  split at h
  · cases h
    rfl
  · cases h
  · rename_i source hsource
    split at h
    · rename_i p hp
      cases h
      rw [Expression.raw, Pattern.source_of_compile? hp, ← String.toList_inj, String.toList_append,
        String.toList_ofList, Text.append_of_dropStart? hsource]
    · cases h

/-- The digits of a number do not start with the marker of a pattern. -/
theorem eq_literal_of_raw {x : Expression} {n : Nat} (h : x.raw = toString n) :
    x = .literal (toString n) := by
  cases x with
  | literal text => exact congrArg literal h
  | pattern p =>
    have hmarker : 'r' ∈ (toString n).toList := by
      rw [← h, raw, String.toList_append]
      exact List.mem_append_left _ List.mem_cons_self
    exact absurd (Text.isDigit_of_mem_toString hmarker) (by decide)

/-- The digits of a number match the digits of the code that is the number, and of no other. -/
theorem isMatch_text_iff {x : Expression} {n : Nat} (h : x.raw = toString n) (code : Code) :
    x.isMatch code.text ↔ code.number.toNat = n := by
  rw [eq_literal_of_raw h, isMatch, beq_iff_eq, Code.text, Text.toString_inj, eq_comm]

end Expression

/-- Expressions keep the texts that they are parsed from. -/
theorem Expressions.map_raw_of_parse {raws : List String} {es : Expressions}
    (h : parse raws = .ok es) : es.map (·.raw) = raws := by
  induction raws generalizing es with
  | nil =>
    cases h
    rfl
  | cons raw rest ih =>
    obtain ⟨x, hx, h⟩ := bind_eq_ok_iff.1 h
    obtain ⟨xs, hxs, h⟩ := bind_eq_ok_iff.1 h
    cases h
    rw [List.map_cons, Expression.raw_of_parse hx, ih hxs]

/-! ## Documents of compiled suppressions -/

/-- The expressions as they are written. -/
def Expressions.draft (es : Expressions) : List Written := es.map fun x => .text x.raw

/-- The rule as it is written. -/
def Rule.draft (r : Rule) : RuleDraft :=
  ⟨r.fqns.draft, r.labels.map Expressions.draft, r.annotations.map Expressions.draft,
    r.containers.draft, r.codes.draft⟩

/-- The rules of a kind as they are written. -/
def KindRules.draft (k : KindRules) : KindDraft := ⟨k.codes.draft, k.instances.map Rule.draft⟩

/-- All suppressions as they are written. -/
def Exclusions.draft (e : Exclusions) : ExclusionsDraft :=
  ⟨e.global.draft, ⟨e.kinds.entries.map fun k => (k.1.text, k.2.draft),
    List.Pairwise.map _ (fun _ _ h => h) e.kinds.ascending⟩⟩

/-- Changed values are written as the values are written that they are changed from. -/
theorem Json.ofDict_map {α β : Type} (encode : β → Json) (f : α → β) (d : Dict String α) :
    ofDict encode (d.map f) = ofDict (fun a => encode (f a)) d := by
  rw [ofDict, ofDict, Dict.map, Dict.mapWithKey, List.map_map]
  rfl

/-- Expressions are written as their texts. -/
theorem Expressions.toJson_draft (es : Expressions) :
    Json.ofList Json.ofWritten es.draft = es.toJson := by
  rw [draft, toJson, Json.ofList, Json.ofList, List.map_map]
  rfl

/-- A rule is written as its document. -/
theorem Rule.toJson_draft (r : Rule) : r.draft.toJson = r.toJson := by
  rw [draft, RuleDraft.toJson, toJson]
  simp only [Json.ofDict_map, Expressions.toJson_draft]

/-- The rules of a kind are written as their document. -/
theorem KindRules.toJson_draft (k : KindRules) : k.draft.toJson = k.toJson := by
  rw [draft, KindDraft.toJson, toJson, Expressions.toJson_draft]
  simp only [Json.ofList, List.map_map, Function.comp_def, Rule.toJson_draft]

/-- Suppressions are written as their document. -/
theorem Exclusions.toJson_draft (e : Exclusions) : e.draft.toJson = e.toJson := by
  rw [draft, ExclusionsDraft.toJson, toJson]
  simp only [Json.ofDict, List.map_map, Function.comp_def, Rule.toJson_draft,
    KindRules.toJson_draft]

/-! ## Numbers spelled out -/

/-- The expression with the digits in place of a number. -/
def Written.spelled : Written → Written
  | .number n => .text (toString n.toNat)
  | .text s => .text s

/-- The rule with digits in place of numbers. -/
def RuleDraft.spelled (r : RuleDraft) : RuleDraft :=
  ⟨r.fqns.map .spelled, r.labels.map (·.map .spelled), r.annotations.map (·.map .spelled),
    r.containers.map .spelled, r.codes.map .spelled⟩

/-- The suppressions of a kind with digits in place of numbers. -/
def KindDraft.spelled (k : KindDraft) : KindDraft :=
  ⟨k.codes.map .spelled, k.instances.map .spelled⟩

/-- All suppressions with digits in place of numbers. -/
def ExclusionsDraft.spelled (e : ExclusionsDraft) : ExclusionsDraft :=
  ⟨e.global.spelled, e.kinds.map .spelled⟩

/-- The text that is meant stays the same. -/
theorem Written.raw_spelled (w : Written) : w.spelled.raw = w.raw := by
  cases w <;> rfl

/-- What is spelled out is the text that is meant. -/
theorem Written.spelled_eq (w : Written) : w.spelled = .text w.raw := by
  cases w <;> rfl

/-- The texts that are meant stay the same. -/
theorem Written.map_raw_spelled (l : List Written) :
    (l.map spelled).map raw = l.map raw := by
  rw [List.map_map]
  exact List.map_congr_left fun w _ => raw_spelled w

/-- A rule compiles alike with its numbers spelled out. -/
theorem RuleDraft.compile_spelled (r : RuleDraft) : r.spelled.compile = r.compile := by
  have hpairs : ∀ d : Dict String (List Written),
      (d.map (·.map Written.spelled)).map (·.map Written.raw) = d.map (·.map Written.raw) := by
    intro d
    refine Dict.ext_get? fun key => ?_
    rw [Dict.get?_map, Dict.get?_map, Dict.get?_map, Option.map_map]
    exact congrArg (Option.map · _) (funext Written.map_raw_spelled)
  rw [compile, compile, spelled]
  simp only [Written.map_raw_spelled, hpairs]

/-- Rules compile alike with their numbers spelled out. -/
theorem RuleDraft.compileEach_spelled (scope : String) (i : Nat) (rs : List RuleDraft) :
    compileEach scope i (rs.map spelled) = compileEach scope i rs := by
  induction rs generalizing i with
  | nil => rfl
  | cons r rest ih => rw [List.map_cons, compileEach, compileEach, compile_spelled, ih]

/-- The suppressions of a kind compile alike with their numbers spelled out. -/
theorem KindDraft.compile_spelled (k : KindDraft) (kind : String) :
    k.spelled.compile kind = k.compile kind := by
  rw [compile, compile, spelled]
  simp only [Written.map_raw_spelled, RuleDraft.compileEach_spelled]

/-- Suppressions compile alike with their numbers spelled out. -/
theorem ExclusionsDraft.compile_spelled (e : ExclusionsDraft) : e.spelled.compile = e.compile := by
  rw [compile, compile, spelled]
  simp only [RuleDraft.compile_spelled, Dict.map, Dict.mapWithKey, List.foldlM_map,
    KindDraft.compile_spelled]

/-! ## What is compiled is what was written -/

/-- Changed lists are the same if they are place by place. -/
theorem map_eq_map_iff {α β γ : Type} {f : α → γ} {g : β → γ} {l : List α} {m : List β} :
    l.map f = m.map g ↔ List.Forall₂ (fun a b => f a = g b) l m := by
  calc l.map f = m.map g ↔ List.Forall₂ (· = ·) (l.map f) (m.map g) := by
        rw [List.forall₂_eq_eq_eq]
    _ ↔ List.Forall₂ (fun a b => f a = g b) l m := by
        rw [List.forall₂_map_left_iff, List.forall₂_map_right_iff]

/-- If results are inserted one by one under keys that ascend like the old ones, then the dictionary
lists the results in that order. -/
theorem Dict.forall₂_of_foldlM_insert {ε α β κ κ' : Type} [Ord κ] [Ord κ'] [Std.TransOrd κ']
    [Std.LawfulEqOrd κ'] (key : κ → κ')
    (hkey : ∀ a b, compare a b = .lt → compare (key a) (key b) = .lt)
    {f : κ × α → Except ε β} {d : Dict κ α} {d' : Dict κ' β}
    (h : d.entries.foldlM (fun d e => (f e).map (d.insert (key e.1))) ∅ = .ok d') :
    List.Forall₂ (fun e e' => e'.1 = key e.1 ∧ f e = .ok e'.2) d.entries d'.entries := by
  have aux : ∀ (l : List (κ × α)) (d₀ : Dict κ' β),
      l.foldlM (fun d e => (f e).map (d.insert (key e.1))) d₀ = .ok d' →
      ∃ l' : List (κ' × β), List.Forall₂ (fun e e' => e'.1 = key e.1 ∧ f e = .ok e'.2) l l' ∧
        d' = l'.foldl (fun d e => d.insert e.1 e.2) d₀ := by
    intro l
    induction l with
    | nil =>
      intro d₀ h
      cases h
      exact ⟨[], .nil, rfl⟩
    | cons e rest ih =>
      intro d₀ h
      obtain ⟨d₁, hfirst, h⟩ := bind_eq_ok_iff.1 h
      obtain ⟨b, hb, rfl⟩ := map_eq_ok_iff.1 hfirst
      obtain ⟨l', hforall, rfl⟩ := ih _ h
      exact ⟨(key e.1, b) :: l', .cons ⟨rfl, hb⟩ hforall, rfl⟩
  obtain ⟨l', hforall, rfl⟩ := aux d.entries ∅ h
  -- the new keys ascend like the old ones, so the list is the one that the dictionary keeps
  have hkeys : d.entries.map (fun e => key e.1) = l'.map (·.1) :=
    map_eq_map_iff.2 (hforall.imp fun _ _ he => he.1.symm)
  have hascending : l'.Pairwise fun a b => compare a.1 b.1 = .lt := by
    rw [← List.pairwise_map (R := fun a b => compare a b = .lt), ← hkeys, List.pairwise_map]
    exact d.ascending.imp fun hab => hkey _ _ hab
  have hlist : Dict.ofList l' = ⟨l', hascending⟩ := Dict.ofList_eq_of_perm (.refl _)
  show List.Forall₂ _ d.entries (Dict.ofList l').entries
  rw [hlist]
  exact hforall

/-- Pairs are compiled in the order of their keys. -/
def Rule.CompilesPairs (d : Dict String (List String)) (d' : Dict String Expressions) : Prop :=
  List.Forall₂ (fun e e' => e'.1 = e.1 ∧ Expressions.parse e.2 = .ok e'.2) d.entries d'.entries

/-- If the pairs of a rule are compiled one by one, they are compiled in the order of their keys, and
the rest of the rule stays as it is. -/
theorem Rule.of_foldlM_pairs (part : Rule → Dict String Expressions)
    (change : Rule → Dict String Expressions → Rule) (hpart : ∀ r d, part (change r d) = d)
    (hchange : ∀ r d, change (change r d) = change r) (hsame : ∀ r, change r (part r) = r)
    {d : Dict String (List String)} {r r' : Rule} (hr : part r = ∅)
    (h : d.entries.foldlM (fun r e => do
      let es ← Expressions.parse e.2
      .ok (change r ((part r).insert e.1 es))) r = .ok r') :
    ∃ pairs, CompilesPairs d pairs ∧ r' = change r pairs := by
  have hstep : (fun (r : Rule) (e : String × List String) => do
      let es ← Expressions.parse e.2
      .ok (change r ((part r).insert e.1 es))) = fun r e =>
        ((Expressions.parse e.2).map ((part r).insert e.1)).map (change r) := by
    funext r e
    cases Expressions.parse e.2 <;> rfl
  have hloop := foldlM_part hpart hchange hsame
    (fun pairs (e : String × List String) => (Expressions.parse e.2).map (pairs.insert e.1))
    d.entries r
  rw [hstep, hloop, hr] at h
  obtain ⟨pairs, hpairs, rfl⟩ := map_eq_ok_iff.1 h
  exact ⟨pairs, Dict.forall₂_of_foldlM_insert id (fun _ _ hab => hab) hpairs, rfl⟩

/-- A rule is built by compiling each of its parts. -/
theorem Rule.of_build {fqns containers codes : List String}
    {labels annotations : Dict String (List String)} {r : Rule}
    (h : build fqns containers codes labels annotations = .ok r) :
    Expressions.parse fqns = .ok r.fqns ∧ Expressions.parse containers = .ok r.containers ∧
    Expressions.parse codes = .ok r.codes ∧ CompilesPairs labels r.labels ∧
    CompilesPairs annotations r.annotations := by
  obtain ⟨_, hr₁, h⟩ := bind_eq_ok_iff.1 h
  obtain ⟨es₁, hfqns, hr₁⟩ := bind_eq_ok_iff.1 hr₁
  obtain ⟨_, hr₂, h⟩ := bind_eq_ok_iff.1 h
  obtain ⟨es₂, hcontainers, hr₂⟩ := bind_eq_ok_iff.1 hr₂
  obtain ⟨_, hr₃, h⟩ := bind_eq_ok_iff.1 h
  obtain ⟨es₃, hcodes, hr₃⟩ := bind_eq_ok_iff.1 hr₃
  cases hr₁
  cases hr₂
  cases hr₃
  obtain ⟨_, hr₄, h⟩ := bind_eq_ok_iff.1 h
  obtain ⟨pairs₁, hlabels, rfl⟩ := of_foldlM_pairs Rule.labels (fun r labels => { r with labels })
    (fun _ _ => rfl) (fun _ _ => rfl) (fun _ => rfl) rfl hr₄
  obtain ⟨pairs₂, hannotations, rfl⟩ := of_foldlM_pairs Rule.annotations
    (fun r annotations => { r with annotations }) (fun _ _ => rfl) (fun _ _ => rfl) (fun _ => rfl)
    rfl h
  exact ⟨hfqns, hcontainers, hcodes, hlabels, hannotations⟩

/-- Compiled expressions have the document that they are compiled from, spelled out. -/
theorem Expressions.draft_of_parse {ws : List Written} {es : Expressions}
    (h : parse (ws.map Written.raw) = .ok es) : es.draft = ws.map .spelled := by
  have hraw := map_raw_of_parse h
  calc es.draft = (es.map (·.raw)).map Written.text := by rw [draft, List.map_map]; rfl
    _ = (ws.map Written.raw).map Written.text := by rw [hraw]
    _ = ws.map .spelled := by
      rw [List.map_map]
      exact List.map_congr_left fun w _ => w.spelled_eq.symm

/-- Compiled pairs have the document that they are compiled from, spelled out. -/
theorem Rule.CompilesPairs.draft_eq {d : Dict String (List Written)} {d' : Dict String Expressions}
    (h : CompilesPairs (d.map (·.map Written.raw)) d') :
    d'.map Expressions.draft = d.map (·.map .spelled) := by
  have hforall : List.Forall₂ (fun e e' => e'.1 = e.1 ∧
      Expressions.parse (e.2.map Written.raw) = .ok e'.2) d.entries d'.entries :=
    List.forall₂_map_left_iff.1 h
  have hentries : d.entries.map (fun e => (e.1, e.2.map Written.spelled)) =
      d'.entries.map fun e => (e.1, Expressions.draft e.2) :=
    map_eq_map_iff.2 (hforall.imp fun e e' he => by
      rw [he.1, Expressions.draft_of_parse he.2])
  exact Dict.ext_entries hentries.symm

/-- A compiled rule has the document that it is compiled from, spelled out. -/
theorem RuleDraft.draft_of_compile {r : RuleDraft} {rule : Rule} (h : r.compile = .ok rule) :
    rule.draft = r.spelled := by
  obtain ⟨hfqns, hcontainers, hcodes, hlabels, hannotations⟩ := Rule.of_build h
  rw [Rule.draft, spelled, Expressions.draft_of_parse hfqns, Expressions.draft_of_parse hcontainers,
    Expressions.draft_of_parse hcodes, hlabels.draft_eq, hannotations.draft_eq]

/-- A result under a scope is a success if the result is. -/
theorem ConfigError.inScope_eq_ok_iff {α : Type} {scope : String} {x : Except ExpressionError α}
    {a : α} : inScope scope x = .ok a ↔ x = .ok a := by
  cases x <;> simp [inScope]

/-- Compiled rules have the documents that they are compiled from, spelled out. -/
theorem RuleDraft.draft_of_compileEach {scope : String} {i : Nat} {rs : List RuleDraft}
    {rules : List Rule} (h : compileEach scope i rs = .ok rules) :
    rules.map Rule.draft = rs.map spelled := by
  induction rs generalizing i rules with
  | nil =>
    cases h
    rfl
  | cons r rest ih =>
    obtain ⟨rule, hrule, h⟩ := bind_eq_ok_iff.1 h
    obtain ⟨others, hothers, h⟩ := bind_eq_ok_iff.1 h
    cases h
    rw [List.map_cons, List.map_cons, ih hothers,
      draft_of_compile (ConfigError.inScope_eq_ok_iff.1 hrule)]

/-- The compiled suppressions of a kind have the document that they are compiled from, spelled
out. -/
theorem KindDraft.draft_of_compile {k : KindDraft} {kind : String} {rules : KindRules}
    (h : k.compile kind = .ok rules) : rules.draft = k.spelled := by
  obtain ⟨codes, hcodes, h⟩ := bind_eq_ok_iff.1 h
  obtain ⟨instances, hinstances, h⟩ := bind_eq_ok_iff.1 h
  cases h
  rw [KindRules.draft, spelled, RuleDraft.draft_of_compileEach hinstances,
    Expressions.draft_of_parse (ConfigError.inScope_eq_ok_iff.1 hcodes)]

/-- Compiled suppressions have the document that they are compiled from, spelled out. -/
theorem ExclusionsDraft.draft_of_compile {d : ExclusionsDraft} {e : Exclusions}
    (h : d.compile = .ok e) : e.draft = d.spelled := by
  obtain ⟨global, hglobal, h⟩ := bind_eq_ok_iff.1 h
  obtain ⟨kinds, hkinds, h⟩ := bind_eq_ok_iff.1 h
  cases h
  have hstep : (fun (ks : Dict Kind KindRules) (k : String × KindDraft) => do
      let rules ← k.2.compile k.1
      Except.ok (ks.insert ⟨k.1⟩ rules)) = fun ks k =>
        (k.2.compile k.1).map (ks.insert ⟨k.1⟩) := by
    funext ks k
    cases k.2.compile k.1 <;> rfl
  rw [hstep] at hkinds
  have hforall := Dict.forall₂_of_foldlM_insert Kind.mk (fun _ _ hab => hab) hkinds
  have hentries : d.kinds.entries.map (fun k => (k.1, k.2.spelled)) =
      kinds.entries.map fun k => (k.1.text, k.2.draft) :=
    map_eq_map_iff.2 (hforall.imp fun k k' hk => by
      rw [hk.1, KindDraft.draft_of_compile hk.2])
  rw [Exclusions.draft, spelled,
    RuleDraft.draft_of_compile (ConfigError.inScope_eq_ok_iff.1 hglobal)]
  exact congrArg _ (Dict.ext_entries hentries.symm)

/-! ## Lists of codes -/

/-- The lists of codes as they are written: that of the global rule, then by kind its own and those
of its rules. -/
def ExclusionsDraft.codeLists (d : ExclusionsDraft) : List (List Written) :=
  d.global.codes :: d.kinds.entries.flatMap fun k => k.2.codes :: k.2.instances.map (·.codes)

/-- The lists of codes: that of the global rule, then by kind its own and those of its rules. -/
def Exclusions.codeLists (e : Exclusions) : List Expressions :=
  e.global.codes :: e.kinds.entries.flatMap fun k => k.2.codes :: k.2.instances.map (·.codes)

/-- If a number is written, the expression matches the digits of the code that is the number, and of
no other code. -/
def Written.Means (w : Written) (x : Expression) : Prop :=
  ∀ n, w = .number n → ∀ code : Code, x.isMatch code.text ↔ code.number.toNat = n.toNat

/-- The lists of codes of a document with its numbers spelled out. -/
theorem ExclusionsDraft.codeLists_spelled (d : ExclusionsDraft) :
    d.spelled.codeLists = d.codeLists.map (·.map .spelled) := by
  simp [codeLists, spelled, RuleDraft.spelled, KindDraft.spelled, Dict.map, Dict.mapWithKey,
    List.map_flatMap, List.flatMap_map, Function.comp_def]

/-- The lists of codes of compiled suppressions, as they are written. -/
theorem Exclusions.codeLists_draft (e : Exclusions) :
    e.draft.codeLists = e.codeLists.map Expressions.draft := by
  simp [codeLists, ExclusionsDraft.codeLists, draft, Rule.draft, KindRules.draft, List.map_flatMap,
    List.flatMap_map, Function.comp_def]

/-- Numbers in compiled lists of codes mean the codes that they are. -/
theorem ExclusionsDraft.forall₂_codeLists {d : ExclusionsDraft} {e : Exclusions}
    (h : d.compile = .ok e) : List.Forall₂ (List.Forall₂ Written.Means) d.codeLists e.codeLists := by
  have hlists : d.codeLists.map (·.map Written.spelled) = e.codeLists.map Expressions.draft := by
    rw [← codeLists_spelled, ← draft_of_compile h, Exclusions.codeLists_draft]
  refine (map_eq_map_iff.1 hlists).imp fun ws es heq => ?_
  refine (map_eq_map_iff.1 heq).imp fun w x hx n hn code => ?_
  subst hn
  exact Expression.isMatch_text_iff (Written.text.inj hx).symm code

/-- Suppressions that are compiled, written and read back, with the fields of the document in any
order, compile to themselves, and so silence the same; a document compiles alike with digits in
place of its numbers; and a number in a list of codes matches the code that it is, and no other. -/
theorem ExclusionsDraft.compile_read_back (d : ExclusionsDraft) :
    d.spelled.compile = d.compile ∧
    ∀ e, d.compile = .ok e →
      (∀ c, Json.Rearranges c → ∃ d' e', ofJson? (c e.toJson) = some d' ∧ d'.compile = .ok e' ∧
        e' = e ∧ ∀ s, e'.isExcluded s = e.isExcluded s) ∧
      List.Forall₂ (List.Forall₂ Written.Means) d.codeLists e.codeLists := by
  refine ⟨d.compile_spelled, fun e h => ⟨fun c hc => ?_, forall₂_codeLists h⟩⟩
  have hread : ofJson? (c e.toJson) = some d.spelled := by
    rw [← Exclusions.toJson_draft, draft_of_compile h]
    exact ExclusionsDraft.undoes hc d.spelled
  exact ⟨d.spelled, e, hread, d.compile_spelled.trans h, rfl, fun _ => rfl⟩

/-- A number for all kinds and one for pods, and a rule for pods with a pattern. -/
def ExclusionsDraft.mixed : ExclusionsDraft :=
  ⟨{ RuleDraft.empty with codes := [.number 102] }, .ofList [("pods", ⟨[.number 300, .text "301"],
    [{ RuleDraft.empty with labels := .ofList [("app", [.text "rx:^b", .number 2])] }]⟩)]⟩

/-- Compiled, written in canonical form and read back, it silences codes 102 and 300 of pods, and
not 103. -/
theorem ExclusionsDraft.compile_read_back_mixed :
    ∃ e d' e', mixed.compile = .ok e ∧ Json.Rearranges Json.canonical ∧
      ofJson? e.toJson.canonical = some d' ∧ d'.compile = .ok e' ∧
      e'.isExcluded ⟨⟨"pods"⟩, ⟨"a/x"⟩, ∅, ∅, [], some 102⟩ ∧
      e'.isExcluded ⟨⟨"pods"⟩, ⟨"a/x"⟩, ∅, ∅, [], some 300⟩ ∧
      e'.isExcluded ⟨⟨"pods"⟩, ⟨"a/x"⟩, ∅, ∅, [], some 103⟩ = false := by
  have hcompiles : mixed.compile.toOption.isSome := by decide
  have hsilences : mixed.compile.toOption.all fun e =>
      e.isExcluded ⟨⟨"pods"⟩, ⟨"a/x"⟩, ∅, ∅, [], some 102⟩ &&
      e.isExcluded ⟨⟨"pods"⟩, ⟨"a/x"⟩, ∅, ∅, [], some 300⟩ &&
      !e.isExcluded ⟨⟨"pods"⟩, ⟨"a/x"⟩, ∅, ∅, [], some 103⟩ := by decide
  obtain ⟨e, he⟩ := Option.isSome_iff_exists.1 hcompiles
  rw [he, Option.all_some, Bool.and_eq_true, Bool.and_eq_true, Bool.not_eq_true'] at hsilences
  have hcompile : mixed.compile = .ok e := toOption_eq_some_iff.1 he
  obtain ⟨d', e', hread, hback, -, hsame⟩ := ((compile_read_back mixed).2 e hcompile).1
    Json.canonical Json.rearranges_canonical
  refine ⟨e, d', e', hcompile, Json.rearranges_canonical, hread, hback, ?_⟩
  rw [hsame, hsame, hsame]
  exact ⟨hsilences.1.1, hsilences.1.2, hsilences.2⟩

end ClusterAudit
