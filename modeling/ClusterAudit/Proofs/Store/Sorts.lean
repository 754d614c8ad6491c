import ClusterAudit.Proofs.Store.Contents
import ClusterAudit.Proofs.Store.Isolation

/-!
# Records of their kind's own sort

Every builtin kind has a record type of its own, and readers ask for the records of that type only.
A table can hold records of another type in one way: a custom object names its kind itself, and may
name a builtin one. `Schedule.holdsOwn_and_readsAll_iff` says that a builtin table holds records of
its own type, and reading them as such skips none, exactly if no custom object of that kind is the
last one committed of its name.
-/

namespace ClusterAudit

/-- The kinds that have a record type of their own. -/
inductive Builtin where
  | pods
  | services
  | deployments
  | replicaSets
  | networkPolicies
  | namespaces
  | serviceAccounts
  | roleBindings
  | clusterRoleBindings
  deriving DecidableEq

namespace Builtin

/-- The kind under its name. -/
def kind : Builtin → Kind
  | pods => .pods
  | services => .services
  | deployments => .deployments
  | replicaSets => .replicaSets
  | networkPolicies => .networkPolicies
  | namespaces => .namespaces
  | serviceAccounts => .serviceAccounts
  | roleBindings => .roleBindings
  | clusterRoleBindings => .clusterRoleBindings

/-- The type of its records. -/
def Record : Builtin → Type
  | pods => Pod
  | services => Service
  | deployments => Deployment
  | replicaSets => ReplicaSet
  | networkPolicies => NetworkPolicy
  | namespaces => NamespaceRecord
  | serviceAccounts => ServiceAccount
  | roleBindings | clusterRoleBindings => RoleBinding

/-- An object as a record of that type. -/
def read : (b : Builtin) → Resource → Option b.Record
  | pods => Resource.asPod
  | services => Resource.asService
  | deployments => Resource.asDeployment
  | replicaSets => Resource.asReplicaSet
  | networkPolicies => Resource.asNetworkPolicy
  | namespaces => Resource.asNamespace
  | serviceAccounts => Resource.asServiceAccount
  | roleBindings | clusterRoleBindings => Resource.asRoleBinding

/-- Different builtin kinds have different names. -/
theorem eq_of_kind {a b : Builtin} (h : a.kind = b.kind) : a = b := by
  cases a <;> cases b <;> first | rfl | exact absurd h (by decide)

end Builtin

/-- The builtin kind whose sort an object is of; custom objects are of none, whatever kind they
name. The two sorts of bindings have one record type and different kinds. -/
def Resource.sort? : Resource → Option Builtin
  | pod _ => some .pods
  | service _ => some .services
  | deployment _ => some .deployments
  | replicaSet _ => some .replicaSets
  | networkPolicy _ => some .networkPolicies
  | clusterNamespace _ => some .namespaces
  | serviceAccount _ => some .serviceAccounts
  | roleBinding _ => some .roleBindings
  | clusterRoleBinding _ => some .clusterRoleBindings
  | custom _ => none

namespace Builtin

/-- An object of a sort is of the kind of that sort. -/
theorem kind_of_sort {x : Resource} {b : Builtin} (h : x.sort? = some b) : x.kind = b.kind := by
  cases x with
  | custom => cases h
  | pod | service | deployment | replicaSet | networkPolicy | clusterNamespace | serviceAccount
  | roleBinding | clusterRoleBinding =>
    cases h
    rfl

/-- An object of a sort can be read as a record of its type. -/
theorem isSome_read_of_sort {x : Resource} {b : Builtin} (h : x.sort? = some b) :
    (b.read x).isSome := by
  cases x with
  | custom => cases h
  | pod | service | deployment | replicaSet | networkPolicy | clusterNamespace | serviceAccount
  | roleBinding | clusterRoleBinding =>
    cases h
    rfl

/-- A custom object cannot be read as a record of any builtin kind. -/
theorem read_custom (b : Builtin) (c : CustomResource) : b.read (.custom c) = none := by
  cases b <;> rfl

/-- An object of a builtin kind is of its sort or a custom object. -/
theorem sort_of_kind {x : Resource} {b : Builtin} (h : x.kind = b.kind) :
    x.sort? = some b ∨ ∃ c, x = .custom c := by
  cases hx : x.sort? with
  | none =>
    cases x with
    | custom c => exact .inr ⟨c, rfl⟩
    | pod | service | deployment | replicaSet | networkPolicy | clusterNamespace | serviceAccount
    | roleBinding | clusterRoleBinding => cases hx
  | some a => rw [eq_of_kind ((kind_of_sort hx).symm.trans h)]; exact .inl rfl

/-- Among the objects of a builtin kind those of its sort are the ones that are not custom. -/
theorem sort_eq_iff {x : Resource} {b : Builtin} (h : x.kind = b.kind) :
    x.sort? = some b ↔ x.asCustom = none := by
  rcases sort_of_kind h with hx | ⟨c, rfl⟩
  · refine iff_of_true hx ?_
    cases x with
    | custom => cases hx
    | pod | service | deployment | replicaSet | networkPolicy | clusterNamespace | serviceAccount
    | roleBinding | clusterRoleBinding => rfl
  · exact iff_of_false nofun nofun

/-- Among the objects of a builtin kind those that can be read as its records are the ones that are
not custom. -/
theorem isSome_read_iff {x : Resource} {b : Builtin} (h : x.kind = b.kind) :
    (b.read x).isSome ↔ x.asCustom = none := by
  rw [← sort_eq_iff h]
  rcases sort_of_kind h with hx | ⟨c, rfl⟩
  · exact iff_of_true (isSome_read_of_sort hx) hx
  · rw [read_custom]
    exact iff_of_false nofun nofun

end Builtin

namespace Snapshot

/-- The table of a builtin kind holds objects of its own sort only. -/
def HoldsOwn (s : Snapshot) (b : Builtin) : Prop :=
  ∀ records, s.scan b.kind = .ok records → ∀ x ∈ records, x.sort? = some b

/-- Reading a builtin kind at its own record type gives as many records as there are. -/
structure ReadsAll (s : Snapshot) (b : Builtin) : Prop where
  scan : (s.scanAs b.read b.kind).map List.length = (s.scan b.kind).map List.length
  scanNamespace : ∀ space, (s.scanNamespaceAs b.read b.kind space).map List.length =
    (s.scanNamespace b.kind space).map List.length
  get? : ∀ fqn, (s.getAs? b.read b.kind fqn).map Option.isSome =
    (s.get? b.kind fqn).map Option.isSome

end Snapshot

/-- No custom object among records is the last one of its name. -/
def NoCustomLast (records : List Resource) : Prop :=
  ∀ x, latest? x.fqn records = some x → x.asCustom = none

/-- The inserted records of a kind are of that kind. -/
theorem kind_of_mem_recordsOf {kind : Kind} {log : List (List Change)} {x : Resource}
    (h : x ∈ recordsOf kind log) : x.kind = kind := by
  obtain ⟨c, -, hc⟩ := List.mem_filterMap.1 h
  cases c with
  | insert r =>
    rw [Change.record?, Option.ite_none_right_eq_some] at hc
    obtain ⟨hk, hr⟩ := hc
    cases hr
    exact hk
  | markLoaded other => cases hc

/-- The records that a table lists are some of those that were stored. -/
theorem mem_of_mem_scan_ofRecords {records : List Resource} {x : Resource}
    (h : x ∈ (Table.ofRecords records).scan) : x ∈ records :=
  mem_of_latest? (Table.mem_scan_ofRecords.1 h)

/-- The records that a table lists for a namespace are some of those it lists. -/
theorem mem_scan_of_mem_scanNamespace {t : Table} {space : String} {x : Resource}
    (h : x ∈ t.scanNamespace space) : x ∈ t.scan := by
  obtain ⟨fqn, -, hx⟩ := List.mem_filterMap.1 h
  exact (t.mem_scan_iff x).2 ⟨fqn, hx⟩

section replay
variable (r : Registry) (log : List (List Change)) (b : Builtin)

/-- The listed records of a builtin kind are of its sort exactly if none of them is custom. -/
theorem Snapshot.holdsOwn_replay_iff : (replay r log).HoldsOwn b ↔
    (r.contains b.kind → NoCustomLast (recordsOf b.kind log)) := by
  cases hr : r.contains b.kind with
  | false =>
    refine iff_of_true (fun records h => ?_) nofun
    rw [scan_replay, hr] at h
    cases h
  | true =>
    rw [forall_prop_of_true rfl, HoldsOwn, scan_replay, hr, if_pos rfl]
    constructor
    · intro h x hx
      have hsort := h _ rfl x (Table.mem_scan_ofRecords.2 hx)
      exact (Builtin.sort_eq_iff (Builtin.kind_of_sort hsort)).1 hsort
    · intro h records hrecords x hx
      cases hrecords
      exact (Builtin.sort_eq_iff (kind_of_mem_recordsOf (mem_of_mem_scan_ofRecords hx))).2
        (h x (Table.mem_scan_ofRecords.1 hx))

/-- Reading a builtin kind at its record type skips nothing exactly if none of its listed records is
custom. -/
theorem Snapshot.readsAll_replay_iff : (replay r log).ReadsAll b ↔
    (r.contains b.kind → NoCustomLast (recordsOf b.kind log)) := by
  have hread : ∀ x ∈ recordsOf b.kind log, (b.read x).isSome ↔ x.asCustom = none :=
    fun x hx => Builtin.isSome_read_iff (kind_of_mem_recordsOf hx)
  cases hr : r.contains b.kind with
  | false =>
    refine iff_of_true ⟨?_, fun space => ?_, fun fqn => ?_⟩ nofun
    · rw [scanAs, scan_replay, hr]
      rfl
    · rw [scanNamespaceAs, scanNamespace_replay, hr]
      rfl
    · rw [getAs?, get?_replay, hr]
      rfl
  | true =>
    rw [forall_prop_of_true rfl]
    constructor
    · intro h x hx
      have hlength := h.scan
      rw [scanAs, scan_replay, hr, if_pos rfl] at hlength
      exact (hread x (mem_of_latest? hx)).1 (List.filterMap_length_eq_length.1
        (Except.ok.inj hlength) x (Table.mem_scan_ofRecords.2 hx))
    · intro h
      have hall : ∀ x ∈ (Table.ofRecords (recordsOf b.kind log)).scan, (b.read x).isSome :=
        fun x hx => (hread x (mem_of_mem_scan_ofRecords hx)).2 (h x (Table.mem_scan_ofRecords.1 hx))
      refine ⟨?_, fun space => ?_, fun fqn => ?_⟩
      · rw [scanAs, scan_replay, hr, if_pos rfl]
        exact congrArg Except.ok (List.filterMap_length_eq_length.2 hall)
      · rw [scanNamespaceAs, scanNamespace_replay, hr, if_pos rfl]
        exact congrArg Except.ok (List.filterMap_length_eq_length.2 fun x hx =>
          hall x (mem_scan_of_mem_scanNamespace hx))
      · rw [getAs?, get?_replay, hr, if_pos rfl]
        refine congrArg Except.ok ?_
        cases hx : latest? fqn (recordsOf b.kind log) with
        | none => rfl
        | some x =>
          exact (hread x (mem_of_latest? hx)).2 (h x (by rw [fqn_of_latest? hx, hx]))

end replay

namespace Schedule

/-- After every schedule the table of a builtin kind holds objects of its own sort only, and reading
it at its record type skips none of them, each exactly if no custom object of the kind is the last
one committed of its name. -/
theorem holdsOwn_and_readsAll_iff (r : Registry) (schedule : Schedule) (b : Builtin) :
    let s := (reach r schedule).store.published
    let last := NoCustomLast (recordsOf b.kind (committed r schedule))
    (s.HoldsOwn b ↔ (r.contains b.kind → last)) ∧ (s.ReadsAll b ↔ (r.contains b.kind → last)) := by
  intro s last
  have h : s = .replay r (committed r schedule) := (follows_run r schedule).published
  rw [h]
  exact ⟨Snapshot.holdsOwn_replay_iff r _ b, Snapshot.readsAll_replay_iff r _ b⟩

/-- The document without content is in canonical form. -/
theorem isCanonical_null : Json.null.isCanonical = true := rfl

/-- A custom object that names the kind of pods. -/
def customPod : Resource := .custom ⟨.pods, .named "a" "x", ⟨.null, isCanonical_null⟩⟩

/-- A client stores it. -/
def storesCustomPod : Schedule := [(0, .beginWrite), (0, .insert customPod), (0, .commit)]

/-- The table of pods holds the custom object, and reading pods skips it. -/
theorem skips_customPod : ¬ (reach .builtin storesCustomPod).store.published.HoldsOwn .pods ∧
    ¬ (reach .builtin storesCustomPod).store.published.ReadsAll .pods := by
  constructor
  · intro h
    have hsort := h [customPod] rfl customPod (List.mem_singleton.2 rfl)
    exact absurd hsort (by decide)
  · exact fun h => absurd (congrArg Except.toOption h.scan) (by decide)

end Schedule

end ClusterAudit
