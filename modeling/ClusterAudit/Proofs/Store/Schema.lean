import ClusterAudit.Proofs.Store.Isolation
import ClusterAudit.Store.Reference

/-!
# The tables of a store are those of its registry

No operation adds a table or removes one, so every snapshot and every open transaction has tables
for exactly the kinds that the store was created with (`Tables.Covers`). What a store answers about
a kind is therefore an error for the kinds that are not registered and for no others
(`Registry.Answers`), and an owner is always resolved: a name for owners that stands for a kind
without table is never followed (`Snapshot.Resolves`).
-/

namespace ClusterAudit

/-- An answer about a kind: an error exactly if the kind is not registered, which says so. -/
def Registry.Answers {α : Type} (r : Registry) (kind : Kind) (answer : Except StoreError α) :
    Prop :=
  if r.contains kind then ∃ a, answer = .ok a else answer = .error (.unknownKind kind)

/-- An answer that is made from another one. -/
theorem Registry.Answers.map {α β : Type} {r : Registry} {kind : Kind}
    {answer : Except StoreError α} (h : r.Answers kind answer) (f : α → β) :
    r.Answers kind (answer.map f) := by
  unfold Answers at *
  split at h
  · rename_i hkind
    obtain ⟨a, rfl⟩ := h
    rw [if_pos hkind]
    exact ⟨f a, rfl⟩
  · rename_i hkind
    rw [if_neg hkind, h]
    rfl

namespace Tables

/-- There is a table for every registered kind and for no other. -/
def Covers (ts : Tables) (r : Registry) : Prop :=
  ∀ kind, (Dict.get? ts kind).isSome = r.contains kind

variable {ts : Tables} {r : Registry}

/-- The kinds that have a table are the registered ones. -/
theorem Covers.keys_eq (h : ts.Covers r) : Dict.keys ts = r.list := Dict.keys_eq_of_isSome h

/-- A table is there exactly for a registered kind. -/
theorem Covers.answers (h : ts.Covers r) (kind : Kind) : r.Answers kind (ts.table kind) := by
  have hkind := h kind
  rw [Registry.Answers, ← hkind, table]
  cases Dict.get? ts kind with
  | none => rfl
  | some t => exact ⟨t, rfl⟩

/-- Changes keep the kinds that have a table. -/
theorem covers_applyAll_iff {changes : List Change} :
    (Change.applyAll ts changes).Covers r ↔ ts.Covers r := by
  simp only [Covers, Change.isSome_get?_applyAll]

theorem covers_replay (r : Registry) (changes : List Change) : (replay r changes).Covers r :=
  isSome_get?_replay r changes

end Tables

/-! ## Snapshots -/

namespace Snapshot

/-- Whatever a reader asks about a kind is answered exactly if the kind is registered. -/
structure Answers (s : Snapshot) (r : Registry) (kind : Kind) : Prop where
  scan : r.Answers kind (s.scan kind)
  scanNamespace : ∀ space, r.Answers kind (s.scanNamespace kind space)
  get? : ∀ fqn, r.Answers kind (s.get? kind fqn)
  scanAs : ∀ {α : Type} (as : Resource → Option α), r.Answers kind (s.scanAs as kind)
  scanNamespaceAs : ∀ {α : Type} (as : Resource → Option α) (space : String),
    r.Answers kind (s.scanNamespaceAs as kind space)
  getAs? : ∀ {α : Type} (as : Resource → Option α) (fqn : Fqn),
    r.Answers kind (s.getAs? as kind fqn)
  count : r.Answers kind (s.count kind)
  isLoaded : r.Answers kind (s.isLoaded kind)
  namespaces : r.Answers kind (s.namespaces kind)
  findSelected : ∀ space selector, r.Answers kind (s.findSelected kind space selector)
  findCovered : ∀ space selector, r.Answers kind (s.findCovered kind space selector)
  findNamespaces : ∀ selector, r.Answers kind (s.findNamespaces kind selector)

/-- A reader's questions are all about the table of the kind. -/
theorem answers_of_covers {s : Snapshot} {r : Registry} (h : s.tables.Covers r) (kind : Kind) :
    s.Answers r kind :=
  have htable : r.Answers kind (s.table kind) := h.answers kind
  { scan := htable.map _
    scanNamespace := fun _ => htable.map _
    get? := fun _ => htable.map _
    scanAs := fun _ => (htable.map _).map _
    scanNamespaceAs := fun _ _ => (htable.map _).map _
    getAs? := fun _ _ => (htable.map _).map _
    count := htable.map _
    isLoaded := htable.map _
    namespaces := htable.map _
    findSelected := fun _ _ => (htable.map _).map _
    findCovered := fun _ _ => (htable.map _).map _
    findNamespaces := fun _ => (htable.map _).map _ }

/-- Owners that are called so are looked for in the table of a kind: the name stands for the kind,
and that is registered and loaded. -/
def Tracks (s : Snapshot) (r : Registry) (owner : String) (kind : Kind) : Prop :=
  r.aliases.get? owner = some kind ∧ r.contains kind ∧ s.isLoaded kind = .ok true

/-- Where an owner reference of an object in a namespace leads: nowhere unless owners called so are
looked for in some table, and there to the record under the joined name. -/
structure Resolves (s : Snapshot) (r : Registry) (space : String) (o : OwnerReference)
    (lookup : OwnerLookup) : Prop where
  untracked : lookup = .untracked ↔ ∀ kind, r.aliases.get? o.kind = some kind → r.contains kind →
    s.isLoaded kind = .ok false
  found : ∀ x, lookup = .found x ↔
    ∃ kind, s.Tracks r o.kind kind ∧ s.get? kind (.join space o.name) = .ok (some x)
  missing : lookup = .missing ↔
    ∃ kind, s.Tracks r o.kind kind ∧ s.get? kind (.join space o.name) = .ok none

section owners
variable {s : Snapshot} {r : Registry} {space : String} {o : OwnerReference}

/-- Owners that are called so are looked for in one table at most. -/
theorem Tracks.unique {owner : String} {a b : Kind} (ha : s.Tracks r owner a)
    (hb : s.Tracks r owner b) : a = b :=
  Option.some.inj (ha.1.symm.trans hb.1)

/-- A reference that is not followed leads nowhere. -/
theorem resolves_untracked (h : ∀ kind, r.aliases.get? o.kind = some kind → r.contains kind →
    s.isLoaded kind = .ok false) : s.Resolves r space o .untracked := by
  have hnot : ∀ kind, ¬ s.Tracks r o.kind kind := fun kind ⟨halias, hkind, hloaded⟩ => by
    rw [h kind halias hkind] at hloaded
    cases hloaded
  exact ⟨iff_of_true rfl h, fun x => iff_of_false nofun fun ⟨kind, hk, _⟩ => hnot kind hk,
    iff_of_false nofun fun ⟨kind, hk, _⟩ => hnot kind hk⟩

/-- A reference that is followed leads to what the table has under the name. -/
theorem resolves_tracked {kind : Kind} (h : s.Tracks r o.kind kind) {found : Option Resource}
    (hget : s.get? kind (.join space o.name) = .ok found) :
    s.Resolves r space o (found.elim .missing .found) := by
  have hfollowed : ¬ ∀ kind, r.aliases.get? o.kind = some kind → r.contains kind →
      s.isLoaded kind = .ok false := fun hnot => by
    have hloaded := hnot kind h.1 h.2.1
    rw [h.2.2] at hloaded
    cases hloaded
  have honly : ∀ answer, (∃ other, s.Tracks r o.kind other ∧
      s.get? other (.join space o.name) = .ok answer) ↔ found = answer := fun answer => by
    constructor
    · rintro ⟨other, hother, hanswer⟩
      rw [← h.unique hother, hget] at hanswer
      exact Except.ok.inj hanswer
    · rintro rfl
      exact ⟨kind, h, hget⟩
  refine ⟨iff_of_false (by cases found <;> nofun) hfollowed, fun x => ?_, ?_⟩
  · rw [honly]
    cases found <;> simp
  · rw [honly]
    cases found <;> simp

/-- Every owner reference is resolved where every registered kind has a table. -/
theorem exists_resolves (hregistry : s.registry = r) (h : s.tables.Covers r) (space : String)
    (o : OwnerReference) :
    ∃ lookup, s.resolveOwner space o = .ok lookup ∧ s.Resolves r space o lookup := by
  rw [resolveOwner, Registry.kindForOwner, hregistry]
  cases halias : (r.aliases.get? o.kind).filter r.contains with
  | none =>
    refine ⟨_, rfl, resolves_untracked fun kind hkind hcontains => ?_⟩
    rw [hkind, Option.filter_some_pos hcontains] at halias
    cases halias
  | some kind =>
    obtain ⟨hkind, hcontains⟩ := Option.filter_eq_some_iff.1 halias
    have htable := h.answers kind
    rw [Registry.Answers, if_pos hcontains] at htable
    obtain ⟨table, htable⟩ := htable
    have hloaded : s.isLoaded kind = .ok table.loaded := map_eq_ok_iff.2 ⟨table, htable, rfl⟩
    have hget : s.get? kind (.join space o.name) = .ok (table.get? (.join space o.name)) :=
      map_eq_ok_iff.2 ⟨table, htable, rfl⟩
    simp only [hloaded, hget, bind, Except.bind]
    cases hl : table.loaded with
    | false =>
      refine ⟨_, rfl, resolves_untracked fun other hother _ => ?_⟩
      cases hkind.symm.trans hother
      rw [hloaded, hl]
    | true =>
      refine ⟨_, ?_, resolves_tracked ⟨hkind, hcontains, hl ▸ hloaded⟩ hget⟩
      cases table.get? (.join space o.name) <;> rfl

end owners

end Snapshot

/-! ## Transactions -/

/-- Whatever a transaction is asked about a kind or told to do with its table succeeds exactly if
the kind is registered; a record of another kind is refused first. -/
structure Transaction.Answers (t : Transaction) (r : Registry) (kind : Kind) : Prop where
  get? : ∀ fqn, r.Answers kind (t.get? kind fqn)
  isLoaded : r.Answers kind (t.isLoaded kind)
  markLoaded : r.Answers kind (t.markLoaded kind)
  insert : ∀ x : Resource, x.kind = kind → r.Answers kind (t.insert x)
  insertInto : ∀ x : Resource, if x.kind = kind then r.Answers kind (t.insertInto kind x)
    else t.insertInto kind x = .error (.kindMismatch kind x.kind)

/-- The questions and the changes are all about the table of the kind. -/
theorem Transaction.answers_of_covers {t : Transaction} {r : Registry} (h : t.tables.Covers r)
    (kind : Kind) : t.Answers r kind := by
  have hinsert : ∀ x : Resource, x.kind = kind → r.Answers kind (t.insert x) := by
    rintro x rfl
    rw [insert_eq_map]
    exact (h.answers x.kind).map _
  refine ⟨fun _ => (h.answers kind).map _, (h.answers kind).map _, (h.answers kind).map _, hinsert,
    fun x => ?_⟩
  rw [insertInto]
  split
  · rename_i hkind
    exact hinsert x hkind
  · rfl

/-! ## Runs -/

namespace SharedStore

/-- A change that fails is not made; one that is made is not answered by a failure. -/
theorem withOwn_keep_of_failed {s : SharedStore} {c : Client} {α : Type}
    {change : Transaction → Except StoreError α} {answer : α → Transaction × Reply} {e : StoreError}
    (hanswer : ∀ a, (answer a).2 ≠ .failed e)
    (h : (s.withOwn c fun t => s.keep c ((change t).map answer)).2 = .failed e) :
    (s.withOwn c fun t => s.keep c ((change t).map answer)).1 = s := by
  rw [withOwn] at *
  split at h
  · rename_i t _
    cases hchange : change t with
    | error error => rfl
    | ok a =>
      rw [hchange] at h
      exact absurd h (hanswer a)
  · rfl

/-- A request that fails leaves the store and all that is open as it was, unless it is one to go on
with a load. -/
theorem step_of_failed {s : SharedStore} {c : Client} {q : Request} {e : StoreError}
    (hq : q ≠ .proceed) (h : (s.step c q).2 = .failed e) : (s.step c q).1 = s := by
  cases q with
  | beginRead => cases h
  | beginWrite =>
    rw [step] at h
    split at h <;> cases h
  | insert r => exact withOwn_keep_of_failed (fun _ => Reply.noConfusion) h
  | insertInto kind r => exact withOwn_keep_of_failed (fun _ => Reply.noConfusion) h
  | markLoaded kind => exact withOwn_keep_of_failed (fun _ => Reply.noConfusion) h
  | commit =>
    rw [step, withOwn] at h
    split at h <;> cases h
  | abort =>
    rw [step] at h
    split at h <;> cases h
  | load kind records =>
    rw [step] at *
    split at h
    · cases h
    · rename_i hw
      rw [if_neg hw]
      rw [beginLoad] at *
      split at h
      · rfl
      · cases h
      · cases h
  | proceed => exact absurd rfl hq

end SharedStore

/-- After every schedule of the clients' requests: the published snapshot and every snapshot that
was opened for reading have tables for exactly the registered kinds, answer every question about
these and none about others, and resolve every owner reference; an open transaction has tables for
exactly the registered kinds as well, and what it is asked and told succeeds for these and no
others; and a request that fails changes nothing, unless it is one to go on with a load. -/
theorem Schedule.tables_registered (r : Registry) (schedule : Schedule) :
    let s := reach r schedule
    (∀ q ∈ s.store.published :: s.readers, q.kinds = r.list ∧ (∀ kind, q.Answers r kind) ∧
      ∀ space o, ∃ lookup, q.resolveOwner space o = .ok lookup ∧ q.Resolves r space o lookup) ∧
    (∀ w, s.writer = some w → Dict.keys w.transaction.tables = r.list ∧
      ∀ kind, w.transaction.Answers r kind) ∧
    ∀ c q e, q ≠ .proceed → (s.step c q).2 = .failed e → (s.step c q).1 = s := by
  intro s
  have h : s.Follows r (run r schedule).2 := follows_run r schedule
  refine ⟨fun q hq => ?_, fun w hw => ?_, fun c q e => SharedStore.step_of_failed⟩
  · have hreplay := h.eq_replay hq
    have hcovers : q.tables.Covers r := hreplay ▸ Tables.covers_replay r _
    have hregistry : q.registry = r := hreplay ▸ rfl
    exact ⟨hcovers.keys_eq, Snapshot.answers_of_covers hcovers,
      Snapshot.exists_resolves hregistry hcovers⟩
  · have hcovers : w.transaction.tables.Covers r := by
      rw [← Tables.covers_applyAll_iff, h.tables w hw]
      exact Tables.covers_replay r _
    exact ⟨hcovers.keys_eq, Transaction.answers_of_covers hcovers⟩

end ClusterAudit
