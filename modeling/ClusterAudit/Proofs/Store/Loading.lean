import ClusterAudit.Proofs.Store.Contents
import ClusterAudit.Proofs.Store.Isolation

/-!
# Loading a kind

A load makes all its changes or none (`Store.load_eq`): it is answered according to what the
published snapshot knows of the kind and to the first record that is of another kind, in this order.
A kind that is loaded stays so, and a load is opened only where the kind is not; so along a run no
kind is loaded twice (`SharedStore.nodup_loads`). `Schedule.load_once` puts this together.
-/

namespace ClusterAudit

/-! ## The answer of a load -/

/-- Records go into the table of a kind up to the first that is of another kind, and then none of
them does. -/
theorem Transaction.insertAllInto_eq {t : Transaction} {kind : Kind}
    (h : (Dict.get? t.tables kind).isSome) (records : List Resource) :
    t.insertAllInto kind records = match records.find? (·.kind ≠ kind) with
      | some x => .error (.kindMismatch kind x.kind)
      | none => .ok { t with tables := Change.applyAll t.tables (records.map .insert) } := by
  induction records generalizing t with
  | nil => rfl
  | cons r rest ih =>
    rw [insertAllInto, insertInto]
    by_cases hr : r.kind = kind
    · subst hr
      obtain ⟨replaced, hinsert⟩ := insert_of_isSome h
      have hkept : (Dict.get? (t.apply (.insert r)).tables r.kind).isSome :=
        (Change.isSome_get?_applyAll t.tables [.insert r] r.kind).trans h
      rw [if_pos rfl, hinsert, List.find?_cons_of_neg (by simp)]
      exact ih hkept
    · rw [if_neg hr, List.find?_cons_of_pos (by simpa using hr)]
      rfl

/-- A load of an unknown kind fails; one of a loaded kind does nothing; any other fails at the first
record that is of another kind, or makes all its changes in the next version. -/
theorem Store.load_eq (s : Store) (kind : Kind) (records : List Resource) :
    s.load kind records = match s.published.table kind with
      | .error e => .error e
      | .ok t =>
        if t.loaded then .ok (s, false)
        else match records.find? (·.kind ≠ kind) with
          | some x => .error (.kindMismatch kind x.kind)
          | none => .ok (s.commit ⟨Change.applyAll s.published.tables (Change.ofLoad kind records),
              s.published.version⟩, true) := by
  rw [load, Transaction.isLoaded]
  show Except.bind ((s.published.table kind).map _) _ = _
  cases ht : s.published.table kind with
  | error e => rfl
  | ok t =>
    have hsome : (Dict.get? s.beginWrite.tables kind).isSome := by
      rw [show Dict.get? s.beginWrite.tables kind = some t from Tables.table_eq_ok_iff.1 ht]
      rfl
    simp only [Except.map, Except.bind]
    split
    · rfl
    · rw [Transaction.insertAllInto_eq hsome]
      cases records.find? (·.kind ≠ kind) with
      | some x => rfl
      | none =>
        have hkept : (Dict.get? (Change.applyAll s.beginWrite.tables (records.map .insert))
            kind).isSome := by rwa [Change.isSome_get?_applyAll]
        have hmark := Transaction.markLoaded_of_isSome
          (t := { s.beginWrite with
            tables := Change.applyAll s.beginWrite.tables (records.map .insert) }) hkept
        simp only [bind, Except.bind, hmark]
        rw [Change.ofLoad, Change.applyAll_append]
        rfl

/-- The answer of a load: an unknown kind fails, a loaded one is left alone whatever the records
are, and otherwise the first record of another kind is named, if there is one. -/
theorem Store.map_load {s : Store} {r : Registry} {log : List (List Change)}
    (h : s.published = .replay r log) (kind : Kind) (records : List Resource) :
    (s.load kind records).map (·.2) =
      if r.contains kind then
        match s.published.isLoaded kind, records.find? (·.kind ≠ kind) with
        | .ok true, _ => .ok false
        | _, some x => .error (.kindMismatch kind x.kind)
        | _, none => .ok true
      else .error (.unknownKind kind) := by
  have htable := Snapshot.table_replay r log kind
  rw [← h] at htable
  rw [load_eq, Snapshot.isLoaded]
  cases hr : r.contains kind with
  | false =>
    rw [hr] at htable
    rw [htable]
    rfl
  | true =>
    rw [hr, if_pos rfl] at htable
    obtain ⟨t, ht⟩ : ∃ t, s.published.table kind = .ok t := ⟨_, htable⟩
    rw [ht]
    simp only [Except.map, if_true]
    cases t.loaded with
    | true => rfl
    | false => cases records.find? (·.kind ≠ kind) <;> rfl

/-! ## The effect of a load -/

namespace Change

variable {kind other : Kind} {records : List Resource}

/-- A load inserts its records in the table of their kind. -/
theorem inserted_ofLoad (h : ∀ x ∈ records, x.kind = kind) :
    inserted kind (ofLoad kind records) = records := by
  induction records with
  | nil => rfl
  | cons r rest ih =>
    obtain rfl : r.kind = kind := h r List.mem_cons_self
    show inserted r.kind (insert r :: ofLoad r.kind rest) = _
    rw [inserted_insert, ih fun x hx => h x (List.mem_cons_of_mem _ hx)]

/-- Changes to other kinds leave the table of a kind alone. -/
theorem get?_applyAll_of_ne {ts : Tables} {changes : List Change}
    (h : ∀ c ∈ changes, kind ≠ c.kind) :
    Dict.get? (applyAll ts changes) kind = Dict.get? ts kind := by
  induction changes generalizing ts with
  | nil => rfl
  | cons c rest ih =>
    rw [applyAll_cons, ih fun x hx => h x (List.mem_cons_of_mem _ hx),
      get?_apply_of_ne (h c List.mem_cons_self)]

/-- A load stores its records in the table of their kind and marks it. -/
theorem get?_applyAll_ofLoad (ts : Tables) (h : ∀ x ∈ records, x.kind = kind) :
    Dict.get? (applyAll ts (ofLoad kind records)) kind =
      (Dict.get? ts kind).map fun t => (t.insertAll records).markLoaded := by
  have hmark : markLoaded kind ∈ ofLoad kind records :=
    List.mem_append_right _ List.mem_cons_self
  simp only [get?_applyAll, if_pos hmark, inserted_ofLoad h]

/-- A load makes no change to the table of another kind. -/
theorem get?_applyAll_ofLoad_of_ne (ts : Tables) (h : ∀ x ∈ records, x.kind = kind)
    (hother : other ≠ kind) :
    Dict.get? (applyAll ts (ofLoad kind records)) other = Dict.get? ts other := by
  refine get?_applyAll_of_ne fun c hc => ?_
  rcases List.mem_append.1 hc with hc | hc
  · obtain ⟨x, hx, rfl⟩ := List.mem_map.1 hc
    show other ≠ x.kind
    rwa [h x hx]
  · obtain rfl := List.mem_singleton.1 hc
    exact hother

end Change

/-- What a load makes of a snapshot: in the next version the table of the kind is loaded and has the
records, the last one of each name, in place of those of the same names; the other tables stay. -/
structure Snapshot.Loads (kind : Kind) (records : List Resource) (s s' : Snapshot) : Prop where
  version : s'.version = s.version + 1
  others : ∀ other, other ≠ kind → s'.table other = s.table other
  isLoaded : s'.isLoaded kind = .ok true
  get? : ∀ fqn, s'.get? kind fqn = (s.get? kind fqn).map fun old => (latest? fqn records).or old

/-- A load is answered with true if the kind is known and not loaded and all records are of it; then
it makes all its changes. -/
theorem Store.of_load {s s' : Store} {kind : Kind} {records : List Resource}
    (h : s.load kind records = .ok (s', true)) :
    (∃ t, s.published.table kind = .ok t) ∧ (∀ x ∈ records, x.kind = kind) ∧
      s' = s.commit ⟨Change.applyAll s.published.tables (Change.ofLoad kind records),
        s.published.version⟩ := by
  rw [load_eq] at h
  cases ht : s.published.table kind with
  | error e => simp [ht] at h
  | ok t =>
    simp only [ht] at h
    split at h
    · cases h
    · split at h
      · cases h
      · rename_i hfind
        cases h
        exact ⟨⟨t, rfl⟩, by simpa using hfind, rfl⟩

/-- A load that is answered with true loads the records. -/
theorem Store.loads_of_load {s s' : Store} {kind : Kind} {records : List Resource}
    (h : s.load kind records = .ok (s', true)) :
    s.published.Loads kind records s'.published := by
  obtain ⟨⟨t, ht⟩, hkinds, rfl⟩ := of_load h
  have htable : Tables.table
      (Change.applyAll s.published.tables (Change.ofLoad kind records)) kind =
        .ok (t.insertAll records).markLoaded := by
    rw [Tables.table_eq_ok_iff, Change.get?_applyAll_ofLoad _ hkinds, Tables.table_eq_ok_iff.1 ht]
    rfl
  refine ⟨rfl, fun other hother => ?_, map_eq_ok_iff.2 ⟨_, htable, rfl⟩, fun fqn => ?_⟩
  · rw [commit, Snapshot.table, Snapshot.table, Tables.table, Tables.table,
      Change.get?_applyAll_ofLoad_of_ne _ hkinds hother]
  · rw [Snapshot.get?, Snapshot.get?, ht]
    exact map_eq_ok_iff.2 ⟨_, htable, Table.get?_insertAll t records fqn⟩

/-- A load that is answered with false leaves the store alone. -/
theorem Store.eq_of_load {s s' : Store} {kind : Kind} {records : List Resource}
    (h : s.load kind records = .ok (s', false)) : s' = s := by
  rw [load_eq] at h
  split at h
  · cases h
  · split at h
    · cases h
      rfl
    · split at h <;> cases h

/-! ## Loads along a run -/

section replay
variable {r : Registry} {log log' : List (List Change)} {kind : Kind}

/-- A replay knows of the registered kinds whether they are loaded: whether some transaction marked
them. -/
theorem Snapshot.isLoaded_replay (r : Registry) (log : List (List Change)) (kind : Kind) :
    (replay r log).isLoaded kind =
      if r.contains kind then .ok (.markLoaded kind ∈ log.flatten)
      else .error (.unknownKind kind) := by
  rw [isLoaded, table_replay]
  split
  · by_cases h : .markLoaded kind ∈ log.flatten
    · simp [h, Except.map, Table.markLoaded]
    · rw [if_neg h, Except.map, Table.ofRecords, Table.loaded_insertAll, decide_eq_false h]
      rfl
  · rfl

/-- A replay has a kind loaded if some transaction marked it. -/
theorem Snapshot.isLoaded_replay_iff : (replay r log).isLoaded kind = .ok true ↔
    r.contains kind ∧ .markLoaded kind ∈ log.flatten := by
  rw [isLoaded_replay]
  split <;> simp [*]

/-- A kind that is loaded stays loaded when more transactions are committed. -/
theorem Snapshot.isLoaded_replay_of_prefix (h : log <+: log')
    (hloaded : (replay r log).isLoaded kind = .ok true) :
    (replay r log').isLoaded kind = .ok true := by
  obtain ⟨hkind, hmark⟩ := isLoaded_replay_iff.1 hloaded
  obtain ⟨rest, rfl⟩ := h
  refine isLoaded_replay_iff.2 ⟨hkind, ?_⟩
  rw [List.flatten_append]
  exact List.mem_append_left _ hmark

end replay

namespace SharedStore

/-- The kind that the open transaction is loading. -/
def loading? (s : SharedStore) : Option Kind := (s.writer.bind (·.load)).map (·.1)

/-- The kind whose load a request completes, so that the client is told that it was loaded. -/
def completed? (s : SharedStore) (c : Client) (q : Request) : Option Kind :=
  if q = .proceed ∧ (s.step c q).2 = .flag true then s.loading? else none

/-- The kinds whose loads are completed along a schedule, in order. -/
def loads (s : SharedStore) : Schedule → List Kind
  | [] => []
  | (c, q) :: rest => (s.completed? c q).toList ++ (s.step c q).1.loads rest

section step
variable {s s' : SharedStore} {c : Client} {q : Request} {kind : Kind} {e : Entry}

/-- A load that is open was open before or is being opened. -/
theorem Moved.loading (h : Moved s e s') (hload : s'.loading? = some kind) :
    s'.store = s.store ∧
      (s.loading? = some kind ∨ ∃ records, e = .opened (Change.ofLoad kind records)) := by
  cases h with
  | stay => exact ⟨rfl, .inl hload⟩
  | read => exact ⟨rfl, .inl hload⟩
  | opened c load hw =>
    refine ⟨rfl, .inr ?_⟩
    obtain ⟨⟨k, records⟩, hk, rfl⟩ := Option.map_eq_some_iff.1 hload
    obtain rfl : load = some (k, records) := hk
    exact ⟨records, rfl⟩
  | made change hw => cases hload
  | advanced hw =>
    refine ⟨rfl, .inl ?_⟩
    rw [← hload, loading?, hw]
    rfl
  | committed hw => cases hload
  | loaded hw => cases hload
  | dropped => cases hload

/-- A load is opened only if its kind is not loaded. -/
theorem isLoaded_of_opened {records : List Resource}
    (h : q.entry (s.step c q).2 = .opened (Change.ofLoad kind records)) :
    s.store.published.isLoaded kind = .ok false := by
  cases q with
  | load k l =>
    rw [step] at h
    split at h
    · cases h
    · rw [beginLoad] at h
      split at h
      · cases h
      · cases h
      · rename_i hloaded
        have hlast := congrArg List.getLast? (Entry.opened.inj h)
        simp only [Change.ofLoad, List.getLast?_concat, Option.some.injEq,
          Change.markLoaded.injEq] at hlast
        rwa [← hlast]
  | beginWrite =>
    generalize (s.step c .beginWrite).2 = reply at h
    cases reply with
    | done => exact absurd (Entry.opened.inj h) (by simp [Change.ofLoad])
    | refused | flag | version | failed => cases h
  | beginRead | insert | insertInto | markLoaded | commit | abort | proceed =>
    generalize (s.step c _).2 = reply at h
    cases reply <;> cases h

/-- A completed load was open. -/
theorem loading_of_completed (h : s.completed? c q = some kind) : s.loading? = some kind := by
  rw [completed?] at h
  split at h
  · exact h
  · cases h

/-- The kind of a completed load is loaded. -/
theorem isLoaded_of_completed (h : s.completed? c q = some kind) :
    (s.step c q).1.store.published.isLoaded kind = .ok true := by
  have hload := loading_of_completed h
  rw [completed?, Option.ite_none_right_eq_some] at h
  obtain ⟨⟨rfl, hreply⟩, -⟩ := h
  rw [step] at hreply ⊢
  split at hreply
  · rename_i t k rest hw
    have hk : some k = some kind := by
      rw [← hload, loading?, writer_of_held hw]
      rfl
    cases hk
    cases rest with
    | nil =>
      rw [advance] at hreply ⊢
      split at hreply
      · rename_i t' ht
        obtain ⟨table, htable, rfl⟩ := map_eq_ok_iff.1 ht
        refine map_eq_ok_iff.2 ⟨table.markLoaded, ?_, rfl⟩
        exact Tables.table_eq_ok_iff.2 (Dict.get?_insert_self _ _ _)
      · cases hreply
    | cons r rest =>
      rw [advance] at hreply
      split at hreply <;> cases hreply
  · cases hreply

end step

/-- Along a run of a store that follows its ledger, and has open a load only of a kind that is not
loaded, no load is completed of a kind that was loaded before, and none is completed twice. -/
theorem nodup_loads {r : Registry} (schedule : Schedule) {s : SharedStore} {l : Ledger}
    (h : s.Follows r l)
    (hopen : ∀ kind, s.loading? = some kind → s.store.published.isLoaded kind = .ok false) :
    (s.loads schedule).Nodup ∧
      ∀ kind ∈ s.loads schedule, s.store.published.isLoaded kind ≠ .ok true := by
  induction schedule generalizing s l with
  | nil => exact ⟨List.nodup_nil, nofun⟩
  | cons a rest ih =>
    obtain ⟨c, q⟩ := a
    have hmoved := s.moved_step c q
    have hnext := h.moved hmoved
    obtain ⟨hnodup, hnew⟩ := ih hnext fun kind hload => by
      obtain ⟨hstore, hload | ⟨records, hopened⟩⟩ := hmoved.loading hload
      · rw [hstore]
        exact hopen kind hload
      · rw [hstore]
        exact isLoaded_of_opened hopened
    have hkept : ∀ kind, s.store.published.isLoaded kind = .ok true →
        (s.step c q).1.store.published.isLoaded kind = .ok true := by
      intro kind hkind
      rw [h.published] at hkind
      rw [hnext.published]
      exact Snapshot.isLoaded_replay_of_prefix (l.committed_kept_record _) hkind
    rw [loads]
    cases hdone : s.completed? c q with
    | none => exact ⟨hnodup, fun kind hk hkind => hnew kind hk (hkept kind hkind)⟩
    | some kind =>
      refine ⟨List.nodup_cons.2 ⟨fun hk => ?_, hnodup⟩, fun k hk hkind => ?_⟩
      · exact hnew kind hk (isLoaded_of_completed hdone)
      · rcases List.mem_cons.1 hk with rfl | hk
        · rw [hopen k (loading_of_completed hdone)] at hkind
          cases hkind
        · exact hnew k hk (hkept k hkind)

/-! ## The load that nobody interrupts completes what it is answered -/

/-- Without open transaction no load can be completed by going on. -/
theorem loads_proceed_of_free {s : SharedStore} (h : s.writer = none) (c : Client) (n : Nat) :
    s.loads (.replicate n (c, .proceed)) = [] := by
  have hheld : s.held? c = none := by rw [held?, h, Option.filter_none]
  have hstep : s.step c .proceed = (s, .refused) := by rw [step, hheld]
  induction n with
  | zero => rfl
  | succ n ih =>
    rw [List.replicate_succ, loads, completed?, hstep]
    exact ih

/-- A load that is gone on with is completed if its records can be stored. -/
theorem loads_proceed {s : SharedStore} {c : Client} {t : Transaction} {kind : Kind}
    (rest : List Resource) (h : s.writer = some ⟨c, t, some (kind, rest)⟩) :
    s.loads (.replicate (rest.length + 1) (c, .proceed)) =
      match t.insertAllInto kind rest >>= (·.markLoaded kind) with
      | .ok _ => [kind]
      | .error _ => [] := by
  have hstep : s.step c .proceed = s.advance c t kind rest := by rw [step, held_of_writer h]
  induction rest generalizing s t with
  | nil =>
    have hload : s.loading? = some kind := by
      rw [loading?, h]
      rfl
    rw [advance] at hstep
    rw [List.length_nil, List.replicate_one, loads, loads, List.append_nil, completed?, hload,
      hstep]
    show _ = match t.markLoaded kind with
      | .ok _ => [kind]
      | .error _ => []
    cases t.markLoaded kind with
    | error e => rfl
    | ok t => rfl
  | cons r rest ih =>
    rw [advance] at hstep
    rw [List.length_cons, List.replicate_succ, loads, completed?, hstep, Transaction.insertAllInto]
    cases t.insertInto kind r with
    | error e => exact loads_proceed_of_free rfl c _
    | ok out => exact ih rfl (by rw [step, held_of_writer rfl])

/-- The steps of a load with nobody in between complete the load exactly if the load of a store is
answered with true. -/
theorem loads_load {s : SharedStore} (h : s.writer = none) (c : Client) (kind : Kind)
    (records : List Resource) :
    s.loads ((c, .load kind records) :: .replicate (records.length + 1) (c, .proceed)) =
      match s.store.load kind records with
      | .ok (_, true) => [kind]
      | _ => [] := by
  obtain ⟨store, writer, readers⟩ := s
  obtain rfl : writer = none := h
  rw [loads]
  show (beginLoad _ c kind records).1.loads _ = _
  rw [beginLoad, Store.load]
  cases hloaded : store.beginWrite.isLoaded kind with
  | error e => exact loads_proceed_of_free rfl c _
  | ok done =>
    cases done with
    | true => exact loads_proceed_of_free rfl c _
    | false =>
      rw [loads_proceed records rfl]
      simp only [bind, Except.bind, Bool.false_eq_true, if_false]
      cases store.beginWrite.insertAllInto kind records with
      | error e => rfl
      | ok t =>
        dsimp only
        cases t.markLoaded kind with
        | error e => rfl
        | ok t => rfl

end SharedStore

namespace Schedule

/-- After every schedule, and however it goes on: the load of a kind by a client, with nobody in
between while no transaction is open, is answered by what is known of the kind and then by the first
record of another kind; if it is answered with true it makes all its changes and has completed one
load of the kind, and otherwise it leaves no trace; a kind that is loaded stays so; and no kind is
loaded twice. -/
theorem load_once (r : Registry) (schedule later : Schedule) :
    let s := reach r schedule
    let before := s.store.published
    (∀ kind records, (s.store.load kind records).map (·.2) =
      if r.contains kind then
        match before.isLoaded kind, records.find? (·.kind ≠ kind) with
        | .ok true, _ => .ok false
        | _, some x => .error (.kindMismatch kind x.kind)
        | _, none => .ok true
      else .error (.unknownKind kind)) ∧
    (∀ c kind records, s.writer = none →
      let requests := .load kind records :: .replicate (records.length + 1) .proceed
      let s' := s.after c requests
      match s.store.load kind records with
      | .ok (_, true) => before.Loads kind records s'.store.published ∧
          s.loads (requests.map (c, ·)) = [kind]
      | _ => s' = s ∧ s.loads (requests.map (c, ·)) = []) ∧
    (∀ kind, before.isLoaded kind = .ok true →
      (reach r (schedule ++ later)).store.published.isLoaded kind = .ok true) ∧
    ((SharedStore.create r).loads schedule).Nodup := by
  intro s before
  have h : s.Follows r (run r schedule).2 := follows_run r schedule
  refine ⟨Store.map_load h.published, fun c kind records hfree => ?_, fun kind hkind => ?_, ?_⟩
  · intro requests s'
    have hrequests : requests.map (c, ·) =
        (c, .load kind records) :: .replicate (records.length + 1) (c, .proceed) := by
      rw [List.map_cons, List.map_replicate]
    rw [show s' = _ from SharedStore.after_load hfree c kind records, hrequests,
      SharedStore.loads_load hfree]
    cases hload : s.store.load kind records with
    | error e => exact ⟨rfl, rfl⟩
    | ok out =>
      obtain ⟨store, done⟩ := out
      cases done with
      | true => exact ⟨Store.loads_of_load hload, rfl⟩
      | false =>
        rw [Store.eq_of_load hload]
        exact ⟨rfl, rfl⟩
  · have hlater := follows_run r (schedule ++ later)
    rw [show before = _ from h.published] at hkind
    rw [hlater.published]
    exact Snapshot.isLoaded_replay_of_prefix (committed_kept r schedule later) hkind
  · exact (SharedStore.nodup_loads schedule (SharedStore.follows_create r) nofun).1

end Schedule

end ClusterAudit
