import ClusterAudit.Proofs.Store.Replay

/-!
# Many clients of one store

Clients send their requests to one store in any order (`Schedule`); `SharedStore.step` is what one
request does. At most one transaction is open at a time, and only its owner can use it. A load holds
the transaction from its first record to its last, and others may read in between; taken in one go
it is the load of a store (`SharedStore.after_load`). A transaction taken in one go publishes all
its changes (`SharedStore.after_transaction`). A snapshot that was opened for reading is kept for
good.

Beside the store a `Ledger` is kept that knows nothing of tables: it notes which changes each
transaction made and which transactions were committed.
-/

namespace ClusterAudit

/-! ## Requests -/

/-- Who asks something of a store. -/
abbrev Client := Nat

/-- What a client asks of a store. -/
inductive Request where
  /-- Open the published snapshot for reading. -/
  | beginRead
  /-- Open a transaction. -/
  | beginWrite
  | insert (r : Resource)
  | insertInto (kind : Kind) (r : Resource)
  | markLoaded (kind : Kind)
  | commit
  /-- Forget the open transaction, that of a load included; dropping it is the same. -/
  | abort
  /-- Start to load a kind. -/
  | load (kind : Kind) (records : List Resource)
  /-- Go on with the load that was started: store its next record, or finish it. -/
  | proceed
  deriving DecidableEq

/-- What a client is told. -/
inductive Reply where
  /-- Another transaction is open, or the client has none that the request could be about. -/
  | refused
  | done
  | flag (b : Bool)
  | version (n : Nat)
  | failed (e : StoreError)
  deriving DecidableEq

/-- The client that has the open transaction. -/
structure Writer where
  client : Client
  transaction : Transaction
  /-- The kind that is being loaded and the records still to store; nothing outside a load. -/
  load : Option (Kind × List Resource)
  deriving DecidableEq

/-- The changes that a transaction is still going to make, if its load is not given up. -/
def Writer.outstanding (w : Writer) : List Change :=
  match w.load with
  | none => []
  | some (kind, rest) => Change.ofLoad kind rest

/-- A store with what its clients have open. -/
structure SharedStore where
  store : Store
  writer : Option Writer
  /-- Every snapshot that was opened for reading, in order. -/
  readers : List Snapshot
  deriving DecidableEq

namespace SharedStore

/-- A new store that nobody uses yet. -/
def create (r : Registry) : SharedStore := ⟨.create r, none, []⟩

/-- The open transaction, if it is the client's. -/
def held? (s : SharedStore) (c : Client) : Option Writer := s.writer.filter (·.client = c)

/-- The store without an open transaction. -/
def release (s : SharedStore) : SharedStore := { s with writer := none }

/-- The store with a transaction published and closed. -/
def publish (s : SharedStore) (t : Transaction) : SharedStore :=
  { s with store := s.store.commit t, writer := none }

/-- What a client makes of its transaction outside of a load. -/
def withOwn (s : SharedStore) (c : Client) (f : Transaction → SharedStore × Reply) :
    SharedStore × Reply :=
  match s.held? c with
  | some ⟨_, t, none⟩ => f t
  | _ => (s, .refused)

/-- The store after a change to a client's transaction; a change that fails is not made. -/
def keep (s : SharedStore) (c : Client) : Except StoreError (Transaction × Reply) →
    SharedStore × Reply
  | .ok (t, reply) => ({ s with writer := some ⟨c, t, none⟩ }, reply)
  | .error e => (s, .failed e)

/-- The start of a load: the transaction is kept only if there is something to do. -/
def beginLoad (s : SharedStore) (c : Client) (kind : Kind) (records : List Resource) :
    SharedStore × Reply :=
  match s.store.beginWrite.isLoaded kind with
  | .error e => (s, .failed e)
  | .ok true => (s, .flag false)
  | .ok false => ({ s with writer := some ⟨c, s.store.beginWrite, some (kind, records)⟩ }, .done)

/-- One step of a load; a record that is refused ends it. -/
def advance (s : SharedStore) (c : Client) (t : Transaction) (kind : Kind) :
    List Resource → SharedStore × Reply
  | [] => match t.markLoaded kind with
    | .ok t => (s.publish t, .flag true)
    | .error e => (s.release, .failed e)
  | r :: rest => match t.insertInto kind r with
    | .ok (t, _) => ({ s with writer := some ⟨c, t, some (kind, rest)⟩ }, .done)
    | .error e => (s.release, .failed e)

/-- What a request of a client does, and what the client is told. -/
def step (s : SharedStore) (c : Client) : Request → SharedStore × Reply
  | .beginRead =>
    ({ s with readers := s.readers ++ [s.store.beginRead] }, .version s.store.beginRead.version)
  | .beginWrite =>
    if s.writer.isSome then (s, .refused)
    else ({ s with writer := some ⟨c, s.store.beginWrite, none⟩ }, .done)
  | .insert r => s.withOwn c fun t => s.keep c ((t.insert r).map fun (t, b) => (t, .flag b))
  | .insertInto kind r =>
    s.withOwn c fun t => s.keep c ((t.insertInto kind r).map fun (t, b) => (t, .flag b))
  | .markLoaded kind => s.withOwn c fun t => s.keep c ((t.markLoaded kind).map fun t => (t, .done))
  | .commit => s.withOwn c fun t => (s.publish t, .version (t.base + 1))
  | .abort => match s.held? c with
    | some _ => (s.release, .done)
    | none => (s, .refused)
  | .load kind records =>
    if s.writer.isSome then (s, .refused) else s.beginLoad c kind records
  | .proceed => match s.held? c with
    | some ⟨_, t, some (kind, rest)⟩ => s.advance c t kind rest
    | _ => (s, .refused)

/-! ## A load that nobody interrupts -/

/-- The store after the requests of one client with nobody else in between. -/
def after (s : SharedStore) (c : Client) (requests : List Request) : SharedStore :=
  requests.foldl (fun s q => (s.step c q).1) s

theorem after_cons (s : SharedStore) (c : Client) (q : Request) (rest : List Request) :
    s.after c (q :: rest) = (s.step c q).1.after c rest := rfl

theorem after_append (s : SharedStore) (c : Client) (first rest : List Request) :
    s.after c (first ++ rest) = (s.after c first).after c rest :=
  List.foldl_append

/-- There is nothing to go on with where no transaction is open. -/
theorem after_proceed_of_free {s : SharedStore} (h : s.writer = none) (c : Client) (n : Nat) :
    s.after c (.replicate n .proceed) = s := by
  have hheld : s.held? c = none := by rw [held?, h, Option.filter_none]
  induction n with
  | zero => rfl
  | succ n ih =>
    rw [List.replicate_succ, after_cons, step, hheld]
    exact ih

/-- A client that holds a transaction holds it under its own name. -/
theorem held_of_writer {s : SharedStore} {c : Client} {t : Transaction}
    {load : Option (Kind × List Resource)} (h : s.writer = some ⟨c, t, load⟩) :
    s.held? c = some ⟨c, t, load⟩ := by
  rw [held?, h]
  exact Option.filter_some_pos (decide_eq_true rfl)

/-- A started load that is gone on with stores the records that are left and publishes, or leaves no
trace. -/
theorem after_proceed {s : SharedStore} {c : Client} {t : Transaction} {kind : Kind}
    (rest : List Resource) (h : s.writer = some ⟨c, t, some (kind, rest)⟩) :
    s.after c (.replicate (rest.length + 1) .proceed) =
      match t.insertAllInto kind rest >>= (·.markLoaded kind) with
      | .ok t => s.publish t
      | .error _ => s.release := by
  induction rest generalizing s t with
  | nil =>
    show (s.step c .proceed).1 = _
    rw [step, held_of_writer h]
    show (s.advance c t kind []).1 = match t.markLoaded kind with
      | .ok t => s.publish t
      | .error _ => s.release
    rw [advance]
    cases t.markLoaded kind with
    | error e => rfl
    | ok t => rfl
  | cons r rest ih =>
    rw [List.length_cons, List.replicate_succ, after_cons, step, held_of_writer h]
    show (s.advance c t kind (r :: rest)).1.after c _ = _
    rw [advance, Transaction.insertAllInto]
    cases t.insertInto kind r with
    | error e => exact after_proceed_of_free rfl c _
    | ok out => exact ih rfl

/-- The steps of a load, taken one after the other by a client with nobody in between, are the load
of a store. -/
theorem after_load {s : SharedStore} (h : s.writer = none) (c : Client) (kind : Kind)
    (records : List Resource) :
    s.after c (.load kind records :: .replicate (records.length + 1) .proceed) =
      match s.store.load kind records with
      | .ok (store, _) => { s with store }
      | .error _ => s := by
  obtain ⟨store, writer, readers⟩ := s
  obtain rfl : writer = none := h
  show (beginLoad _ c kind records).1.after c _ = _
  rw [beginLoad, Store.load]
  cases hloaded : store.beginWrite.isLoaded kind with
  | error e => exact after_proceed_of_free rfl c _
  | ok done =>
    cases done with
    | true => exact after_proceed_of_free rfl c _
    | false =>
      rw [after_proceed records rfl]
      simp only [bind, Except.bind, Bool.false_eq_true, if_false]
      cases store.beginWrite.insertAllInto kind records with
      | error e => rfl
      | ok t =>
        dsimp only
        cases t.markLoaded kind with
        | error e => rfl
        | ok t => rfl

/-! ## A transaction that nobody interrupts -/

/-- The request for a change to the open transaction. -/
def requestOf : Change → Request
  | .insert r => .insert r
  | .markLoaded kind => .markLoaded kind

/-- A client makes a change to its transaction wherever there is a table of the kind. -/
theorem step_requestOf {s : SharedStore} {c : Client} {t : Transaction} {change : Change}
    (h : s.writer = some ⟨c, t, none⟩) (hkind : (Dict.get? t.tables change.kind).isSome) :
    (s.step c (requestOf change)).1 = { s with writer := some ⟨c, t.apply change, none⟩ } := by
  cases change with
  | insert r =>
    obtain ⟨replaced, ht⟩ := Transaction.insert_of_isSome hkind
    rw [requestOf, step, withOwn, held_of_writer h]
    show (s.keep c ((t.insert r).map _)).1 = _
    rw [ht]
    rfl
  | markLoaded kind =>
    have ht : t.markLoaded kind = .ok _ := Transaction.markLoaded_of_isSome hkind
    rw [requestOf, step, withOwn, held_of_writer h]
    show (s.keep c ((t.markLoaded kind).map _)).1 = _
    rw [ht]
    rfl

/-- A client makes all its changes one after the other. -/
theorem after_requests {s : SharedStore} {c : Client} {t : Transaction} {changes : List Change}
    (h : s.writer = some ⟨c, t, none⟩)
    (hkinds : ∀ x ∈ changes, (Dict.get? t.tables x.kind).isSome) :
    s.after c (changes.map requestOf) = { s with
      writer := some ⟨c, { t with tables := Change.applyAll t.tables changes }, none⟩ } := by
  induction changes generalizing s t with
  | nil =>
    obtain ⟨store, writer, readers⟩ := s
    obtain rfl := h
    rfl
  | cons x rest ih =>
    have hrest : ∀ y ∈ rest, (Dict.get? (t.apply x).tables y.kind).isSome := fun y hy =>
      (Change.isSome_get?_applyAll t.tables [x] y.kind).trans
        (hkinds y (List.mem_cons_of_mem _ hy))
    rw [List.map_cons, after_cons, step_requestOf h (hkinds x List.mem_cons_self)]
    exact ih (s := { s with writer := some ⟨c, t.apply x, none⟩ }) rfl hrest

/-- A client that opens a transaction where none is open, makes changes to registered kinds and
commits adds one transaction with these changes to the log of the published snapshot. -/
theorem after_transaction {s : SharedStore} {r : Registry} {log : List (List Change)}
    (hregistry : s.store.registry = r) (hpublished : s.store.published = .replay r log)
    (hfree : s.writer = none) (c : Client) {changes : List Change}
    (hkinds : ∀ x ∈ changes, r.contains x.kind) :
    (s.after c (.beginWrite :: (changes.map requestOf ++ [.commit]))).store.published =
      .replay r (log ++ [changes]) := by
  let t := s.store.beginWrite
  have hopen : (s.step c .beginWrite).1 = { s with writer := some ⟨c, t, none⟩ } := by
    rw [step, hfree]
    rfl
  have htables : t.tables = Tables.replay r log.flatten := congrArg Snapshot.tables hpublished
  have hbase : t.base = log.length := congrArg Snapshot.version hpublished
  have hhas : ∀ x ∈ changes, (Dict.get? t.tables x.kind).isSome := by
    intro x hx
    rw [htables, Tables.isSome_get?_replay]
    exact hkinds x hx
  rw [after_cons, hopen, after_append, after_requests rfl hhas, after_cons, step, withOwn,
    held_of_writer rfl]
  show (⟨s.store.registry, Change.applyAll t.tables changes, t.base + 1⟩ : Snapshot) = _
  rw [hregistry, htables, hbase, Snapshot.replay_concat, Tables.replay_append]

end SharedStore

/-! ## The ledger -/

/-- What a request and its reply say about transactions. -/
inductive Entry where
  | nothing
  /-- A transaction was opened that is to make these changes. -/
  | opened (planned : List Change)
  /-- The open transaction made one more change. -/
  | made (c : Change)
  | commit
  | drop
  deriving DecidableEq

/-- The entry of a request with its reply. A load makes all its changes or none. -/
def Request.entry : Request → Reply → Entry
  | .beginWrite, .done => .opened []
  | .insert r, .flag _ => .made (.insert r)
  | .insertInto _ r, .flag _ => .made (.insert r)
  | .markLoaded kind, .done => .made (.markLoaded kind)
  | .commit, .version _ => .commit
  | .abort, .done => .drop
  | .load kind records, .done => .opened (Change.ofLoad kind records)
  | .proceed, .flag _ => .commit
  | .proceed, .failed _ => .drop
  | _, _ => .nothing

/-- The changes of the committed transactions in the order of their commits, and those of the open
one. -/
structure Ledger where
  committed : List (List Change)
  pending : List Change
  deriving DecidableEq

namespace Ledger

/-- The ledger before the first request. -/
def empty : Ledger := ⟨[], []⟩

/-- The ledger with an entry. -/
def record (l : Ledger) : Entry → Ledger
  | .nothing => l
  | .opened planned => { l with pending := planned }
  | .made c => { l with pending := l.pending ++ [c] }
  | .commit => ⟨l.committed ++ [l.pending], []⟩
  | .drop => { l with pending := [] }

/-- Committed transactions stay committed. -/
theorem committed_kept_record (l : Ledger) (e : Entry) :
    l.committed <+: (l.record e).committed := by
  cases e with
  | nothing | opened | made | drop => exact List.prefix_refl _
  | commit => exact List.prefix_append _ _

end Ledger

/-! ## Schedules -/

/-- Requests in the order in which they take effect, each with the client that makes it. -/
abbrev Schedule := List (Client × Request)

namespace Schedule

/-- The store and the ledger after one more request. -/
def next (p : SharedStore × Ledger) (a : Client × Request) : SharedStore × Ledger :=
  let (s, reply) := p.1.step a.1 a.2
  (s, p.2.record (a.2.entry reply))

/-- The store and the ledger after a schedule. -/
def run (r : Registry) (schedule : Schedule) : SharedStore × Ledger :=
  schedule.foldl next (.create r, .empty)

/-- The store after a schedule. -/
def reach (r : Registry) (schedule : Schedule) : SharedStore := (run r schedule).1

/-- The committed transactions of a schedule, in the order of their commits. -/
def committed (r : Registry) (schedule : Schedule) : List (List Change) :=
  (run r schedule).2.committed

end Schedule

end ClusterAudit
