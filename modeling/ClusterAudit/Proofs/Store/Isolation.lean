import ClusterAudit.Proofs.Store.Clients

/-!
# What readers see

Every snapshot anybody ever sees is the replay of the first transactions of the ledger, as many as
its version says: `Schedule.snapshots_replay_ledger`. What one step does is said once, by
`SharedStore.Moved` and `SharedStore.moved_step`; the invariant that carries the statement is
`SharedStore.Follows`, and `Schedule.follows_run` has it for every run.

Versions are natural numbers here: the statement is about fewer than `2 ^ 64` commits.
-/

namespace ClusterAudit

namespace SharedStore

/-! ## What a step does -/

/-- What a step can do, by the entry it makes in the ledger. -/
inductive Moved (s : SharedStore) : Entry → SharedStore → Prop
  | stay : Moved s .nothing s
  | read : Moved s .nothing { s with readers := s.readers ++ [s.store.published] }
  /-- A transaction is opened on the published snapshot, and only if none is open. -/
  | opened (c : Client) (load : Option (Kind × List Resource)) : s.writer = none →
      Moved s (.opened (Writer.outstanding ⟨c, s.store.beginWrite, load⟩))
        { s with writer := some ⟨c, s.store.beginWrite, load⟩ }
  | made {c : Client} {t : Transaction} (change : Change) : s.writer = some ⟨c, t, none⟩ →
      Moved s (.made change) { s with writer := some ⟨c, t.apply change, none⟩ }
  /-- A load makes the first of the changes that were still to make. -/
  | advanced {c : Client} {t : Transaction} {kind : Kind} {r : Resource} {rest : List Resource} :
      s.writer = some ⟨c, t, some (kind, r :: rest)⟩ →
      Moved s .nothing { s with writer := some ⟨c, t.apply (.insert r), some (kind, rest)⟩ }
  | committed {c : Client} {t : Transaction} : s.writer = some ⟨c, t, none⟩ →
      Moved s .commit (s.publish t)
  /-- A load makes the last change and publishes. -/
  | loaded {c : Client} {t : Transaction} {kind : Kind} : s.writer = some ⟨c, t, some (kind, [])⟩ →
      Moved s .commit (s.publish (t.apply (.markLoaded kind)))
  | dropped : Moved s .drop s.release

/-- A transaction that a client holds is the open one. -/
theorem writer_of_held {s : SharedStore} {c : Client} {w : Writer} (h : s.held? c = some w) :
    s.writer = some ⟨c, w.transaction, w.load⟩ := by
  obtain ⟨hw, hc⟩ := Option.filter_eq_some_iff.1 h
  rw [hw, ← of_decide_eq_true hc]

/-- A change to a client's transaction is made or fails. -/
theorem moved_keep {s : SharedStore} {c : Client} {q : Request} (change : Change)
    {f : Transaction → Except StoreError (Transaction × Reply)}
    (hf : ∀ t t' reply, f t = .ok (t', reply) →
      t' = t.apply change ∧ q.entry reply = .made change)
    (hrefused : q.entry .refused = .nothing) (hfailed : ∀ e, q.entry (.failed e) = .nothing) :
    Moved s (q.entry (s.withOwn c fun t => s.keep c (f t)).2)
      (s.withOwn c fun t => s.keep c (f t)).1 := by
  rw [withOwn]
  split
  · rename_i w t hw
    cases hft : f t with
    | error e =>
      simp only [keep, hfailed]
      exact .stay
    | ok out =>
      obtain ⟨ht, he⟩ := hf t out.1 out.2 hft
      simp only [keep, he, ht]
      exact .made change (writer_of_held hw)
  · rw [hrefused]
    exact .stay

/-- Every request moves the store in one of those ways. -/
theorem moved_step (s : SharedStore) (c : Client) (q : Request) :
    Moved s (q.entry (s.step c q).2) (s.step c q).1 := by
  cases q with
  | beginRead => exact .read
  | beginWrite =>
    rw [step]
    split
    · exact .stay
    · exact .opened c none (by simpa using ‹¬ s.writer.isSome = true›)
  | insert r =>
    refine moved_keep (.insert r) (fun t t' reply h => ?_) rfl fun _ => rfl
    obtain ⟨⟨u, b⟩, hu, he⟩ := map_eq_ok_iff.1 h
    cases he
    exact ⟨Transaction.eq_of_insert hu, rfl⟩
  | insertInto kind r =>
    refine moved_keep (.insert r) (fun t t' reply h => ?_) rfl fun _ => rfl
    obtain ⟨⟨u, b⟩, hu, he⟩ := map_eq_ok_iff.1 h
    cases he
    exact ⟨Transaction.eq_of_insertInto hu, rfl⟩
  | markLoaded kind =>
    refine moved_keep (.markLoaded kind) (fun t t' reply h => ?_) rfl fun _ => rfl
    obtain ⟨u, hu, he⟩ := map_eq_ok_iff.1 h
    cases he
    exact ⟨Transaction.eq_of_markLoaded hu, rfl⟩
  | commit =>
    rw [step, withOwn]
    split
    · rename_i hw
      exact .committed (writer_of_held hw)
    · exact .stay
  | abort =>
    rw [step]
    split
    · exact .dropped
    · exact .stay
  | load kind records =>
    rw [step]
    split
    · exact .stay
    · rename_i hw
      rw [beginLoad]
      split
      · exact .stay
      · exact .stay
      · exact .opened c (some (kind, records)) (by simpa using hw)
  | proceed =>
    rw [step]
    split
    · rename_i t kind rest hw
      have hw := writer_of_held hw
      cases rest with
      | nil =>
        rw [advance]
        split
        · rename_i ht
          rw [Transaction.eq_of_markLoaded ht]
          exact .loaded hw
        · exact .dropped
      | cons r rest =>
        rw [advance]
        split
        · rename_i ht
          rw [Transaction.eq_of_insertInto ht]
          exact .advanced hw
        · exact .dropped
    · exact .stay

/-! ## The invariant -/

/-- A store follows a ledger: the published snapshot is the replay of the committed transactions, an
open transaction comes next and its tables, once the changes still to make are made, are the replay
of those transactions and the pending one, and every snapshot that was opened for reading is the
replay of the first transactions, as many as its version says. -/
structure Follows (r : Registry) (s : SharedStore) (l : Ledger) : Prop where
  registry : s.store.registry = r
  published : s.store.published = .replay r l.committed
  base : ∀ w, s.writer = some w → w.transaction.base = l.committed.length
  tables : ∀ w, s.writer = some w → Change.applyAll w.transaction.tables w.outstanding =
    Tables.replay r (l.committed.flatten ++ l.pending)
  readers : ∀ q ∈ s.readers,
    q.version ≤ l.committed.length ∧ q = .replay r (l.committed.take q.version)

/-- A new store follows the empty ledger. -/
theorem follows_create (r : Registry) : Follows r (create r) .empty where
  registry := rfl
  published := rfl
  base := nofun
  tables := nofun
  readers := nofun

/-- The published snapshot and those that were opened for reading are replays of the first
transactions, as many as their versions say. -/
theorem Follows.eq_replay {r : Registry} {s : SharedStore} {l : Ledger} (h : Follows r s l)
    {q : Snapshot} (hq : q ∈ s.store.published :: s.readers) :
    q = .replay r (l.committed.take q.version) := by
  rcases List.mem_cons.1 hq with rfl | hq
  · rw [h.published]
    simp [Snapshot.replay]
  · exact (h.readers q hq).2

/-- The snapshots opened for reading stay replays when one more transaction is committed. -/
theorem Follows.readers_append {r : Registry} {s : SharedStore} {l : Ledger} (h : Follows r s l)
    (changes : List Change) : ∀ q ∈ s.readers, q.version ≤ (l.committed ++ [changes]).length ∧
      q = .replay r ((l.committed ++ [changes]).take q.version) := by
  intro q hq
  obtain ⟨hle, heq⟩ := h.readers q hq
  refine ⟨by simp only [List.length_append]; omega, ?_⟩
  rwa [List.take_append_of_le_length hle]

/-- A transaction whose tables are the replay of the ledger and the pending changes is published as
the next snapshot. -/
theorem Follows.publish {r : Registry} {s : SharedStore} {l : Ledger} (h : Follows r s l)
    {t : Transaction} (hbase : t.base = l.committed.length)
    (htables : t.tables = Tables.replay r (l.committed.flatten ++ l.pending)) :
    Follows r (s.publish t) (l.record .commit) where
  registry := h.registry
  published := by
    rw [Ledger.record, Snapshot.replay_concat, ← hbase, ← htables, ← h.registry]
    rfl
  base := nofun
  tables := nofun
  readers := h.readers_append l.pending

/-- Every step keeps the store following its ledger. -/
theorem Follows.moved {r : Registry} {s s' : SharedStore} {l : Ledger} {e : Entry}
    (h : Follows r s l) (hm : Moved s e s') : Follows r s' (l.record e) := by
  cases hm with
  | stay => exact h
  | read =>
    refine ⟨h.registry, h.published, h.base, h.tables, fun q hq => ?_⟩
    rcases List.mem_append.1 hq with hq | hq
    · exact h.readers q hq
    · rw [List.mem_singleton.1 hq, h.published]
      simp [Ledger.record, Snapshot.replay]
  | opened c load hw =>
    refine ⟨h.registry, h.published, fun w hw => ?_, fun w hw => ?_, h.readers⟩
    · cases hw
      show s.store.published.version = _
      rw [h.published]
      rfl
    · cases hw
      show Change.applyAll s.store.published.tables _ = _
      rw [h.published, Tables.replay_append]
      rfl
  | made change hw =>
    have hb := h.base _ hw
    have ht := h.tables _ hw
    refine ⟨h.registry, h.published, fun w hw' => ?_, fun w hw' => ?_, h.readers⟩
    · cases hw'
      exact hb
    · cases hw'
      rw [Ledger.record, ← List.append_assoc, Tables.replay_append, ← ht]
      rfl
  | advanced hw =>
    have hb := h.base _ hw
    have ht := h.tables _ hw
    refine ⟨h.registry, h.published, fun w hw' => ?_, fun w hw' => ?_, h.readers⟩
    · cases hw'
      exact hb
    · cases hw'
      exact ht
  | committed hw => exact h.publish (h.base _ hw) (h.tables _ hw)
  | loaded hw => exact h.publish (h.base _ hw) (h.tables _ hw)
  | dropped =>
    refine ⟨h.registry, h.published, fun w hw => ?_, fun w hw => ?_, h.readers⟩
    · cases hw
    · cases hw

/-- What was opened for reading stays as it is. -/
theorem Moved.readers_kept {s s' : SharedStore} {e : Entry} (h : Moved s e s') :
    s.readers <+: s'.readers := by
  cases h with
  | read => exact List.prefix_append _ _
  | stay | opened | made | advanced | committed | loaded | dropped => exact List.prefix_refl _

/-- A commit publishes the next version, and nothing else publishes anything. -/
theorem Follows.published_moved {r : Registry} {s s' : SharedStore} {l : Ledger} {e : Entry}
    (h : Follows r s l) (hm : Moved s e s') :
    if e = .commit then s'.store.published.version = s.store.published.version + 1
    else s'.store.published = s.store.published := by
  have h' := h.moved hm
  split
  · rename_i he
    rw [h'.published, h.published, he]
    exact List.length_append
  · rename_i he
    rw [h'.published, h.published]
    cases e with
    | commit => exact absurd rfl he
    | nothing | opened | made | drop => rfl

end SharedStore

/-! ## Runs -/

namespace Schedule

/-- One request keeps a store following its ledger. -/
theorem follows_next {r : Registry} {p : SharedStore × Ledger} (h : p.1.Follows r p.2)
    (a : Client × Request) : (next p a).1.Follows r (next p a).2 :=
  h.moved (p.1.moved_step a.1 a.2)

/-- Every run keeps a store following its ledger. -/
theorem follows_foldl {r : Registry} (schedule : Schedule) {p : SharedStore × Ledger}
    (h : p.1.Follows r p.2) :
    (schedule.foldl next p).1.Follows r (schedule.foldl next p).2 := by
  induction schedule generalizing p with
  | nil => exact h
  | cons a rest ih => exact ih (follows_next h a)

/-- A store follows its ledger after every schedule. -/
theorem follows_run (r : Registry) (schedule : Schedule) :
    (reach r schedule).Follows r (run r schedule).2 :=
  follows_foldl schedule (SharedStore.follows_create r)

/-- Along a run readers and committed transactions are only added. -/
theorem grows_foldl (schedule : Schedule) (p : SharedStore × Ledger) :
    p.1.readers <+: (schedule.foldl next p).1.readers ∧
      p.2.committed <+: (schedule.foldl next p).2.committed := by
  induction schedule generalizing p with
  | nil => exact ⟨List.prefix_refl _, List.prefix_refl _⟩
  | cons a rest ih =>
    obtain ⟨hreaders, hcommitted⟩ := ih (next p a)
    exact ⟨(p.1.moved_step a.1 a.2).readers_kept.trans hreaders,
      (p.2.committed_kept_record _).trans hcommitted⟩

/-- The readers of a schedule stay as they are when it goes on. -/
theorem readers_kept (r : Registry) (schedule later : Schedule) :
    (reach r schedule).readers <+: (reach r (schedule ++ later)).readers := by
  rw [reach, reach, run, run, List.foldl_append]
  exact (grows_foldl later _).1

/-- The committed transactions of a schedule stay the first ones when it goes on. -/
theorem committed_kept (r : Registry) (schedule later : Schedule) :
    committed r schedule <+: committed r (schedule ++ later) := by
  rw [committed, committed, run, run, List.foldl_append]
  exact (grows_foldl later _).2

/-- The first transactions of a schedule are also the first of a longer one. -/
theorem take_committed {r : Registry} {schedule : Schedule} {n : Nat} (later : Schedule)
    (h : n ≤ (committed r schedule).length) :
    (committed r (schedule ++ later)).take n = (committed r schedule).take n := by
  obtain ⟨rest, hrest⟩ := committed_kept r schedule later
  rw [← hrest, List.take_append_of_le_length h]

/-- After every schedule of the clients' requests, and however it goes on: the published snapshot is
the replay of the first committed transactions, as many as its version says, and these are all that
were committed; every snapshot that was opened for reading is still the same, and is the replay of
the first committed transactions, as many as its own version says; the next request of any client
raises the published version by one if it commits and leaves the published snapshot alone otherwise;
and while no transaction is open, any client can commit one that makes any changes to registered
kinds. -/
theorem snapshots_replay_ledger (r : Registry) (schedule later : Schedule) :
    let s := reach r schedule
    let log := committed r (schedule ++ later)
    (s.store.published.version = (committed r schedule).length ∧
      s.store.published = .replay r (log.take s.store.published.version)) ∧
    (∀ (i : Nat) (q : Snapshot), s.readers[i]? = some q →
      (reach r (schedule ++ later)).readers[i]? = some q ∧
      q.version ≤ s.store.published.version ∧ q = .replay r (log.take q.version)) ∧
    (∀ (c : Client) (q : Request), if q.entry (s.step c q).2 = .commit
      then (s.step c q).1.store.published.version = s.store.published.version + 1
      else (s.step c q).1.store.published = s.store.published) ∧
    ∀ (c : Client) (changes : List Change), s.writer = none →
      (∀ x ∈ changes, r.contains x.kind) →
      let s' := s.after c (.beginWrite :: (changes.map SharedStore.requestOf ++ [.commit]))
      s'.store.published = .replay r (committed r schedule ++ [changes]) := by
  intro s log
  have h : s.Follows r (run r schedule).2 := follows_run r schedule
  have hversion : s.store.published.version = (committed r schedule).length := by
    rw [h.published]
    rfl
  refine ⟨⟨hversion, ?_⟩, fun i q hq => ?_, fun c q => h.published_moved (s.moved_step c q),
    fun c changes hfree hkinds => ?_⟩
  · rw [take_committed later (Nat.le_of_eq hversion), hversion, List.take_length]
    exact h.published
  · obtain ⟨hle, hreplay⟩ := h.readers q (List.mem_of_getElem? hq)
    refine ⟨?_, hversion ▸ hle, ?_⟩
    · obtain ⟨rest, hrest⟩ := readers_kept r schedule later
      rw [← hrest, List.getElem?_append_left (List.getElem?_eq_some_iff.1 hq).1]
      exact hq
    · rw [take_committed later hle]
      exact hreplay
  · exact SharedStore.after_transaction h.registry h.published hfree c hkinds

/-- A client reads three times while another one loads a pod; it may not write meanwhile, and sees
the pod only when the load is complete. -/
example :
    let pod : Resource := .pod (.ofMeta (.named "a" "x"))
    let s := reach .builtin [(0, .load .pods [pod]), (1, .beginRead), (0, .proceed),
      (1, .beginWrite), (1, .insert pod), (1, .beginRead), (0, .proceed), (1, .beginRead)]
    s.readers.map (fun q => (q.version, (q.count .pods).toOption)) =
      [(0, some 0), (0, some 0), (1, some 1)] := by
  decide

end Schedule

end ClusterAudit
