import ClusterAudit.Store

/-!
# Sessions

A session is a store together with what its clients have open: at most one transaction, and
snapshots under names of the clients' choice. Loading and opening a transaction have to wait while
one is open; here they are refused instead.
-/

namespace ClusterAudit

/-- What is wrong with a step of a session. -/
inductive SessionError where
  | store (e : StoreError)
  /-- A transaction is open. -/
  | writerBusy
  /-- No transaction is open. -/
  | noWriter
  /-- No snapshot has the name. -/
  | noReader
  deriving DecidableEq

namespace SessionError

/-- The wording of the error. -/
def message : SessionError → String
  | store e => e.message
  | writerBusy => "a write transaction is open"
  | noWriter => "no write transaction"
  | noReader => "no such read transaction"

end SessionError

/-- A store with what its clients have open. -/
structure Session where
  store : Store
  writer : Option Transaction
  readers : Dict String Snapshot
  deriving DecidableEq

namespace Session

/-- A new store without open transaction or snapshot. -/
def create (r : Registry) : Session := ⟨.create r, none, ∅⟩

/-- The session after a kind is loaded, and whether it was. -/
def load (s : Session) (kind : Kind) (records : List Resource) :
    Except SessionError (Session × Bool) :=
  if s.writer.isSome then .error .writerBusy
  else match s.store.load kind records with
    | .ok (store, done) => .ok ({ s with store }, done)
    | .error e => .error (.store e)

/-- The session with a transaction open. -/
def beginWrite (s : Session) : Except SessionError Session :=
  if s.writer.isSome then .error .writerBusy
  else .ok { s with writer := some s.store.beginWrite }

/-- The session with the published snapshot open under a name; an older one of the name is closed.
-/
def beginRead (s : Session) (name : String) : Session :=
  { s with readers := s.readers.insert name s.store.beginRead }

/-- The snapshot of a name; without name the published one. -/
def reader (s : Session) : Option String → Except SessionError Snapshot
  | none => .ok s.store.beginRead
  | some name => match s.readers.get? name with
    | some snapshot => .ok snapshot
    | none => .error .noReader

/-- What a step makes of the open transaction, which stays open. -/
def withWriter {α : Type} (s : Session) (step : Transaction → Except StoreError (Transaction × α)) :
    Except SessionError (Session × α) :=
  match s.writer with
  | none => .error .noWriter
  | some t => match step t with
    | .ok (t, a) => .ok ({ s with writer := some t }, a)
    | .error e => .error (.store e)

/-- The session with the open transaction published. -/
def commit (s : Session) : Except SessionError Session :=
  match s.writer with
  | none => .error .noWriter
  | some t => .ok { s with store := s.store.commit t, writer := none }

/-- The session with the open transaction forgotten. -/
def abort (s : Session) : Except SessionError Session :=
  if s.writer.isSome then .ok { s with writer := none } else .error .noWriter

end Session

end ClusterAudit
