import Mathlib.Logic.Relation
import Breero.Auth.Service
import Breero.Lib.Locks
import Breero.Lib.Runs

/-!
Requests of `AuthService`, with others between their parts.

A revocation is one `update`: its snapshot has the rows that are committed when it starts; it
waits for each of them that another transaction has locked, and looks at it again. A row that is
committed after the snapshot is not among them.

* `Complete` is the law: nothing that derives from a revoked session can be refreshed;
* `Overtaken` is a revocation that commits after a session that its snapshot does not have.
-/

namespace Breero.Auth
open KeyedTable Transaction Locks

/-! ## Open transactions -/

structure OpenTxn where
  work : Work
  /-- the rows of the snapshot that the `update` is for -/
  seen : Option (List Uuid) := none
  /-- those that it has not come to -/
  remaining : List Uuid := []
  updated : List Uuid := []
  deriving DecidableEq, Repr

inductive Lock
  | session (id : Uuid)
  | user (id : Uuid)
  | resetToken (tokenHash : String)
  deriving DecidableEq, Repr

/-- The columns of the user are flushed right before the `update`. -/
def OpenTxn.locks (txn : OpenTxn) : List Lock :=
  match txn.work with
  | .login _ _ => []
  | .rotate old _ _ => [.session old.id]
  | .revokeOne record _ => [.session record.id]
  | .revoke _ _ reused change =>
    reused.toList.map Lock.session ++
      (change.bind PasswordChange.resetToken).toList.map Lock.resetToken ++
      (if txn.seen.isSome then change.toList.map fun change => Lock.user change.userId else []) ++
      txn.updated.map Lock.session

def Work.target? : Work → Option Target
  | .revoke target _ _ _ => some target
  | _ => none

def Work.rotation? : Work → Option (Uuid × Uuid)
  | .rotate old _ successor => some (old.id, successor.id)
  | _ => none

def covered (t : Table Session) (target : Target) : List Uuid :=
  (t.rows.filter target.covers).map (·.id)

/-- The rows that an `update` for the target is for. -/
def matching (t : Table Session) (target : Target) : List Uuid :=
  (t.rows.filter fun session => target.covers session ∧ session.revokedAt = none).map (·.id)

/-- The insert of a session; the hash of its token is unique. -/
def addSession (t : Table Session) (session : Session) : Option (Table Session) :=
  if t.rows.any (·.tokenHash = session.tokenHash) then none else t.insert? session

/-- The tables that a transaction commits. -/
def OpenTxn.write (txn : OpenTxn) (db : Tables) : Option Tables :=
  match txn.work with
  | .login session passwordHash => do
    let sessions ← addSession db.sessions session
    return { db with sessions, users := rehash db.users session.userId passwordHash }
  | .rotate old now successor => do
    let sessions ← addSession (setRotated db.sessions old.id now) successor
    return { db with sessions }
  | .revokeOne record now => some { db with sessions := setRevoked db.sessions record.id now }
  | .revoke _ now _ change =>
    let db := { db with sessions := revoked db.sessions txn.updated now }
    some (change.elim db fun change => change.write now db)

/-! ## The system -/

structure World where
  db : Tables
  opened : List OpenTxn := []
  /-- each session that was rotated, with the one that it was rotated to -/
  rotations : List (Uuid × Uuid) := []
  /-- the sessions that were there when a revocation of theirs was committed -/
  barred : List Uuid := []

namespace World

inductive Op
  | login (email password : String) (client : Client) (now : Instant)
  | refresh (rawToken : String) (client : Client) (now : Instant)
  | logout (rawToken : String) (now : Instant)
  | logoutAll (userId : Uuid) (now : Instant)
  | changePassword (userId : Uuid) (current new : String) (now : Instant)
  | setInitialPassword (userId : Uuid) (new : String) (now : Instant)
  | resetPassword (raw password : String) (now : Instant)
  /-- the start of the `update` of a revocation -/
  | snapshot (position : Nat)
  /-- the `update` comes to a row of its snapshot -/
  | touch (position : Nat) (id : Uuid)
  | commit (position : Nat)
  | abort (position : Nat)

/-- What a request is about to write, as it reads the tables. -/
def begun (settings : Settings) (db : Tables) : Op → Option Work
  | .login email password client now => (login settings db email password client now).toOption
  | .refresh rawToken client now => (refresh settings db rawToken client now).toOption
  | .logout rawToken now => logout settings db rawToken now
  | .logoutAll userId now => some (logoutAll userId now)
  | .changePassword userId current new now => do
    let user ← db.users.get? userId
    (changePassword settings user current new now).toOption
  | .setInitialPassword userId new now => do
    let user ← db.users.get? userId
    (setInitialPassword settings user new now).toOption
  | .resetPassword raw password now => (resetPassword settings db raw password now).toOption
  | .snapshot _ | .touch _ _ | .commit _ | .abort _ => none

/-- The transaction goes on, unless it waits for a lock. -/
def proceed (w : World) (rest : List OpenTxn) (txn : OpenTxn) : World :=
  if Free OpenTxn.locks rest txn.locks then { w with opened := rest ++ [txn] } else w

def snapshotOf (w : World) (rest : List OpenTxn) (txn : OpenTxn) : World :=
  match txn.work.target?, txn.seen with
  | some target, none =>
    let ids := matching w.db.sessions target
    w.proceed rest { txn with seen := some ids, remaining := ids }
  | _, _ => w

/-- The row is looked at again when its lock is free. -/
def touchOf (w : World) (rest : List OpenTxn) (txn : OpenTxn) (id : Uuid) : World :=
  match w.db.sessions.get? id with
  | none => w
  | some session =>
    if id ∈ txn.remaining ∧ Free OpenTxn.locks rest [.session id] then
      let remaining := txn.remaining.filter (· ≠ id)
      let updated := if session.revokedAt = none then id :: txn.updated else txn.updated
      { w with opened := rest ++ [{ txn with remaining, updated }] }
    else w

/-- A log-in waits for the row of its user, a revocation for the rest of its rows. -/
def ready (rest : List OpenTxn) (txn : OpenTxn) : Bool :=
  match txn.work with
  | .login session _ => Free OpenTxn.locks rest [.user session.userId]
  | .revoke _ _ _ _ => txn.seen.isSome && txn.remaining.isEmpty
  | .rotate _ _ _ | .revokeOne _ _ => true

/-- A transaction whose insert fails is rolled back. -/
def commitOf (w : World) (rest : List OpenTxn) (txn : OpenTxn) : World :=
  if ready rest txn then
    match txn.write w.db with
    | none => { w with opened := rest }
    | some db => {
        db
        opened := rest
        rotations := w.rotations ++ txn.work.rotation?.toList
        barred := w.barred ++ txn.work.target?.toList.flatMap (covered w.db.sessions) }
  else w

def exec (settings : Settings) (w : World) : Op → World
  | .snapshot position =>
    match w.opened[position]? with
    | some txn => w.snapshotOf (w.opened.eraseIdx position) txn
    | none => w
  | .touch position id =>
    match w.opened[position]? with
    | some txn => w.touchOf (w.opened.eraseIdx position) txn id
    | none => w
  | .commit position =>
    match w.opened[position]? with
    | some txn => w.commitOf (w.opened.eraseIdx position) txn
    | none => w
  | .abort position => { w with opened := w.opened.eraseIdx position }
  | op =>
    match begun settings w.db op with
    | some work => w.proceed w.opened { work }
    | none => w

end World

/-! ## The law -/

/-- `refresh` would rotate it, were it not for its date and its user. -/
def Refreshable (session : Session) : Prop :=
  session.revokedAt = none ∧ session.rotatedAt = none

instance (session : Session) : Decidable (Refreshable session) :=
  inferInstanceAs (Decidable (_ ∧ _))

namespace World

/-- The session derives from the other by rotation. -/
def Derives (w : World) : Uuid → Uuid → Prop :=
  Relation.ReflTransGen fun old successor => (old, successor) ∈ w.rotations

/-- Nothing that derives from a session of a revoked target can be refreshed. -/
def Complete (w : World) : Prop :=
  ∀ id ∈ w.barred, ∀ session ∈ w.db.sessions.rows, w.Derives id session.id →
    ¬ Refreshable session

/-- A revocation is committed while its target has a session that can be refreshed and that
was committed after its snapshot. -/
def Overtaken (w : World) : Op → Prop
  | .commit position => ∃ txn ∈ w.opened[position]?, txn.remaining = [] ∧
      ∃ target ∈ txn.work.target?, ∃ seen ∈ txn.seen, ∃ session ∈ w.db.sessions.rows,
        target.covers session ∧ Refreshable session ∧ session.id ∉ seen
  | _ => False

end World

end Breero.Auth
