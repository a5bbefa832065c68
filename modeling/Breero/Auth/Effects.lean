import Breero.Auth.System

/-!
What the requests write, and what a step can do, said once.

* `Rotating` is what `refresh` has found when it rotates a session;
* `Changed` is what a commit does to the sessions: a row keeps its owner and stays revoked, and
  without its lock it is not written;
* `World.Step` has one constructor for each kind of step.
-/

namespace Breero.Auth
open KeyedTable Transaction Locks

variable {settings : Settings} {db : Tables} {t u : Table Session}

/-! ## Requests -/

structure Rotating (t : Table Session) (old successor : Session) : Prop where
  there : t.get? old.id = some old
  refreshable : Refreshable old
  userId : successor.userId = old.userId
  familyId : successor.familyId = old.familyId

def Unused (db : Tables) (tokenHash : String) : Prop :=
  ∃ token, db.resetTokens.get? tokenHash = some token ∧ token.usedAt = none

/-- What a request has found when it begins. -/
inductive Begun (settings : Settings) (db : Tables) : World.Op → Work → Prop
  | login {email password : String} {client : Client} {now : Instant} {user : User}
      {session : Session} {passwordHash : Option String}
      (found : db.users.get? session.userId = some user)
      (verified : settings.verifyPasswordAndUpdate password user.passwordHash =
        (true, passwordHash))
      (family : session.familyId = client.familyId) :
      Begun settings db (.login email password client now) (.login session passwordHash)
  | rotate {op : World.Op} {old successor : Session} (now : Instant)
      (rotating : Rotating db.sessions old successor) :
      Begun settings db op (.rotate old now successor)
  | revokeOne {op : World.Op} (record : Session) (now : Instant) :
      Begun settings db op (.revokeOne record now)
  | revoke {op : World.Op} (target : Target) (now : Instant) (reused : Option Uuid) :
      Begun settings db op (.revoke target now reused none)
  | change {op : World.Op} {user : User} {change : PasswordChange} (target : Target)
      (now : Instant) (found : db.users.get? change.userId = some user)
      (version : change.credentialVersion = user.credentialVersion + 1)
      (unused : ∀ tokenHash, change.resetToken = some tokenHash → Unused db tokenHash) :
      Begun settings db op (.revoke target now none (some change))

theorem ok_of_toOption {r : Except Raised Work} {work : Work} (h : r.toOption = some work) :
    r = .ok work := by
  cases r with
  | error raised => cases h
  | ok a =>
    injection h with h
    rw [h]

theorem login_begun {email password : String} {client : Client} {now : Instant} {work : Work}
    (h : login settings db email password client now = .ok work) :
    Begun settings db (.login email password client now) work := by
  simp only [login, seq_committed, orRaise_committed, require_committed, return_committed] at h
  obtain ⟨user, huser, _, hvalid, rfl⟩ := h
  have hget : db.users.get? user.id = some user := Table.get?_key (List.mem_of_find?_eq_some huser)
  exact .login hget (Prod.ext hvalid.1 rfl) rfl

theorem refresh_begun {rawToken : String} {client : Client} {now : Instant} {work : Work}
    (h : refresh settings db rawToken client now = .ok work) :
    Begun settings db (.refresh rawToken client now) work := by
  simp only [refresh, seq_committed, orRaise_committed] at h
  obtain ⟨row, hrow, h⟩ := h
  have hmem : row ∈ db.sessions.rows := List.mem_of_find?_eq_some hrow
  split at h
  · cases h
    exact .revoke _ _ _
  · next hopen =>
    split at h
    · cases h
      exact .revokeOne _ _
    · simp only [seq_committed, orRaise_committed, require_committed, return_committed] at h
      obtain ⟨user, huser, _, _, rfl⟩ := h
      have hrefreshable : Refreshable row := by simpa [Refreshable] using hopen
      exact .rotate now ⟨Table.get?_key hmem, hrefreshable, Table.key_of_get? huser, rfl⟩

theorem setPassword_begun {op : World.Op} {user : User} (password : String) (now : Instant)
    (passwordSetRequired : Option Bool) {resetToken : Option String}
    (hfound : db.users.get? user.id = some user)
    (hunused : ∀ tokenHash, resetToken = some tokenHash → Unused db tokenHash) :
    Begun settings db op
      (setPassword settings user password now passwordSetRequired resetToken) := by
  unfold setPassword
  apply Begun.change
  · exact hfound
  · rfl
  · exact hunused

theorem begun_of {op : World.Op} {work : Work} (h : World.begun settings db op = some work) :
    Begun settings db op work := by
  cases op with
  | login email password client now => exact login_begun (ok_of_toOption h)
  | refresh rawToken client now => exact refresh_begun (ok_of_toOption h)
  | logout rawToken now =>
    obtain ⟨record, _, hwork⟩ := Option.bind_eq_some_iff.mp h
    obtain ⟨_, _, hwork⟩ := Option.bind_eq_some_iff.mp hwork
    cases hwork
    exact .revokeOne _ _
  | logoutAll userId now =>
    cases h
    exact .revoke _ _ _
  | changePassword userId current new now =>
    obtain ⟨user, huser, hwork⟩ := Option.bind_eq_some_iff.mp h
    have hok := ok_of_toOption hwork
    simp only [changePassword, seq_committed, return_committed] at hok
    obtain ⟨_, _, rfl⟩ := hok
    exact setPassword_begun new now _ (Table.get?_found huser) fun _ htoken => by cases htoken
  | setInitialPassword userId new now =>
    obtain ⟨user, huser, hwork⟩ := Option.bind_eq_some_iff.mp h
    have hok := ok_of_toOption hwork
    simp only [setInitialPassword, seq_committed, return_committed] at hok
    obtain ⟨_, _, rfl⟩ := hok
    exact setPassword_begun new now _ (Table.get?_found huser) fun _ htoken => by cases htoken
  | resetPassword raw password now =>
    have hok := ok_of_toOption h
    simp only [resetPassword, seq_committed, orRaise_committed, require_committed,
      return_committed] at hok
    obtain ⟨token, htoken, _, hvalid, user, huser, rfl⟩ := hok
    refine setPassword_begun password now _ (Table.get?_found huser) fun tokenHash hreset => ?_
    cases hreset
    exact ⟨token, Table.get?_found htoken, hvalid.1⟩
  | snapshot | touch | commit | abort => cases h

/-! ## Writes -/

/-- What a later state of a session keeps. -/
def Succeeds (session later : Session) : Prop :=
  later.userId = session.userId ∧ later.familyId = session.familyId ∧
    (session.revokedAt ≠ none → later.revokedAt ≠ none)

theorem Succeeds.refl (session : Session) : Succeeds session session := ⟨rfl, rfl, id⟩

theorem Succeeds.trans (a b c : Session) (h : Succeeds a b) (h' : Succeeds b c) : Succeeds a c :=
  ⟨h'.1.trans h.1, h'.2.1.trans h.2.1, fun ha => h'.2.2 (h.2.2 ha)⟩

structure Changed (locks : List Lock) (t u : Table Session) : Prop where
  kept : Table.Kept Succeeds t u
  unlocked : ∀ id, Lock.session id ∉ locks → ∀ session, t.get? id = some session →
    u.get? id = some session
  /-- a session that can be refreshed is as it was, or new -/
  refreshable : ∀ session ∈ u.rows, Refreshable session →
    session ∈ t.rows ∨ t.get? session.id = none

variable {locks : List Lock}

theorem Changed.refl (locks : List Lock) (t : Table Session) : Changed locks t t where
  kept := Table.Kept.of_eq rfl Succeeds.refl
  unlocked _ _ _ h := h
  refreshable _ h _ := Or.inl h

theorem Changed.trans {v : Table Session} (h : Changed locks t u) (h' : Changed locks u v) :
    Changed locks t v where
  kept := h.kept.trans h'.kept Succeeds.trans
  unlocked id hid session hget := h'.unlocked id hid session (h.unlocked id hid session hget)
  refreshable session hmem hopen := by
    rcases h'.refreshable session hmem hopen with hu | hu
    · exact h.refreshable session hu hopen
    · refine Or.inr ?_
      cases ht : t.get? session.id with
      | none => rfl
      | some old =>
        obtain ⟨later, hlater, _⟩ := h.kept.get? ht
        rw [hu] at hlater
        cases hlater

theorem Changed.put {id : Uuid} {session later : Session} (hget : t.get? id = some session)
    (hkey : later.id = session.id) (hsucc : Succeeds session later) (hclosed : ¬ Refreshable later)
    (hlock : Lock.session id ∈ locks) : Changed locks t (t.put later) where
  kept := Table.Kept.put_found hget hkey hsucc Succeeds.refl
  unlocked other hother row hrow := by
    have hne : later.id ≠ other := by
      intro heq
      have hid : session.id = id := Table.key_of_get? hget
      exact hother (heq ▸ hkey ▸ hid ▸ hlock)
    rw [Table.get?_put_ne hne]
    exact hrow
  refreshable row hrow hopen := by
    rcases Table.mem_put.mp hrow with ⟨rfl, _⟩ | ⟨hold, _⟩
    · exact absurd hopen hclosed
    · exact Or.inl hold

theorem setRotated_changed {id : Uuid} {now : Instant} (hlock : Lock.session id ∈ locks) :
    Changed locks t (setRotated t id now) := by
  unfold setRotated
  split
  · next session hget =>
    exact Changed.put hget rfl ⟨rfl, rfl, fun h => h⟩ (by simp [Refreshable]) hlock
  · exact Changed.refl locks t

theorem setRevoked_changed {id : Uuid} {now : Instant} (hlock : Lock.session id ∈ locks) :
    Changed locks t (setRevoked t id now) := by
  unfold setRevoked
  split
  · next session hget =>
    exact Changed.put hget rfl ⟨rfl, rfl, by simp⟩ (by simp [Refreshable]) hlock
  · exact Changed.refl locks t

theorem refreshable_revoked {ids : List Uuid} {now : Instant} {session : Session}
    (hmem : session ∈ (revoked t ids now).rows) (hopen : Refreshable session) :
    session ∈ t.rows ∧ session.id ∉ ids := by
  obtain ⟨row, hrow, heq⟩ := Table.mem_update.mp hmem
  split at heq
  · next hin =>
    rw [← heq] at hopen
    cases hopen.1
  · next hnot =>
    subst heq
    exact ⟨hrow, hnot⟩

theorem revoked_changed {ids : List Uuid} {now : Instant}
    (hlocks : ∀ id ∈ ids, Lock.session id ∈ locks) : Changed locks t (revoked t ids now) where
  kept row hrow := by
    refine ⟨if row.id ∈ ids then { row with revokedAt := some now } else row, ?_, ?_⟩
    · exact (Table.get?_update _ _ _ _).trans (congrArg _ (Table.get?_key hrow))
    split
    · exact ⟨rfl, rfl, by simp⟩
    · exact Succeeds.refl row
  unlocked id hid row hrow := by
    refine (Table.get?_update _ _ _ _).trans ?_
    have hkey : row.id = id := Table.key_of_get? hrow
    have hnot : row.id ∉ ids := fun hin => hid (hkey ▸ hlocks _ hin)
    rw [hrow, Option.map_some, if_neg hnot]
  refreshable row hrow hopen := Or.inl (refreshable_revoked hrow hopen).1

theorem addSession_inserts {session : Session} (h : addSession t session = some u) :
    t.insert? session = some u := by
  unfold addSession at h
  split at h
  · cases h
  · exact h

theorem addSession_fresh {session : Session} (h : addSession t session = some u) :
    t.get? session.id = none :=
  Table.get?_eq_none.mpr fun _ hrow => Table.key_fresh (addSession_inserts h) hrow

theorem addSession_changed {session : Session} (h : addSession t session = some u) :
    Changed locks t u where
  kept := Table.Kept.insert (addSession_inserts h) Succeeds.refl
  unlocked _ _ _ hrow := Table.get?_insert_of_some (addSession_inserts h) hrow
  refreshable row hrow _ := by
    rcases (Table.mem_insert (addSession_inserts h)).mp hrow with hold | rfl
    · exact Or.inl hold
    · exact Or.inr (addSession_fresh h)

/-! ## Commits -/

variable {txn : OpenTxn} {db' : Tables}

theorem write_login {session : Session} {passwordHash : Option String}
    (hwork : txn.work = .login session passwordHash) (h : txn.write db = some db') :
    addSession db.sessions session = some db'.sessions := by
  simp only [OpenTxn.write, hwork] at h
  obtain ⟨sessions, hadd, h⟩ := Option.bind_eq_some_iff.mp h
  cases h
  exact hadd

theorem write_rotate {old successor : Session} {now : Instant}
    (hwork : txn.work = .rotate old now successor) (h : txn.write db = some db') :
    addSession (setRotated db.sessions old.id now) successor = some db'.sessions := by
  simp only [OpenTxn.write, hwork] at h
  obtain ⟨sessions, hadd, h⟩ := Option.bind_eq_some_iff.mp h
  cases h
  exact hadd

theorem write_revoke {target : Target} {now : Instant} {reused : Option Uuid}
    {change : Option PasswordChange} (hwork : txn.work = .revoke target now reused change)
    (h : txn.write db = some db') : db'.sessions = revoked db.sessions txn.updated now := by
  simp only [OpenTxn.write, hwork] at h
  cases change with
  | none =>
    cases h
    rfl
  | some change =>
    cases h
    rfl

theorem write_changed (h : txn.write db = some db') :
    Changed txn.locks db.sessions db'.sessions := by
  cases hwork : txn.work with
  | login session passwordHash => exact addSession_changed (write_login hwork h)
  | rotate old now successor =>
    have hlock : Lock.session old.id ∈ txn.locks := by simp [OpenTxn.locks, hwork]
    exact (setRotated_changed hlock).trans (addSession_changed (write_rotate hwork h))
  | revokeOne record now =>
    have hlock : Lock.session record.id ∈ txn.locks := by simp [OpenTxn.locks, hwork]
    simp only [OpenTxn.write, hwork] at h
    cases h
    exact setRevoked_changed hlock
  | revoke target now reused change =>
    rw [write_revoke hwork h]
    apply revoked_changed
    intro id hid
    simp [OpenTxn.locks, hwork, hid]

/-! ## Steps -/

namespace World

inductive Step (settings : Settings) (w : World) : Op → World → Prop
  | unchanged (op : Op) : Step settings w op w
  | begun {op : Op} {work : Work} (hbegun : World.begun settings w.db op = some work)
      (hfree : Free OpenTxn.locks w.opened (OpenTxn.locks { work })) :
      Step settings w op { w with opened := w.opened ++ [{ work }] }
  | snapshot {position : Nat} {txn : OpenTxn} {target : Target}
      (hat : w.opened[position]? = some txn) (htarget : txn.work.target? = some target)
      (hseen : txn.seen = none)
      (hfree : Free OpenTxn.locks (w.opened.eraseIdx position)
        (OpenTxn.locks { txn with seen := some (matching w.db.sessions target) })) :
      Step settings w (.snapshot position) { w with
        opened := w.opened.eraseIdx position ++ [{ txn with
          seen := some (matching w.db.sessions target)
          remaining := matching w.db.sessions target }] }
  | touched {position : Nat} {id : Uuid} {txn : OpenTxn} {session : Session}
      (hat : w.opened[position]? = some txn) (hget : w.db.sessions.get? id = some session)
      (hin : id ∈ txn.remaining)
      (hfree : Free OpenTxn.locks (w.opened.eraseIdx position) [.session id]) :
      Step settings w (.touch position id) { w with
        opened := w.opened.eraseIdx position ++ [{ txn with
          remaining := txn.remaining.filter (· ≠ id)
          updated := if session.revokedAt = none then id :: txn.updated else txn.updated }] }
  | committed {position : Nat} {txn : OpenTxn} {db : Tables}
      (hat : w.opened[position]? = some txn)
      (hready : ready (w.opened.eraseIdx position) txn = true)
      (hwrite : txn.write w.db = some db) :
      Step settings w (.commit position) {
        db
        opened := w.opened.eraseIdx position
        rotations := w.rotations ++ txn.work.rotation?.toList
        barred := w.barred ++ txn.work.target?.toList.flatMap (covered w.db.sessions) }
  | ended (op : Op) (position : Nat) :
      Step settings w op { w with opened := w.opened.eraseIdx position }

variable {w : World}

theorem begun_step {op : Op} {work : Work} (h : begun settings w.db op = some work) :
    Step settings w op (w.proceed w.opened { work }) := by
  unfold proceed
  split
  · next hfree => exact .begun h hfree
  · exact .unchanged op

theorem snapshotOf_step {position : Nat} {txn : OpenTxn} (hat : w.opened[position]? = some txn) :
    Step settings w (.snapshot position) (w.snapshotOf (w.opened.eraseIdx position) txn) := by
  unfold snapshotOf
  split
  · next target htarget hseen =>
    dsimp only [proceed]
    split
    · next hfree => exact .snapshot hat htarget hseen hfree
    · exact .unchanged _
  · exact .unchanged _

theorem touchOf_step {position : Nat} {txn : OpenTxn} {id : Uuid}
    (hat : w.opened[position]? = some txn) :
    Step settings w (.touch position id) (w.touchOf (w.opened.eraseIdx position) txn id) := by
  unfold touchOf
  split
  · exact .unchanged _
  · next session hget =>
    split
    · next h => exact .touched hat hget h.1 h.2
    · exact .unchanged _

theorem commitOf_step {position : Nat} {txn : OpenTxn} (hat : w.opened[position]? = some txn) :
    Step settings w (.commit position) (w.commitOf (w.opened.eraseIdx position) txn) := by
  unfold commitOf
  split
  · next hready =>
    split
    · exact .ended _ position
    · next db hwrite => exact .committed hat hready hwrite
  · exact .unchanged _

theorem exec_step (settings : Settings) (w : World) (op : Op) :
    Step settings w op (exec settings w op) := by
  unfold exec
  split
  · split
    · next hat => exact snapshotOf_step hat
    · exact .unchanged _
  · split
    · next hat => exact touchOf_step hat
    · exact .unchanged _
  · split
    · next hat => exact commitOf_step hat
    · exact .unchanged _
  · exact .ended _ _
  · split
    · next hwork => exact begun_step hwork
    · exact .unchanged _

end World

end Breero.Auth
