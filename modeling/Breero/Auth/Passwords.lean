import Breero.Auth.Revocations

/-!
Changes of a password and the log-ins beside them.

A request reads the user without a lock and writes the columns that it changes, as it has
computed them, when it commits.

* `Accounts` is the system with the history of the passwords: which hashes the committed changes
  wrote, which ones were replaced, and which reset tokens were used;
* `Final`, `Outdates` and the reset tokens are the law about it;
* `Accounts.changes_final_iff`: the law holds in exactly the runs whose commits are `Timely`.
-/

namespace Breero.Auth
open KeyedTable Transaction Locks Runs

def Work.change? : Work → Option PasswordChange
  | .revoke _ _ _ change => change
  | _ => none

/-- A work that changes a password is one that revokes. -/
theorem Work.of_change {work : Work} {change : PasswordChange} (h : work.change? = some change) :
    ∃ target now reused, work = .revoke target now reused (some change) := by
  cases work with
  | revoke target now reused change' =>
    obtain rfl : change' = some change := h
    exact ⟨target, now, reused, rfl⟩
  | login | rotate | revokeOne => cases h

/-- The hash that is written, with its user. -/
def Work.newHash? : Work → Option (Uuid × String)
  | .login session passwordHash => passwordHash.map fun hash => (session.userId, hash)
  | .revoke _ _ _ change => change.map fun change => (change.userId, change.passwordHash)
  | _ => none

/-! ## Users and reset tokens of a commit -/

/-- What becomes of a user. -/
def Work.after : Work → User → User
  | .login session (some hash), user =>
    if session.userId = user.id then { user with passwordHash := hash } else user
  | .revoke _ _ _ (some change), user =>
    if change.userId = user.id then { user with
      passwordHash := change.passwordHash
      credentialVersion := change.credentialVersion
      passwordSetRequired := change.passwordSetRequired.getD user.passwordSetRequired }
    else user
  | _, user => user

theorem get?_put_map {t : Table User} {id : Uuid} {user : User} (hget : t.get? id = some user)
    (f : User → User) (hid : (f user).id = user.id) (other : Uuid) :
    (t.put (f user)).get? other = (t.get? other).map fun u => if id = u.id then f u else u := by
  have hkey : user.id = id := Table.key_of_get? hget
  by_cases hsame : id = other
  · subst hsame
    rw [Table.get?_put_self hget (hid.trans hkey), hget, Option.map_some, if_pos hkey.symm]
  · have hne : (f user).id ≠ other := fun heq => hsame (hkey.symm.trans (hid.symm.trans heq))
    rw [Table.get?_put_ne hne]
    cases hother : t.get? other with
    | none => rfl
    | some u =>
      have huid : u.id = other := Table.key_of_get? hother
      rw [Option.map_some, if_neg fun heq => hsame (heq.trans huid)]

theorem map_absent {t : Table User} {id : Uuid} (hnone : t.get? id = none) (f : User → User)
    (other : Uuid) : t.get? other = (t.get? other).map fun u => if id = u.id then f u else u := by
  cases hother : t.get? other with
  | none => rfl
  | some u =>
    have huid : u.id = other := Table.key_of_get? hother
    have hne : id ≠ u.id := by
      rintro rfl
      rw [huid, hother] at hnone
      cases hnone
    rw [Option.map_some, if_neg hne]

theorem map_kept {f : User → User} (hf : ∀ user, f user = user) (o : Option User) :
    o = o.map f := by
  cases o with
  | none => rfl
  | some user => rw [Option.map_some, hf]

theorem write_users {txn : OpenTxn} {db db' : Tables} (h : txn.write db = some db') (id : Uuid) :
    db'.users.get? id = (db.users.get? id).map txn.work.after := by
  cases hwork : txn.work with
  | login session hash =>
    simp only [OpenTxn.write, hwork] at h
    obtain ⟨sessions, _, h⟩ := Option.bind_eq_some_iff.mp h
    cases h
    cases hash with
    | none =>
      have hsame : rehash db.users session.userId none = db.users := by
        unfold rehash
        split <;> simp_all
      simp only [hsame]
      exact map_kept (fun _ => rfl) _
    | some hash =>
      cases hget : db.users.get? session.userId with
      | none =>
        simp only [rehash, hget]
        exact map_absent hget (fun u => { u with passwordHash := hash }) id
      | some user =>
        simp only [rehash, hget]
        exact get?_put_map hget (fun u => { u with passwordHash := hash }) rfl id
  | rotate old now successor =>
    simp only [OpenTxn.write, hwork] at h
    obtain ⟨sessions, _, h⟩ := Option.bind_eq_some_iff.mp h
    cases h
    exact map_kept (fun _ => rfl) _
  | revokeOne record now =>
    simp only [OpenTxn.write, hwork] at h
    cases h
    exact map_kept (fun _ => rfl) _
  | revoke target now reused change =>
    simp only [OpenTxn.write, hwork] at h
    cases change with
    | none =>
      cases h
      exact map_kept (fun _ => rfl) _
    | some change =>
      cases h
      simp only [Option.elim_some, PasswordChange.write]
      cases hget : db.users.get? change.userId with
      | none => exact map_absent hget _ id
      | some user =>
        exact get?_put_map hget (fun u => { u with
          passwordHash := change.passwordHash
          credentialVersion := change.credentialVersion
          passwordSetRequired := change.passwordSetRequired.getD u.passwordSetRequired }) rfl id

def Used (db : Tables) (tokenHash : String) : Prop :=
  ∃ token, db.resetTokens.get? tokenHash = some token ∧ token.usedAt ≠ none

def Work.resetToken? (work : Work) : Option String := work.change?.bind PasswordChange.resetToken

theorem write_resetTokens {txn : OpenTxn} {db db' : Tables} (h : txn.write db = some db') :
    (db'.resetTokens = db.resetTokens ∧ txn.work.resetToken?.bind db.resetTokens.get? = none) ∨
      ∃ token now, txn.work.resetToken? = some token.tokenHash ∧
        db.resetTokens.get? token.tokenHash = some token ∧
        db'.resetTokens = db.resetTokens.put { token with usedAt := some now } := by
  cases hwork : txn.work with
  | login session hash =>
    simp only [OpenTxn.write, hwork] at h
    obtain ⟨sessions, _, h⟩ := Option.bind_eq_some_iff.mp h
    cases h
    exact Or.inl ⟨rfl, rfl⟩
  | rotate old now successor =>
    simp only [OpenTxn.write, hwork] at h
    obtain ⟨sessions, _, h⟩ := Option.bind_eq_some_iff.mp h
    cases h
    exact Or.inl ⟨rfl, rfl⟩
  | revokeOne record now =>
    simp only [OpenTxn.write, hwork] at h
    cases h
    exact Or.inl ⟨rfl, rfl⟩
  | revoke target now reused change =>
    simp only [OpenTxn.write, hwork] at h
    cases change with
    | none =>
      cases h
      exact Or.inl ⟨rfl, rfl⟩
    | some change =>
      cases h
      simp only [Option.elim_some, PasswordChange.write]
      cases hget : change.resetToken.bind db.resetTokens.get? with
      | none => exact Or.inl ⟨rfl, hget⟩
      | some token =>
        obtain ⟨tokenHash, hreset, htoken⟩ := Option.bind_eq_some_iff.mp hget
        obtain rfl : token.tokenHash = tokenHash := Table.key_of_get? htoken
        exact Or.inr ⟨token, now, hreset, htoken, rfl⟩

variable {txn : OpenTxn} {db db' : Tables}

/-- A used token stays used. -/
theorem Used.write {tokenHash : String} (hused : Used db tokenHash)
    (h : txn.write db = some db') : Used db' tokenHash := by
  obtain ⟨token, hget, husedAt⟩ := hused
  rcases write_resetTokens h with ⟨hsame, _⟩ | ⟨other, now, _, _, hput⟩
  · exact ⟨token, hsame ▸ hget, husedAt⟩
  · rw [Used, hput]
    obtain ⟨later, hlater, rfl | rfl⟩ := Table.get?_put_of_some
      (a := { other with usedAt := some now }) hget
    · exact ⟨_, hlater, by simp⟩
    · exact ⟨_, hlater, husedAt⟩

theorem Unused.write {tokenHash : String} (hunused : Unused db tokenHash)
    (hother : txn.work.resetToken? ≠ some tokenHash) (h : txn.write db = some db') :
    Unused db' tokenHash := by
  obtain ⟨token, hget, husedAt⟩ := hunused
  rcases write_resetTokens h with ⟨hsame, _⟩ | ⟨other, now, hreset, _, hput⟩
  · exact ⟨token, hsame ▸ hget, husedAt⟩
  · have hne : other.tokenHash ≠ tokenHash := fun heq => hother (heq ▸ hreset)
    have hkey : key { other with usedAt := some now } ≠ tokenHash := hne
    exact ⟨token, by rw [hput, Table.get?_put_ne hkey]; exact hget, husedAt⟩

/-- The token of a committed change is used. -/
theorem Unused.committed {tokenHash : String} (hunused : Unused db tokenHash)
    (hreset : txn.work.resetToken? = some tokenHash) (h : txn.write db = some db') :
    Used db' tokenHash := by
  obtain ⟨token, hget, _⟩ := hunused
  rcases write_resetTokens h with ⟨_, hnone⟩ | ⟨other, now, hreset', hother, hput⟩
  · rw [hreset, Option.bind_some, hget] at hnone
    cases hnone
  · rw [hreset, Option.some.injEq] at hreset'
    subst hreset'
    exact ⟨{ other with usedAt := some now }, by rw [hput]; exact Table.get?_put_self hother rfl,
      by simp⟩

/-! ## What a request has read -/

/-- A hash verifies no password but the one that it was made of. -/
structure Settings.Hashing (settings : Settings) : Prop where
  hashed : ∀ password other,
    settings.verifyPassword other (settings.hashPassword password) = true → other = password
  updated : ∀ password encoded valid new,
    settings.verifyAndUpdate password encoded = some (valid, some new) →
      ∀ other, settings.verifyPassword other new = true → other = password

variable {settings : Settings}

theorem Settings.Hashing.rehashed (h : settings.Hashing) {password encoded new : String}
    {valid : Bool}
    (hupdate : settings.verifyPasswordAndUpdate password encoded = (valid, some new)) :
    ∀ other, settings.verifyPassword other new = true → other = password := by
  unfold Settings.verifyPasswordAndUpdate at hupdate
  split at hupdate
  · split at hupdate
    · simp only [Prod.mk.injEq, Option.some.injEq] at hupdate
      exact hupdate.2 ▸ h.hashed password
    · simp at hupdate
  · cases hresult : settings.verifyAndUpdate password encoded with
    | none => simp [hresult] at hupdate
    | some result =>
      rw [hresult, Option.getD_some] at hupdate
      exact h.updated password encoded valid new (hupdate ▸ hresult)

namespace World

/-- The transaction that the step commits. -/
def committed (w : World) : Op → Option OpenTxn
  | .commit position => w.opened[position]?.filter fun txn =>
      ready (w.opened.eraseIdx position) txn && (txn.write w.db).isSome
  | _ => none

/-- A transaction that goes on keeps its work. -/
theorem work_of_moved {w : World} {position : Nat} {old new txn : OpenTxn}
    (hat : w.opened[position]? = some old) (htxn : txn ∈ w.opened.eraseIdx position ++ [new])
    (hwork : new.work = old.work) :
    ∃ old ∈ w.opened, old.work = txn.work := by
  rcases List.mem_append.mp htxn with hold | hnew
  · exact ⟨txn, List.mem_of_mem_eraseIdx hold, rfl⟩
  · rw [List.mem_singleton] at hnew
    exact ⟨old, List.mem_of_getElem? hat, hnew ▸ hwork.symm⟩

theorem commit_cases (settings : Settings) (w : World) (op : Op) :
    (∃ position txn, w.opened[position]? = some txn ∧ committed w op = some txn ∧
        txn.write w.db = some (exec settings w op).db ∧
        (exec settings w op).opened = w.opened.eraseIdx position) ∨
      (committed w op = none ∧ (exec settings w op).db = w.db ∧
        ∀ txn ∈ (exec settings w op).opened,
          (∃ old ∈ w.opened, old.work = txn.work) ∨
            begun settings w.db op = some txn.work) := by
  have hquiet : ∀ op', (∀ position, op' ≠ .commit position) →
      committed w op' = none ∧ (exec settings w op').db = w.db ∧
        ∀ txn ∈ (exec settings w op').opened,
          (∃ old ∈ w.opened, old.work = txn.work) ∨
            begun settings w.db op' = some txn.work := by
    intro op' hop
    refine ⟨?_, ?_⟩
    · cases op' with
      | commit position => exact absurd rfl (hop position)
      | _ => rfl
    · have hstep := exec_step settings w op'
      generalize exec settings w op' = w' at hstep
      cases hstep with
      | unchanged => exact ⟨rfl, fun txn htxn => Or.inl ⟨txn, htxn, rfl⟩⟩
      | begun hbegun =>
        refine ⟨rfl, fun txn htxn => ?_⟩
        rcases List.mem_append.mp htxn with hold | hnew
        · exact Or.inl ⟨txn, hold, rfl⟩
        · rw [List.mem_singleton] at hnew
          exact Or.inr (hnew ▸ hbegun)
      | snapshot hat => exact ⟨rfl, fun txn htxn => Or.inl (work_of_moved hat htxn rfl)⟩
      | touched hat => exact ⟨rfl, fun txn htxn => Or.inl (work_of_moved hat htxn rfl)⟩
      | committed => exact absurd rfl (hop _)
      | ended => exact ⟨rfl, fun txn htxn => Or.inl ⟨txn, List.mem_of_mem_eraseIdx htxn, rfl⟩⟩
  cases op with
  | commit position =>
    cases hat : w.opened[position]? with
    | none =>
      have hexec : exec settings w (.commit position) = w := by simp only [exec, hat]
      rw [hexec]
      exact Or.inr ⟨by simp [committed, hat], rfl, fun txn htxn => Or.inl ⟨txn, htxn, rfl⟩⟩
    | some txn =>
      cases hready : ready (w.opened.eraseIdx position) txn with
      | false =>
        have hexec : exec settings w (.commit position) = w := by
          simp [exec, hat, commitOf, hready]
        rw [hexec]
        exact Or.inr ⟨by simp [committed, hat, hready], rfl,
          fun txn htxn => Or.inl ⟨txn, htxn, rfl⟩⟩
      | true =>
        cases hwrite : txn.write w.db with
        | none =>
          have hexec : exec settings w (.commit position) =
              { w with opened := w.opened.eraseIdx position } := by
            simp [exec, hat, commitOf, hready, hwrite]
          rw [hexec]
          exact Or.inr ⟨by simp [committed, hat, hwrite], rfl,
            fun txn htxn => Or.inl ⟨txn, List.mem_of_mem_eraseIdx htxn, rfl⟩⟩
        | some db =>
          refine Or.inl ⟨position, txn, hat, ?_, ?_, ?_⟩
          · simp [committed, hat, hready, hwrite]
          · simp [exec, hat, commitOf, hready, hwrite]
          · simp [exec, hat, commitOf, hready, hwrite]
  | _ => exact Or.inr (hquiet _ (by simp))

end World

/-! ## Passwords over time -/

/-- The system with the history of its passwords. -/
structure Accounts where
  world : World
  /-- the hashes that committed changes wrote, with their users, the last one first -/
  changes : List (Uuid × String) := []
  /-- the hashes that were replaced -/
  replaced : List (Uuid × String) := []
  /-- the reset tokens that committed changes came from -/
  resets : List String := []

namespace Accounts

def user? (a : Accounts) (id : Uuid) : Option User := a.world.db.users.get? id

/-- The hash of the last committed change. -/
def lastChange (a : Accounts) (userId : Uuid) : Option String :=
  (a.changes.find? (·.1 = userId)).map (·.2)

def changeCount (a : Accounts) (userId : Uuid) : Nat := a.changes.countP (·.1 = userId)

/-- The hash that a commit replaces. -/
def replacedBy (a : Accounts) (work : Work) : Option (Uuid × String) := do
  let (userId, _) ← work.newHash?
  let user ← a.user? userId
  return (userId, user.passwordHash)

def exec (settings : Settings) (a : Accounts) (op : World.Op) : Accounts :=
  let work := (a.world.committed op).map OpenTxn.work
  let change := work.bind Work.change?
  { world := World.exec settings a.world op
    changes := (change.map fun change => (change.userId, change.passwordHash)).toList ++ a.changes
    replaced := a.replaced ++ (work.bind a.replacedBy).toList
    resets := a.resets ++ (change.bind PasswordChange.resetToken).toList }

/-! ## The law -/

/-- After a change, no password of before verifies the stored hash but the one it was changed
to. -/
def Final (settings : Settings) (a : Accounts) : Prop :=
  ∀ id user, a.user? id = some user → ∀ last, a.lastChange id = some last →
    ∀ earlier, (id, earlier) ∈ a.replaced → ∀ password,
      settings.verifyPassword password earlier = true →
      settings.verifyPassword password user.passwordHash = true →
      settings.verifyPassword password last = true

/-- The version goes up with each change, and the access tokens of before are rejected. -/
def Outdates (a a' : Accounts) : Prop :=
  ∀ id user, a.user? id = some user → ∃ user', a'.user? id = some user' ∧
    a.changeCount id ≤ a'.changeCount id ∧ user.credentialVersion ≤ user'.credentialVersion ∧
    (a.changeCount id < a'.changeCount id →
      user.credentialVersion < user'.credentialVersion ∧
        acceptsToken user' user.credentialVersion = false)

/-- What a transaction is to commit when it has not been overtaken by a change: the password
that a log-in has verified is that of the last change, and a change has read the stored
version. -/
def Timely (settings : Settings) (a : Accounts) : Work → Prop
  | .login session (some rehash) => ∀ last, a.lastChange session.userId = some last →
      ∀ password, settings.verifyPassword password rehash = true →
        settings.verifyPassword password last = true
  | .revoke _ _ _ (some change) => ∀ user, a.user? change.userId = some user →
      change.credentialVersion = user.credentialVersion + 1
  | _ => True

def CommitsTimely (settings : Settings) (a : Accounts) (op : World.Op) : Prop :=
  ∀ txn, a.world.committed op = some txn → Timely settings a txn.work

/-! ## The invariant -/

/-- What the open transactions rely on. -/
structure Relies (settings : Settings) (a : Accounts) (work : Work) : Prop where
  rehash : ∀ session rehash, work = .login session (some rehash) →
    ∃ user hash password, a.user? session.userId = some user ∧
      (hash = user.passwordHash ∨ (session.userId, hash) ∈ a.replaced) ∧
      settings.verifyPassword password hash = true ∧
      ∀ other, settings.verifyPassword other rehash = true → other = password
  change : ∀ change, work.change? = some change → ∃ user, a.user? change.userId = some user ∧
    change.credentialVersion ≤ user.credentialVersion + 1
  unused : ∀ tokenHash, work.resetToken? = some tokenHash → Unused a.world.db tokenHash

structure AccountInv (settings : Settings) (a : Accounts) : Prop where
  coherent : Coherent a.world
  relies : ∀ txn ∈ a.world.opened, Relies settings a txn.work
  used : ∀ tokenHash ∈ a.resets, Used a.world.db tokenHash
  resetOnce : a.resets.Nodup

variable {a : Accounts} {op : World.Op}

theorem Relies.begun (hhashing : settings.Hashing) {work : Work}
    (h : Begun settings a.world.db op work) : Relies settings a work := by
  cases h with
  | login found verified =>
    refine ⟨?_, ?_, ?_⟩
    · rintro session rehash ⟨⟩
      exact ⟨_, _, _, found, Or.inl rfl, congrArg Prod.fst verified, hhashing.rehashed verified⟩
    · rintro _ ⟨⟩
    · rintro _ ⟨⟩
  | rotate | revokeOne | revoke =>
    refine ⟨?_, ?_, ?_⟩
    · rintro _ _ ⟨⟩
    · rintro _ ⟨⟩
    · rintro _ ⟨⟩
  | change target now found version unused =>
    refine ⟨?_, ?_, unused⟩
    · rintro _ _ ⟨⟩
    · rintro _ ⟨⟩
      exact ⟨_, found, le_of_eq version⟩

/-! ## Commits -/

variable {txn : OpenTxn}

theorem user?_commit (hwrite : txn.write a.world.db = some (exec settings a op).world.db)
    (id : Uuid) : (exec settings a op).user? id = (a.user? id).map txn.work.after :=
  write_users hwrite id

/-- A change that is committed. -/
structure ChangeCommitted (a a' : Accounts) (change : PasswordChange) : Prop where
  changes : a'.changes = (change.userId, change.passwordHash) :: a.changes
  user : ∀ user, a.user? change.userId = some user → ∃ user',
    a'.user? change.userId = some user' ∧ user'.passwordHash = change.passwordHash ∧
    user'.credentialVersion = change.credentialVersion
  others : ∀ id, id ≠ change.userId → a'.user? id = a.user? id

theorem changeCommitted (hcommitted : a.world.committed op = some txn)
    (hwrite : txn.write a.world.db = some (exec settings a op).world.db) {change : PasswordChange}
    (hchange : txn.work.change? = some change) :
    ChangeCommitted a (exec settings a op) change := by
  obtain ⟨target, now, reused, hwork⟩ := Work.of_change hchange
  refine ⟨?_, fun user huser => ?_, fun id hne => ?_⟩
  · simp [exec, hcommitted, hwork, Work.change?]
  · have hid : user.id = change.userId := Table.key_of_get? huser
    rw [user?_commit hwrite, huser, Option.map_some, hwork]
    refine ⟨_, rfl, ?_, ?_⟩
    · simp [Work.after, hid]
    · simp [Work.after, hid]
  · rw [user?_commit hwrite, hwork]
    cases hget : a.user? id with
    | none => rfl
    | some user =>
      have hid : user.id = id := Table.key_of_get? hget
      have hother : change.userId ≠ user.id := fun heq => hne (hid.symm.trans heq.symm)
      simp [Work.after, hother]

theorem changes_of_none (hchange : ∀ txn, a.world.committed op = some txn →
    txn.work.change? = none) : (exec settings a op).changes = a.changes := by
  cases hcommitted : a.world.committed op with
  | none => simp [exec, hcommitted]
  | some txn => simp [exec, hcommitted, hchange txn hcommitted]

theorem changes_of_committed (settings : Settings) {txn : OpenTxn}
    (hcommitted : a.world.committed op = some txn) (hchange : txn.work.change? = none) :
    (exec settings a op).changes = a.changes := by
  apply changes_of_none
  intro txn' htxn'
  rw [hcommitted, Option.some.injEq] at htxn'
  exact htxn' ▸ hchange

theorem after_version {work : Work} (hchange : work.change? = none) (user : User) :
    (work.after user).credentialVersion = user.credentialVersion := by
  unfold Work.after
  split
  · split <;> rfl
  · cases hchange
  · rfl

theorem after_of_none {work : Work} (hhash : work.newHash? = none) (user : User) :
    work.after user = user := by
  unfold Work.after
  split
  · cases hhash
  · cases hhash
  · rfl

/-- The hash of a user after a commit. -/
theorem after_hash {work : Work} {userId : Uuid} {hash : String}
    (hhash : work.newHash? = some (userId, hash)) (user : User) :
    (userId = user.id → (work.after user).passwordHash = hash) ∧
      (userId ≠ user.id → work.after user = user) := by
  unfold Work.after
  split
  · cases hhash
    exact ⟨fun h => by rw [if_pos h], fun h => if_neg h⟩
  · cases hhash
    exact ⟨fun h => by rw [if_pos h], fun h => if_neg h⟩
  · next hlogin hrevoke =>
    cases work with
    | login session passwordHash =>
      cases passwordHash with
      | none => cases hhash
      | some h => exact absurd rfl (hlogin session h)
    | revoke target now reused change =>
      cases change with
      | none => cases hhash
      | some c => exact absurd rfl (hrevoke target now reused c)
    | rotate | revokeOne => cases hhash

/-- A hash that is not stored any more has been replaced. -/
theorem replaced_commit (hcommitted : a.world.committed op = some txn)
    (hwrite : txn.write a.world.db = some (exec settings a op).world.db) {id : Uuid} {user : User}
    (huser : a.user? id = some user) :
    ∃ user', (exec settings a op).user? id = some user' ∧
      (user'.passwordHash = user.passwordHash ∨
        (id, user.passwordHash) ∈ (exec settings a op).replaced) := by
  have hid : user.id = id := Table.key_of_get? huser
  refine ⟨txn.work.after user, by rw [user?_commit hwrite, huser, Option.map_some], ?_⟩
  cases hhash : txn.work.newHash? with
  | none => exact Or.inl (by rw [after_of_none hhash])
  | some pair =>
    obtain ⟨userId, hash⟩ := pair
    by_cases hsame : userId = user.id
    · refine Or.inr ?_
      have hreplaced : a.replacedBy txn.work = some (id, user.passwordHash) := by
        simp [replacedBy, hhash, hsame.trans hid, huser]
      simp [exec, hcommitted, hreplaced]
    · exact Or.inl (by rw [(after_hash hhash user).2 hsame])

theorem replaced_mono {pair : Uuid × String} (h : pair ∈ a.replaced) :
    pair ∈ (exec settings a op).replaced :=
  List.mem_append_left _ h

/-- What was replaced, or is by this commit. -/
theorem mem_replaced_commit (hcommitted : a.world.committed op = some txn) {id : Uuid}
    {earlier : String} (h : (id, earlier) ∈ (exec settings a op).replaced)
    (hother : ∀ hash, txn.work.newHash? ≠ some (id, hash)) : (id, earlier) ∈ a.replaced := by
  simp only [exec, hcommitted, Option.map_some, Option.bind_some, List.mem_append,
    Option.mem_toList] at h
  rcases h with hold | hnew
  · exact hold
  · simp only [replacedBy] at hnew
    obtain ⟨⟨userId, hash⟩, hhash, hnew⟩ := Option.bind_eq_some_iff.mp hnew
    obtain ⟨user, _, hnew⟩ := Option.bind_eq_some_iff.mp hnew
    cases hnew
    exact absurd hhash (hother hash)

/-! ## Steps -/

theorem quiet (hcommitted : a.world.committed op = none)
    (hdb : (exec settings a op).world.db = a.world.db) :
    (exec settings a op).changes = a.changes ∧ (exec settings a op).replaced = a.replaced ∧
      (exec settings a op).resets = a.resets ∧
      ∀ id, (exec settings a op).user? id = a.user? id := by
  refine ⟨by simp [exec, hcommitted], by simp [exec, hcommitted], by simp [exec, hcommitted], ?_⟩
  intro id
  rw [user?, hdb, ← user?]

theorem Outdates.of_same {a' : Accounts} (hchanges : a'.changes = a.changes)
    (husers : ∀ id user, a.user? id = some user → ∃ user', a'.user? id = some user' ∧
      user'.credentialVersion = user.credentialVersion) : Outdates a a' := by
  intro id user huser
  obtain ⟨user', huser', hversion⟩ := husers id user huser
  have hcount : a'.changeCount id = a.changeCount id := by rw [changeCount, hchanges, ← changeCount]
  exact ⟨user', huser', by omega, by omega, fun hlt => by omega⟩

theorem changeCount_cons {a' : Accounts} {change : PasswordChange}
    (h : ChangeCommitted a a' change) (id : Uuid) :
    a'.changeCount id = a.changeCount id + if change.userId = id then 1 else 0 := by
  rw [changeCount, h.changes, List.countP_cons]
  simp [changeCount]

/-- A commit in time outdates what was before it. -/
theorem outdates_of_timely (htimely : CommitsTimely settings a op) :
    Outdates a (exec settings a op) := by
  rcases World.commit_cases settings a.world op with
    ⟨position, txn, hat, hcommitted, hwrite, hopened⟩ | ⟨hcommitted, hdb, _⟩
  · cases hchange : txn.work.change? with
    | none =>
      refine .of_same (changes_of_none fun txn' htxn' => ?_) fun id user huser => ?_
      · rw [hcommitted, Option.some.injEq] at htxn'
        exact htxn' ▸ hchange
      · exact ⟨txn.work.after user, by rw [user?_commit hwrite, huser, Option.map_some],
          after_version hchange user⟩
    | some change =>
      have hdone := changeCommitted hcommitted hwrite hchange
      have hversion := htimely txn hcommitted
      intro id user huser
      have hcount := changeCount_cons hdone id
      by_cases hid : change.userId = id
      · subst hid
        obtain ⟨user', huser', _, hnew⟩ := hdone.user user huser
        have hnext : change.credentialVersion = user.credentialVersion + 1 := by
          obtain ⟨target, now, reused, hwork⟩ := Work.of_change hchange
          rw [hwork] at hversion
          exact hversion user huser
        refine ⟨user', huser', by omega, by omega, fun _ => ⟨by omega, ?_⟩⟩
        have hne : user.credentialVersion ≠ user'.credentialVersion := by omega
        simp [acceptsToken, hne]
      · rw [if_neg hid] at hcount
        exact ⟨user, (hdone.others id (Ne.symm hid)).trans huser, by omega, le_refl _,
          fun hlt => by omega⟩
  · obtain ⟨hchanges, _, _, husers⟩ := quiet hcommitted hdb
    exact .of_same hchanges fun id user huser => ⟨user, (husers id).trans huser, rfl⟩

theorem lastChange_of_same {a' : Accounts} (hchanges : a'.changes = a.changes) (id : Uuid) :
    a'.lastChange id = a.lastChange id := by
  rw [lastChange, hchanges, ← lastChange]

theorem lastChange_cons {a' : Accounts} {change : PasswordChange}
    (h : ChangeCommitted a a' change) (id : Uuid) :
    a'.lastChange id = if change.userId = id then some change.passwordHash
      else a.lastChange id := by
  rw [lastChange, h.changes, List.find?_cons]
  by_cases hid : change.userId = id
  · simp [hid]
  · simp [hid, lastChange]

/-- A commit in time leaves no password of before a change. -/
theorem final_of_timely (hfinal : Final settings a) (htimely : CommitsTimely settings a op) :
    Final settings (exec settings a op) := by
  rcases World.commit_cases settings a.world op with
    ⟨position, txn, hat, hcommitted, hwrite, hopened⟩ | ⟨hcommitted, hdb, _⟩
  · intro id user' huser' last hlast earlier hearlier password hverified hstored
    rw [user?_commit hwrite, Option.map_eq_some_iff] at huser'
    obtain ⟨user, huser, rfl⟩ := huser'
    have hid : user.id = id := Table.key_of_get? huser
    -- a user whose hash the commit does not write
    have hkept : (∀ hash, txn.work.newHash? ≠ some (id, hash)) → a.lastChange id = some last →
        settings.verifyPassword password last = true := by
      intro hother hlast
      have hsame : txn.work.after user = user := by
        cases hhash : txn.work.newHash? with
        | none => exact after_of_none hhash user
        | some pair =>
          refine (after_hash hhash user).2 fun heq => ?_
          exact hother pair.2 (by rw [hhash, ← heq.trans hid])
      rw [hsame] at hstored
      exact hfinal id user huser last hlast earlier
        (mem_replaced_commit hcommitted hearlier hother) password hverified hstored
    cases hchange : txn.work.change? with
    | none =>
      have hchanges := changes_of_committed settings hcommitted hchange
      rw [lastChange_of_same hchanges] at hlast
      by_cases hother : ∀ hash, txn.work.newHash? ≠ some (id, hash)
      · exact hkept hother hlast
      · simp only [not_forall, not_not] at hother
        obtain ⟨hash, hhash⟩ := hother
        rw [(after_hash hhash user).1 hid.symm] at hstored
        have hversion := htimely txn hcommitted
        cases hwork : txn.work with
        | login session rehash =>
          rw [hwork] at hversion hhash
          cases rehash with
          | none => cases hhash
          | some rehash =>
            cases hhash
            exact hversion last hlast password hstored
        | revoke target now reused change =>
          rw [hwork] at hhash hchange
          cases change with
          | none => cases hhash
          | some change => cases hchange
        | rotate | revokeOne =>
          rw [hwork] at hhash
          cases hhash
    | some change =>
      have hdone := changeCommitted hcommitted hwrite hchange
      have hnew : txn.work.newHash? = some (change.userId, change.passwordHash) := by
        obtain ⟨target, now, reused, hwork⟩ := Work.of_change hchange
        rw [hwork]
        rfl
      rw [lastChange_cons hdone] at hlast
      by_cases hsame : change.userId = id
      · rw [if_pos hsame, Option.some.injEq] at hlast
        rw [(after_hash hnew user).1 (hsame.trans hid.symm), hlast] at hstored
        exact hstored
      · rw [if_neg hsame] at hlast
        refine hkept (fun hash hhash => ?_) hlast
        rw [hnew] at hhash
        cases hhash
        exact hsame rfl
  · obtain ⟨hchanges, hreplaced, _, husers⟩ := quiet hcommitted hdb
    intro id user huser last hlast earlier hearlier
    exact hfinal id user (husers id ▸ huser) last (lastChange_of_same hchanges id ▸ hlast) earlier
      (hreplaced ▸ hearlier)

/-- A step that keeps the law commits in time. -/
theorem timely_of_law (h : AccountInv settings a)
    (hfinal : Final settings (exec settings a op)) (houtdates : Outdates a (exec settings a op)) :
    CommitsTimely settings a op := by
  rcases World.commit_cases settings a.world op with
    ⟨position, txn, hat, hcommitted, hwrite, hopened⟩ | ⟨hcommitted, _⟩
  · intro txn' htxn'
    rw [hcommitted, Option.some.injEq] at htxn'
    subst htxn'
    have hrelies := h.relies txn (List.mem_of_getElem? hat)
    cases hwork : txn.work with
    | login session rehash =>
      cases rehash with
      | none => trivial
      | some rehash =>
        intro last hlast password hverified
        obtain ⟨user, hash, own, huser, hstored, hown, honly⟩ := hrelies.rehash session rehash hwork
        have hhash : txn.work.newHash? = some (session.userId, rehash) := by rw [hwork]; rfl
        have hid : user.id = session.userId := Table.key_of_get? huser
        have hnone : txn.work.change? = none := by
          rw [hwork]
          rfl
        have hchanges := changes_of_committed settings hcommitted hnone
        have hafter := (after_hash hhash user).1 hid.symm
        have hreplaced : (session.userId, hash) ∈ (exec settings a op).replaced := by
          rcases hstored with rfl | hold
          · have hby : a.replacedBy txn.work = some (session.userId, user.passwordHash) := by
              simp [replacedBy, hhash, huser]
            simp [exec, hcommitted, hby]
          · exact replaced_mono hold
        have hsame : password = own := honly password hverified
        refine hfinal session.userId (txn.work.after user) ?_ last
          ((lastChange_of_same hchanges _).trans hlast) hash hreplaced password (hsame ▸ hown) ?_
        · rw [user?_commit hwrite, huser, Option.map_some]
        · rw [hafter]
          exact hverified
    | revoke target now reused change =>
      cases change with
      | none => trivial
      | some change =>
        intro user huser
        have hchange : txn.work.change? = some change := by rw [hwork]; rfl
        have hdone := changeCommitted hcommitted hwrite hchange
        obtain ⟨user', huser', _, hversion⟩ := hdone.user user huser
        obtain ⟨loaded, hloaded, hle⟩ := hrelies.change change hchange
        rw [huser, Option.some.injEq] at hloaded
        subst hloaded
        obtain ⟨later, hlater, _, _, hup⟩ := houtdates change.userId user huser
        rw [huser', Option.some.injEq] at hlater
        subst hlater
        have hcount := changeCount_cons hdone change.userId
        rw [if_pos rfl] at hcount
        have hlt := (hup (by omega)).1
        omega
    | rotate | revokeOne => trivial
  · intro txn htxn
    rw [hcommitted] at htxn
    cases htxn

theorem Relies.congr {a' : Accounts} {work : Work} (h : Relies settings a work)
    (hdb : a'.world.db = a.world.db) (hreplaced : a'.replaced = a.replaced) :
    Relies settings a' work where
  rehash session rehash hwork := by
    rw [user?, hdb, hreplaced, ← user?]
    exact h.rehash session rehash hwork
  change change hchange := by
    rw [user?, hdb, ← user?]
    exact h.change change hchange
  unused tokenHash hreset := by
    rw [hdb]
    exact h.unused tokenHash hreset

/-- What another transaction relies on after a commit. -/
theorem Relies.commit {other : Work} (h : Relies settings a other)
    (hcommitted : a.world.committed op = some txn)
    (hwrite : txn.write a.world.db = some (exec settings a op).world.db)
    (houtdates : Outdates a (exec settings a op))
    (htokens : ∀ tokenHash, other.resetToken? = some tokenHash →
      txn.work.resetToken? ≠ some tokenHash) :
    Relies settings (exec settings a op) other where
  rehash session rehash hwork := by
    obtain ⟨user, hash, password, huser, hstored, hverified, honly⟩ :=
      h.rehash session rehash hwork
    obtain ⟨user', huser', hkept⟩ := replaced_commit hcommitted hwrite huser
    refine ⟨user', hash, password, huser', ?_, hverified, honly⟩
    rcases hstored with rfl | hold
    · rcases hkept with hsame | hreplaced
      · exact Or.inl hsame.symm
      · exact Or.inr hreplaced
    · exact Or.inr (replaced_mono hold)
  change change hchange := by
    obtain ⟨user, huser, hle⟩ := h.change change hchange
    obtain ⟨user', huser', _, hversion, _⟩ := houtdates change.userId user huser
    exact ⟨user', huser', by omega⟩
  unused tokenHash hreset :=
    (h.unused tokenHash hreset).write (htokens tokenHash hreset) hwrite

/-- A change has the lock of its reset token from the start. -/
theorem resetToken_locked {txn : OpenTxn} {tokenHash : String}
    (h : txn.work.resetToken? = some tokenHash) : Lock.resetToken tokenHash ∈ txn.locks := by
  obtain ⟨change, hchange, hreset⟩ := Option.bind_eq_some_iff.mp h
  obtain ⟨target, now, reused, hwork⟩ := Work.of_change hchange
  simp [OpenTxn.locks, hwork, hreset]

theorem AccountInv.step (h : AccountInv settings a) (hhashing : settings.Hashing)
    (houtdates : Outdates a (exec settings a op)) : AccountInv settings (exec settings a op) := by
  have hcoherent : Coherent (exec settings a op).world :=
    World.Step.coherent h.coherent (World.exec_step settings a.world op)
  rcases World.commit_cases settings a.world op with
    ⟨position, txn, hat, hcommitted, hwrite, hopened⟩ | ⟨hcommitted, hdb, hworks⟩
  · have hmem := List.mem_of_getElem? hat
    refine ⟨hcoherent, fun other hother => ?_, fun tokenHash htoken => ?_, ?_⟩
    · have hother' : other ∈ a.world.opened.eraseIdx position := hopened ▸ hother
      refine (h.relies other (List.mem_of_mem_eraseIdx hother')).commit hcommitted hwrite
        houtdates ?_
      intro tokenHash hreset hcommits
      exact h.coherent.exclusive.others hat other hother' _ (resetToken_locked hreset)
        (resetToken_locked hcommits)
    · simp only [exec, hcommitted, Option.map_some, Option.bind_some, List.mem_append,
        Option.mem_toList] at htoken
      rcases htoken with hold | hnew
      · exact (h.used tokenHash hold).write hwrite
      · exact ((h.relies txn hmem).unused tokenHash hnew).committed hnew hwrite
    · simp only [exec, hcommitted, Option.map_some, Option.bind_some]
      cases hreset : txn.work.change?.bind PasswordChange.resetToken with
      | none => simpa using h.resetOnce
      | some tokenHash =>
        obtain ⟨token, hget, hunused⟩ := (h.relies txn hmem).unused tokenHash hreset
        have hfresh : tokenHash ∉ a.resets := by
          intro hin
          obtain ⟨token', hget', hused⟩ := h.used tokenHash hin
          rw [hget, Option.some.injEq] at hget'
          exact hused (hget' ▸ hunused)
        rw [Option.toList_some, ← List.concat_eq_append]
        exact h.resetOnce.concat hfresh
  · obtain ⟨_, hreplaced, hresets, _⟩ := quiet hcommitted hdb
    refine ⟨hcoherent, fun other hother => ?_, fun tokenHash htoken => ?_, ?_⟩
    · rcases hworks other hother with ⟨old, hold, hwork⟩ | hbegun
      · exact hwork ▸ (h.relies old hold).congr hdb hreplaced
      · exact (Relies.begun hhashing (begun_of hbegun)).congr hdb hreplaced
    · rw [hresets] at htoken
      have hused := h.used tokenHash htoken
      rw [Used] at hused ⊢
      have hsame : (exec settings a op).world.db = a.world.db := hdb
      rw [hsame]
      exact hused
    · rw [hresets]
      exact h.resetOnce

/-! ## Runs -/

theorem Outdates.refl (a : Accounts) : Outdates a a :=
  .of_same rfl fun _ user huser => ⟨user, huser, rfl⟩

theorem Outdates.trans {b c : Accounts} (h : Outdates a b) (h' : Outdates b c) :
    Outdates a c := by
  intro id user huser
  obtain ⟨user', huser', hcount, hversion, hup⟩ := h id user huser
  obtain ⟨user'', huser'', hcount', hversion', hup'⟩ := h' id user' huser'
  refine ⟨user'', huser'', by omega, by omega, fun hlt => ?_⟩
  have hless : user.credentialVersion < user''.credentialVersion := by
    rcases Nat.lt_or_ge (a.changeCount id) (b.changeCount id) with hfirst | hfirst
    · have := (hup hfirst).1
      omega
    · have := (hup' (by omega)).1
      omega
  refine ⟨hless, ?_⟩
  have hne : user.credentialVersion ≠ user''.credentialVersion := by omega
  simp [acceptsToken, hne]

theorem accountInv_start (settings : Settings) (db : Tables) :
    AccountInv settings { world := { db } } where
  coherent := World.coherent_start db
  relies _ htxn := absurd htxn List.not_mem_nil
  used _ htoken := absurd htoken List.not_mem_nil
  resetOnce := List.nodup_nil

/-- A password change is final in exactly the runs whose log-ins and changes commit in time. No
reset token changes the password twice in any run. -/
theorem changes_final_iff (settings : Settings) (hhashing : settings.Hashing) (db : Tables)
    (ops : List World.Op) :
    (Always (exec settings) (Final settings) { world := { db } } ops ∧
        (states (exec settings) { world := { db } } ops).Pairwise Outdates ∧
        Always (exec settings) (fun a => a.resets.Nodup) { world := { db } } ops) ↔
      Along (exec settings) (CommitsTimely settings) { world := { db } } ops := by
  have hstart := accountInv_start settings db
  constructor
  · rintro ⟨hfinal, houtdates, _⟩
    have hafter : Along (exec settings) (fun a op => Final settings (exec settings a op))
        { world := { db } } ops :=
      along_of_always (fun _ _ h => h) hfinal
    refine Along.imp (I := AccountInv settings) (fun a op h hstep => h.step hhashing hstep.2)
      (fun a op h hstep => timely_of_law h hstep.1 hstep.2) hstart
      (hafter.and (step_of_pairwise houtdates))
  · intro htimely
    have hkeeps : ∀ a op, AccountInv settings a ∧ Final settings a → CommitsTimely settings a op →
        AccountInv settings (exec settings a op) ∧ Final settings (exec settings a op) :=
      fun a op h hstep =>
        ⟨h.1.step hhashing (outdates_of_timely hstep), final_of_timely h.2 hstep⟩
    have hfinal : Final settings { world := { db } } := by
      intro id user _ last hlast
      cases hlast
    have hboth := always_of_inv hkeeps ⟨hstart, hfinal⟩ htimely
    refine ⟨hboth.imp fun a h => h.2, ?_, hboth.imp fun a h => h.1.resetOnce⟩
    exact pairwise_of_step Outdates.refl (fun _ _ _ => Outdates.trans) hkeeps
      (fun a op _ hstep => outdates_of_timely hstep) ⟨hstart, hfinal⟩ htimely

/-! ## A log-in that is overtaken by a change -/

/-- Two kinds of hashes, of which the legacy one is replaced at a log-in. -/
def upgrading : Settings where
  hashPassword password := "$argon2id$" ++ password
  verifyAndUpdate password encoded := some (encoded = "$argon2id$" ++ password, none)
  verifyLegacyPbkdf2 password encoded := encoded = "pbkdf2_sha256$" ++ password

theorem upgrading_hashing : upgrading.Hashing where
  hashed password other h := by
    have hkind : startsWith ("$argon2id$" ++ password) "pbkdf2_sha256$" = false := by
      simp only [startsWith, String.toList_append]
      rfl
    have hsame : password = other := by
      simpa [Settings.verifyPassword, Settings.verifyPasswordAndUpdate, hkind, upgrading] using h
    exact hsame.symm
  updated password encoded valid new h := by simp [upgrading] at h

def legacyUser : User := {
  id := 1, email := "ada@example.org", passwordHash := "pbkdf2_sha256$first" }

def withLegacyUser : Tables := { users := ⟨[legacyUser], by decide⟩ }

/-- The log-in verifies the password before the change, and writes its hash after it. -/
def lateRehash : List World.Op := [
  .login "ada@example.org" "first" (World.device 10 "token") 0,
  .changePassword 1 "first" "second" 1,
  .snapshot 1,
  .commit 1,
  .commit 0]

theorem lateRehash_final_iff :
    (Always (exec upgrading) (Final upgrading) { world := { db := withLegacyUser } } lateRehash ∧
        (states (exec upgrading) { world := { db := withLegacyUser } } lateRehash).Pairwise
          Outdates ∧
        Always (exec upgrading) (fun a => a.resets.Nodup) { world := { db := withLegacyUser } }
          lateRehash) ↔
      Along (exec upgrading) (CommitsTimely upgrading) { world := { db := withLegacyUser } }
        lateRehash :=
  changes_final_iff upgrading upgrading_hashing withLegacyUser lateRehash

/-- The first password is valid again after the change. -/
theorem lateRehash_not_final :
    upgrading.Hashing ∧
      ¬ (Always (exec upgrading) (Final upgrading) { world := { db := withLegacyUser } }
            lateRehash ∧
          (states (exec upgrading) { world := { db := withLegacyUser } } lateRehash).Pairwise
            Outdates ∧
          Always (exec upgrading) (fun a => a.resets.Nodup)
            { world := { db := withLegacyUser } } lateRehash) := by
  refine ⟨upgrading_hashing, fun h => ?_⟩
  have hfinal := h.1 _ (run_mem_states _ lateRehash)
  have huser : (run (exec upgrading) { world := { db := withLegacyUser } } lateRehash).user? 1 =
      some { legacyUser with passwordHash := "$argon2id$first", credentialVersion := 2 } := by
    decide
  have hlast :
      (run (exec upgrading) { world := { db := withLegacyUser } } lateRehash).lastChange 1 =
        some "$argon2id$second" := by
    decide
  have hreplaced : (1, "pbkdf2_sha256$first") ∈
      (run (exec upgrading) { world := { db := withLegacyUser } } lateRehash).replaced := by
    decide
  have hverified := hfinal 1 _ huser _ hlast _ hreplaced "first" (by decide) (by decide)
  exact absurd hverified (by decide)

end Accounts

end Breero.Auth
