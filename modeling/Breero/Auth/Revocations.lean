import Breero.Auth.Effects

/-!
A revocation and the rotations that run beside it.

* `Coherent` is what holds in every state: an open rotation has its session as it read it, and
  an `update` has come to a row of its snapshot, will come to it, or finds it revoked;
* `World.always_complete_iff`: the sessions that derive from a revoked one are closed for good
  in exactly the runs in which no revocation is overtaken.
-/

namespace Breero.Auth
open KeyedTable Locks Runs

variable {settings : Settings} {t u : Table Session} {locks : List Lock}

/-! ## Rows that open transactions rely on -/

def Revoked (t : Table Session) (id : Uuid) : Prop :=
  ∃ session, t.get? id = some session ∧ session.revokedAt ≠ none

structure Linked (t : Table Session) (old successor : Uuid) : Prop where
  rows : ∃ a b, t.get? old = some a ∧ t.get? successor = some b ∧ b.userId = a.userId ∧
    b.familyId = a.familyId

/-- What an open transaction relies on. -/
structure Consistent (t : Table Session) (txn : OpenTxn) : Prop where
  rotating : ∀ old now successor, txn.work = .rotate old now successor → Rotating t old successor
  seen : ∀ seen, txn.seen = some seen → ∀ id ∈ seen,
    id ∈ txn.remaining ∨ id ∈ txn.updated ∨ Revoked t id
  targeted : ∀ id, id ∈ txn.remaining ∨ id ∈ txn.updated → ∃ seen, txn.seen = some seen ∧ id ∈ seen

structure Coherent (w : World) : Prop where
  exclusive : Exclusive OpenTxn.locks w.opened
  consistent : ∀ txn ∈ w.opened, Consistent w.db.sessions txn
  linked : ∀ pair ∈ w.rotations, Linked w.db.sessions pair.1 pair.2
  barred : ∀ id ∈ w.barred, ∃ session, w.db.sessions.get? id = some session

theorem Revoked.changed {id : Uuid} (h : Revoked t id) (hchanged : Changed locks t u) :
    Revoked u id := by
  obtain ⟨session, hget, hrevoked⟩ := h
  obtain ⟨later, hlater, _, _, hstays⟩ := hchanged.kept.get? hget
  exact ⟨later, hlater, hstays hrevoked⟩

theorem Linked.changed {old successor : Uuid} (h : Linked t old successor)
    (hchanged : Changed locks t u) : Linked u old successor := by
  obtain ⟨a, b, ha, hb, huser, hfamily⟩ := h.rows
  obtain ⟨a', ha', husera, hfamilya, _⟩ := hchanged.kept.get? ha
  obtain ⟨b', hb', huserb, hfamilyb, _⟩ := hchanged.kept.get? hb
  refine ⟨a', b', ha', hb', ?_, ?_⟩
  · rw [huserb, huser, husera]
  · rw [hfamilyb, hfamily, hfamilya]

/-- Another transaction has none of its locks. -/
theorem Consistent.changed {txn : OpenTxn} (h : Consistent t txn) (hchanged : Changed locks t u)
    (hothers : ∀ lock ∈ txn.locks, lock ∉ locks) : Consistent u txn where
  rotating old now successor hwork := by
    have hold := h.rotating old now successor hwork
    have hlock : Lock.session old.id ∈ txn.locks := by simp [OpenTxn.locks, hwork]
    exact { hold with there := hchanged.unlocked _ (hothers _ hlock) old hold.there }
  seen seen hseen id hid := by
    rcases h.seen seen hseen id hid with hin | hin | hrevoked
    · exact Or.inl hin
    · exact Or.inr (Or.inl hin)
    · exact Or.inr (Or.inr (hrevoked.changed hchanged))
  targeted := h.targeted

theorem Consistent.begun {db : Tables} {op : World.Op} {work : Work}
    (h : World.begun settings db op = some work) : Consistent db.sessions { work } where
  rotating old now successor hwork := by
    cases hwork
    cases begun_of h with
    | rotate _ rotating => exact rotating
  seen seen hseen := by cases hseen
  targeted id hid := by simp at hid

theorem Consistent.snapshot {txn : OpenTxn} {target : Target} (h : Consistent t txn)
    (hseen : txn.seen = none) :
    Consistent t { txn with
      seen := some (matching t target), remaining := matching t target } where
  rotating := h.rotating
  seen seen hseen id hid := by
    cases hseen
    exact Or.inl hid
  targeted id hid := by
    refine ⟨_, rfl, ?_⟩
    rcases hid with hid | hid
    · exact hid
    · -- it has not come to a row before its snapshot
      obtain ⟨seen, hsome, _⟩ := h.targeted id (Or.inr hid)
      rw [hseen] at hsome
      cases hsome

theorem Consistent.touched {txn : OpenTxn} {session : Session} {id : Uuid}
    (h : Consistent t txn) (hget : t.get? id = some session) (hin : id ∈ txn.remaining) :
    Consistent t { txn with
      remaining := txn.remaining.filter (· ≠ id)
      updated := if session.revokedAt = none then id :: txn.updated else txn.updated } where
  rotating := h.rotating
  seen seen hseen other hother := by
    rcases h.seen seen hseen other hother with hrest | hdone | hrevoked
    · by_cases heq : other = id
      · subst heq
        by_cases hopen : session.revokedAt = none
        · exact Or.inr (Or.inl (by simp [hopen]))
        · exact Or.inr (Or.inr ⟨session, hget, hopen⟩)
      · exact Or.inl (by simp [hrest, heq])
    · refine Or.inr (Or.inl ?_)
      split
      · exact List.mem_cons_of_mem _ hdone
      · exact hdone
    · exact Or.inr (Or.inr hrevoked)
  targeted other hother := by
    rcases hother with hrest | hdone
    · exact h.targeted other (Or.inl (List.mem_of_mem_filter hrest))
    · split at hdone
      · rcases List.mem_cons.mp hdone with rfl | hdone
        · exact h.targeted other (Or.inl hin)
        · exact h.targeted other (Or.inr hdone)
      · exact h.targeted other (Or.inr hdone)

/-! ## Steps -/

/-- The lock of the row that the `update` has come to, and those that it had. -/
theorem touched_locks {txn : OpenTxn} {session : Session} {id : Uuid} {lock : Lock}
    (h : lock ∈ OpenTxn.locks { txn with
      remaining := txn.remaining.filter (· ≠ id)
      updated := if session.revokedAt = none then id :: txn.updated else txn.updated }) :
    lock ∈ txn.locks ∨ lock = .session id := by
  unfold OpenTxn.locks at h ⊢
  split
  · simp_all
  · simp_all
  · simp_all
  · next target now reused change hwork =>
    simp only [hwork, List.mem_append] at h ⊢
    rcases h with h | h
    · exact Or.inl (Or.inl h)
    · split at h
      · rcases List.mem_cons.mp h with h | h
        · exact Or.inr h
        · exact Or.inl (Or.inr h)
      · exact Or.inl (Or.inr h)

theorem refreshable_not_revoked {session : Session} (hmem : session ∈ t.rows)
    (hopen : Refreshable session) : ¬ Revoked t session.id := by
  rintro ⟨row, hrow, hrevoked⟩
  have hsame : row = session :=
    Table.eq_of_key (Table.mem_of_get? hrow) hmem (Table.key_of_get? hrow)
  exact hrevoked (hsame ▸ hopen.1)

theorem Coherent.erase {w : World} (h : Coherent w) (position : Nat) :
    Coherent { w with opened := w.opened.eraseIdx position } :=
  { h with
    exclusive := h.exclusive.eraseIdx position
    consistent := fun txn htxn => h.consistent txn (List.mem_of_mem_eraseIdx htxn) }

/-- A transaction that has the locks of no other one. -/
theorem Coherent.push {w : World} (h : Coherent w) {txn : OpenTxn}
    (hfree : Free OpenTxn.locks w.opened txn.locks) (hnew : Consistent w.db.sessions txn) :
    Coherent { w with opened := w.opened ++ [txn] } := by
  refine { h with exclusive := h.exclusive.push hfree, consistent := ?_ }
  intro other hother
  rcases List.mem_append.mp hother with hold | hlast
  · exact h.consistent other hold
  · rw [List.mem_singleton] at hlast
    exact hlast ▸ hnew

namespace World

variable {w w' : World} {op : Op}

theorem mem_covered {target : Target} {id : Uuid} :
    id ∈ covered t target ↔ ∃ session ∈ t.rows, target.covers session = true ∧ session.id = id := by
  simp [covered, and_assoc]

theorem rotation_linked {db db' : Tables} {txn : OpenTxn} {pair : Uuid × Uuid}
    (h : Consistent db.sessions txn) (hwrite : txn.write db = some db')
    (hpair : txn.work.rotation? = some pair) : Linked db'.sessions pair.1 pair.2 := by
  cases hwork : txn.work with
  | rotate old now successor =>
    rw [hwork] at hpair
    cases hpair
    have hrotating := h.rotating old now successor hwork
    obtain ⟨later, hlater, huser, hfamily, _⟩ :=
      (write_changed hwrite).kept.get? hrotating.there
    have hadded := Table.get?_insert_self (addSession_inserts (write_rotate hwork hwrite))
    refine ⟨later, successor, hlater, hadded, ?_, ?_⟩
    · rw [hrotating.userId, huser]
    · rw [hrotating.familyId, hfamily]
  | login session passwordHash =>
    rw [hwork] at hpair
    cases hpair
  | revokeOne record now =>
    rw [hwork] at hpair
    cases hpair
  | revoke target now reused change =>
    rw [hwork] at hpair
    cases hpair

theorem Step.coherent (h : Coherent w) (hstep : Step settings w op w') : Coherent w' := by
  cases hstep with
  | unchanged => exact h
  | ended _ position => exact h.erase position
  | begun hbegun hfree => exact h.push hfree (Consistent.begun hbegun)
  | @snapshot position txn target hat htarget hseen hfree =>
    have htxn := h.consistent txn (List.mem_of_getElem? hat)
    exact (h.erase position).push hfree (htxn.snapshot hseen)
  | @touched position id txn session hat hget hin hfree =>
    have htxn := h.consistent txn (List.mem_of_getElem? hat)
    refine (h.erase position).push ?_ (htxn.touched hget hin)
    intro other hother lock hlock hwanted
    rcases touched_locks hwanted with hhad | rfl
    · exact h.exclusive.others hat other hother lock hlock hhad
    · exact hfree other hother _ hlock (List.mem_singleton.mpr rfl)
  | @committed position txn db hat hready hwrite =>
    have hchanged := write_changed hwrite
    have hmem := List.mem_of_getElem? hat
    refine ⟨h.exclusive.eraseIdx position, ?_, ?_, ?_⟩
    · intro other hother
      exact (h.consistent other (List.mem_of_mem_eraseIdx hother)).changed hchanged
        (h.exclusive.others hat other hother)
    · intro pair hpair
      rcases List.mem_append.mp hpair with hold | hnew
      · exact (h.linked pair hold).changed hchanged
      · exact rotation_linked (h.consistent txn hmem) hwrite (Option.mem_toList.mp hnew)
    · intro id hid
      have hthere : ∃ session, w.db.sessions.get? id = some session := by
        rcases List.mem_append.mp hid with hold | hnew
        · exact h.barred id hold
        · obtain ⟨target, _, hcovered⟩ := List.mem_flatMap.mp hnew
          obtain ⟨session, hsession, _, rfl⟩ := mem_covered.mp hcovered
          exact ⟨session, Table.get?_key hsession⟩
      obtain ⟨session, hget⟩ := hthere
      obtain ⟨later, hlater, _⟩ := hchanged.kept.get? hget
      exact ⟨later, hlater⟩

/-! ## Descent -/

theorem Derives.linked (h : Coherent w) {a b : Uuid} (hderives : w.Derives a b) {session : Session}
    (ha : w.db.sessions.get? a = some session) :
    ∃ later, w.db.sessions.get? b = some later ∧ later.userId = session.userId ∧
      later.familyId = session.familyId := by
  induction hderives with
  | refl => exact ⟨session, ha, rfl, rfl⟩
  | tail _ hpair ih =>
    obtain ⟨mid, hmid, huser, hfamily⟩ := ih
    obtain ⟨x, later, hx, hlater, huser', hfamily'⟩ := (h.linked _ hpair).rows
    have hsame : x = mid := Option.some.inj (hx.symm.trans hmid)
    subst hsame
    exact ⟨later, hlater, huser'.trans huser, hfamily'.trans hfamily⟩

theorem Derives.covered (h : Coherent w) {target : Target} {session later : Session}
    (hderives : w.Derives session.id later.id) (hmem : session ∈ w.db.sessions.rows)
    (hlater : later ∈ w.db.sessions.rows) (hcovers : target.covers session = true) :
    target.covers later = true := by
  obtain ⟨row, hrow, huser, hfamily⟩ := hderives.linked h (Table.get?_key hmem)
  have hsame : row = later :=
    Table.eq_of_key (Table.mem_of_get? hrow) hlater (Table.key_of_get? hrow)
  subst hsame
  cases target with
  | family familyId => simpa [Target.covers, hfamily] using hcovers
  | user userId => simpa [Target.covers, huser] using hcovers

/-- With one more rotation, to a session that is new. -/
theorem Derives.rotated {old successor a b : Uuid}
    (hrotations : w'.rotations = w.rotations ++ [(old, successor)])
    (hnew : ∀ pair ∈ w.rotations, pair.1 ≠ successor) (hne : old ≠ successor)
    (hderives : w'.Derives a b) :
    w.Derives a b ∨ b = successor ∧ (a = successor ∨ w.Derives a old) := by
  induction hderives with
  | refl => exact Or.inl .refl
  | @tail mid last _ hpair ih =>
    rw [hrotations] at hpair
    rcases List.mem_append.mp hpair with hold | hlast
    · rcases ih with ih | ⟨hmid, _⟩
      · exact Or.inl (ih.tail hold)
      · exact absurd hmid (hnew (mid, last) hold)
    · rw [List.mem_singleton] at hlast
      injection hlast with hfrom hto
      subst hfrom hto
      rcases ih with ih | ⟨heq, _⟩
      · exact Or.inr ⟨rfl, Or.inr ih⟩
      · exact absurd heq hne

/-- Nothing derives from a barred session that is not there. -/
theorem Derives.not_new (h : Coherent w) {id new : Uuid} (hid : id ∈ w.barred)
    (hnew : w.db.sessions.get? new = none) : ¬ w.Derives id new := by
  intro hderives
  obtain ⟨session, hget⟩ := h.barred id hid
  obtain ⟨later, hlater, _⟩ := hderives.linked h hget
  rw [hnew] at hlater
  cases hlater

/-! ## Completeness -/

theorem source_ne (h : Coherent w) {new : Uuid}
    (hnew : w.db.sessions.get? new = none) : ∀ pair ∈ w.rotations, pair.1 ≠ new := by
  intro pair hpair heq
  obtain ⟨a, _, ha, _⟩ := (h.linked pair hpair).rows
  rw [heq, hnew] at ha
  cases ha

/-- What neither rotates nor revokes a target. -/
theorem Complete.changed (h : Coherent w) (hcomplete : Complete w)
    (hchanged : Changed locks w.db.sessions w'.db.sessions)
    (hrotations : w'.rotations = w.rotations) (hbarred : w'.barred = w.barred) :
    Complete w' := by
  intro id hid session hmem hderives hopen
  unfold Derives at hderives
  rw [hbarred] at hid
  rw [hrotations] at hderives
  rcases hchanged.refreshable session hmem hopen with hold | hnew
  · exact hcomplete id hid session hold hderives hopen
  · exact Derives.not_new h hid hnew hderives

/-- A session that is rotated could be refreshed, and so derives from no barred one. -/
theorem Complete.rotated (h : Coherent w) (hcomplete : Complete w) {old successor : Session}
    (hrotating : Rotating w.db.sessions old successor)
    (hchanged : Changed locks w.db.sessions w'.db.sessions)
    (hnew : w.db.sessions.get? successor.id = none)
    (hrotations : w'.rotations = w.rotations ++ [(old.id, successor.id)])
    (hbarred : w'.barred = w.barred) : Complete w' := by
  intro id hid session hmem hderives hopen
  rw [hbarred] at hid
  have hne : old.id ≠ successor.id := by
    intro heq
    have hthere := hrotating.there
    rw [heq, hnew] at hthere
    cases hthere
  rcases Derives.rotated hrotations (source_ne h hnew) hne hderives with hd | ⟨_, hid' | hd⟩
  · rcases hchanged.refreshable session hmem hopen with hold | hfresh
    · exact hcomplete id hid session hold hd hopen
    · exact Derives.not_new h hid hfresh hd
  · obtain ⟨row, hrow⟩ := h.barred id hid
    rw [hid', hnew] at hrow
    cases hrow
  · have hold := Table.mem_of_get? hrotating.there
    exact hcomplete id hid old hold hd hrotating.refreshable

/-- A session that is left by the `update` was not there for its snapshot. -/
theorem Complete.revoked (h : Coherent w) (hcomplete : Complete w) {txn : OpenTxn}
    (target : Target) {now : Instant} (htxn : txn ∈ w.opened) (hseen : txn.seen.isSome)
    (hremaining : txn.remaining = [])
    (hnot : ∀ seen, txn.seen = some seen → ∀ session ∈ w.db.sessions.rows,
      target.covers session = true → Refreshable session → session.id ∈ seen)
    (hsessions : w'.db.sessions = Auth.revoked w.db.sessions txn.updated now)
    (hrotations : w'.rotations = w.rotations)
    (hbarred : w'.barred = w.barred ++ Auth.covered w.db.sessions target) : Complete w' := by
  intro id hid session hmem hderives hopen
  unfold Derives at hderives
  rw [hrotations] at hderives
  rw [hsessions] at hmem
  obtain ⟨hold, hleft⟩ := refreshable_revoked hmem hopen
  rw [hbarred] at hid
  rcases List.mem_append.mp hid with hid | hid
  · exact hcomplete id hid session hold hderives hopen
  · obtain ⟨root, hroot, hcovers, rfl⟩ := mem_covered.mp hid
    have hcovered := Derives.covered h hderives hroot hold hcovers
    obtain ⟨seen, hsome⟩ := Option.isSome_iff_exists.mp hseen
    have hin := hnot seen hsome session hold hcovered hopen
    rcases (h.consistent txn htxn).seen seen hsome _ hin with hrest | hdone | hrevoked
    · rw [hremaining] at hrest
      cases hrest
    · exact hleft hdone
    · exact refreshable_not_revoked hold hopen hrevoked

theorem Step.complete (h : Coherent w) (hcomplete : Complete w) (hstep : Step settings w op w')
    (hnot : ¬ Overtaken w op) : Complete w' := by
  cases hstep with
  | unchanged => exact hcomplete
  | ended _ position => exact hcomplete
  | begun hbegun hfree => exact hcomplete
  | snapshot hat htarget hseen hfree => exact hcomplete
  | touched hat hget hin hfree => exact hcomplete
  | @committed position txn db hat hready hwrite =>
    have hchanged := write_changed hwrite
    have hmem := List.mem_of_getElem? hat
    cases hwork : txn.work with
    | login session passwordHash =>
      exact Complete.changed h hcomplete hchanged (by simp [Work.rotation?])
        (by simp [Work.target?])
    | revokeOne record now =>
      exact Complete.changed h hcomplete hchanged (by simp [Work.rotation?])
        (by simp [Work.target?])
    | rotate old now successor =>
      have hlock : Lock.session old.id ∈ txn.locks := by simp [OpenTxn.locks, hwork]
      have hnew := addSession_fresh (write_rotate hwork hwrite)
      refine Complete.rotated h hcomplete ((h.consistent txn hmem).rotating old now successor hwork)
        hchanged ?_ (by simp [Work.rotation?]) (by simp [Work.target?])
      cases hget : w.db.sessions.get? successor.id with
      | none => rfl
      | some row =>
        obtain ⟨later, hlater, _⟩ := (setRotated_changed hlock).kept.get? hget
        rw [hnew] at hlater
        cases hlater
    | revoke target now reused change =>
      have htarget : txn.work.target? = some target := by rw [hwork]; rfl
      simp only [ready, hwork, Bool.and_eq_true, List.isEmpty_iff] at hready
      refine Complete.revoked h hcomplete target hmem hready.1 hready.2 ?_
        (write_revoke hwork hwrite) (by simp [Work.rotation?]) (by simp [Work.target?])
      intro seen hseen session hsession hcovers hopen
      by_contra hunseen
      exact hnot ⟨txn, hat, hready.2, target, htarget, seen, hseen, session, hsession, hcovers,
        hopen, hunseen⟩

/-- The session that the snapshot does not have is left. -/
theorem overtaken_incomplete (h : Coherent w) (hovertaken : Overtaken w op) :
    ¬ Complete (exec settings w op) := by
  cases op with
  | commit position =>
    obtain ⟨txn, hat, hremaining, target, htarget, seen, hseen, session, hsession, hcovers, hopen,
      hunseen⟩ := hovertaken
    have hat : w.opened[position]? = some txn := hat
    have hseen : txn.seen = some seen := hseen
    cases hwork : txn.work with
    | revoke target' now reused change =>
      rw [hwork] at htarget
      cases htarget
      obtain ⟨db, hwrite⟩ : ∃ db, txn.write w.db = some db := by
        simp only [OpenTxn.write, hwork]
        exact ⟨_, rfl⟩
      have hready : ready (w.opened.eraseIdx position) txn = true := by
        simp [ready, hwork, hseen, hremaining]
      intro hcomplete
      simp only [exec, hat, commitOf, hready, if_true, hwrite] at hcomplete
      refine hcomplete session.id ?_ session ?_ .refl hopen
      · refine List.mem_append.mpr (Or.inr ?_)
        rw [hwork]
        simp only [Work.target?, Option.toList_some, List.flatMap_singleton]
        exact mem_covered.mpr ⟨session, hsession, hcovers, rfl⟩
      · rw [write_revoke hwork hwrite]
        have hleft : session.id ∉ txn.updated := by
          intro hin
          obtain ⟨seen', hseen', hin'⟩ :=
            (h.consistent txn (List.mem_of_getElem? hat)).targeted session.id (Or.inr hin)
          rw [hseen] at hseen'
          cases hseen'
          exact hunseen hin'
        exact Table.mem_update.mpr ⟨session, hsession, if_neg hleft⟩
    | login session' passwordHash => simp [hwork, Work.target?] at htarget
    | rotate old now successor => simp [hwork, Work.target?] at htarget
    | revokeOne record now => simp [hwork, Work.target?] at htarget
  | _ => exact hovertaken.elim

theorem coherent_start (db : Tables) : Coherent { db } where
  exclusive := List.Pairwise.nil
  consistent _ h := by cases h
  linked _ h := by cases h
  barred _ h := by cases h

/-- A session that derives from a revoked one stays closed in exactly the runs in which no
revocation is overtaken. -/
theorem always_complete_iff (settings : Settings) (db : Tables) (ops : List Op) :
    Always (exec settings) Complete { db } ops ↔
      Along (exec settings) (fun w op => ¬ Overtaken w op) { db } ops := by
  have hstart : Coherent { db } := coherent_start db
  have hkeeps : ∀ w op, Coherent w → Coherent (exec settings w op) :=
    fun w op h => Step.coherent h (exec_step settings w op)
  constructor
  · intro h
    refine along_of_always_inv (I := Coherent) (fun w op hw _ => hkeeps w op hw) ?_ hstart h
    intro w op hw hcomplete hovertaken
    exact overtaken_incomplete hw hovertaken hcomplete
  · intro h
    have hboth := always_of_inv (I := fun w => Coherent w ∧ Complete w) (fun w op hw hnot =>
      ⟨hkeeps w op hw.1, Step.complete hw.1 hw.2 (exec_step settings w op) hnot⟩)
      ⟨hstart, fun _ h => by cases h⟩ h
    exact hboth.imp fun w hw => hw.2

/-! ## A rotation that a log-out does not see -/

def user : User := { id := 1, email := "ada@example.org", passwordHash := "pass" }

def device (id : Uuid) (token : String) : Client := { id, familyId := 7, token }

/-- The rotation has the lock when the `update` of the log-out starts. -/
def overtaking : List Op := [
  .login "ada@example.org" "pass" (device 10 "first") 0,
  .commit 0,
  .refresh "first" (device 11 "second") 1,
  .logoutAll 1 2,
  .snapshot 1,
  .commit 0,
  .touch 0 10,
  .commit 0]

def atFirst : World := { db := { users := ⟨[user], by decide⟩ } }

/-- The token that the rotation returned is rotated again, after the log-out. -/
theorem late_successor_not_closed :
    ¬ Always (exec {}) Complete atFirst overtaking ∧
      (begun {} (run (exec {}) atFirst overtaking).db
        (.refresh "second" (device 12 "third") 3)).bind Work.rotation? = some (11, 12) := by
  refine ⟨fun h => ?_, by decide⟩
  have hcomplete := h _ (run_mem_states atFirst overtaking)
  have hbarred : 10 ∈ (run (exec {}) atFirst overtaking).barred := by decide
  have hleft : ∃ session ∈ (run (exec {}) atFirst overtaking).db.sessions.rows,
      session.id = 11 ∧ Refreshable session := by decide
  have hrotated : (10, 11) ∈ (run (exec {}) atFirst overtaking).rotations := by decide
  obtain ⟨session, hmem, hid, hopen⟩ := hleft
  refine hcomplete 10 hbarred session hmem ?_ hopen
  exact hid ▸ Relation.ReflTransGen.single hrotated

end World

end Breero.Auth
