import Breero.Auth.Revocations

/-!
The sessions of a family, when the requests are served one after the other.

* `serve` is a request from its first statement to its commit; `serve_run` says that it is a run
  of the system in which nothing else is open;
* `OneLive` and `ReuseCloses` are the law;
* `one_live_token`: it holds in every serial run.
-/

namespace Breero.Auth
open KeyedTable Transaction Locks Runs

variable {settings : Settings} {db : Tables}

/-! ## Serial runs -/

/-- A transaction with nothing beside it, as it is right before its commit. -/
def alone (db : Tables) (work : Work) : OpenTxn where
  work
  seen := work.target?.map (matching db.sessions)
  updated := (work.target?.map (matching db.sessions)).getD []

def serve (settings : Settings) (db : Tables) (op : World.Op) : Tables :=
  match World.begun settings db op with
  | some work => ((alone db work).write db).getD db
  | none => db

/-- The steps of a request with nothing beside it. -/
def steps (settings : Settings) (db : Tables) (op : World.Op) : List World.Op :=
  let ids := ((World.begun settings db op).bind Work.target?).map (matching db.sessions)
  op :: .snapshot 0 :: (ids.getD []).map (World.Op.touch 0) ++ [.commit 0]

theorem free_nil (wanted : List Lock) : Free OpenTxn.locks [] wanted :=
  fun _ h => absurd h List.not_mem_nil

theorem proceed_alone (w : World) (txn : OpenTxn) : w.proceed [] txn = { w with opened := [txn] } :=
  if_pos (free_nil _)

variable (rotations : List (Uuid × Uuid)) (barred : List Uuid)

theorem exec_idle (settings : Settings) (db : Tables) (op : World.Op) :
    World.exec settings { db, rotations, barred } op = {
      db
      opened := ((World.begun settings db op).map fun work => { work }).toList
      rotations
      barred } := by
  unfold World.exec
  split
  · rfl
  · rfl
  · rfl
  · rfl
  · dsimp only
    cases hwork : World.begun settings db op with
    | none => rfl
    | some work => exact proceed_alone _ _

theorem exec_touch {txn : OpenTxn} {id : Uuid} {session : Session}
    (hget : db.sessions.get? id = some session) (hopen : session.revokedAt = none)
    (hin : id ∈ txn.remaining) :
    World.exec settings { db, opened := [txn], rotations, barred } (.touch 0 id) = {
      db
      opened := [{ txn with
        remaining := txn.remaining.filter (· ≠ id)
        updated := id :: txn.updated }]
      rotations
      barred } := by
  simp only [World.exec, List.getElem?_cons_zero, World.touchOf, hget, hopen, if_true]
  exact if_pos ⟨hin, free_nil _⟩

/-- The `update` comes to all rows of its snapshot. -/
theorem run_touches {txn : OpenTxn} {ids : List Uuid} (hnodup : ids.Nodup)
    (hopen : ∀ id ∈ ids, ∃ session, db.sessions.get? id = some session ∧ session.revokedAt = none)
    (hremaining : txn.remaining = ids) :
    run (World.exec settings) { db, opened := [txn], rotations, barred }
        (ids.map (World.Op.touch 0)) = {
      db
      opened := [{ txn with remaining := [], updated := ids.reverse ++ txn.updated }]
      rotations
      barred } := by
  induction ids generalizing txn with
  | nil =>
    obtain ⟨work, seen, remaining, updated⟩ := txn
    simp only at hremaining
    subst hremaining
    rfl
  | cons id ids ih =>
    obtain ⟨hnot, hrest⟩ := List.nodup_cons.mp hnodup
    obtain ⟨session, hget, hrevoked⟩ := hopen id List.mem_cons_self
    have hfilter : (id :: ids).filter (· ≠ id) = ids := by
      rw [List.filter_cons_of_neg (by simp), List.filter_eq_self]
      intro other hother
      simpa using fun heq : other = id => hnot (heq ▸ hother)
    rw [List.map_cons, run, List.foldl_cons,
      exec_touch rotations barred hget hrevoked (by rw [hremaining]; exact List.mem_cons_self),
      ← run, ih hrest (fun other hother => hopen other (List.mem_cons_of_mem _ hother))
        (by rw [hremaining, hfilter])]
    simp

theorem mem_matching {t : Table Session} {target : Target} {id : Uuid} :
    id ∈ matching t target ↔
      ∃ session, t.get? id = some session ∧ target.covers session = true ∧
        session.revokedAt = none := by
  simp only [matching, List.mem_map, List.mem_filter, decide_eq_true_eq]
  constructor
  · rintro ⟨session, ⟨hmem, hcovers, hopen⟩, rfl⟩
    exact ⟨session, Table.get?_key hmem, hcovers, hopen⟩
  · rintro ⟨session, hget, hcovers, hopen⟩
    exact ⟨session, ⟨Table.mem_of_get? hget, hcovers, hopen⟩, Table.key_of_get? hget⟩

theorem matching_nodup (t : Table Session) (target : Target) : (matching t target).Nodup :=
  t.nodup.sublist (List.filter_sublist.map _)

theorem exec_commit (settings : Settings) (db : Tables) (txn : OpenTxn)
    (hready : World.ready [] txn = true) :
    ∃ rotations' barred', World.exec settings { db, opened := [txn], rotations, barred }
        (.commit 0) = {
      db := (txn.write db).getD db, rotations := rotations', barred := barred' } := by
  cases hwrite : txn.write db with
  | none => exact ⟨rotations, barred, by simp [World.exec, World.commitOf, hready, hwrite]⟩
  | some db' =>
    refine ⟨rotations ++ txn.work.rotation?.toList,
      barred ++ txn.work.target?.toList.flatMap (covered db.sessions), ?_⟩
    simp [World.exec, World.commitOf, hready, hwrite]

theorem revoked_congr {t : Table Session} {ids ids' : List Uuid} (h : ∀ id, id ∈ ids ↔ id ∈ ids')
    (now : Instant) : revoked t ids now = revoked t ids' now := by
  unfold revoked Table.update
  congr 1
  refine List.map_congr_left fun session _ => ?_
  simp only [h session.id]

/-- The `update` of a revocation with nothing beside it. -/
theorem run_update (settings : Settings) (db : Tables) (target : Target) (now : Instant)
    (reused : Option Uuid) (change : Option PasswordChange) :
    ∃ rotations' barred', run (World.exec settings)
        { db, opened := [{ work := .revoke target now reused change }], rotations, barred }
        (.snapshot 0 :: (matching db.sessions target).map (World.Op.touch 0) ++ [.commit 0]) = {
      db := ((alone db (.revoke target now reused change)).write db).getD db
      rotations := rotations', barred := barred' } := by
  let work : Work := .revoke target now reused change
  let ids := matching db.sessions target
  have hsnapshot : World.exec settings { db, opened := [{ work }], rotations, barred }
      (.snapshot 0) =
        { db, opened := [{ work, seen := some ids, remaining := ids }], rotations, barred } :=
    proceed_alone _ _
  have hopen : ∀ id ∈ ids, ∃ session,
      db.sessions.get? id = some session ∧ session.revokedAt = none := by
    intro id hid
    obtain ⟨session, hget, _, hrevoked⟩ := mem_matching.mp hid
    exact ⟨session, hget, hrevoked⟩
  have htouches : run (World.exec settings)
      { db, opened := [{ work, seen := some ids, remaining := ids }], rotations, barred }
      (ids.map (World.Op.touch 0)) =
        { db, opened := [{ work, seen := some ids, updated := ids.reverse ++ [] }], rotations,
          barred } :=
    run_touches rotations barred (matching_nodup db.sessions target) hopen rfl
  have hwrite : OpenTxn.write { work, seen := some ids, updated := ids.reverse ++ [] } db =
      (alone db work).write db := by
    have hsame : revoked db.sessions (ids.reverse ++ []) now = revoked db.sessions ids now :=
      revoked_congr (by simp) now
    simp only [work, OpenTxn.write, hsame]
    rfl
  obtain ⟨rotations', barred', hcommit⟩ := exec_commit rotations barred settings db
    { work, seen := some ids, updated := ids.reverse ++ [] } rfl
  have hbefore : run (World.exec settings) { db, opened := [{ work }], rotations, barred }
      (.snapshot 0 :: ids.map (World.Op.touch 0)) =
        { db, opened := [{ work, seen := some ids, updated := ids.reverse ++ [] }], rotations,
          barred } := by
    rw [run, List.foldl_cons, hsnapshot]
    exact htouches
  refine ⟨rotations', barred', ?_⟩
  rw [run, List.foldl_append]
  refine (congrArg (fun w => World.exec settings w (.commit 0)) hbefore).trans ?_
  rw [hcommit, hwrite]

/-- Served alone, a request is a run of the system. -/
theorem serve_run (settings : Settings) (db : Tables) (op : World.Op) :
    ∃ rotations' barred', run (World.exec settings) { db, rotations, barred }
        (steps settings db op) = {
      db := serve settings db op, rotations := rotations', barred := barred' } := by
  unfold steps serve
  rw [run, List.cons_append, List.foldl_cons, exec_idle]
  cases hwork : World.begun settings db op with
  | none => exact ⟨rotations, barred, rfl⟩
  | some work =>
    simp only [Option.map_some, Option.toList_some, Option.bind_some]
    cases htarget : work.target? with
    | none =>
      have hsnapshot : World.exec settings { db, opened := [{ work }], rotations, barred }
          (.snapshot 0) = { db, opened := [{ work }], rotations, barred } := by
        simp [World.exec, World.snapshotOf, htarget]
      have halone : alone db work = { work } := by simp [alone, htarget]
      have hready : World.ready [] { work } = true := by
        cases work with
        | login session hash => exact decide_eq_true (free_nil [Lock.user session.userId])
        | rotate | revokeOne => rfl
        | revoke target now reused change => cases htarget
      obtain ⟨rotations', barred', hcommit⟩ := exec_commit rotations barred settings db _ hready
      rw [halone]
      refine ⟨rotations', barred', ?_⟩
      simp only [Option.map_none, Option.getD_none, List.map_nil, List.cons_append, List.nil_append,
        List.foldl_cons, List.foldl_nil, hsnapshot, hcommit]
    | some target =>
      cases hkind : work with
      | revoke target' now reused change =>
        rw [hkind] at htarget
        obtain rfl : target' = target := Option.some.inj htarget
        exact run_update rotations barred settings db target' now reused change
      | login | rotate | revokeOne => simp [hkind, Work.target?] at htarget

/-! ## The law -/

/-- Neither revoked nor rotated nor expired. -/
def Live (now : Instant) (session : Session) : Prop :=
  Refreshable session ∧ now < session.expiresAt

instance (now : Instant) : DecidablePred (Live now) := fun _ => inferInstanceAs (Decidable (_ ∧ _))

def OneLive (db : Tables) : Prop :=
  ∀ now, ∀ a ∈ db.sessions.rows, ∀ b ∈ db.sessions.rows, a.familyId = b.familyId →
    Live now a → Live now b → a = b

/-- No session of the family can be used, now or later. -/
def Closed (familyId : Uuid) (db : Tables) : Prop :=
  ∀ session ∈ db.sessions.rows, session.familyId = familyId → ¬ Refreshable session

/-- A token that is presented after its rotation or revocation closes its family. -/
def ReuseCloses (settings : Settings) (db : Tables) : World.Op → Prop
  | .refresh rawToken client now =>
    ∀ session, sessionByHash db (settings.hashToken rawToken) = some session →
      ¬ Refreshable session →
      Closed session.familyId (serve settings db (.refresh rawToken client now))
  | _ => True

/-- The families of the later state that had sessions before and were closed. -/
def StaysClosed (db db' : Tables) : Prop :=
  ∀ session ∈ db.sessions.rows, Closed session.familyId db → Closed session.familyId db'

/-- `uuid4` returns a family id that no session has. -/
def NewFamily (db : Tables) : World.Op → Prop
  | .login _ _ client _ => ∀ session ∈ db.sessions.rows, session.familyId ≠ client.familyId
  | _ => True

instance (db : Tables) : DecidablePred (NewFamily db)
  | .login _ _ client _ => inferInstanceAs (Decidable (∀ session ∈ db.sessions.rows,
      session.familyId ≠ client.familyId))
  | .refresh .. | .logout .. | .logoutAll .. | .changePassword .. | .setInitialPassword ..
  | .resetPassword .. | .snapshot .. | .touch .. | .commit .. | .abort .. => isTrue trivial

/-! ## Writes -/

/-- The sessions that can be refreshed after a request. -/
inductive Opens (t u : Table Session) : Prop
  | none (kept : ∀ session ∈ u.rows, Refreshable session → session ∈ t.rows)
  /-- a log-in -/
  | first (new : Session) (fresh : ∀ session ∈ t.rows, session.familyId ≠ new.familyId)
      (kept : ∀ session ∈ u.rows, Refreshable session → session ∈ t.rows ∨ session = new)
  /-- a rotation -/
  | next (old new : Session) (there : old ∈ t.rows) (refreshable : Refreshable old)
      (family : new.familyId = old.familyId)
      (kept : ∀ session ∈ u.rows, Refreshable session →
        (session ∈ t.rows ∧ session ≠ old) ∨ session = new)

def OneRefreshable (t : Table Session) : Prop :=
  ∀ a ∈ t.rows, ∀ b ∈ t.rows, a.familyId = b.familyId → Refreshable a → Refreshable b → a = b

variable {t u : Table Session}

theorem Opens.refl (t : Table Session) : Opens t t := .none fun _ h _ => h

theorem Opens.oneRefreshable (h : Opens t u) (hone : OneRefreshable t) : OneRefreshable u := by
  cases h with
  | none kept =>
    intro a ha b hb hfamily hopena hopenb
    exact hone a (kept a ha hopena) b (kept b hb hopenb) hfamily hopena hopenb
  | first new fresh kept =>
    intro a ha b hb hfamily hopena hopenb
    rcases kept a ha hopena with hold | rfl
    · rcases kept b hb hopenb with hold' | rfl
      · exact hone a hold b hold' hfamily hopena hopenb
      · exact absurd hfamily (fresh a hold)
    · rcases kept b hb hopenb with hold' | rfl
      · exact absurd hfamily.symm (fresh b hold')
      · rfl
  | next old new there refreshable family kept =>
    -- nothing else of the family of the old session can be refreshed
    have hother : ∀ session ∈ t.rows, session ≠ old → session.familyId = new.familyId →
        ¬ Refreshable session := by
      intro session hsession hne hfamily hopen
      exact hne (hone session hsession old there (hfamily.trans family) hopen refreshable)
    intro a ha b hb hfamily hopena hopenb
    rcases kept a ha hopena with ⟨hold, hne⟩ | rfl
    · rcases kept b hb hopenb with ⟨hold', hne'⟩ | rfl
      · exact hone a hold b hold' hfamily hopena hopenb
      · exact absurd hopena (hother a hold hne hfamily)
    · rcases kept b hb hopenb with ⟨hold', hne'⟩ | rfl
      · exact absurd hopenb (hother b hold' hne' hfamily.symm)
      · rfl

theorem Opens.closed (h : Opens t u) {familyId : Uuid}
    (hthere : ∃ session ∈ t.rows, session.familyId = familyId)
    (hclosed : ∀ session ∈ t.rows, session.familyId = familyId → ¬ Refreshable session) :
    ∀ session ∈ u.rows, session.familyId = familyId → ¬ Refreshable session := by
  intro session hsession hfamily hopen
  cases h with
  | none kept => exact hclosed session (kept session hsession hopen) hfamily hopen
  | first new fresh kept =>
    rcases kept session hsession hopen with hold | rfl
    · exact hclosed session hold hfamily hopen
    · obtain ⟨other, hother, hfamily'⟩ := hthere
      exact fresh other hother (hfamily'.trans hfamily.symm)
  | next old new there refreshable family kept =>
    rcases kept session hsession hopen with ⟨hold, _⟩ | rfl
    · exact hclosed session hold hfamily hopen
    · exact hclosed old there (family.symm.trans hfamily) refreshable

theorem setRotated_kept {id : Uuid} {now : Instant} {session : Session}
    (hmem : session ∈ (setRotated t id now).rows) (hopen : Refreshable session) :
    session ∈ t.rows ∧ session.id ≠ id := by
  unfold setRotated at hmem
  split at hmem
  · next old hget =>
    have hid : old.id = id := Table.key_of_get? hget
    rcases Table.mem_put.mp hmem with ⟨rfl, _⟩ | ⟨hold, hne⟩
    · simp [Refreshable] at hopen
    · exact ⟨hold, fun heq => hne (heq.trans hid.symm)⟩
  · next hget => exact ⟨hmem, Table.get?_eq_none.mp hget session hmem⟩

theorem setRevoked_kept {id : Uuid} {now : Instant} {session : Session}
    (hmem : session ∈ (setRevoked t id now).rows) (hopen : Refreshable session) :
    session ∈ t.rows := by
  unfold setRevoked at hmem
  split at hmem
  · next old hget =>
    rcases Table.mem_put.mp hmem with ⟨rfl, _⟩ | ⟨hold, _⟩
    · simp [Refreshable] at hopen
    · exact hold
  · exact hmem

theorem serve_opens {op : World.Op} (hfresh : NewFamily db op) :
    Opens db.sessions (serve settings db op).sessions := by
  unfold serve
  split
  · next work hwork =>
    cases hwrite : (alone db work).write db with
    | none => exact Opens.refl _
    | some db' =>
      rw [Option.getD_some]
      cases begun_of hwork with
      | @login email password client now user new passwordHash found verified family =>
        have hadd := addSession_inserts (write_login rfl hwrite)
        refine .first new (fun session hsession => ?_) fun session hsession _ => ?_
        · rw [family]
          exact hfresh session hsession
        · exact (Table.mem_insert hadd).mp hsession
      | rotate now rotating =>
        have hadd := addSession_inserts (write_rotate rfl hwrite)
        refine .next _ _ (Table.mem_of_get? rotating.there) rotating.refreshable rotating.familyId
          fun session hsession hopen => ?_
        rcases (Table.mem_insert hadd).mp hsession with hold | hnew
        · obtain ⟨hmem, hne⟩ := setRotated_kept hold hopen
          exact Or.inl ⟨hmem, fun heq => hne (congrArg Session.id heq)⟩
        · exact Or.inr hnew
      | revokeOne record now =>
        simp only [OpenTxn.write, alone] at hwrite
        cases hwrite
        exact .none fun session hsession hopen => setRevoked_kept hsession hopen
      | revoke target now reused =>
        rw [write_revoke rfl hwrite]
        exact .none fun session hsession hopen => (refreshable_revoked hsession hopen).1
      | change target now found version unused =>
        rw [write_revoke rfl hwrite]
        exact .none fun session hsession hopen => (refreshable_revoked hsession hopen).1
  · exact Opens.refl _

theorem serve_kept (settings : Settings) (db : Tables) (op : World.Op) :
    Table.Kept Succeeds db.sessions (serve settings db op).sessions := by
  unfold serve
  split
  · next work hwork =>
    cases hwrite : (alone db work).write db with
    | none => exact .of_eq rfl Succeeds.refl
    | some db' => exact (write_changed hwrite).kept
  · exact .of_eq rfl Succeeds.refl

theorem serve_reuse (settings : Settings) (db : Tables) (op : World.Op) :
    ReuseCloses settings db op := by
  cases op with
  | refresh rawToken client now =>
    intro session hfound hclosed
    have hreused : session.revokedAt.isSome ∨ session.rotatedAt.isSome := by
      by_contra hnone
      exact hclosed (by simpa [Refreshable] using hnone)
    have hwork : World.begun settings db (.refresh rawToken client now) =
        some (.revoke (.family session.familyId) now (some session.id) none) := by
      simp [World.begun, refresh, hfound, hreused, orRaise, Except.toOption, bind, Except.bind,
        pure, Except.pure]
    intro other hother hfamily hopen
    simp only [serve, hwork] at hother
    obtain ⟨hmem, hnot⟩ := refreshable_revoked hother hopen
    refine hnot (mem_matching.mpr ⟨other, Table.get?_key hmem, ?_, hopen.1⟩)
    simpa [Target.covers] using hfamily
  | _ => trivial

/-! ## Serial runs keep the law -/

/-- A family has one live session at most in every serial run, and none for good after one of its
tokens is used again. -/
theorem one_live_token (settings : Settings) (db : Tables) (ops : List World.Op)
    (hstart : db.sessions.rows = []) (hfresh : Along (serve settings) NewFamily db ops) :
    Always (serve settings) OneLive db ops ∧
      Along (serve settings) (ReuseCloses settings) db ops ∧
      (states (serve settings) db ops).Pairwise StaysClosed := by
  have hone : OneRefreshable db.sessions := by
    intro a ha
    rw [hstart] at ha
    cases ha
  have hinv : ∀ db op, OneRefreshable db.sessions → NewFamily db op →
      OneRefreshable (serve settings db op).sessions :=
    fun db op h hnew => (serve_opens hnew).oneRefreshable h
  refine ⟨?_, along_of_forall fun db op => serve_reuse settings db op, ?_⟩
  · refine (always_of_inv (I := fun db => OneRefreshable db.sessions) hinv hone hfresh).imp ?_
    intro db h now a ha b hb hfamily hlive hlive'
    exact h a ha b hb hfamily hlive.1 hlive'.1
  · -- a family that has sessions keeps them, so it stays the one that was closed
    have hpairs : (states (serve settings) db ops).Pairwise fun db db' =>
        ∀ session ∈ db.sessions.rows,
          (∃ later ∈ db'.sessions.rows, later.familyId = session.familyId) ∧
            (Closed session.familyId db → Closed session.familyId db') := by
      refine pairwise_of_step (I := fun db => OneRefreshable db.sessions) ?_ ?_ hinv ?_ hone hfresh
      · exact fun db session hsession => ⟨⟨session, hsession, rfl⟩, id⟩
      · intro a b c hab hbc session hsession
        obtain ⟨⟨later, hlater, hfamily⟩, hclosed⟩ := hab session hsession
        obtain ⟨hlast, hclosed'⟩ := hbc later hlater
        rw [hfamily] at hlast hclosed'
        exact ⟨hlast, fun h => hclosed' (hclosed h)⟩
      · intro db op _ hnew session hsession
        refine ⟨?_, (serve_opens hnew).closed ⟨session, hsession, rfl⟩⟩
        obtain ⟨later, hlater, _, hfamily, _⟩ := serve_kept settings db op session hsession
        exact ⟨later, Table.mem_of_get? hlater, hfamily⟩
    exact hpairs.imp fun h session hsession => (h session hsession).2

/-- The token of a rotated session is presented again, and then the one it was rotated to. -/
def reusedToken : List World.Op := [
  .login "ada@example.org" "pass" (World.device 10 "first") 0,
  .refresh "first" (World.device 11 "second") 1,
  .refresh "first" (World.device 12 "third") 2,
  .refresh "second" (World.device 13 "fourth") 3]

theorem reusedToken_one_live :
    Always (serve {}) OneLive World.atFirst.db reusedToken ∧
      Along (serve {}) (ReuseCloses {}) World.atFirst.db reusedToken ∧
      (states (serve {}) World.atFirst.db reusedToken).Pairwise StaysClosed :=
  one_live_token {} World.atFirst.db reusedToken rfl (by decide)

end Breero.Auth
