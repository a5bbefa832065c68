import Breero.Reservations.Overbooking

/-!
The quota of active holds.

A call of `create` counts the holds of its owner in one query and inserts its hold in a later
one. No lock is common to the calls of an owner, so others commit in between.

* `Counting.exec` is what a step does; `exec_grantHold` says that without anything in between
  it is the step of the open transactions;
* `Counting.quota_kept_iff`: no owner ever has more active holds than the quota, in exactly the
  runs in which no hold is inserted over the quota that others have filled up since the count.
-/

namespace Breero.Reservations
open KeyedTable Transaction Runs Bookings Dispatch

/-- The holds of an owner that are held and not expired. -/
def activeHolds (holds : Table BookingCapacityHold) (owner : String) (now : Instant) : Nat :=
  holds.rows.countP fun hold => hold.ownerFingerprintHash = owner && activeHold now hold

def QuotaKept (w : World) : Prop :=
  ∀ owner, activeHolds w.db.holds owner w.clock ≤ maxActiveHoldsPerOwner

/-- A call of `create` that has counted the holds of its owner, at the time `now`. -/
structure CountedCall where
  callId : Uuid
  attempt : HoldAttempt
  now : Instant
  /-- another hold of the owner was inserted since -/
  overtaken : Bool := false
  deriving DecidableEq, Repr

/-- The owner of the hold has as many active holds as they may have, as others were inserted
since the count, and the hold to be inserted is another one. -/
def CountedCall.Late (entry : CountedCall) (w : World) : Prop :=
  entry.overtaken = true ∧ w.clock < entry.now + holdDuration ∧
    maxActiveHoldsPerOwner ≤ activeHolds w.db.holds entry.attempt.fingerprint w.clock

instance (entry : CountedCall) (w : World) : Decidable (entry.Late w) :=
  inferInstanceAs (Decidable (_ ∧ _ ∧ _))

structure Counting where
  world : World
  counted : List CountedCall := []

namespace Counting

inductive Op
  /-- a step of the open transactions other than the end of a `create` -/
  | other (op : Reservations.Op)
  | count (id : Uuid) (now : Instant)
  | insert (id holdId : Uuid)

def grants : Reservations.Op → Bool
  | .grantHold .. => true
  | _ => false

/-- The open call `id`, if it has searched for the second time. -/
def searchedCall (w : World) (id : Uuid) : Option Call :=
  (w.calls.get? id).filter fun call =>
    match call.phase with
    | .searched _ _ => true
    | _ => false

/-- The call `id` with what it has counted. -/
def ready (w : Counting) (id : Uuid) : Option (CountedCall × Call) :=
  (w.counted.find? fun entry => entry.callId = id).bind fun entry =>
    (searchedCall w.world id).map fun call => (entry, call)

/-- An entry after a hold of the owner was inserted. -/
def overtake (owner : String) (entry : CountedCall) : CountedCall :=
  if entry.attempt.fingerprint = owner then { entry with overtaken := true } else entry

def exec (settings : Settings) (dir : Directory) (w : Counting) : Op → Counting
  | .other op =>
    if grants op then w
    else { w with world := Reservations.exec settings dir w.world op }
  | .count id now =>
    match searchedCall w.world id with
    | none => w
    | some call =>
      match call.work with
      | .hold attempt =>
        if now ≤ w.world.clock ∧ ∀ entry ∈ w.counted, entry.callId ≠ id then
          match checkQuota w.world.db attempt now with
          | .ok _ => { w with counted := { callId := id, attempt, now } :: w.counted }
          | .error _ => { w with world := w.world.setPhase call .closed }
        else w
      | _ => w
  | .insert id holdId =>
    match w.ready id with
    | none => w
    | some (entry, call) =>
      match insertHold w.world.db entry.attempt entry.now holdId with
      | .ok (db, _) =>
        { world := { w.world.setPhase call .closed with db }
          counted := w.counted.map (overtake entry.attempt.fingerprint) }
      | .error _ => { w with world := w.world.setPhase call .closed }

/-- The step does not insert a hold over the quota that others have filled up. -/
def NotLate (w : Counting) : Op → Prop
  | .insert id holdId => ∀ pair ∈ w.ready id,
      (insertHold w.world.db pair.1.attempt pair.1.now holdId).isOk → ¬ pair.1.Late w.world
  | _ => True

instance (w : Counting) : DecidablePred w.NotLate
  | .other _ | .count .. => isTrue trivial
  | .insert id _ => inferInstanceAs (Decidable (∀ pair ∈ w.ready id, _ → _))

/-! ## The active holds -/

variable {t u : Table BookingCapacityHold} {owner : String} {now later : Instant}

theorem activeHolds_later (t : Table BookingCapacityHold) (owner : String) (h : now ≤ later) :
    activeHolds t owner later ≤ activeHolds t owner now := by
  refine List.countP_mono_left fun hold _ hactive => ?_
  simp only [activeHold, Bool.and_eq_true, decide_eq_true_eq] at hactive ⊢
  exact ⟨hactive.1, hactive.2.1, lt_of_le_of_lt h hactive.2.2⟩

/-- A hold that is not held any more. -/
theorem activeHolds_put {hold : BookingCapacityHold} (h : hold.status ≠ .held) :
    activeHolds (t.put hold) owner now ≤ activeHolds t owner now := by
  apply Table.countP_put_le
  simp [activeHold, h]

theorem activeHolds_update {f : BookingCapacityHold → BookingCapacityHold}
    (hf : ∀ hold, Keyed.key (f hold) = Keyed.key hold)
    (h : ∀ hold, f hold = hold ∨ (f hold).status ≠ .held) :
    activeHolds (t.update f hf) owner now ≤ activeHolds t owner now := by
  refine Table.countP_update_le fun hold _ hactive => ?_
  rcases h hold with hsame | hgone
  · rwa [hsame] at hactive
  · simp [activeHold, hgone] at hactive

theorem activeHolds_insert {hold : BookingCapacityHold} (h : t.insert? hold = some u) :
    activeHolds u owner now = activeHolds t owner now +
      if hold.ownerFingerprintHash = owner && activeHold now hold then 1 else 0 :=
  Table.countP_insert _ h

variable {settings : Settings} {dir : Directory}

/-- A commit other than that of a `create` makes no hold active. -/
theorem activeHolds_writes {w : World} {call : Call} {op : Reservations.Op} {db : Db}
    {converted : List (Uuid × Uuid)} (h : Writes settings dir w call op db converted)
    (hop : grants op = false) (owner : String) (now : Instant) :
    activeHolds db.holds owner now ≤ activeHolds w.db.holds owner now := by
  cases h with
  | granted attempt load candidate hold phase work past written => cases hop
  | assigned request booking assigned load candidate phase work written =>
    rw [assignTo_holds written]
  | requested request hold checkedAt booking phase work written =>
    obtain ⟨_, _, _, _, _, hholds⟩ := finishRequest_ok written
    rw [hholds]
    exact activeHolds_put (by simp)
  | rescheduled userId booking hold checkedAt phase work =>
    have hreleased : activeHolds (releaseHolds w.db booking.id (some hold.id) checkedAt).holds
        owner now ≤ activeHolds w.db.holds owner now := by
      refine activeHolds_update (fun other => by unfold holdReleased; split <;> rfl) fun other => ?_
      unfold holdReleased
      split
      · exact Or.inr (by simp)
      · exact Or.inl rfl
    exact (activeHolds_put (by simp)).trans hreleased
  | lapsed holdId phase work =>
    unfold lapseHold
    split
    · exact activeHolds_put (by simp)
    · exact le_refl _

theorem activeHolds_transacts {w : World} {op : Reservations.Op} {db : Db}
    (h : Transacts settings w op db) (owner : String) (now : Instant) :
    activeHolds db.holds owner now ≤ activeHolds w.db.holds owner now := by
  cases h with
  | released written =>
    rcases releaseHold_ok written with rfl | ⟨hold, _, _, _, rfl⟩
    · exact le_refl _
    · exact activeHolds_put (by simp)
  | expired =>
    refine activeHolds_update (fun hold => by unfold staleExpired; split <;> rfl) fun hold => ?_
    unfold staleExpired
    split
    · exact Or.inr (by simp)
    · exact Or.inl rfl

/-- No step but the end of a `create` gives an owner another active hold. -/
theorem activeHolds_other (settings : Settings) (dir : Directory) (w : World)
    {op : Reservations.Op} (hop : grants op = false) (owner : String) :
    activeHolds (Reservations.exec settings dir w op).db.holds owner
        (Reservations.exec settings dir w op).clock ≤
      activeHolds w.db.holds owner w.clock := by
  have hstep := exec_step settings dir w op
  generalize Reservations.exec settings dir w op = w' at hstep ⊢
  cases hstep with
  | waited => exact le_refl _
  | ticked elapsed =>
    exact activeHolds_later _ _ (Int.le_add_of_nonneg_right (Int.natCast_nonneg elapsed))
  | began id work calls opens free inserted => exact le_refl _
  | moved call phase found moves => exact le_refl _
  | committed call db converted found writes can => exact activeHolds_writes writes hop owner _
  | transacted db writes can => exact activeHolds_transacts writes owner _

/-! ## The end of a `create` -/

theorem checkQuota_ok {db : Db} {attempt : HoldAttempt} {u : Unit}
    (h : checkQuota db attempt now = .ok u) :
    activeHolds db.holds attempt.fingerprint now < maxActiveHoldsPerOwner :=
  require_committed.mp h

theorem insertHold_ok {db db' : Db} {attempt : HoldAttempt} {holdId : Uuid}
    {hold : BookingCapacityHold} (h : insertHold db attempt now holdId = .ok (db', hold)) :
    hold = newHold attempt now holdId ∧ db.holds.insert? hold = some db'.holds := by
  simp only [insertHold, seq_committed, mapError_committed, return_committed, Prod.mk.injEq,
    Db.addHold, require_committed, orRaise_committed] at h
  obtain ⟨_, ⟨_, _, _, _, _, _, holds, hinsert, rfl⟩, rfl, rfl⟩ := h
  exact ⟨rfl, hinsert⟩

/-- The owner of the hold has one more, if it has not expired yet. -/
theorem activeHolds_inserted {db db' : Db} {attempt : HoldAttempt} {holdId : Uuid}
    {hold : BookingCapacityHold} (h : insertHold db attempt now holdId = .ok (db', hold))
    (owner : String) (clock : Instant) :
    activeHolds db'.holds owner clock = activeHolds db.holds owner clock +
      if attempt.fingerprint = owner ∧ clock < now + holdDuration then 1 else 0 := by
  obtain ⟨rfl, hinsert⟩ := insertHold_ok h
  rw [activeHolds_insert hinsert]
  refine congrArg _ (if_congr ?_ rfl rfl)
  simp only [activeHold, Bool.and_eq_true, decide_eq_true_eq]
  simp only [newHold, true_and]

theorem ready_some {w : Counting} {id : Uuid} {entry : CountedCall} {call : Call}
    (h : w.ready id = some (entry, call)) : entry ∈ w.counted := by
  simp only [ready, Option.bind_eq_some_iff, Option.map_eq_some_iff, Prod.mk.injEq] at h
  obtain ⟨_, hfind, _, _, rfl, _⟩ := h
  exact List.mem_of_find?_eq_some hfind

/-! ### Without anything in between -/

theorem searchedCall_some {w : World} {id : Uuid} {call : Call}
    (h : searchedCall w id = some call) :
    w.calls.get? id = some call ∧ ∃ load candidate, call.phase = .searched load candidate := by
  obtain ⟨hget, hphase⟩ := Option.filter_eq_some_iff.mp h
  refine ⟨hget, ?_⟩
  split at hphase
  · next load candidate hsearched => exact ⟨load, candidate, hsearched⟩
  · cases hphase

theorem grantHold_waits {w : World} {id holdId : Uuid} (h : searchedCall w id = none) :
    Reservations.exec settings dir w (.grantHold id now holdId) = w := by
  simp only [Reservations.exec, stepCall]
  split
  · next call hget =>
    split
    · next hphase _ => simp [searchedCall, hget, hphase] at h
    · rfl
  · rfl

/-- An insert writes no row that is locked. -/
theorem canWrite_inserted {w : World} {db : Db} {attempt : HoldAttempt} {holdId : Uuid}
    {hold : BookingCapacityHold} (caller : Option Uuid)
    (h : insertHold w.db attempt now holdId = .ok (db, hold)) : w.canWrite caller db := by
  obtain ⟨_, hinsert⟩ := insertHold_ok h
  intro other hother
  exact Or.inl (Table.get?_insert_of_some hinsert (Table.get?_key hother))

/-- The count and the insert, one right after the other, are the step that ends a `create`. -/
theorem exec_grantHold (settings : Settings) (dir : Directory) (w : Counting) (id : Uuid)
    (now : Instant) (holdId : Uuid) (hnew : ∀ entry ∈ w.counted, entry.callId ≠ id) :
    (exec settings dir (exec settings dir w (.count id now)) (.insert id holdId)).world =
      Reservations.exec settings dir w.world (.grantHold id now holdId) := by
  -- the call has not counted before
  have hnone : ∀ world, ({ w with world } : Counting).ready id = none := by
    intro world
    rw [ready, List.find?_eq_none.mpr fun entry hentry => by simpa using hnew entry hentry]
    rfl
  cases hcall : searchedCall w.world id with
  | none =>
    rw [grantHold_waits hcall]
    simp only [exec, hcall, hnone]
  | some call =>
    obtain ⟨hget, load, candidate, hphase⟩ := searchedCall_some hcall
    cases hwork : call.work with
    | hold attempt =>
      by_cases hpast : now ≤ w.world.clock
      · have hnow : now ≤ w.world.clock ∧ ∀ entry ∈ w.counted, entry.callId ≠ id := ⟨hpast, hnew⟩
        simp only [Reservations.exec, stepCall, hget, hphase, hwork, if_pos hpast, grantHold]
        cases hcheck : checkQuota w.world.db attempt now with
        | error e =>
          simp only [exec, hcall, hwork, if_pos hnow, hcheck, hnone]
          rfl
        | ok u =>
          have hready : ({ w with
              counted := { callId := id, attempt, now } :: w.counted } : Counting).ready id =
              some ({ callId := id, attempt, now }, call) := by
            simp [ready, hcall]
          simp only [exec, hcall, hwork, if_pos hnow, hcheck, hready]
          cases hinsert : insertHold w.world.db attempt now holdId with
          | error e => simp only [World.finish, Except.map, bind, Except.bind]
          | ok out =>
            have hcan := canWrite_inserted (some call.id) hinsert
            simp only [World.finish, Except.map, bind, Except.bind, if_pos hcan, List.append_nil]
            rfl
      · have hnow : ¬ (now ≤ w.world.clock ∧ ∀ entry ∈ w.counted, entry.callId ≠ id) :=
          fun h => hpast h.1
        simp only [exec, hcall, hwork, if_neg hnow, hnone, Reservations.exec, stepCall, hget,
          hphase, if_neg hpast]
    | assign | convert | reschedule | lapse =>
      simp only [exec, hcall, hwork, hnone, Reservations.exec, stepCall, hget, hphase]

/-! ## Runs -/

/-- Without an insert of others since the count, the owner has room. -/
structure RoomInv (w : Counting) : Prop where
  kept : QuotaKept w.world
  room : ∀ entry ∈ w.counted, entry.overtaken = false →
    activeHolds w.world.db.holds entry.attempt.fingerprint w.world.clock < maxActiveHoldsPerOwner

variable {w : Counting}

theorem RoomInv.shrink (h : RoomInv w) {world : World}
    (hle : ∀ owner, activeHolds world.db.holds owner world.clock ≤
      activeHolds w.world.db.holds owner w.world.clock) : RoomInv { w with world } where
  kept owner := (hle owner).trans (h.kept owner)
  room entry hentry hnew := lt_of_le_of_lt (hle _) (h.room entry hentry hnew)

theorem RoomInv.count (h : RoomInv w) {id : Uuid} {attempt : HoldAttempt} {u : Unit}
    (hpast : now ≤ w.world.clock) (hcheck : checkQuota w.world.db attempt now = .ok u) :
    RoomInv { w with counted := { callId := id, attempt, now } :: w.counted } := by
  refine ⟨h.kept, fun entry hentry hnew => ?_⟩
  rcases List.mem_cons.mp hentry with rfl | hentry
  · exact lt_of_le_of_lt (activeHolds_later _ _ hpast) (checkQuota_ok hcheck)
  · exact h.room entry hentry hnew

theorem RoomInv.insert (h : RoomInv w) {entry : CountedCall} {call : Call} {holdId : Uuid}
    {db : Db} {hold : BookingCapacityHold} (hentry : entry ∈ w.counted)
    (hinsert : insertHold w.world.db entry.attempt entry.now holdId = .ok (db, hold))
    (hlate : ¬ entry.Late w.world) :
    RoomInv {
      world := { w.world.setPhase call .closed with db }
      counted := w.counted.map (overtake entry.attempt.fingerprint) } := by
  have hactive := fun owner => activeHolds_inserted hinsert owner w.world.clock
  constructor
  · intro owner
    show activeHolds db.holds owner w.world.clock ≤ maxActiveHoldsPerOwner
    rw [hactive owner]
    split
    · next hnew =>
      obtain ⟨rfl, hopen⟩ := hnew
      cases hovertaken : entry.overtaken with
      | false => exact h.room entry hentry hovertaken
      | true =>
        by_contra hfull
        exact hlate ⟨hovertaken, hopen, Nat.le_of_lt_succ (Nat.lt_of_not_le hfull)⟩
    · exact h.kept owner
  · intro other hother hnew
    obtain ⟨before, hbefore, rfl⟩ := List.mem_map.mp hother
    by_cases howner : before.attempt.fingerprint = entry.attempt.fingerprint
    · simp [overtake, howner] at hnew
    · simp only [overtake, howner, if_false] at hnew ⊢
      show activeHolds db.holds before.attempt.fingerprint w.world.clock < maxActiveHoldsPerOwner
      rw [hactive, if_neg fun hsame => howner hsame.1.symm]
      exact h.room before hbefore hnew

theorem RoomInv.step (h : RoomInv w) (settings : Settings) (dir : Directory) (op : Op)
    (hlate : w.NotLate op) : RoomInv (exec settings dir w op) := by
  cases op with
  | other op =>
    simp only [exec]
    split
    · exact h
    · next hop => exact h.shrink (activeHolds_other settings dir w.world (by simpa using hop))
  | count id now =>
    simp only [exec]
    split
    · exact h
    · split
      · split
        · next hpast =>
          split
          · next hcheck => exact h.count hpast.1 hcheck
          · exact h.shrink fun _ => le_refl _
        · exact h
      · exact h
  | insert id holdId =>
    simp only [exec]
    split
    · exact h
    · next entry call hready =>
      split
      · next db hold hinsert =>
        exact h.insert (ready_some hready) hinsert
          (hlate _ hready (isOk_of_eq hinsert))
      · exact h.shrink fun _ => le_refl _

/-- A hold that is inserted over the quota breaks it. -/
theorem notLate_of_kept (op : Op) (h : QuotaKept (exec settings dir w op).world) :
    w.NotLate op := by
  cases op with
  | other op => trivial
  | count id now => trivial
  | insert id holdId =>
    rintro ⟨entry, call⟩ hready hok ⟨_, hopen, hfull⟩
    obtain ⟨db, hold, hinsert⟩ := eq_ok_of_isOk hok
    have hready : w.ready id = some (entry, call) := hready
    simp only [exec, hready, hinsert] at h
    have hfull : maxActiveHoldsPerOwner ≤
        activeHolds w.world.db.holds entry.attempt.fingerprint w.world.clock := hfull
    have hkept := h entry.attempt.fingerprint
    simp only [World.setPhase] at hkept
    rw [activeHolds_inserted hinsert, if_pos ⟨rfl, hopen⟩] at hkept
    omega

/-- No owner has more active holds than the quota in any state, in exactly the runs in which
no hold is inserted over the quota that others have filled up since the count. -/
theorem quota_kept_iff (settings : Settings) (dir : Directory) (world : World) (ops : List Op)
    (hstart : QuotaKept world) :
    Always (exec settings dir) (fun w => QuotaKept w.world) { world } ops ↔
      Along (exec settings dir) NotLate { world } ops := by
  constructor
  · exact along_of_always fun _ op => notLate_of_kept op
  · intro hlate
    have hinv : RoomInv { world } := ⟨hstart, fun entry hentry => absurd hentry List.not_mem_nil⟩
    exact (always_of_inv (fun w op h hlate => h.step settings dir op hlate) hinv hlate).imp
      fun _ h => h.kept

/-- The owner of the hold 40 asks for the hours from twelve, from one and from two. -/
def threeSearched : List Op :=
  (searchedFor 50 (.createHold 50 (visitAt 720 "customer-session-1" "hold-2") fun _ _ => {}) ++
    searchedFor 51 (.createHold 51 (visitAt 780 "customer-session-1" "hold-3") fun _ _ => {}) ++
    searchedFor 52 (.createHold 52 (visitAt 840 "customer-session-1" "hold-4") fun _ _ => {})).map
      .other

/-- Two of them are inserted, and the third one is refused. -/
def countedInTurn : List Op :=
  threeSearched ++
    [.count 50 0, .insert 50 60, .count 51 0, .insert 51 61, .count 52 0, .insert 52 62]

theorem countedInTurn_kept :
    Always (exec visitSettings heldDirectory) (fun w => QuotaKept w.world)
      { world := { db := visitDb, clock := 0 } } countedInTurn :=
  (quota_kept_iff visitSettings heldDirectory { db := visitDb, clock := 0 } countedInTurn
    fun _ => List.countP_le_length.trans (by decide)).mpr (by decide)

/-- All three are counted before one of them is inserted. -/
theorem counted_at_once :
    ¬ Always (exec visitSettings heldDirectory) (fun w => QuotaKept w.world)
        { world := { db := visitDb, clock := 0 } }
        (threeSearched ++
          [.count 50 0, .count 51 0, .count 52 0,
            .insert 50 60, .insert 51 61, .insert 52 62]) := by
  intro hkept
  have hlast := hkept _ (run_mem_states _ _) "customer-session-1"
  exact absurd hlast (by decide)

end Counting

end Breero.Reservations
