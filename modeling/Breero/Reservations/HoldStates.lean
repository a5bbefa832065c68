import Breero.Dispatch.System
import Breero.Reservations.Effects

/-!
The states of a capacity hold.

* `HoldsStep` says what a step does to the statuses of the holds;
* `holds_settle_once`: the terminal statuses are kept, and a hold is converted exactly if
  one booking came of it, in a run exactly if no `get` writes the expiry of a hold that was
  converted or released after it was read;
* `expiry_overwrites_conversion` is a run in which one does.
-/

namespace Breero.Reservations
open KeyedTable Transaction Runs Bookings Dispatch

variable {settings : Settings} {dir : Directory} {w w' : World} {op : Op}

/-! ## The laws -/

def terminalHolds : List CapacityHoldStatus := [.converted, .expired, .released]

/-- A hold in a terminal status stays in it. -/
def TerminalKept (w w' : World) : Prop :=
  ∀ hold ∈ w.db.holds.rows, hold.status ∈ terminalHolds →
    ∃ hold' ∈ w'.db.holds.get? hold.id, hold'.status = hold.status

/-- The number of bookings that were made from the hold or moved to it. -/
def bookingsOf (w : World) (holdId : Uuid) : Nat :=
  w.conversions.countP fun converted => converted.1 = holdId

/-- A hold is converted exactly if one booking came of it, and none yields two. -/
def ConvertedOnce (w : World) : Prop :=
  (∀ hold ∈ w.db.holds.rows, hold.status = .converted ↔ bookingsOf w hold.id = 1) ∧
    ∀ converted ∈ w.conversions, bookingsOf w converted.1 ≤ 1

instance (w w' : World) : Decidable (TerminalKept w w') :=
  inferInstanceAs (Decidable (∀ hold ∈ w.db.holds.rows, _ → ∃ hold' ∈ w'.db.holds.get? hold.id, _))

instance : DecidablePred ConvertedOnce := fun _ => inferInstanceAs (Decidable (_ ∧ _))

theorem TerminalKept.refl (w : World) : TerminalKept w w :=
  fun hold hhold _ => ⟨hold, Table.get?_key hhold, rfl⟩

theorem TerminalKept.trans {u v x : World} (h : TerminalKept u v) (h' : TerminalKept v x) :
    TerminalKept u x := by
  intro hold hhold hterminal
  obtain ⟨hold₁, hget₁, hstatus₁⟩ := h hold hhold hterminal
  obtain ⟨hold₂, hget₂, hstatus₂⟩ :=
    h' hold₁ (Table.mem_of_get? hget₁) (hstatus₁.symm ▸ hterminal)
  exact ⟨hold₂, Table.key_of_get? hget₁ ▸ hget₂, hstatus₂.trans hstatus₁⟩

/-! ## When a step keeps them -/

/-- The hold that a `get` is about to expire, if no other transaction has locked its row. -/
def lapsing (w : World) (id : Uuid) : Option Uuid :=
  (w.calls.get? id).bind fun call =>
    match call.phase, call.work with
    | .opened, .lapse holdId =>
      if w.canWrite (some call.id) (lapseHold w.db holdId) then some holdId else none
    | _, _ => none

/-- The step does not write the expiry of a hold that was converted or released since it
was read. -/
def NoLateLapse (w : World) : Op → Prop
  | .lapse id => ∀ holdId ∈ lapsing w id, ∀ hold ∈ w.db.holds.get? holdId,
      hold.status = .held ∨ hold.status = .expired
  | _ => True

instance (w : World) : DecidablePred (NoLateLapse w)
  | .lapse id => inferInstanceAs (Decidable
      (∀ holdId ∈ lapsing w id, ∀ hold ∈ w.db.holds.get? holdId, _))
  | .tick .. | .createHold .. | .assign .. | .request .. | .reschedule .. | .getHold ..
  | .lockSlot .. | .readJobs .. | .readHolds .. | .grantHold .. | .finishAssign ..
  | .finishRequest .. | .finishReschedule .. | .abort .. | .release .. | .expireStale =>
    isTrue trivial

theorem lapsing_eq {call : Call} {holdId : Uuid} (found : w.calls.get? call.id = some call)
    (phase : call.phase = .opened) (work : call.work = .lapse holdId)
    (can : w.canWrite (some call.id) (lapseHold w.db holdId)) :
    lapsing w call.id = some holdId := by
  simp only [lapsing, found, Option.bind_some, phase, work, if_pos can]

/-! ## The statuses -/

/-- The status of a hold before and after a step that may convert the hold `converted`. -/
def HoldMove (converted : Option Uuid) (hold hold' : BookingCapacityHold) : Prop :=
  if some hold.id = converted then hold.status = .held ∧ hold'.status = .converted
  else hold'.status = hold.status ∨
    (hold.status = .held ∧ (hold'.status = .released ∨ hold'.status = .expired))

structure HoldsChange (converted : Option Uuid) (t u : Table BookingCapacityHold) : Prop where
  kept : ∀ i hold, t.get? i = some hold → ∃ hold', u.get? i = some hold' ∧
    HoldMove converted hold hold'
  fresh : ∀ i hold', u.get? i = some hold' → t.get? i = none → hold'.status = .held

theorem HoldMove.same {hold hold' : BookingCapacityHold} (h : hold'.status = hold.status) :
    HoldMove none hold hold' :=
  Or.inl h

/-- A hold that is given up. -/
theorem HoldMove.gone {hold hold' : BookingCapacityHold} (hheld : hold.status = .held)
    (h : hold'.status = .released ∨ hold'.status = .expired) : HoldMove none hold hold' :=
  Or.inr ⟨hheld, h⟩

theorem HoldsChange.refl (t : Table BookingCapacityHold) : HoldsChange none t t where
  kept _ hold h := ⟨hold, h, .same rfl⟩
  fresh _ _ h hnone := by
    rw [hnone] at h
    cases h

theorem HoldsChange.isSome {converted : Option Uuid} {t u : Table BookingCapacityHold} {i : Uuid}
    (h : HoldsChange converted t u) (hsome : (t.get? i).isSome) : (u.get? i).isSome := by
  obtain ⟨hold, hget⟩ := Option.isSome_iff_exists.mp hsome
  obtain ⟨hold', hget', _⟩ := h.kept i hold hget
  rw [hget']
  rfl

theorem HoldsChange.put {t : Table BookingCapacityHold} {k : Uuid}
    {hold hold' : BookingCapacityHold} {converted : Option Uuid} (found : t.get? k = some hold)
    (hid : hold'.id = hold.id) (hmove : HoldMove converted hold hold')
    (hother : ∀ other : BookingCapacityHold, other.id ≠ hold.id → HoldMove converted other other) :
    HoldsChange converted t (t.put hold') := by
  have hk : hold.id = k := Table.key_of_get? found
  constructor
  · intro i other hget
    by_cases hi : hold'.id = i
    · have heq : i = k := hi.symm.trans (hid.trans hk)
      subst heq
      rw [found] at hget
      cases hget
      exact ⟨hold', Table.get?_put_self found hi, hmove⟩
    · refine ⟨other, by rw [Table.get?_put_ne hi]; exact hget, hother other fun e => hi ?_⟩
      exact hid.trans (e.symm.trans (Table.key_of_get? hget))
  · intro i other hget hnone
    rcases Table.get?_put_some hget with ⟨_, hi⟩ | ⟨_, hget⟩
    · rw [← hi, show Keyed.key hold' = k from hid.trans hk, found] at hnone
      cases hnone
    · rw [hnone] at hget
      cases hget

theorem HoldsChange.insert {t u : Table BookingCapacityHold} {hold : BookingCapacityHold}
    (inserted : t.insert? hold = some u) (status : hold.status = .held) :
    HoldsChange none t u where
  kept _ other hget := ⟨other, Table.get?_insert_of_some inserted hget, .same rfl⟩
  fresh i other hget hnone := by
    rcases (Table.mem_insert inserted).mp (Table.mem_of_get? hget) with hmem | rfl
    · exact absurd (Table.key_of_get? hget) (Table.get?_eq_none.mp hnone other hmem)
    · exact status

theorem HoldsChange.update {t : Table BookingCapacityHold}
    {f : BookingCapacityHold → BookingCapacityHold}
    (hf : ∀ hold, Keyed.key (f hold) = Keyed.key hold)
    (hmove : ∀ hold, HoldMove none hold (f hold)) : HoldsChange none t (t.update f hf) where
  kept i hold hget := ⟨f hold, by rw [Table.get?_update, hget]; rfl, hmove hold⟩
  fresh i hold hget hnone := by
    rw [Table.get?_update, hnone] at hget
    cases hget

/-- Holds that are given up before one of the others is converted. -/
theorem HoldsChange.trans {converted : Option Uuid} {t u v : Table BookingCapacityHold}
    (h : HoldsChange none t u) (hsame : ∀ i, t.get? i = none → u.get? i = none)
    (h' : HoldsChange converted u v) : HoldsChange converted t v where
  kept i hold hget := by
    obtain ⟨hold₁, hget₁, hmove₁⟩ := h.kept i hold hget
    obtain ⟨hold₂, hget₂, hmove₂⟩ := h'.kept i hold₁ hget₁
    have hid : hold₁.id = hold.id :=
      (Table.key_of_get? hget₁).trans (Table.key_of_get? hget).symm
    refine ⟨hold₂, hget₂, ?_⟩
    simp only [HoldMove, reduceCtorEq, if_false] at hmove₁
    unfold HoldMove at hmove₂ ⊢
    rw [hid] at hmove₂
    split
    · next heq =>
      rw [if_pos heq] at hmove₂
      rcases hmove₁ with hstatus | ⟨hheld, _⟩
      · exact ⟨hstatus ▸ hmove₂.1, hmove₂.2⟩
      · exact ⟨hheld, hmove₂.2⟩
    · next hne =>
      rw [if_neg hne] at hmove₂
      rcases hmove₁ with hstatus | ⟨hheld, hgone⟩
      · exact hstatus ▸ hmove₂
      · -- a hold that was given up stays so
        have hgone₂ : hold₂.status = hold₁.status := by
          rcases hmove₂ with hstatus | ⟨hheld₁, _⟩
          · exact hstatus
          · rcases hgone with hgone | hgone
            · cases hgone.symm.trans hheld₁
            · cases hgone.symm.trans hheld₁
        exact Or.inr ⟨hheld, hgone₂ ▸ hgone⟩
  fresh i hold hget hnone := h'.fresh i hold hget (hsame i hnone)

/-! ## Steps -/

/-- What a step does to the holds. -/
inductive HoldsStep (w w' : World) : Prop
  | quiet (holds : HoldsChange none w.db.holds w'.db.holds)
      (conversions : w'.conversions = w.conversions)
  | converted (hold : BookingCapacityHold) (bookingId : Uuid)
      (found : w.db.holds.get? hold.id = some hold)
      (holds : HoldsChange (some hold.id) w.db.holds w'.db.holds)
      (conversions : w'.conversions = w.conversions ++ [(hold.id, bookingId)])

theorem HoldsStep.of_same (holds : w'.db.holds = w.db.holds)
    (conversions : w'.conversions = w.conversions) : HoldsStep w w' :=
  .quiet (holds ▸ HoldsChange.refl _) conversions

theorem grantHold_ok {db db' : Db} {attempt : HoldAttempt} {now : Instant} {holdId : Uuid}
    {hold : BookingCapacityHold} (h : grantHold db attempt now holdId = .ok (db', hold)) :
    hold = newHold attempt now holdId ∧ ∃ holds auditLogs, db.holds.insert? hold = some holds ∧
      0 < hold.capacityMinutes ∧ db' = { db with holds, auditLogs } := by
  simp only [grantHold, checkQuota, insertHold, seq_committed, require_committed,
    return_committed, Prod.mk.injEq] at h
  obtain ⟨_, _, db1, hadd, rfl, rfl⟩ := h
  cases hadded : db.addHold (newHold attempt now holdId) with
  | error e =>
    rw [hadded] at hadd
    cases hadd
  | ok added =>
    rw [hadded] at hadd
    cases hadd
    simp only [Db.addHold, seq_committed, require_committed, orRaise_committed,
      return_committed] at hadded
    obtain ⟨_, _, _, hpos, _, _, holds, hinsert, rfl⟩ := hadded
    exact ⟨rfl, holds, _, hinsert, hpos, rfl⟩

theorem assignTo_holds {db db' : Db} {booking assigned : Booking} {candidate : ProviderCandidate}
    {request : AssignRequest} {now : Instant} {jobId assignmentId : Uuid}
    (h : assignTo db booking candidate request now jobId assignmentId = .ok (db', assigned)) :
    db'.holds = db.holds := by
  simp only [assignTo, Db.addAssignment, seq_committed, require_committed, orRaise_committed,
    return_committed, Prod.exists, Prod.mk.injEq] at h
  obtain ⟨worker, _, db1, job, hjob, db2, ⟨_, _, assignments, _, rfl⟩, rfl, _⟩ := h
  show db1.holds = db.holds
  unfold assignedJob at hjob
  split at hjob
  · simp only [return_committed, Prod.mk.injEq] at hjob
    obtain ⟨rfl, _⟩ := hjob
    unfold releaseActive
    split <;> rfl
  · simp only [seq_committed, return_committed, Prod.mk.injEq] at hjob
    obtain ⟨_, hadded, rfl, _⟩ := hjob
    obtain ⟨_, jobs, _, rfl⟩ := Db.addJob_ok hadded
    rfl

theorem converted_change {t : Table BookingCapacityHold} {hold : BookingCapacityHold}
    {bookingId : Uuid} {now : Instant} (found : t.get? hold.id = some hold)
    (status : hold.status = .held) :
    HoldsChange (some hold.id) t (t.put { hold with
      bookingId := some bookingId, status := .converted, convertedAt := some now }) := by
  refine .put found rfl ?_ fun other hne => ?_
  · unfold HoldMove
    rw [if_pos rfl]
    exact ⟨status, rfl⟩
  · unfold HoldMove
    rw [if_neg fun e => hne (Option.some.inj e)]
    exact Or.inl rfl

theorem releaseHolds_change (db : Db) (bookingId : Uuid) (kept : Option Uuid) (now : Instant) :
    HoldsChange none db.holds (releaseHolds db bookingId kept now).holds := by
  refine .update (fun hold => by unfold holdReleased; split <;> rfl) fun hold => ?_
  unfold holdReleased
  split
  · next hheld => exact .gone hheld.2.2 (Or.inl rfl)
  · exact .same rfl

/-- The hold of a reschedule is not one of those it releases. -/
theorem releaseHolds_kept {db : Db} {bookingId : Uuid} {now : Instant}
    {hold : BookingCapacityHold} (found : db.holds.get? hold.id = some hold) :
    (releaseHolds db bookingId (some hold.id) now).holds.get? hold.id = some hold := by
  simp only [releaseHolds, Table.get?_update, found, Option.map_some, holdReleased]
  simp

theorem Writes.holdsStep {call : Call} {db : Db} {converted : List (Uuid × Uuid)}
    (h : Writes settings dir w call op db converted) (hcall : call ∈ w.calls.rows)
    (hrows : RowsHeld w)
    (can : w.canWrite (some call.id) db) (found : w.calls.get? call.id = some call)
    (hlapse : NoLateLapse w op) :
    HoldsStep w { w.setPhase call .closed with db, conversions := w.conversions ++ converted } := by
  cases h with
  | granted attempt load candidate hold phase work past written =>
    obtain ⟨rfl, holds, auditLogs, hinsert, _, rfl⟩ := grantHold_ok written
    exact .quiet (.insert hinsert rfl) (List.append_nil _)
  | assigned request booking assigned load candidate phase work written =>
    exact .of_same (assignTo_holds written) (List.append_nil _)
  | requested request hold checkedAt booking phase work written =>
    have hheld : call.heldRow = some hold := by simp [Call.heldRow, phase, work]
    obtain ⟨hrow, hstatus⟩ := hrows call hcall hold hheld
    obtain ⟨_, _, _, ⟨_, _, rfl⟩, _, hholds⟩ := finishRequest_ok written
    refine .converted hold _ hrow ?_ rfl
    show HoldsChange _ _ db.holds
    rw [hholds]
    exact converted_change hrow hstatus
  | rescheduled userId booking hold checkedAt phase work =>
    have hheld : call.heldRow = some hold := by simp [Call.heldRow, phase, work]
    obtain ⟨hrow, hstatus⟩ := hrows call hcall hold hheld
    refine .converted hold _ hrow ?_ rfl
    refine (releaseHolds_change w.db booking.id (some hold.id) checkedAt).trans ?_
      (converted_change (releaseHolds_kept hrow) hstatus)
    intro i hnone
    rw [releaseHolds, Table.get?_update, hnone]
    rfl
  | lapsed holdId phase work =>
    have hlate := hlapse holdId (lapsing_eq found phase work can)
    refine .quiet ?_ (List.append_nil _)
    show HoldsChange none w.db.holds (lapseHold w.db holdId).holds
    unfold lapseHold
    split
    · next hold hget =>
      refine .put hget rfl ?_ fun other _ => .same rfl
      rcases hlate hold hget with hstatus | hstatus
      · exact .gone hstatus (Or.inr rfl)
      · exact .same hstatus.symm
    · exact .refl _

theorem Transacts.holdsStep {db : Db} (h : Transacts settings w op db) :
    HoldsStep w { w with db } := by
  cases h with
  | released written =>
    rcases releaseHold_ok written with rfl | ⟨hold, _, hget, hheld, rfl⟩
    · exact .of_same rfl rfl
    · have hmove : HoldMove none hold
          { hold with status := .released, releasedAt := some w.clock } :=
        .gone hheld (Or.inl rfl)
      exact .quiet (.put hget rfl hmove fun other _ => .same rfl) rfl
  | expired =>
    refine .quiet (.update (fun hold => by unfold staleExpired; split <;> rfl) fun hold => ?_) rfl
    unfold staleExpired
    split
    · next hstale => exact .gone hstale.1 (Or.inr rfl)
    · exact .same rfl

theorem Step.holdsStep (hstep : Step settings dir w op w') (hrows : RowsHeld w)
    (hlapse : NoLateLapse w op) : HoldsStep w w' := by
  cases hstep with
  | waited => exact .of_same rfl rfl
  | ticked elapsed => exact .of_same rfl rfl
  | began id work calls opens free inserted => exact .of_same rfl rfl
  | moved call phase found moves => exact .of_same rfl rfl
  | committed call db converted found writes can =>
    exact writes.holdsStep (Table.mem_of_get? found) hrows can found hlapse
  | transacted db writes can => exact writes.holdsStep

/-! ## The invariant -/

structure HoldInv (w : World) : Prop where
  rows : RowsHeld w
  once : ConvertedOnce w
  known : ∀ converted ∈ w.conversions, (w.db.holds.get? converted.1).isSome

theorem HoldsStep.terminalKept (h : HoldsStep w w') : TerminalKept w w' := by
  intro hold hhold hterminal
  -- a hold that is converted by the step was held
  have hkept : ∀ converted, HoldsChange converted w.db.holds w'.db.holds →
      ∃ hold' ∈ w'.db.holds.get? hold.id, hold'.status = hold.status := by
    intro converted hchange
    obtain ⟨hold', hget, hmove⟩ := hchange.kept hold.id hold (Table.get?_key hhold)
    refine ⟨hold', hget, ?_⟩
    have hnot : hold.status ≠ .held := by
      intro hheld
      rw [hheld] at hterminal
      simp [terminalHolds] at hterminal
    unfold HoldMove at hmove
    split at hmove
    · exact absurd hmove.1 hnot
    · rcases hmove with hsame | ⟨hheld, _⟩
      · exact hsame
      · exact absurd hheld hnot
  cases h with
  | quiet holds conversions => exact hkept none holds
  | converted hold' bookingId found holds conversions => exact hkept _ holds

theorem bookingsOf_append {converted : List (Uuid × Uuid)}
    (h : w'.conversions = w.conversions ++ converted) (holdId : Uuid) :
    bookingsOf w' holdId =
      bookingsOf w holdId + converted.countP fun converted => converted.1 = holdId := by
  unfold bookingsOf
  rw [h, List.countP_append]

theorem bookingsOf_eq_zero (h : ∀ converted ∈ w.conversions, (w.db.holds.get? converted.1).isSome)
    {holdId : Uuid} (hnone : w.db.holds.get? holdId = none) : bookingsOf w holdId = 0 := by
  unfold bookingsOf
  rw [List.countP_eq_zero]
  intro converted hmem hid
  have hsome := h converted hmem
  rw [of_decide_eq_true hid, hnone] at hsome
  cases hsome

/-- A hold yielded no more than one booking. -/
theorem HoldInv.bookingsOf_le (h : HoldInv w) (holdId : Uuid) : bookingsOf w holdId ≤ 1 := by
  by_cases hzero : bookingsOf w holdId = 0
  · omega
  · obtain ⟨converted, hmem, hid⟩ := List.countP_pos_iff.mp (Nat.pos_of_ne_zero hzero)
    have heq : converted.1 = holdId := of_decide_eq_true hid
    exact heq ▸ h.once.2 converted hmem

/-- A hold that the step does not convert says what came of it, if it did before. -/
theorem HoldInv.status_of_change {converted : Option Uuid} (h : HoldInv w)
    (holds : HoldsChange converted w.db.holds w'.db.holds) {hold' : BookingCapacityHold}
    (hget' : w'.db.holds.get? hold'.id = some hold') (hother : some hold'.id ≠ converted) :
    hold'.status = .converted ↔ bookingsOf w hold'.id = 1 := by
  cases hget : w.db.holds.get? hold'.id with
  | none => simp [holds.fresh _ hold' hget' hget, bookingsOf_eq_zero h.known hget]
  | some hold =>
    obtain ⟨hold'', hget'', hmove⟩ := holds.kept _ hold hget
    rw [hget'] at hget''
    cases hget''
    have hid : hold.id = hold'.id := Table.key_of_get? hget
    have hiff := h.once.1 hold (Table.mem_of_get? hget)
    rw [hid] at hiff
    unfold HoldMove at hmove
    rw [hid, if_neg hother] at hmove
    rcases hmove with hsame | ⟨hheld, hgone⟩
    · rw [hsame]
      exact hiff
    · rw [← hiff, hheld]
      rcases hgone with hgone | hgone
      · simp [hgone]
      · simp [hgone]

theorem HoldsStep.holdInv (hstep : HoldsStep w w') (hrows : RowsHeld w') (h : HoldInv w) :
    HoldInv w' := by
  cases hstep with
  | quiet holds conversions =>
    have hcount : ∀ holdId, bookingsOf w' holdId = bookingsOf w holdId := by
      intro holdId
      simp only [bookingsOf, conversions]
    refine ⟨hrows, ⟨fun hold' hhold' => ?_, fun converted hmem => ?_⟩, fun converted hmem => ?_⟩
    · rw [hcount]
      exact h.status_of_change holds (Table.get?_key hhold') nofun
    · rw [hcount]
      exact h.bookingsOf_le _
    · rw [conversions] at hmem
      exact holds.isSome (h.known converted hmem)
  | converted hold bookingId found holds conversions =>
    obtain ⟨hold₁, hget₁, hmove₁⟩ := holds.kept _ hold found
    simp only [HoldMove, if_true] at hmove₁
    obtain ⟨hheld, hnow⟩ := hmove₁
    -- it was held, so nothing came of it yet
    have hzero : bookingsOf w hold.id = 0 := by
      have hle := h.bookingsOf_le hold.id
      have hne : bookingsOf w hold.id ≠ 1 := by
        intro hone
        cases hheld.symm.trans ((h.once.1 hold (Table.mem_of_get? found)).mpr hone)
      omega
    have hcount : ∀ holdId, bookingsOf w' holdId =
        bookingsOf w holdId + if hold.id = holdId then 1 else 0 := by
      intro holdId
      rw [bookingsOf_append conversions]
      by_cases hid : hold.id = holdId
      · simp [hid]
      · simp [hid]
    refine ⟨hrows, ⟨fun hold' hhold' => ?_, fun converted _ => ?_⟩, fun converted hmem => ?_⟩
    · have hget' : w'.db.holds.get? hold'.id = some hold' := Table.get?_key hhold'
      rw [hcount]
      by_cases hid : hold.id = hold'.id
      · rw [hid] at hget₁ hzero
        rw [hget'] at hget₁
        cases hget₁
        simp [hnow, hzero, hid]
      · rw [if_neg hid, Nat.add_zero]
        exact h.status_of_change holds hget' fun e => hid (Option.some.inj e).symm
    · rw [hcount]
      split
      · next hid =>
        rw [← hid, hzero]
      · exact h.bookingsOf_le _
    · rw [conversions] at hmem
      rcases List.mem_append.mp hmem with hmem | hmem
      · exact holds.isSome (h.known converted hmem)
      · rw [List.mem_singleton] at hmem
        subst hmem
        rw [hget₁]
        rfl

theorem HoldInv.step (settings : Settings) (dir : Directory) (h : HoldInv w)
    (hlapse : NoLateLapse w op) : HoldInv (exec settings dir w op) := by
  have hstep := exec_step settings dir w op
  exact (hstep.holdsStep h.rows hlapse).holdInv (hstep.rowsHeld h.rows) h

/-! ## Runs -/

/-- Before the run: no transaction is open, and the history of the conversions is that of
the holds. -/
def BeforeCalls (w : World) : Prop :=
  w.calls.rows = [] ∧ ConvertedOnce w ∧
    ∀ converted ∈ w.conversions, (w.db.holds.get? converted.1).isSome

instance : DecidablePred BeforeCalls := fun _ => inferInstanceAs (Decidable (_ ∧ _ ∧ _))

theorem BeforeCalls.holdInv (h : BeforeCalls w) : HoldInv w := by
  obtain ⟨hcalls, honce, hknown⟩ := h
  refine ⟨fun call hcall => ?_, honce, hknown⟩
  rw [hcalls] at hcall
  cases hcall

theorem lapsing_some {id holdId : Uuid} (h : lapsing w id = some holdId) :
    ∃ call, w.calls.get? id = some call ∧ call.phase = .opened ∧ call.work = .lapse holdId ∧
      w.canWrite (some call.id) (lapseHold w.db holdId) := by
  simp only [lapsing, Option.bind_eq_some_iff] at h
  obtain ⟨call, hcall, hlapsing⟩ := h
  split at hlapsing
  · next hphase hwork =>
    split at hlapsing
    · next hcan =>
      cases hlapsing
      exact ⟨call, hcall, hphase, hwork, hcan⟩
    · cases hlapsing
  · cases hlapsing

/-- What a `get` commits. -/
theorem exec_lapse {id holdId : Uuid} (h : lapsing w id = some holdId) :
    (exec settings dir w (.lapse id)).db = lapseHold w.db holdId := by
  obtain ⟨call, hcall, hphase, hwork, hcan⟩ := lapsing_some h
  simp only [exec, stepCall, hcall, hphase, hwork, World.finish, if_pos hcan]

theorem lapseHold_get {db : Db} {holdId : Uuid} {hold : BookingCapacityHold}
    (h : db.holds.get? holdId = some hold) :
    (lapseHold db holdId).holds.get? hold.id = some { hold with status := .expired } := by
  have hid : hold.id = holdId := Table.key_of_get? h
  subst hid
  simp only [lapseHold, h]
  exact Table.get?_put_self h rfl

theorem noLateLapse_of_terminalKept (h : TerminalKept w (exec settings dir w op)) :
    NoLateLapse w op := by
  cases op with
  | lapse id =>
    intro holdId hlapsing hold hget
    have hid : hold.id = holdId := Table.key_of_get? hget
    have hlapsed := lapseHold_get hget
    have hmem := Table.mem_of_get? hget
    -- a converted or released hold would be found expired
    have hgone : hold.status ∈ terminalHolds → hold.status = .expired := by
      intro hterminal
      obtain ⟨hold', hget', hstatus⟩ := h hold hmem hterminal
      rw [exec_lapse hlapsing, hlapsed] at hget'
      cases hget'
      exact hstatus.symm
    cases hstatus : hold.status with
    | held => exact Or.inl rfl
    | expired => exact Or.inr rfl
    | converted =>
      have hexpired := hgone (by simp [hstatus, terminalHolds])
      cases hstatus.symm.trans hexpired
    | released =>
      have hexpired := hgone (by simp [hstatus, terminalHolds])
      cases hstatus.symm.trans hexpired
  | _ => trivial

/-- Terminal statuses are kept and a hold is converted exactly if one booking came of it,
in a run exactly if no `get` writes the expiry of a hold that was converted or released
since it was read. -/
theorem holds_settle_once (settings : Settings) (dir : Directory) (w : World) (ops : List Op)
    (hstart : BeforeCalls w) :
    ((states (exec settings dir) w ops).Pairwise TerminalKept ∧
        Always (exec settings dir) ConvertedOnce w ops) ↔
      Along (exec settings dir) NoLateLapse w ops := by
  constructor
  · rintro ⟨hkept, _⟩
    exact Along.imp (I := fun _ => True) (fun _ _ _ _ => trivial)
      (fun _ _ _ hstep => noLateLapse_of_terminalKept hstep) trivial (step_of_pairwise hkept)
  · intro hlapse
    have hinv : ∀ w op, HoldInv w → NoLateLapse w op → HoldInv (exec settings dir w op) :=
      fun _ _ h hlapse => h.step settings dir hlapse
    constructor
    · refine pairwise_of_step TerminalKept.refl (fun _ _ _ h h' => h.trans h') hinv ?_
        hstart.holdInv hlapse
      intro w op h hlapse
      exact ((exec_step settings dir w op).holdsStep h.rows hlapse).terminalKept
    · exact (always_of_inv hinv hstart.holdInv hlapse).imp fun _ h => h.once

def heldDirectory : Directory := { visitDirectory with legalEntity := fun _ => some "USD" }

/-- The hold 40, which expires at half past, as it is read by a request and by a `get`. -/
def heldWorld : World where
  db := visitDb
  clock := 0

def heldRequest : BookingRequestCreate := {
  holdId := 40, bookingSession := "customer-session-1", firstName := "A", lastName := "B"
  email := "a@b.test", phone := "12345" }

def heldConverted : List Op :=
  [.request 50 heldRequest,
   .tick 1800000000,
   .getHold 51 40 "customer-session-1",
   .finishRequest 50 (some 9) (.ok none) { userId := 10, customerId := 11, bookingId := 12
                                           reference := "BR-12" }]

theorem heldWorld_settles :
    (states (exec visitSettings heldDirectory) heldWorld heldConverted).Pairwise TerminalKept ∧
      Always (exec visitSettings heldDirectory) ConvertedOnce heldWorld heldConverted :=
  (holds_settle_once visitSettings heldDirectory heldWorld heldConverted (by decide)).mpr
    (by decide)

/-- The `get` read the hold before the request converted it, and commits after it. -/
theorem expiry_overwrites_conversion :
    ¬ ((states (exec visitSettings heldDirectory) heldWorld
          (heldConverted ++ [.lapse 51])).Pairwise TerminalKept ∧
        Always (exec visitSettings heldDirectory) ConvertedOnce heldWorld
          (heldConverted ++ [.lapse 51])) := by
  decide

end Breero.Reservations
