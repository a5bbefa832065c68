import Breero.Addresses.System
import Breero.Reservations.Accounting

/-!
An address that has a customer keeps it, and nobody else books there.

* `placing` and `linking` say what a step is about to book, and whose bookings it links;
* `Step` is all that a step does to the bookings and to the owners;
* `owners_stable_iff`: ownership is stable in a run iff every booking and every link of it
  `Respects` the owners and the bookings of others.
-/

namespace Breero.Addresses
open KeyedTable Transaction Runs Bookings

/-! ## The law -/

/-- An address with an owner keeps the owner. -/
def OwnersKept (w w' : World) : Prop :=
  ∀ id owner, w.owners id = some owner → w'.owners id = some owner

/-- No booking is at an address that another customer owns. -/
def Belongs (w : World) : Prop :=
  ∀ booking ∈ w.db.bookings.rows, ∀ owner ∈ w.owners booking.addressId,
    owner = booking.customerId

instance (w : World) : Decidable (Belongs w) :=
  inferInstanceAs (Decidable (∀ booking ∈ w.db.bookings.rows,
    ∀ owner ∈ w.owners booking.addressId, owner = booking.customerId))

/-! ## What a step is about -/

/-- The customer that `BookingService.create` books for, and whether they have an account. -/
def createCustomer (db : Db) (input : CustomerInput) (customerId : Uuid) : Uuid × Bool :=
  match db.customers.rows.find? (fun customer => customer.email = lower input.email) with
  | some customer => (customer.id, customer.userId.isSome)
  | none => (customerId, false)

/-- The customer that `BookingRequestService.create` books for. -/
def requestCustomer (db : Db) (data : BookingRequestCreate) (customerId : Uuid) : Uuid :=
  match db.users.rows.find? (fun user => user.email = lower (strip data.email)) with
  | some user =>
    match db.customers.rows.find? (fun customer => customer.userId = some user.id) with
    | some customer => customer.id
    | none => customerId
  | none => customerId

/-- A booking that is about to be committed, and whether it takes the address for its
customer. -/
structure Placing where
  addressId : Uuid
  customerId : Uuid
  takes : Bool
  deriving DecidableEq, Repr

def placing (settings : Settings) (dir : Directory) (w : World) : Op → Option Placing
  | .finishCreate position ids =>
    w.creates[position]?.bind fun call =>
      match beginCreate settings dir w.db call.payload call.idempotencyKey call.began w.clock with
      | .ok (.inr attempt) =>
        if (finishCreate w.db attempt w.clock ids).isOk then
          let (customerId, registered) :=
            createCustomer w.db call.payload.customer ids.customerId
          some {
            addressId := call.payload.addressId, customerId
            takes := registered && call.read = none }
        else none
      | _ => none
  | .finishRequest position authenticatedUser subject ids =>
    w.requests[position]?.bind fun call => call.read.bind fun read =>
      if (finishRequest settings dir w.db call.data call.hold call.checkedAt authenticatedUser
          subject ids).isOk then
        let customerId := requestCustomer w.db call.data ids.customerId
        some {
          addressId := call.hold.addressId, customerId, takes := read ≠ some customerId }
      else none
  | _ => none

/-- The customer that is linked to an account. -/
def linkedId (db : Db) (email : String) (customerId : Uuid) : Uuid :=
  match guestOf db email with
  | some guest => guest.id
  | none => customerId

/-- The customer whose addresses a step claims. -/
def linking (w : World) : Op → Option Uuid
  | .register data userId customerId =>
    if (register w.db w.owners data userId customerId).isOk then
      some (linkedId w.db (lower data.email) customerId)
    else none
  | .verify token customerId =>
    if (verifyEmail w.db w.owners token w.clock customerId).isOk then
      (token.bind fun token => w.db.users.get? token.userId).map fun user =>
        linkedId w.db user.email customerId
    else none
  | _ => none

/-- The address has no other owner, and if it is taken, nobody else has booked there. -/
def FreeFor (w : World) (place : Placing) : Prop :=
  (∀ owner ∈ w.owners place.addressId, owner = place.customerId) ∧
    (place.takes = true → ∀ booking ∈ w.db.bookings.rows,
      booking.addressId = place.addressId → booking.customerId = place.customerId)

instance (w : World) (place : Placing) : Decidable (FreeFor w place) :=
  inferInstanceAs (Decidable (_ ∧ (_ → ∀ booking ∈ w.db.bookings.rows, _)))

/-- Nobody else has booked at the addresses without an owner that the customer has booked at. -/
def Claimable (w : World) (customerId : Uuid) : Prop :=
  ∀ own ∈ w.db.bookings.rows, own.customerId = customerId → w.owners own.addressId = none →
    ∀ booking ∈ w.db.bookings.rows, booking.addressId = own.addressId →
      booking.customerId = customerId

instance (w : World) (customerId : Uuid) : Decidable (Claimable w customerId) :=
  inferInstanceAs (Decidable (∀ own ∈ w.db.bookings.rows, _ → _ →
    ∀ booking ∈ w.db.bookings.rows, _))

structure Respects (settings : Settings) (dir : Directory) (w : World) (op : Op) : Prop where
  placed : ∀ place ∈ placing settings dir w op, FreeFor w place
  linked : ∀ customerId ∈ linking w op, Claimable w customerId

instance (settings : Settings) (dir : Directory) (w : World) :
    DecidablePred (Respects settings dir w) := fun op =>
  decidable_of_iff ((∀ place ∈ placing settings dir w op, FreeFor w place) ∧
      ∀ customerId ∈ linking w op, Claimable w customerId)
    ⟨fun h => ⟨h.1, h.2⟩, fun h => ⟨h.placed, h.linked⟩⟩

/-! ## Customers -/

section
variable {settings : Settings} {dir : Directory} {db db' : Db} {now : Instant}

theorem finishCreate_customer {attempt : CreateAttempt} {ids : CreateIds} {booking : Booking}
    (h : finishCreate db attempt now ids = .ok (db', booking)) :
    booking.addressId = attempt.payload.addressId ∧
      booking.customerId = (createCustomer db attempt.payload.customer ids.customerId).1 ∧
      ((db'.customers.get? booking.customerId).bind Customer.userId).isSome =
        (createCustomer db attempt.payload.customer ids.customerId).2 := by
  simp only [finishCreate, Db.addBooking, seq_committed, require_committed, orRaise_committed,
    return_committed, Prod.exists, Prod.mk.injEq] at h
  obtain ⟨db1, customer, hcustomer, db2, ⟨_, _, _, _, bookings, _, rfl⟩, rfl, rfl⟩ := h
  refine ⟨rfl, ?_⟩
  show customer.id = _ ∧ ((db1.customers.get? customer.id).bind Customer.userId).isSome = _
  unfold customerForEmail at hcustomer
  dsimp only at hcustomer
  split at hcustomer
  · next found hfind =>
    simp only [return_committed, Prod.mk.injEq] at hcustomer
    obtain ⟨rfl, rfl⟩ := hcustomer
    have hget : db.customers.get? found.id = some found :=
      Table.get?_key (List.mem_of_find?_eq_some hfind)
    have hcreated : createCustomer db attempt.payload.customer ids.customerId =
        (found.id, found.userId.isSome) := by
      rw [createCustomer, hfind]
    rw [hcreated, hget]
    exact ⟨rfl, rfl⟩
  · next hnone =>
    simp only [Db.addCustomer, seq_committed, require_committed, orRaise_committed,
      return_committed, Prod.mk.injEq] at hcustomer
    obtain ⟨_, ⟨_, _, customers, hinsert, rfl⟩, rfl, rfl⟩ := hcustomer
    have hget := Table.get?_insert_self hinsert
    have hcreated : createCustomer db attempt.payload.customer ids.customerId =
        (ids.customerId, false) := by
      rw [createCustomer, hnone]
    rw [hcreated]
    refine ⟨rfl, ?_⟩
    show ((customers.get? _).bind Customer.userId).isSome = false
    rw [show customers.get? ids.customerId = _ from hget]
    rfl

theorem finishRequest_customer {data : BookingRequestCreate} {hold : BookingCapacityHold}
    {authenticatedUser : Option Uuid} {subject : Except Raised (Option String)}
    {ids : RequestIds} {booking : Booking}
    (h : finishRequest settings dir db data hold now authenticatedUser subject ids =
      .ok (db', booking)) :
    booking.addressId = hold.addressId ∧
      booking.customerId = requestCustomer db data ids.customerId := by
  simp only [finishRequest, seq_committed, orRaise_committed, return_committed,
    Prod.mk.injEq] at h
  obtain ⟨⟨db1, user, created⟩, haccount, ⟨db2, customer⟩, hprofile, _, _, _, _, _, _, _, rfl⟩ := h
  obtain ⟨hfind, _, rfl, _⟩ := accountFor_ok.mp haccount
  refine ⟨rfl, ?_⟩
  show customer.id = _
  unfold profileFor at hprofile
  dsimp only at hprofile
  split at hprofile
  · next found hfound =>
    simp only [return_committed, Prod.mk.injEq] at hprofile
    have hbooked : requestCustomer db1 data ids.customerId = found.id := by
      simp only [requestCustomer, hfind, hfound]
    rw [hbooked, hprofile.2]
  · next hnone =>
    simp only [seq_committed, return_committed, Prod.mk.injEq] at hprofile
    obtain ⟨_, _, _, rfl⟩ := hprofile
    have hbooked : requestCustomer db1 data ids.customerId = ids.customerId := by
      simp only [requestCustomer, hfind, hnone]
    rw [hbooked]

theorem linkedProfile_ok {user : User} {customerId : Uuid} {customer : Customer}
    (h : linkedProfile db user customerId = .ok (db', customer)) :
    db'.bookings = db.bookings ∧ customer.id = linkedId db user.email customerId := by
  unfold linkedProfile at h
  split at h
  · next guest hguest =>
    simp only [seq_committed, require_committed, return_committed, Prod.mk.injEq] at h
    obtain ⟨_, _, rfl, rfl⟩ := h
    exact ⟨rfl, by rw [linkedId, hguest]⟩
  · next hnone =>
    simp only [seq_committed, orRaise_committed, return_committed, Prod.exists,
      Prod.mk.injEq] at h
    obtain ⟨_, _, _, db1, hadd, rfl, rfl⟩ := h
    obtain ⟨customers, rfl⟩ := Db.addCustomer_ok hadd
    exact ⟨rfl, by rw [linkedId, hnone]⟩

/-- A claim reads the bookings only. -/
theorem claimBooked_eq (h : db'.bookings = db.bookings) (owners : Owners) (customerId : Uuid) :
    claimBooked db' owners customerId = claimBooked db owners customerId := by
  have hbooked : ∀ id, HasBooked db' customerId id ↔ HasBooked db customerId id := by
    intro id
    simp only [HasBooked, h]
  funext id
  simp only [claimBooked, hbooked]

theorem linkCustomer_ok {owners owners' : Owners} {user : User} {customerId : Uuid}
    (h : linkCustomer db owners user customerId = .ok (db', owners')) :
    db'.bookings = db.bookings ∧
      owners' = claimBooked db owners (linkedId db user.email customerId) := by
  simp only [linkCustomer, seq_committed, return_committed, Prod.exists, Prod.mk.injEq] at h
  obtain ⟨db1, customer, hprofile, rfl, rfl⟩ := h
  obtain ⟨hbookings, hid⟩ := linkedProfile_ok hprofile
  exact ⟨hbookings, by rw [claimBooked_eq hbookings, hid]⟩

end

/-! ## Steps -/

variable {settings : Settings} {dir : Directory} {w w' : World} {op : Op}

/-- What a step does to the bookings and to the owners. -/
inductive Step (settings : Settings) (dir : Directory) (w : World) (op : Op) (w' : World) : Prop
  | quiet (bookings : w'.db.bookings = w.db.bookings) (owners : w'.owners = w.owners)
      (places : placing settings dir w op = none) (links : linking w op = none)
  | placed (place : Placing) (booking : Booking)
      (places : placing settings dir w op = some place) (links : linking w op = none)
      (inserted : w.db.bookings.insert? booking = some w'.db.bookings)
      (address : booking.addressId = place.addressId)
      (customer : booking.customerId = place.customerId)
      (owners : w'.owners = if place.takes then
        setOwner w.owners place.addressId place.customerId else w.owners)
  | linked (customerId : Uuid) (places : placing settings dir w op = none)
      (links : linking w op = some customerId) (bookings : w'.db.bookings = w.db.bookings)
      (owners : w'.owners = claimBooked w.db w.owners customerId)

theorem create_step {position : Nat} {ids : CreateIds} {call : OpenCreate}
    (hat : w.creates[position]? = some call) (hop : op = .finishCreate position ids)
    {base : World} (hdb : base.db = w.db) (howners : base.owners = w.owners) :
    Step settings dir w op (base.commit
      (create settings dir w.db w.owners call.payload call.idempotencyKey call.began w.clock
        call.read ids)) := by
  subst hop
  unfold World.commit
  split
  · next db owners h =>
    simp only [create, seq_committed] at h
    obtain ⟨existing | attempt, hbegin, h⟩ := h
    · simp only [return_committed, Prod.mk.injEq] at h
      obtain ⟨rfl, rfl⟩ := h
      exact .quiet rfl rfl (by simp [placing, hat, hbegin]) rfl
    · simp only [seq_committed, Prod.exists] at h
      obtain ⟨db1, booking, hfinish, h⟩ := h
      obtain ⟨haddress, hcustomer, hregistered⟩ := finishCreate_customer hfinish
      obtain ⟨_, hinsert, _⟩ := finishCreate_ok hfinish
      obtain ⟨hpayload, _⟩ := beginCreate_free hbegin
      rw [hpayload] at haddress hcustomer hregistered
      let place : Placing := {
        addressId := call.payload.addressId
        customerId := (createCustomer w.db call.payload.customer ids.customerId).1
        takes := (createCustomer w.db call.payload.customer ids.customerId).2 &&
          call.read = none }
      have hplace : placing settings dir w (.finishCreate position ids) = some place := by
        simp [placing, hat, hbegin, isOk_of_eq hfinish, place]
      have htakes : (((db1.customers.get? booking.customerId).bind Customer.userId).isSome ∧
          call.read = none) ↔ place.takes = true := by
        simp [place, hregistered]
      simp only [htakes] at h
      have hresult : w.db.bookings.insert? booking = some db.bookings ∧
          owners = if place.takes = true then setOwner w.owners place.addressId place.customerId
            else w.owners := by
        rw [show place.addressId = booking.addressId from haddress.symm,
          show place.customerId = booking.customerId from hcustomer.symm]
        split at h
        · next hpositive =>
          simp only [return_committed, Prod.mk.injEq] at h
          obtain ⟨rfl, rfl⟩ := h
          exact ⟨hinsert, (if_pos hpositive).symm⟩
        · next hnegative =>
          simp only [return_committed, Prod.mk.injEq] at h
          obtain ⟨rfl, rfl⟩ := h
          exact ⟨hinsert, (if_neg hnegative).symm⟩
      exact .placed place booking hplace rfl hresult.1 haddress hcustomer hresult.2
  · next raised h =>
    refine .quiet (congrArg Db.bookings hdb) howners ?_ rfl
    simp only [placing, hat, Option.bind_some]
    split
    · next attempt hbegin =>
      rw [if_neg]
      intro hok
      obtain ⟨⟨db1, booking⟩, hfinish⟩ := isOk_iff.mp hok
      simp only [create, hbegin, hfinish, Except.bind, bind] at h
      split at h <;> cases h
    · rfl

theorem request_step {position : Nat} {authenticatedUser read : Option Uuid}
    {subject : Except Raised (Option String)} {ids : RequestIds} {call : OpenRequest}
    (hat : w.requests[position]? = some call) (hread : call.read = some read)
    (hop : op = .finishRequest position authenticatedUser subject ids)
    {base : World} (hdb : base.db = w.db) (howners : base.owners = w.owners) :
    Step settings dir w op (base.commit
      (request settings dir w.db w.owners call.data call.hold call.checkedAt read
        authenticatedUser subject ids)) := by
  subst hop
  unfold World.commit
  split
  · next db owners h =>
    simp only [request, seq_committed, Prod.exists] at h
    obtain ⟨db1, booking, hfinish, h⟩ := h
    obtain ⟨haddress, hcustomer⟩ := finishRequest_customer hfinish
    obtain ⟨_, _, _, _, hinsert, _⟩ := finishRequest_ok hfinish
    let place : Placing := {
      addressId := call.hold.addressId
      customerId := requestCustomer w.db call.data ids.customerId
      takes := read ≠ some (requestCustomer w.db call.data ids.customerId) }
    have hplace : placing settings dir w (.finishRequest position authenticatedUser subject ids) =
        some place := by
      simp [placing, hat, hread, isOk_of_eq hfinish, place]
    have htakes : read = some booking.customerId ↔ ¬ place.takes = true := by
      simp [place, hcustomer]
    have hresult : w.db.bookings.insert? booking = some db.bookings ∧
        owners = if place.takes = true then setOwner w.owners place.addressId place.customerId
          else w.owners := by
      rw [show place.addressId = booking.addressId from haddress.symm,
        show place.customerId = booking.customerId from hcustomer.symm]
      split at h
      · next hsame =>
        simp only [return_committed, Prod.mk.injEq] at h
        obtain ⟨rfl, rfl⟩ := h
        exact ⟨hinsert, (if_neg (htakes.mp hsame)).symm⟩
      · next hother =>
        simp only [return_committed, Prod.mk.injEq] at h
        obtain ⟨rfl, rfl⟩ := h
        exact ⟨hinsert, (if_pos (not_not.mp (mt htakes.mpr hother))).symm⟩
    exact .placed place booking hplace rfl hresult.1 haddress hcustomer hresult.2
  · next raised h =>
    refine .quiet (congrArg Db.bookings hdb) howners ?_ rfl
    simp only [placing, hat, hread, Option.bind_some]
    rw [if_neg]
    intro hok
    obtain ⟨⟨db1, booking⟩, hfinish⟩ := isOk_iff.mp hok
    simp only [request, hfinish, Except.bind, bind] at h
    split at h <;> cases h

theorem register_ok {owners owners' : Owners} {db db' : Db} {data : RegisterRequest}
    {userId customerId : Uuid}
    (h : register db owners data userId customerId = .ok (db', owners')) :
    db'.bookings = db.bookings ∧
      owners' = claimBooked db owners (linkedId db (lower data.email) customerId) := by
  simp only [register, seq_committed, require_committed, mapError_committed, Db.addUser,
    orRaise_committed, return_committed] at h
  obtain ⟨_, _, _, ⟨_, _, _, _, users, _, rfl⟩, hlink⟩ := h
  obtain ⟨hbookings, howners⟩ := linkCustomer_ok hlink
  refine ⟨hbookings, howners.trans ?_⟩
  exact claimBooked_eq rfl owners _

theorem verifyEmail_ok {owners owners' : Owners} {db db' : Db}
    {token : Option EmailVerificationToken} {now : Instant} {customerId : Uuid}
    (h : verifyEmail db owners token now customerId = .ok (db', owners')) :
    ∃ user, (token.bind fun token => db.users.get? token.userId) = some user ∧
      db'.bookings = db.bookings ∧
      owners' = claimBooked db owners (linkedId db user.email customerId) := by
  simp only [verifyEmail, seq_committed, require_committed, orRaise_committed] at h
  obtain ⟨found, rfl, _, _, user, huser, hlink⟩ := h
  exact ⟨user, huser, linkCustomer_ok hlink⟩

theorem exec_step (w : World) (op : Op) : Step settings dir w op (exec settings dir w op) := by
  cases op with
  | tick | loseCreate | loseRequest => exact .quiet rfl rfl rfl rfl
  | createHold request holdId =>
    simp only [exec]
    have hbookings : (Transaction.commit w.db
        (createAt settings dir w.db request w.clock holdId)).bookings = w.db.bookings := by
      refine commit_induction (motive := fun db : Db => db.bookings = w.db.bookings) rfl ?_
      intro db hold h
      rcases Reservations.Accounting.createAt_ok h with rfl | ⟨_, _, _, _, _, rfl⟩
      · rfl
      · rfl
    exact .quiet hbookings rfl rfl rfl
  | create payload idempotencyKey =>
    simp only [exec]
    split
    · exact .quiet rfl rfl rfl rfl
    · exact .quiet rfl rfl rfl rfl
  | finishCreate position ids =>
    simp only [exec]
    split
    · next call hat => exact create_step hat rfl rfl rfl
    · next hat => exact .quiet rfl rfl (by simp [placing, hat]) rfl
  | request data =>
    simp only [exec]
    split
    · split
      · exact .quiet rfl rfl rfl rfl
      · exact .quiet rfl rfl rfl rfl
    · exact .quiet rfl rfl rfl rfl
  | readAddress position =>
    simp only [exec]
    split
    · exact .quiet rfl rfl rfl rfl
    · exact .quiet rfl rfl rfl rfl
  | finishRequest position authenticatedUser subject ids =>
    simp only [exec]
    split
    · next call hat =>
      split
      · next read hread => exact request_step hat hread rfl rfl rfl
      · next hread => exact .quiet rfl rfl (by simp [placing, hat, hread]) rfl
    · next hat => exact .quiet rfl rfl (by simp [placing, hat]) rfl
  | register data userId customerId =>
    simp only [exec, World.commit]
    split
    · next db owners h =>
      obtain ⟨hbookings, howners⟩ := register_ok h
      exact .linked (linkedId w.db (lower data.email) customerId) rfl
        (by simp [linking, isOk_of_eq h]) hbookings howners
    · next raised h => exact .quiet rfl rfl rfl (by simp [linking, h, Except.isOk, Except.toBool])
  | verify token customerId =>
    simp only [exec, World.commit]
    split
    · next db owners h =>
      obtain ⟨user, huser, hbookings, howners⟩ := verifyEmail_ok h
      exact .linked (linkedId w.db user.email customerId) rfl
        (by simp [linking, isOk_of_eq h, huser]) hbookings howners
    · next raised h => exact .quiet rfl rfl rfl (by simp [linking, h, Except.isOk, Except.toBool])

theorem mem_claimBooked {owners : Owners} {db : Db} {customerId id owner : Uuid}
    (h : claimBooked db owners customerId id = some owner) :
    owners id = some owner ∨
      owners id = none ∧ HasBooked db customerId id ∧ owner = customerId := by
  unfold claimBooked at h
  split at h
  · next hclaimed => exact .inr ⟨hclaimed.1, hclaimed.2, (Option.some.inj h).symm⟩
  · exact .inl h

theorem Step.kept (hstep : Step settings dir w op w') (hrespects : Respects settings dir w op) :
    OwnersKept w w' := by
  intro id owner hid
  cases hstep with
  | quiet _ howners => rw [howners, hid]
  | placed place booking places _ _ _ _ howners =>
    rw [howners]
    split
    · unfold setOwner
      split
      · next heq =>
        obtain ⟨howner, _⟩ := hrespects.placed place places
        rw [howner owner (heq ▸ hid)]
      · exact hid
    · exact hid
  | linked customerId _ _ _ howners =>
    rw [howners, claimBooked, if_neg (by simp [hid]), hid]

theorem Step.belongs (hstep : Step settings dir w op w') (hrespects : Respects settings dir w op)
    (hbelongs : Belongs w) : Belongs w' := by
  intro b hb owner howner
  cases hstep with
  | quiet hbookings howners =>
    rw [hbookings] at hb
    rw [howners] at howner
    exact hbelongs b hb owner howner
  | placed place booking places _ hinsert haddress hcustomer howners =>
    obtain ⟨hfree, halone⟩ := hrespects.placed place places
    rw [howners] at howner
    rcases (Table.mem_insert hinsert).mp hb with hold | rfl
    · split at howner
      · next htakes =>
        unfold setOwner at howner
        split at howner
        · next hthere =>
          rw [halone htakes b hold hthere]
          exact (Option.some.inj howner).symm
        · exact hbelongs b hold owner howner
      · exact hbelongs b hold owner howner
    · rw [haddress] at howner
      rw [hcustomer]
      split at howner
      · rw [setOwner, if_pos rfl] at howner
        exact (Option.some.inj howner).symm
      · exact hfree owner howner
  | linked customerId _ links hbookings howners =>
    rw [hbookings] at hb
    rw [howners] at howner
    rcases mem_claimBooked howner with hold | ⟨hnone, ⟨own, hown, howns, haddress⟩, rfl⟩
    · exact hbelongs b hb owner hold
    · rw [← haddress] at hnone
      exact (hrespects.linked owner links own hown howns hnone b hb haddress.symm).symm

theorem Step.respects (hstep : Step settings dir w op w') (hkept : OwnersKept w w')
    (hbelongs : Belongs w') : Respects settings dir w op := by
  cases hstep with
  | quiet _ _ places links =>
    exact ⟨by simp [places], by simp [links]⟩
  | placed place booking places links hinsert haddress hcustomer howners =>
    have hmem : booking ∈ w'.db.bookings.rows := (Table.mem_insert hinsert).mpr (.inr rfl)
    refine ⟨?_, by simp [links]⟩
    intro place' hplace
    obtain rfl := Option.some.inj (places.symm.trans hplace)
    constructor
    · intro owner howner
      have howner' := hkept place.addressId owner howner
      rw [← haddress] at howner'
      rw [← hcustomer]
      exact hbelongs booking hmem owner howner'
    · intro htakes b hb hthere
      have howner : w'.owners b.addressId = some place.customerId := by
        rw [howners, if_pos htakes, hthere, setOwner, if_pos rfl]
      exact (hbelongs b ((Table.mem_insert hinsert).mpr (.inl hb)) _ howner).symm
  | linked customerId places links hbookings howners =>
    refine ⟨by simp [places], ?_⟩
    intro customerId' hlink
    obtain rfl := Option.some.inj (links.symm.trans hlink)
    intro own hown howns hnone b hb hthere
    have howner : w'.owners b.addressId = some customerId := by
      rw [howners, hthere, claimBooked, if_pos ⟨hnone, own, hown, howns, rfl⟩]
    exact (hbelongs b (hbookings ▸ hb) _ howner).symm

theorem OwnersKept.refl (w : World) : OwnersKept w w := fun _ _ h => h

theorem OwnersKept.trans {w₁ w₂ w₃ : World} (h : OwnersKept w₁ w₂) (h' : OwnersKept w₂ w₃) :
    OwnersKept w₁ w₃ := fun id owner howner => h' id owner (h id owner howner)

theorem owners_stable_iff {ops : List Op} (hstart : Belongs w) :
    ((states (exec settings dir) w ops).Pairwise OwnersKept ∧
      Always (exec settings dir) Belongs w ops) ↔
      Along (exec settings dir) (Respects settings dir) w ops := by
  have hinv : ∀ w op, Belongs w → Respects settings dir w op → Belongs (exec settings dir w op) :=
    fun w op hbelongs hrespects => (exec_step w op).belongs hrespects hbelongs
  constructor
  · rintro ⟨hkept, hbelongs⟩
    have hafter : Along (exec settings dir) (fun w op => Belongs (exec settings dir w op)) w ops :=
      along_of_always (fun _ _ h => h) hbelongs
    exact Along.imp (I := fun _ => True) (fun _ _ _ _ => trivial)
      (fun w op _ h => (exec_step w op).respects h.1 h.2) trivial
      ((step_of_pairwise hkept).and hafter)
  · intro halong
    refine ⟨?_, always_of_inv hinv hstart halong⟩
    exact pairwise_of_step OwnersKept.refl (fun _ _ _ h h' => h.trans h') hinv
      (fun w op _ hrespects => (exec_step w op).kept hrespects) hstart halong

/-! ## Two customers at an address -/

/-- The customer 14, who is the user 13, has no booking yet. -/
def sharedWorld : World where
  db := { Dispatch.visitDb with
    users := ⟨Dispatch.visitDb.users.rows ++ [{
      id := 13, email := "c@d.test", fullName := "C D", phone := some "54321" }], by decide⟩
    customers := ⟨Dispatch.visitDb.customers.rows ++ [{
      id := 14, userId := some 13, firstName := "C", lastName := "D", email := "c@d.test"
      phone := "54321" }], by decide⟩ }
  clock := 0

/-- The customer 1, who has booked at the address before, converts the hold 40 there. -/
def ownConversion : List Op :=
  [.request Reservations.heldRequest, .readAddress 0,
   .finishRequest 0 (some 9) (.ok none)
     { userId := 10, customerId := 11, bookingId := 12, reference := "BR-12" }]

theorem ownConversion_stable :
    (states (exec Dispatch.visitSettings Reservations.heldDirectory) sharedWorld
        ownConversion).Pairwise OwnersKept ∧
      Always (exec Dispatch.visitSettings Reservations.heldDirectory) Belongs sharedWorld
        ownConversion :=
  (owners_stable_iff (by decide)).mpr (by decide)

/-- The customer 14 holds a slot at the same address, and converts it. -/
def otherConversion : List Op :=
  [.createHold (Reservations.visitAt 720 "customer-session-2" "hold-2") 60,
   .request {
     holdId := 60, bookingSession := "customer-session-2", firstName := "C", lastName := "D"
     email := "c@d.test", phone := "54321" },
   .readAddress 0,
   .finishRequest 0 (some 13) (.ok none)
     { userId := 15, customerId := 16, bookingId := 17, reference := "BR-17" }]

theorem address_changes_owner :
    Belongs sharedWorld ∧
      (¬ (states (exec Dispatch.visitSettings Reservations.heldDirectory) sharedWorld
          (ownConversion ++ otherConversion)).Pairwise OwnersKept) ∧
      ¬ Always (exec Dispatch.visitSettings Reservations.heldDirectory) Belongs sharedWorld
          (ownConversion ++ otherConversion) := by
  refine ⟨by decide, ?_, by decide⟩
  intro hkept
  have hfourth : (states (exec Dispatch.visitSettings Reservations.heldDirectory) sharedWorld
      (ownConversion ++ otherConversion)).Pairwise
        fun w w' => w.owners 4 = some 1 → w'.owners 4 = some 1 :=
    hkept.imp fun h => h 4 1
  exact absurd hfourth (by decide)

end Breero.Addresses
