import Breero.Accounts.System
import Breero.Addresses.Ownership

/-!
What each call does to the users, to their customers and to the tokens.

* `profiles` counts the customers of a user, and `linkedProfile_isOk` says when
  `_link_customer` can give a user one;
* `Sound` is the invariant of the tables, and `Unlinked` that nobody has both an open token
  and a customer;
* `Registered` and `Verified` are all that a registration and a verification change, and
  `guest_accounts` that the booking of a guest changes none of it.
-/

namespace Breero.Accounts
open KeyedTable Transaction Runs Bookings Addresses

/-! ## The customers of a user -/

def profiles (db : Db) (userId : Uuid) : Nat :=
  db.customers.rows.countP fun customer => customer.userId = some userId

/-- There is a guest to adopt, or a new customer can be inserted. -/
def Linkable (db : Db) (user : User) (customerId : Uuid) : Prop :=
  (guestOf db user.email).isSome ∨
    (nameParts user.fullName).isSome ∧ db.customers.get? customerId = none

instance (db : Db) (user : User) (customerId : Uuid) : Decidable (Linkable db user customerId) :=
  inferInstanceAs (Decidable (_ ∨ _ ∧ _))

section
variable {db db' : Db} {user : User} {customerId : Uuid} {owners owners' : Owners}

theorem profiles_eq_zero {userId : Uuid} :
    profiles db userId = 0 ↔ ∀ customer ∈ db.customers.rows, customer.userId ≠ some userId := by
  unfold profiles
  rw [List.countP_eq_zero]
  simp only [decide_eq_true_eq, ne_eq]

theorem addCustomer_isOk {customer : Customer} {userId : Uuid}
    (howner : customer.userId = some userId) :
    (db.addCustomer customer).isOk ↔
      profiles db userId = 0 ∧ db.customers.get? customer.id = none := by
  rw [profiles_eq_zero]
  simp only [Db.addCustomer, seq_isOk, require_committed, orRaise_committed, howner, reduceCtorEq,
    false_or]
  constructor
  · rintro ⟨_, hfree, customers, hinsert, _⟩
    exact ⟨hfree, Table.insert?_isSome.mp (Option.isSome_iff_exists.mpr ⟨customers, hinsert⟩)⟩
  · rintro ⟨hfree, hfresh⟩
    obtain ⟨customers, hinsert⟩ := Table.insert?_fresh (a := customer) hfresh
    exact ⟨(), hfree, customers, hinsert, rfl⟩

/-- A user who has no customer can be given one. -/
theorem linkedProfile_isOk :
    (linkedProfile db user customerId).isOk ↔
      profiles db user.id = 0 ∧ Linkable db user customerId := by
  unfold linkedProfile Linkable
  split
  · next guest hguest =>
    simp only [seq_isOk, require_committed, hguest, Option.isSome_some, true_or, and_true,
      profiles_eq_zero]
    constructor
    · rintro ⟨_, hfree, _⟩
      exact hfree
    · intro hfree
      exact ⟨(), hfree, rfl⟩
  · next hnone =>
    simp only [hnone, Option.isSome_none, Bool.false_eq_true, false_or, seq_isOk,
      orRaise_committed]
    constructor
    · rintro ⟨⟨firstName, lastName⟩, hparts, db1, hadd, _⟩
      obtain ⟨hfree, hfresh⟩ := (addCustomer_isOk rfl).mp (isOk_of_eq hadd)
      exact ⟨hfree, by rw [hparts]; rfl, hfresh⟩
    · rintro ⟨hfree, hparts, hfresh⟩
      obtain ⟨⟨firstName, lastName⟩, hparts⟩ := Option.isSome_iff_exists.mp hparts
      let customer : Customer := {
        id := customerId, userId := some user.id, firstName, lastName, email := user.email
        phone := "" }
      have hadds : (db.addCustomer customer).isOk := (addCustomer_isOk rfl).mpr ⟨hfree, hfresh⟩
      obtain ⟨db1, hadd⟩ := isOk_iff.mp hadds
      exact ⟨(firstName, lastName), hparts, db1, hadd, rfl⟩

/-- The user has one customer then, and the other users those that they had. -/
theorem linkedProfile_profiles {customer : Customer}
    (h : linkedProfile db user customerId = .ok (db', customer)) :
    (∃ customers, db' = { db with customers }) ∧
      ∀ id, profiles db' id = if id = user.id then 1 else profiles db id := by
  have hfree := (linkedProfile_isOk.mp (isOk_of_eq h)).1
  unfold linkedProfile at h
  split at h
  · next guest hguest =>
    simp only [seq_committed, require_committed, return_committed, Prod.mk.injEq] at h
    obtain ⟨_, _, rfl, rfl⟩ := h
    refine ⟨⟨_, rfl⟩, fun id => ?_⟩
    have hget : db.customers.get? guest.id = some guest :=
      Table.get?_key (List.mem_of_find?_eq_some hguest)
    have hno : guest.userId = none := by
      have := List.find?_some hguest
      simp only [Bool.and_eq_true, Option.isNone_iff_eq_none] at this
      exact this.2
    have hcount := Table.countP_put (a := { guest with userId := some user.id })
      (fun customer => decide (customer.userId = some id)) hget rfl
    simp only [hno, reduceCtorEq, decide_false, Bool.false_eq_true, if_false, Option.some.injEq,
      decide_eq_true_eq, Nat.add_zero] at hcount
    unfold profiles at hfree ⊢
    split
    · next hid =>
      subst hid
      rw [if_pos rfl] at hcount
      exact hcount.trans (by rw [hfree])
    · next hid =>
      rw [if_neg (Ne.symm hid)] at hcount
      exact hcount
  · simp only [seq_committed, orRaise_committed, return_committed, Prod.exists, Prod.mk.injEq,
      Db.addCustomer, require_committed] at h
    obtain ⟨_, _, _, db1, ⟨_, _, customers, hinsert, rfl⟩, rfl, rfl⟩ := h
    refine ⟨⟨_, rfl⟩, fun id => ?_⟩
    have hcount := Table.countP_insert
      (fun customer => decide (customer.userId = some id)) hinsert
    simp only [Option.some.injEq, decide_eq_true_eq] at hcount
    unfold profiles at hfree ⊢
    split
    · next hid =>
      subst hid
      rw [if_pos rfl, hfree] at hcount
      exact hcount
    · next hid =>
      rw [if_neg (Ne.symm hid)] at hcount
      exact hcount

theorem linkCustomer_isOk :
    (linkCustomer db owners user customerId).isOk ↔
      profiles db user.id = 0 ∧ Linkable db user customerId := by
  rw [← linkedProfile_isOk, linkCustomer]
  exact seq_return_isOk

theorem linkCustomer_profiles (h : linkCustomer db owners user customerId = .ok (db', owners')) :
    (∃ customers, db' = { db with customers }) ∧
      ∀ id, profiles db' id = if id = user.id then 1 else profiles db id := by
  simp only [linkCustomer, seq_committed, return_committed, Prod.exists, Prod.mk.injEq] at h
  obtain ⟨_, _, hprofile, rfl, _⟩ := h
  exact linkedProfile_profiles hprofile

theorem addUser_isOk (hsubject : user.keycloakSubject = none) :
    (db.addUser user).isOk ↔
      (∀ other ∈ db.users.rows, other.email ≠ user.email) ∧ db.users.get? user.id = none := by
  simp only [Db.addUser, seq_isOk, require_committed, orRaise_committed, hsubject, true_or,
    implies_true]
  constructor
  · rintro ⟨_, hfree, _, _, users, hinsert, _⟩
    exact ⟨hfree, Table.insert?_isSome.mp (Option.isSome_iff_exists.mpr ⟨users, hinsert⟩)⟩
  · rintro ⟨hfree, hfresh⟩
    obtain ⟨users, hinsert⟩ := Table.insert?_fresh (a := user) hfresh
    exact ⟨(), hfree, (), trivial, users, hinsert, rfl⟩

theorem addUser_ok (h : db.addUser user = .ok db') :
    ∃ users, db.users.insert? user = some users ∧ db' = { db with users } := by
  simp only [Db.addUser, seq_committed, require_committed, orRaise_committed,
    return_committed] at h
  obtain ⟨_, _, _, _, users, hinsert, rfl⟩ := h
  exact ⟨users, hinsert, rfl⟩

end

/-! ## The invariant -/

def IssuedToken.Open (issued : IssuedToken) (now : Instant) : Prop :=
  issued.token.usedAt = none ∧ now < issued.token.expiresAt

instance (issued : IssuedToken) (now : Instant) : Decidable (issued.Open now) :=
  inferInstanceAs (Decidable (_ ∧ _))

/-- A user who registered as a client has one customer. -/
def ClientsLinked (w : World) : Prop :=
  ∀ account ∈ w.accounts.rows, account.role = .customer → profiles w.base.db account.userId = 1

structure Sound (w : World) : Prop where
  accountUser : ∀ account ∈ w.accounts.rows,
    ∃ user, w.base.db.users.get? account.userId = some user ∧
      (account.role = .vendorAdmin → (nameParts user.fullName).isSome)
  profileUser : ∀ id, profiles w.base.db id ≠ 0 → (w.base.db.users.get? id).isSome
  tokenAccount : ∀ issued ∈ w.tokens.rows,
    ∃ account ∈ w.accounts.rows, account.userId = issued.token.userId
  linked : ClientsLinked w

/-- A user whose token is open has no customer. -/
def Unlinked (w : World) : Prop :=
  ∀ issued ∈ w.tokens.rows, issued.Open w.base.clock → profiles w.base.db issued.token.userId = 0

variable {w w' : World}

theorem Sound.profiles_fresh (hsound : Sound w) {id : Uuid}
    (h : w.base.db.users.get? id = none) : profiles w.base.db id = 0 := by
  by_contra hprofile
  have hsome := hsound.profileUser id hprofile
  rw [h] at hsome
  cases hsome

/-! ### A registration -/

/-- A new user, with an account and with a token that is open. -/
structure Registered (w w' : World) (user : User) (role : UserRole) (tokenHash : String) :
    Prop where
  users : w.base.db.users.insert? user = some w'.base.db.users
  accounts : w.accounts.insert? { userId := user.id, role } = some w'.accounts
  tokens : w.tokens.insert? {
      tokenHash
      token := { userId := user.id, expiresAt := w.base.clock + verificationLifetime } } =
    some w'.tokens
  clock : w'.base.clock = w.base.clock
  profiles : ∀ id ≠ user.id, profiles w'.base.db id = profiles w.base.db id

theorem Registered.sound {user : User} {role : UserRole} {tokenHash : String}
    (h : Registered w w' user role tokenHash) (hsound : Sound w)
    (hrole : match role with
      | .customer => Accounts.profiles w'.base.db user.id = 1
      | .vendorAdmin => (nameParts user.fullName).isSome) : Sound w' := by
  refine ⟨fun account hmem => ?_, fun id hprofile => ?_, fun issued hmem => ?_,
    fun account hmem hcustomer => ?_⟩
  · rcases (Table.mem_insert h.accounts).mp hmem with hmem | rfl
    · obtain ⟨found, hfound, hname⟩ := hsound.accountUser account hmem
      exact ⟨found, Table.get?_insert_of_some h.users hfound, hname⟩
    · refine ⟨user, Table.get?_insert_self h.users, fun hadmin => ?_⟩
      dsimp only at hadmin
      subst hadmin
      exact hrole
  · by_cases hid : id = user.id
    · subst hid
      rw [show w'.base.db.users.get? user.id = some user from Table.get?_insert_self h.users]
      rfl
    · rw [h.profiles id hid] at hprofile
      obtain ⟨found, hfound⟩ := Option.isSome_iff_exists.mp (hsound.profileUser id hprofile)
      rw [Table.get?_insert_of_some h.users hfound]
      rfl
  · rcases (Table.mem_insert h.tokens).mp hmem with hmem | rfl
    · obtain ⟨account, haccount, hid⟩ := hsound.tokenAccount issued hmem
      exact ⟨account, (Table.mem_insert h.accounts).mpr (.inl haccount), hid⟩
    · exact ⟨_, (Table.mem_insert h.accounts).mpr (.inr rfl), rfl⟩
  · rcases (Table.mem_insert h.accounts).mp hmem with hmem | rfl
    · rw [h.profiles account.userId (Table.key_fresh h.accounts hmem)]
      exact hsound.linked account hmem hcustomer
    · dsimp only at hcustomer
      subst hcustomer
      exact hrole

theorem open_issued {tokenHash : String} {userId : Uuid} {now : Instant} :
    ({ tokenHash, token := { userId, expiresAt := now + verificationLifetime } } :
      IssuedToken).Open now := by
  have hlater : 0 < verificationLifetime := by decide
  refine ⟨rfl, ?_⟩
  exact Int.lt_add_of_pos_right now hlater

/-- The tokens that are open after a registration are the new one and those that were. -/
theorem Registered.unlinked_iff {user : User} {role : UserRole} {tokenHash : String}
    (h : Registered w w' user role tokenHash) (hunlinked : Unlinked w) :
    Unlinked w' ↔ Accounts.profiles w'.base.db user.id = 0 := by
  constructor
  · intro hafter
    exact hafter _ ((Table.mem_insert h.tokens).mpr (.inr rfl)) (h.clock ▸ open_issued)
  · intro hnew issued hmem hopen
    rw [h.clock] at hopen
    rcases (Table.mem_insert h.tokens).mp hmem with hmem | rfl
    · by_cases hid : issued.token.userId = user.id
      · rw [hid]
        exact hnew
      · rw [h.profiles _ hid]
        exact hunlinked issued hmem hopen
    · exact hnew

/-! ### Each call -/

section
variable {data : Addresses.RegisterRequest} {ids : ClientIds}

def clientUser (data : Addresses.RegisterRequest) (userId : Uuid) : User := {
  id := userId
  email := lower data.email
  fullName := strip data.fullName
  phone := data.phone }

/-- What a registration of a client needs to be committed. -/
structure Registers (w : World) (data : Addresses.RegisterRequest) (ids : ClientIds) : Prop where
  email : ∀ user ∈ w.base.db.users.rows, user.email ≠ lower data.email
  userId : w.base.db.users.get? ids.userId = none
  tokenHash : w.tokens.get? ids.tokenHash = none
  linkable : Linkable w.base.db (clientUser data ids.userId) ids.customerId

instance : Decidable (Registers w data ids) :=
  decidable_of_iff ((∀ user ∈ w.base.db.users.rows, user.email ≠ lower data.email) ∧
      w.base.db.users.get? ids.userId = none ∧ w.tokens.get? ids.tokenHash = none ∧
      Linkable w.base.db (clientUser data ids.userId) ids.customerId)
    ⟨fun h => ⟨h.1, h.2.1, h.2.2.1, h.2.2.2⟩,
      fun h => ⟨h.email, h.userId, h.tokenHash, h.linkable⟩⟩

theorem register_ok (h : register w data ids = .ok w') :
    Registered w w' (clientUser data ids.userId) .customer ids.tokenHash ∧
      profiles w'.base.db ids.userId = 1 ∧ Registers w data ids := by
  simp only [register, Addresses.register, issueVerification, seq_committed, require_committed,
    mapError_committed, orRaise_committed, return_committed, Prod.exists] at h
  obtain ⟨db, owners, ⟨_, hfree, added, hadd, hlink⟩, accounts, haccounts, tokens, htokens, rfl⟩ :=
    h
  have hlinkable := (linkCustomer_isOk.mp (isOk_of_eq hlink)).2
  obtain ⟨users, husers, rfl⟩ := addUser_ok hadd
  obtain ⟨⟨customers, rfl⟩, hprofiles⟩ := linkCustomer_profiles hlink
  refine ⟨⟨husers, haccounts, htokens, rfl, fun id hid => ?_⟩, ?_, hfree, ?_, ?_, hlinkable⟩
  · exact (hprofiles id).trans (if_neg hid)
  · exact (hprofiles ids.userId).trans (if_pos rfl)
  · exact Table.insert?_isSome.mp (Option.isSome_iff_exists.mpr ⟨users, husers⟩)
  · exact Table.insert?_isSome.mp (Option.isSome_iff_exists.mpr ⟨tokens, htokens⟩)

theorem register_isOk (hsound : Sound w) (h : Registers w data ids) :
    (register w data ids).isOk := by
  have hprofile : profiles w.base.db ids.userId = 0 := hsound.profiles_fresh h.userId
  have haccount : w.accounts.get? ids.userId = none := by
    by_contra hsome
    obtain ⟨account, hget⟩ := Option.ne_none_iff_exists'.mp hsome
    obtain ⟨user, huser, _⟩ := hsound.accountUser account (Table.mem_of_get? hget)
    rw [show account.userId = ids.userId from Table.key_of_get? hget, h.userId] at huser
    cases huser
  obtain ⟨accounts, haccounts⟩ := Table.insert?_fresh
    (a := ({ userId := ids.userId, role := .customer } : Account)) haccount
  obtain ⟨tokens, htokens⟩ := Table.insert?_fresh
    (a := ({
        tokenHash := ids.tokenHash
        token := { userId := ids.userId, expiresAt := w.base.clock + verificationLifetime } } :
      IssuedToken)) h.tokenHash
  have hadds : (w.base.db.addUser (clientUser data ids.userId)).isOk :=
    (addUser_isOk rfl).mpr ⟨h.email, h.userId⟩
  obtain ⟨added, hadd⟩ := isOk_iff.mp hadds
  obtain ⟨users, _, rfl⟩ := addUser_ok hadd
  have hlinks : (linkCustomer { w.base.db with users } w.base.owners
      (clientUser data ids.userId) ids.customerId).isOk :=
    linkCustomer_isOk.mpr ⟨hprofile, h.linkable⟩
  obtain ⟨⟨db, owners⟩, hlink⟩ := isOk_iff.mp hlinks
  have hregister : Addresses.register w.base.db w.base.owners data ids.userId ids.customerId =
      .ok (db, owners) := by
    simp only [Addresses.register, seq_committed, require_committed, mapError_committed]
    exact ⟨(), h.email, _, hadd, hlink⟩
  simp only [register, issueVerification, seq_isOk, mapError_isOk, orRaise_committed]
  exact ⟨(db, owners), hregister, accounts, haccounts, tokens, htokens, rfl⟩

end

section
variable {zones : Zones} {activeSlugs : List String} {data : ProviderRegisterRequest}
  {ids : ProviderIds}

theorem registerProvider_ok (h : registerProvider zones activeSlugs w data ids = .ok w') :
    Registered w w' (providerUser data ids.userId) .vendorAdmin ids.tokenHash ∧
      (nameParts (providerUser data ids.userId).fullName).isSome ∧
      w'.base.db.customers = w.base.db.customers := by
  simp only [registerProvider, addProvider, issueVerification, seq_committed, require_committed,
    mapError_committed, orRaise_committed, return_committed] at h
  obtain ⟨_, _, db, hadd, accounts, haccounts, _, _, vendors, _, parts, hparts, workers, _, tokens,
    htokens, rfl⟩ := h
  obtain ⟨users, husers, rfl⟩ := addUser_ok hadd
  refine ⟨⟨husers, haccounts, htokens, rfl, fun _ _ => rfl⟩, ?_, rfl⟩
  rw [show (providerUser data ids.userId).fullName = strip data.contactName from rfl, hparts]
  rfl

end

section
variable {userId : Uuid} {tokenHash : String}

theorem resendVerification_ok (h : resendVerification w userId tokenHash = .ok w') :
    ∃ account, w.accounts.get? userId = some account ∧
      (account.emailVerified = true ∧ w' = w ∨
        account.emailVerified = false ∧ ∃ tokens, w' = { w with tokens } ∧
          w.tokens.insert? {
            tokenHash
            token := { userId, expiresAt := w.base.clock + verificationLifetime } } =
          some tokens) := by
  simp only [resendVerification, seq_committed, orRaise_committed] at h
  obtain ⟨account, haccount, h⟩ := h
  refine ⟨account, haccount, ?_⟩
  split at h
  · next hverified => exact .inl ⟨hverified, ((return_committed _ _).mp h).symm⟩
  · next hverified =>
    simp only [issueVerification, seq_committed, orRaise_committed, return_committed] at h
    obtain ⟨tokens, htokens, rfl⟩ := h
    exact .inr ⟨Bool.eq_false_iff.mpr hverified, tokens, rfl, htokens⟩

theorem resendVerification_isOk {account : Account}
    (haccount : w.accounts.get? userId = some account)
    (hhash : w.tokens.get? tokenHash = none) : (resendVerification w userId tokenHash).isOk := by
  simp only [resendVerification, seq_isOk, orRaise_committed]
  refine ⟨account, haccount, ?_⟩
  split
  · rfl
  · obtain ⟨tokens, htokens⟩ := Table.insert?_fresh
      (a := ({
          tokenHash
          token := { userId, expiresAt := w.base.clock + verificationLifetime } } :
        IssuedToken)) hhash
    simp only [issueVerification, seq_isOk, orRaise_committed]
    exact ⟨tokens, htokens, rfl⟩

end

section
variable {tokenHash : String} {customerId : Uuid}

theorem verifyEmail_isOk {issued : IssuedToken} (hissued : w.tokens.get? tokenHash = some issued) :
    (verifyEmail w tokenHash customerId).isOk ↔
      issued.Open w.base.clock ∧
        ∃ user, w.base.db.users.get? issued.token.userId = some user ∧
          profiles w.base.db user.id = 0 ∧ Linkable w.base.db user customerId := by
  simp only [verifyEmail, Addresses.verifyEmail, seq_isOk, seq_committed, orRaise_committed,
    require_committed, hissued, Option.some.injEq, exists_eq_left']
  constructor
  · rintro ⟨out, ⟨_, hopen, user, huser, hlink⟩, _⟩
    exact ⟨hopen, user, huser, linkCustomer_isOk.mp (isOk_of_eq hlink)⟩
  · rintro ⟨hopen, user, huser, hlinks⟩
    have hlinked : (linkCustomer w.base.db w.base.owners user customerId).isOk :=
      linkCustomer_isOk.mpr hlinks
    obtain ⟨out, hlink⟩ := isOk_iff.mp hlinked
    exact ⟨out, ⟨(), hopen, user, huser, hlink⟩, rfl⟩

/-- A verification that is committed. -/
structure Verified (w w' : World) (issued : IssuedToken) (user : User) : Prop where
  token : w.tokens.get? issued.tokenHash = some issued
  isOpen : issued.Open w.base.clock
  found : w.base.db.users.get? issued.token.userId = some user
  free : profiles w.base.db user.id = 0
  users : w'.base.db.users = w.base.db.users
  profiles : ∀ id, profiles w'.base.db id =
    if id = user.id then 1 else Accounts.profiles w.base.db id
  clock : w'.base.clock = w.base.clock
  tokens : w'.tokens = w.tokens.put
    { issued with token := { issued.token with usedAt := some w.base.clock } }
  accounts : w'.accounts = w.accounts.update
    (Account.verifiedAt issued.token.userId w.base.clock)
    (Account.key_verifiedAt issued.token.userId w.base.clock)

theorem verifyEmail_ok (h : verifyEmail w tokenHash customerId = .ok w') :
    ∃ issued user, issued.tokenHash = tokenHash ∧ Verified w w' issued user ∧
      Linkable w.base.db user customerId := by
  simp only [verifyEmail, Addresses.verifyEmail, seq_committed, orRaise_committed,
    require_committed, return_committed, Prod.exists, Option.some.injEq, exists_eq_left'] at h
  obtain ⟨issued, hissued, db, owners, ⟨_, hopen, user, huser, hlink⟩, rfl⟩ := h
  have hhash : issued.tokenHash = tokenHash := Table.key_of_get? hissued
  obtain ⟨hfree, hlinkable⟩ := linkCustomer_isOk.mp (isOk_of_eq hlink)
  obtain ⟨⟨customers, rfl⟩, hprofiles⟩ := linkCustomer_profiles hlink
  exact ⟨issued, user, hhash, {
    token := hhash ▸ hissued, isOpen := hopen, found := huser, free := hfree, users := rfl
    profiles := hprofiles, clock := rfl, tokens := rfl, accounts := rfl }, hlinkable⟩

end

/-! ### A verification -/

theorem Verified.userId {issued : IssuedToken} {user : User} (h : Verified w w' issued user) :
    user.id = issued.token.userId :=
  Table.key_of_get? h.found

theorem Account.verifiedAt_fields (userId : Uuid) (now : Instant) (account : Account) :
    (account.verifiedAt userId now).userId = account.userId ∧
      (account.verifiedAt userId now).role = account.role := by
  unfold Account.verifiedAt
  split <;> exact ⟨rfl, rfl⟩

theorem Verified.sound {issued : IssuedToken} {user : User} (h : Verified w w' issued user)
    (hsound : Sound w) : Sound w' := by
  have hrows : ∀ account ∈ w'.accounts.rows, ∃ before ∈ w.accounts.rows,
      account.userId = before.userId ∧ account.role = before.role := by
    intro account hmem
    rw [h.accounts] at hmem
    obtain ⟨before, hbefore, rfl⟩ := Table.mem_update.mp hmem
    exact ⟨before, hbefore, Account.verifiedAt_fields _ _ before⟩
  refine ⟨fun account hmem => ?_, fun id hprofile => ?_, fun other hmem => ?_,
    fun account hmem hcustomer => ?_⟩
  · obtain ⟨before, hbefore, hid, hrole⟩ := hrows account hmem
    rw [h.users, hid, hrole]
    exact hsound.accountUser before hbefore
  · rw [h.users]
    rw [h.profiles id] at hprofile
    split at hprofile
    · next hid =>
      rw [hid, h.userId, h.found]
      rfl
    · exact hsound.profileUser id hprofile
  · have hsame : ∃ before ∈ w.tokens.rows, before.token.userId = other.token.userId := by
      rw [h.tokens] at hmem
      rcases Table.mem_put.mp hmem with ⟨rfl, _⟩ | ⟨hmem, _⟩
      · exact ⟨issued, Table.mem_of_get? h.token, rfl⟩
      · exact ⟨other, hmem, rfl⟩
    obtain ⟨before, hbefore, hid⟩ := hsame
    obtain ⟨account, haccount, haccountId⟩ := hsound.tokenAccount before hbefore
    refine ⟨account.verifiedAt issued.token.userId w.base.clock, ?_, ?_⟩
    · rw [h.accounts]
      exact Table.mem_update.mpr ⟨account, haccount, rfl⟩
    · rw [(Account.verifiedAt_fields _ _ account).1, haccountId, hid]
  · obtain ⟨before, hbefore, hid, hrole⟩ := hrows account hmem
    rw [h.profiles account.userId]
    split
    · rfl
    · rw [hid]
      exact hsound.linked before hbefore (hrole ▸ hcustomer)

/-- The other tokens of the user must not be open after a verification. -/
theorem Verified.unlinked_iff {issued : IssuedToken} {user : User}
    (h : Verified w w' issued user) (hunlinked : Unlinked w) :
    Unlinked w' ↔ ∀ other ∈ w.tokens.rows, other.token.userId = issued.token.userId →
      other.Open w.base.clock → other.tokenHash = issued.tokenHash := by
  have hmem : ∀ other, other ∈ w'.tokens.rows → other.Open w.base.clock →
      other ∈ w.tokens.rows ∧ other.tokenHash ≠ issued.tokenHash := by
    intro other hmem hopen
    rw [h.tokens] at hmem
    rcases Table.mem_put.mp hmem with ⟨rfl, _⟩ | hmem
    · cases hopen.1
    · exact hmem
  constructor
  · intro hafter other hother hid hopen
    by_contra hhash
    have hrow : other ∈ w'.tokens.rows := by
      rw [h.tokens]
      exact Table.mem_put_of_mem hother hhash
    have hprofile := hafter other hrow (h.clock ▸ hopen)
    rw [h.profiles, if_pos (hid.trans h.userId.symm)] at hprofile
    cases hprofile
  · intro honly other hother hopen
    rw [h.clock] at hopen
    obtain ⟨hrow, hhash⟩ := hmem other hother hopen
    rw [h.profiles, if_neg]
    · exact hunlinked other hrow hopen
    · intro hid
      exact hhash (honly other hrow (hid.trans h.userId) hopen)

/-! ### A booking -/

section
variable {settings : Settings} {dir : Directory}

theorem customerForEmail_profiles {db db' : Db} {input : CustomerInput} {customerId : Uuid}
    {customer : Customer} (h : customerForEmail db input customerId = .ok (db', customer))
    (id : Uuid) : profiles db' id = profiles db id := by
  simp only [customerForEmail] at h
  split at h
  · simp only [return_committed, Prod.mk.injEq] at h
    rw [h.1]
  · simp only [Db.addCustomer, seq_committed, require_committed, orRaise_committed,
      return_committed, Prod.mk.injEq] at h
    obtain ⟨_, ⟨_, _, customers, hinsert, rfl⟩, rfl, _⟩ := h
    exact Table.countP_insert (fun customer => decide (customer.userId = some id)) hinsert

/-- The accounts stay as they are, and so do their customers. -/
structure SameAccounts (db db' : Db) : Prop where
  users : db'.users = db.users
  profiles : ∀ id, profiles db' id = profiles db id

theorem SameAccounts.refl (db : Db) : SameAccounts db db := ⟨rfl, fun _ => rfl⟩

theorem createAt_accounts {db db' : Db} {request : HoldRequest} {now : Instant} {holdId : Uuid}
    {hold : BookingCapacityHold}
    (h : createAt settings dir db request now holdId = .ok (db', hold)) : SameAccounts db db' := by
  rcases Reservations.Accounting.createAt_ok h with rfl | ⟨_, _, _, _, _, rfl⟩
  · exact .refl _
  · exact ⟨rfl, fun _ => rfl⟩

theorem create_accounts {db db' : Db} {owners owners' : Owners} {payload : BookingCreateRequest}
    {idempotencyKey : String} {began now : Instant} {read : Option Uuid} {ids : CreateIds}
    (h : create settings dir db owners payload idempotencyKey began now read ids =
      .ok (db', owners')) : SameAccounts db db' := by
  simp only [create, seq_committed] at h
  obtain ⟨existing | attempt, _, h⟩ := h
  · simp only [return_committed, Prod.mk.injEq] at h
    obtain ⟨rfl, _⟩ := h
    exact .refl _
  · simp only [seq_committed, Prod.exists] at h
    obtain ⟨db1, booking, hfinish, h⟩ := h
    have hdb : db' = db1 := by
      split at h
      · exact (Prod.mk.inj ((return_committed _ _).mp h)).1.symm
      · exact (Prod.mk.inj ((return_committed _ _).mp h)).1.symm
    subst hdb
    simp only [finishCreate, Db.addBooking, seq_committed, require_committed, orRaise_committed,
      return_committed, Prod.exists, Prod.mk.injEq] at hfinish
    obtain ⟨db2, customer, hcustomer, db3, ⟨_, _, _, _, bookings, _, rfl⟩, rfl, rfl⟩ := hfinish
    have hprofiles := customerForEmail_profiles hcustomer
    obtain ⟨customers, rfl⟩ := customerForEmail_ok hcustomer
    exact ⟨rfl, hprofiles⟩

/-- An account must be the caller's, and a new one cannot be added. -/
theorem request_of_guest {db : Db} {owners : Owners} {data : BookingRequestCreate}
    {hold : BookingCapacityHold} {now : Instant} {read : Option Uuid}
    {subject : Except Raised (Option String)} {ids : RequestIds} {result : Db × Owners} :
    request settings dir db owners data hold now read none subject ids ≠ .ok result := by
  intro h
  simp only [request, finishRequest, seq_committed, Prod.exists] at h
  obtain ⟨_, _, ⟨_, _, _, haccount, _⟩, _⟩ := h
  obtain ⟨_, howner, _⟩ := accountFor_ok.mp haccount
  cases howner

theorem commit_accounts {base w : Addresses.World} {r : Except Raised (Db × Owners)}
    (hdb : w.db = base.db) (hclock : w.clock = base.clock)
    (h : ∀ db owners, r = .ok (db, owners) → SameAccounts base.db db) :
    SameAccounts base.db (w.commit r).db ∧ base.clock ≤ (w.commit r).clock := by
  unfold Addresses.World.commit
  split
  · next db owners => exact ⟨h db owners rfl, le_of_eq hclock.symm⟩
  · exact ⟨hdb ▸ .refl _, le_of_eq hclock.symm⟩

/-- What a guest books is no user's, and no guest gets an account. -/
theorem guest_accounts (settings : Settings) (dir : Directory) (base : Addresses.World)
    {op : Addresses.Op} (hguest : OfGuest op) :
    SameAccounts base.db (Addresses.exec settings dir base op).db ∧
      base.clock ≤ (Addresses.exec settings dir base op).clock := by
  have hsame : SameAccounts base.db base.db ∧ base.clock ≤ base.clock := ⟨.refl _, le_refl _⟩
  cases op with
  | tick elapsed =>
    have hlater : base.clock ≤ base.clock + elapsed :=
      Int.le_add_of_nonneg_right (Int.natCast_nonneg elapsed)
    exact ⟨.refl _, hlater⟩
  | createHold request holdId =>
    simp only [Addresses.exec]
    refine ⟨?_, le_refl base.clock⟩
    exact commit_induction (motive := fun db => SameAccounts base.db db) (.refl _)
      fun db hold h => createAt_accounts h
  | create payload idempotencyKey =>
    simp only [Addresses.exec]
    split
    · exact ⟨.refl _, le_refl base.clock⟩
    · exact hsame
  | finishCreate position ids =>
    simp only [Addresses.exec]
    split
    · exact commit_accounts rfl rfl fun db owners h => create_accounts h
    · exact hsame
  | request data =>
    simp only [Addresses.exec]
    split
    · split
      · exact ⟨.refl _, le_refl base.clock⟩
      · exact hsame
    · exact hsame
  | readAddress position =>
    simp only [Addresses.exec]
    split
    · exact ⟨.refl _, le_refl base.clock⟩
    · exact hsame
  | finishRequest position authenticatedUser subject ids =>
    simp only [OfGuest, Option.isNone_iff_eq_none] at hguest
    subst hguest
    simp only [Addresses.exec]
    split
    · split
      · exact commit_accounts rfl rfl fun db owners h => absurd h request_of_guest
      · exact hsame
    · exact hsame
  | register | verify => cases hguest
  | loseCreate | loseRequest => exact ⟨.refl _, le_refl base.clock⟩

end

end Breero.Accounts
