import Breero.Accounts.Effects

/-!
Whether a verification that is begun can be completed.

* `exec_sound` and `unlinked_iff_permits` say what a step keeps of `Sound` and `Unlinked`;
* `verifiable_iff`: in a sound state every open token can be used iff nobody who has one has
  a customer;
* `verifications_complete_iff`: clients are linked in every run, and the open tokens can be
  used in all of its states iff each step `Permits` it.
-/

namespace Breero.Accounts
open KeyedTable Transaction Runs Bookings Addresses

variable {w w' : World}

/-! ## Runs -/

theorem World.commit_induction {motive : World → Prop} {r : Except Raised World} (hw : motive w)
    (hok : ∀ w', r = .ok w' → motive w') : motive (w.commit r) := by
  cases r with
  | error raised => exact hw
  | ok w' => exact hok w' rfl

section
variable {settings : Settings} {dir : Directory} {activeSlugs : List String}

theorem exec_sound (op : Op) (hsound : Sound w) : Sound (exec settings dir activeSlugs w op) := by
  cases op with
  | register data ids =>
    refine World.commit_induction hsound fun w' h => ?_
    obtain ⟨hregistered, hprofile, _⟩ := register_ok h
    exact hregistered.sound hsound hprofile
  | registerProvider data ids =>
    refine World.commit_induction hsound fun w' h => ?_
    obtain ⟨hregistered, hname, _⟩ := registerProvider_ok h
    exact hregistered.sound hsound hname
  | resendVerification userId tokenHash =>
    refine World.commit_induction hsound fun w' h => ?_
    obtain ⟨account, haccount, ⟨_, rfl⟩ | ⟨_, tokens, rfl, hinsert⟩⟩ := resendVerification_ok h
    · exact hsound
    · refine ⟨hsound.accountUser, hsound.profileUser, fun issued hmem => ?_, hsound.linked⟩
      rcases (Table.mem_insert hinsert).mp hmem with hmem | rfl
      · exact hsound.tokenAccount issued hmem
      · exact ⟨account, Table.mem_of_get? haccount, Table.key_of_get? haccount⟩
  | verifyEmail tokenHash customerId =>
    refine World.commit_induction hsound fun w' h => ?_
    obtain ⟨issued, user, _, hverified, _⟩ := verifyEmail_ok h
    exact hverified.sound hsound
  | booking op =>
    obtain ⟨⟨husers, hprofiles⟩, _⟩ := guest_accounts settings dir w.base op.property
    refine ⟨fun account hmem => ?_, fun id hprofile => ?_, hsound.tokenAccount,
      fun account hmem hcustomer => ?_⟩
    · simp only [exec]
      rw [husers]
      exact hsound.accountUser account hmem
    · simp only [exec] at hprofile ⊢
      rw [hprofiles id] at hprofile
      rw [husers]
      exact hsound.profileUser id hprofile
    · simp only [exec]
      rw [hprofiles]
      exact hsound.linked account hmem hcustomer

/-- Whoever has a customer does not get a token, and whoever has a token that is open does
not get a customer. -/
def Permits (w : World) : Op → Prop
  | .register data ids => ¬ Registers w data ids
  | .registerProvider .. => True
  | .resendVerification userId tokenHash =>
    ∀ account ∈ w.accounts.get? userId, account.emailVerified = false →
      w.tokens.get? tokenHash = none → profiles w.base.db userId = 0
  | .verifyEmail tokenHash customerId =>
    ∀ issued ∈ w.tokens.get? tokenHash, issued.Open w.base.clock →
      ∀ user ∈ w.base.db.users.get? issued.token.userId, Linkable w.base.db user customerId →
        ∀ other ∈ w.tokens.rows, other.token.userId = issued.token.userId →
          other.Open w.base.clock → other.tokenHash = tokenHash
  | .booking _ => True

instance (w : World) : DecidablePred (Permits w)
  | .register .. => inferInstanceAs (Decidable (¬ _))
  | .registerProvider .. => inferInstanceAs (Decidable True)
  | .resendVerification .. => inferInstanceAs (Decidable (∀ account ∈ _, _ → _ → _))
  | .verifyEmail .. =>
    inferInstanceAs (Decidable (∀ issued ∈ _, _ → ∀ user ∈ _, _ → ∀ other ∈ _, _ → _ → _))
  | .booking _ => inferInstanceAs (Decidable True)

/-- A client who is registered has a token and a customer. -/
theorem register_unlinked_iff {data : RegisterRequest} {ids : ClientIds} (hsound : Sound w)
    (hunlinked : Unlinked w) :
    Unlinked (w.commit (register w data ids)) ↔ ¬ Registers w data ids := by
  cases h : register w data ids with
  | ok w' =>
    obtain ⟨hregistered, hprofile, hregisters⟩ := register_ok h
    refine iff_of_false (fun hafter => ?_) (not_not.mpr hregisters)
    have hnone := (hregistered.unlinked_iff hunlinked).mp hafter
    rw [show (clientUser data ids.userId).id = ids.userId from rfl, hprofile] at hnone
    cases hnone
  | error raised =>
    refine iff_of_true hunlinked fun hregisters => ?_
    have hok := register_isOk hsound hregisters
    rw [h] at hok
    cases hok

/-- A provider has no customer when they are registered. -/
theorem registerProvider_unlinked {data : ProviderRegisterRequest} {ids : ProviderIds}
    (hsound : Sound w) (hunlinked : Unlinked w)
    (h : registerProvider dir.zones activeSlugs w data ids = .ok w') : Unlinked w' := by
  obtain ⟨hregistered, _, hcustomers⟩ := registerProvider_ok h
  apply (hregistered.unlinked_iff hunlinked).mpr
  rw [profiles, hcustomers]
  exact hsound.profiles_fresh
    (Table.insert?_isSome.mp (Option.isSome_iff_exists.mpr ⟨_, hregistered.users⟩))

theorem resend_unlinked_iff {userId : Uuid} {tokenHash : String} (hunlinked : Unlinked w) :
    Unlinked (w.commit (resendVerification w userId tokenHash)) ↔
      ∀ account ∈ w.accounts.get? userId, account.emailVerified = false →
        w.tokens.get? tokenHash = none → profiles w.base.db userId = 0 := by
  cases h : resendVerification w userId tokenHash with
  | ok w' =>
    obtain ⟨account, haccount, ⟨hverified, rfl⟩ | ⟨hverified, tokens, rfl, hinsert⟩⟩ :=
      resendVerification_ok h
    · refine iff_of_true hunlinked ?_
      intro found hfound hunverified
      rw [Option.mem_def, haccount, Option.some.injEq] at hfound
      subst hfound
      rw [hverified] at hunverified
      cases hunverified
    · constructor
      · intro hafter _ _ _ _
        exact hafter _ ((Table.mem_insert hinsert).mpr (.inr rfl)) open_issued
      · intro hpermits issued hmem hopen
        rcases (Table.mem_insert hinsert).mp hmem with hmem | rfl
        · exact hunlinked issued hmem hopen
        · exact hpermits account haccount hverified
            (Table.insert?_isSome.mp (Option.isSome_iff_exists.mpr ⟨_, hinsert⟩))
  | error raised =>
    refine iff_of_true hunlinked ?_
    intro account haccount _ hhash
    have hok := resendVerification_isOk haccount hhash
    rw [h] at hok
    cases hok

/-- Whoever verifies their email has a customer, and should have no other open token. -/
theorem verify_unlinked_iff {tokenHash : String} {customerId : Uuid} (hunlinked : Unlinked w) :
    Unlinked (w.commit (verifyEmail w tokenHash customerId)) ↔
      ∀ issued ∈ w.tokens.get? tokenHash, issued.Open w.base.clock →
        ∀ user ∈ w.base.db.users.get? issued.token.userId, Linkable w.base.db user customerId →
          ∀ other ∈ w.tokens.rows, other.token.userId = issued.token.userId →
            other.Open w.base.clock → other.tokenHash = tokenHash := by
  cases h : verifyEmail w tokenHash customerId with
  | ok w' =>
    obtain ⟨issued, user, rfl, hverified, hlinkable⟩ := verifyEmail_ok h
    refine (hverified.unlinked_iff hunlinked).trans ⟨fun honly found hfound => ?_, fun hpermits =>
      hpermits issued hverified.token hverified.isOpen user hverified.found hlinkable⟩
    rw [Option.mem_def, hverified.token, Option.some.injEq] at hfound
    subst hfound
    exact fun _ _ _ _ => honly
  | error raised =>
    refine iff_of_true hunlinked ?_
    intro issued hissued hopen user huser hlinkable
    have hid : user.id = issued.token.userId := Table.key_of_get? huser
    have hfree : profiles w.base.db user.id = 0 :=
      hid ▸ hunlinked issued (Table.mem_of_get? hissued) hopen
    have hok := (verifyEmail_isOk hissued).mpr ⟨hopen, user, huser, hfree, hlinkable⟩
    rw [h] at hok
    cases hok

theorem unlinked_iff_permits (op : Op) (hsound : Sound w) (hunlinked : Unlinked w) :
    Unlinked (exec settings dir activeSlugs w op) ↔ Permits w op := by
  cases op with
  | register data ids => exact register_unlinked_iff hsound hunlinked
  | registerProvider data ids =>
    refine iff_of_true (World.commit_induction hunlinked fun w' h => ?_) trivial
    exact registerProvider_unlinked hsound hunlinked h
  | resendVerification userId tokenHash => exact resend_unlinked_iff hunlinked
  | verifyEmail tokenHash customerId => exact verify_unlinked_iff hunlinked
  | booking op =>
    obtain ⟨⟨_, hprofiles⟩, hlater⟩ := guest_accounts settings dir w.base op.property
    refine iff_of_true (fun issued hmem hopen => ?_) trivial
    simp only [exec] at hmem hopen ⊢
    rw [hprofiles]
    exact hunlinked issued hmem ⟨hopen.1, lt_of_le_of_lt hlater hopen.2⟩

/-- Every token that is neither used nor expired verifies the email of its user. -/
def Verifiable (w : World) : Prop :=
  ∀ issued ∈ w.tokens.rows, issued.Open w.base.clock →
    ∀ customerId, w.base.db.customers.get? customerId = none →
      ∃ w', verifyEmail w issued.tokenHash customerId = .ok w' ∧
        ∃ account, w'.accounts.get? issued.token.userId = some account ∧
          account.emailVerified = true

theorem Verified.verified {issued : IssuedToken} {user : User} (h : Verified w w' issued user)
    (hsound : Sound w) :
    ∃ account, w'.accounts.get? issued.token.userId = some account ∧
      account.emailVerified = true := by
  obtain ⟨account, hmem, hid⟩ := hsound.tokenAccount issued (Table.mem_of_get? h.token)
  have hget : w.accounts.get? issued.token.userId = some account := hid ▸ Table.get?_key hmem
  refine ⟨account.verifiedAt issued.token.userId w.base.clock, ?_, ?_⟩
  · rw [h.accounts, Table.get?_update, hget]
    rfl
  · rw [Account.verifiedAt, if_pos hid]

/-- A token of a user who has a customer can never be used. -/
theorem verifiable_iff (hsound : Sound w) : Verifiable w ↔ Unlinked w := by
  constructor
  · intro h issued hmem hopen
    obtain ⟨customerId, hfresh⟩ := Table.exists_fresh w.base.db.customers
    obtain ⟨w', hok, _⟩ := h issued hmem hopen customerId hfresh
    obtain ⟨_, user, huser, hfree, _⟩ :=
      (verifyEmail_isOk (Table.get?_key hmem)).mp (isOk_of_eq hok)
    rw [← show user.id = issued.token.userId from Table.key_of_get? huser]
    exact hfree
  · intro h issued hmem hopen customerId hfresh
    obtain ⟨account, haccount, hid⟩ := hsound.tokenAccount issued hmem
    obtain ⟨user, huser, hname⟩ := hsound.accountUser account haccount
    have hfree : profiles w.base.db issued.token.userId = 0 := h issued hmem hopen
    have hadmin : account.role = .vendorAdmin := by
      -- a client has a customer
      cases hrole : account.role with
      | vendorAdmin => rfl
      | customer =>
        have hone := hsound.linked account haccount hrole
        rw [hid, hfree] at hone
        cases hone
    rw [hid] at huser
    have huserId : user.id = issued.token.userId := Table.key_of_get? huser
    obtain ⟨w', hok⟩ := isOk_iff.mp ((verifyEmail_isOk (Table.get?_key hmem)).mpr
      ⟨hopen, user, huser, huserId ▸ hfree, .inr ⟨hname hadmin, hfresh⟩⟩)
    refine ⟨w', hok, ?_⟩
    obtain ⟨found, _, hhash, hverified, _⟩ := verifyEmail_ok hok
    have hsame : found = issued :=
      Table.eq_of_key (Table.mem_of_get? hverified.token) hmem hhash
    exact hsame ▸ hverified.verified hsound

/-- Nobody has an account yet. -/
structure NoAccounts (w : World) : Prop where
  users : w.base.db.users.rows = []
  guests : ∀ customer ∈ w.base.db.customers.rows, customer.userId = none
  accounts : w.accounts.rows = []
  tokens : w.tokens.rows = []

theorem NoAccounts.sound (h : NoAccounts w) : Sound w := by
  have hnone : ∀ id, profiles w.base.db id = 0 := by
    intro id
    apply profiles_eq_zero.mpr
    intro customer hmem
    rw [h.guests customer hmem]
    exact nofun
  refine ⟨fun account hmem => ?_, fun id hprofile => absurd (hnone id) hprofile,
    fun issued hmem => ?_, fun account hmem => ?_⟩
  · rw [h.accounts] at hmem
    cases hmem
  · rw [h.tokens] at hmem
    cases hmem
  · rw [h.accounts] at hmem
    cases hmem

theorem NoAccounts.unlinked (h : NoAccounts w) : Unlinked w := by
  intro issued hmem
  rw [h.tokens] at hmem
  cases hmem

/-- **Clients are linked** in every state, and **every open token can be used** in every
state iff no step gives a token to somebody who has a customer, or a customer to somebody
who has a token. -/
theorem verifications_complete_iff {start : World} (hstart : NoAccounts start) (ops : List Op) :
    Always (exec settings dir activeSlugs) ClientsLinked start ops ∧
      (Always (exec settings dir activeSlugs) Verifiable start ops ↔
        Along (exec settings dir activeSlugs) Permits start ops) := by
  have hsound : Always (exec settings dir activeSlugs) Sound start ops :=
    always_of_inv (P := fun _ _ => True) (fun _ op h _ => exec_sound op h) hstart.sound
      (along_of_forall fun _ _ => trivial)
  have hinv : ∀ w op, Sound w ∧ Unlinked w → Permits w op →
      Sound (exec settings dir activeSlugs w op) ∧
        Unlinked (exec settings dir activeSlugs w op) :=
    fun w op h hpermits => ⟨exec_sound op h.1, (unlinked_iff_permits op h.1 h.2).mpr hpermits⟩
  refine ⟨hsound.imp fun _ h => h.linked, ?_⟩
  constructor
  · intro h
    refine along_of_always_inv (Q := fun w => Verifiable w) hinv (fun w op hw hafter => ?_)
      ⟨hstart.sound, hstart.unlinked⟩ h
    exact (unlinked_iff_permits op hw.1 hw.2).mp
      ((verifiable_iff (exec_sound op hw.1)).mp hafter)
  · intro h
    exact (always_of_inv hinv ⟨hstart.sound, hstart.unlinked⟩ h).imp fun _ hw =>
      (verifiable_iff hw.1).mpr hw.2

end

/-! ## A provider and a client -/

def emptyWorld : World where
  base := { db := {}, clock := 0 }

def provider : ProviderRegisterRequest where
  email := "P@Q.test"
  contactName := "P Q"
  phone := "12345"
  state := "tx"
  timezoneId := "UTC"
  serviceSlugs := ["plumbing"]
  servicePostalCodes := ["77001-0001"]

/-- A provider asks for a second token when the first one is no longer valid. -/
def providerVerified : List Op :=
  [.registerProvider provider { userId := 1, vendorId := 2, workerId := 3, tokenHash := "first" },
   .booking ⟨.tick 86400000000, rfl⟩,
   .resendVerification 1 "second",
   .verifyEmail "second" 4]

theorem providerVerified_completes :
    Always (exec Dispatch.visitSettings Dispatch.visitDirectory ["plumbing"]) Verifiable
      emptyWorld providerVerified :=
  (verifications_complete_iff ⟨rfl, by decide, rfl, rfl⟩ providerVerified).2.mpr (by decide)

/-- A client is linked to a customer with the registration already. -/
def clientRegistered : List Op :=
  [.register { email := "a@b.test", fullName := "A B", phone := none }
    { userId := 1, customerId := 2, tokenHash := "first" }]

theorem client_not_verifiable :
    verifyEmail (run (exec Dispatch.visitSettings Dispatch.visitDirectory []) emptyWorld
        clientRegistered) "first" 3 = .error (.integrityError "customers_user_id_key") ∧
      ¬ Always (exec Dispatch.visitSettings Dispatch.visitDirectory []) Verifiable emptyWorld
        clientRegistered := by
  refine ⟨rfl, fun h => ?_⟩
  obtain ⟨w', hok, _⟩ := h _ (run_mem_states _ _)
    { tokenHash := "first", token := { userId := 1, expiresAt := verificationLifetime } }
    (by decide) (by decide) 3 (by decide)
  exact absurd (isOk_of_eq hok) (by decide)

end Breero.Accounts
