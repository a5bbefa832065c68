import Breero.Common.Numbers
import Breero.Lib.JsonText

/-!
Access tokens that the server signs itself: `_decode_local_access_token` and its fallback.

* a token is its claims; the signature of each is valid;
* `ChecksRequested` is what PyJWT promises of `jwt.decode`: it checks the claims that the options
  ask for, and names the first one that is missing;
* `StrictToken` and `LegacyToken` are the two shapes, in terms of the claims alone;
* `decodeLegacyLocalToken_ok` and `decode_strict_ok` read off each decoder what it lets through;
* `local_token_accepted_iff`: the two decoders together let through exactly the two shapes, and
  the legacy one dies out.
-/

namespace Breero.Auth.AccessTokens
open JsonText

/-! ## Claims -/

/-- The payload of a token, as a dict. -/
abbrev Claims := List (Text × JsonText.Value)

/-- What decoding a token can raise. -/
inductive TokenRaised
  | missingRequiredClaim (claim : String)
  | invalidToken (message : String)
  | keyError (claim : String)
  | typeError
  | valueError
  | overflowError
  deriving DecidableEq, Repr

/-- The claim of this name; of two members with one key, the last one counts. -/
def claim? (claims : Claims) (name : String) : Option JsonText.Value :=
  (claims.reverse.find? fun member => member.1 = ofString name).map (·.2)

/-- `name in claims` -/
def hasClaim (claims : Claims) (name : String) : Bool := (claim? claims name).isSome

/-- `claims.get(name) is not None` -/
def present (claims : Claims) (name : String) : Bool :=
  match claim? claims name with
  | none | some .null => false
  | some _ => true

/-- `claims[name]` -/
def item (claims : Claims) (name : String) : Except TokenRaised JsonText.Value :=
  match claim? claims name with
  | some value => .ok value
  | none => .error (.keyError name)

/-- `int(value)` -/
def int : JsonText.Value → Except TokenRaised Int
  | .null => .error .typeError
  | .bool b => .ok (if b then 1 else 0)
  | .int n => .ok n
  | .float (.finite q) => .ok (if 0 ≤ q then q.floor else q.ceil)
  | .float (.infinite _) => .error .overflowError
  | .float .nan => .error .valueError
  | .str s =>
    match intOfChars (s.map Char.ofNat) with
    | some n => .ok n
    | none => .error .valueError
  | .arr _ => .error .typeError
  | .obj _ => .error .typeError

/-- `s.strip()` -/
def stripText (s : Text) : Text :=
  let space (n : Nat) : Bool := isSpace (Char.ofNat n)
  ((s.dropWhile space).reverse.dropWhile space).reverse

theorem item_ok {claims : Claims} {name : String} {value : JsonText.Value} :
    item claims name = .ok value ↔ claim? claims name = some value := by
  unfold item
  split <;> simp_all

/-! ## PyJWT -/

/-- What a caller of `jwt.decode` asks it to check. -/
structure DecodeOptions where
  require : List String
  verifyAud : Bool := true
  verifyIss : Bool := true
  issuer : Option String := none
  audience : Option String := none
  deriving DecidableEq, Repr

/-- A date, if there is one, is a number that the check holds of. -/
def dated (claims : Claims) (name : String) (holds : Int → Bool) : Bool :=
  match claim? claims name with
  | none => true
  | some value =>
    match int value with
    | .ok n => holds n
    | .error _ => false

/-- A name, if there is one, is a text. -/
def named (claims : Claims) (name : String) : Bool :=
  match claim? claims name with
  | none | some (.str _) => true
  | some _ => false

def issuedBy (claims : Claims) : Option String → Bool
  | none => true
  | some issuer =>
    match claim? claims "iss" with
    | some (.str s) => s = ofString issuer
    | _ => false

def isText : JsonText.Value → Bool
  | .str _ => true
  | _ => false

def isTheText (s : String) : JsonText.Value → Bool
  | .str t => t = ofString s
  | _ => false

/-- One audience or a list of them. -/
def names (audience : String) : JsonText.Value → Bool
  | .str s => s = ofString audience
  | .arr items => items.all isText && items.any (isTheText audience)
  | _ => false

def meantFor (claims : Claims) : Option String → Bool
  | none => (claim? claims "aud").all fun value => !value.truthy
  | some audience => (claim? claims "aud").any (names audience)

/-- The checks of the claims that are there. -/
def verified (options : DecodeOptions) (now : Rat) (claims : Claims) : Bool :=
  dated claims "iat" (fun n => (n : Rat) ≤ now) &&
  dated claims "nbf" (fun n => (n : Rat) ≤ now) &&
  dated claims "exp" (fun n => now < (n : Rat)) &&
  (!options.verifyIss || issuedBy claims options.issuer) &&
  (!options.verifyAud || meantFor claims options.audience) &&
  named claims "sub" && named claims "jti"

/-- `jwt.decode` of a token with a valid signature, at a time. -/
abbrev Decode := DecodeOptions → Rat → Claims → Except TokenRaised Claims

/-- PyJWT checks exactly what the options ask for, and first that no claim is missing. -/
structure ChecksRequested (decode : Decode) : Prop where
  missing : ∀ options now claims, ∀ name ∈ options.require, present claims name = false →
    ∃ claim, decode options now claims = .error (.missingRequiredClaim claim)
  accepts : ∀ options now claims claims', decode options now claims = .ok claims' ↔
    claims' = claims ∧ (∀ name ∈ options.require, present claims name = true) ∧
      verified options now claims = true

/-! ## The two decoders -/

def TOKEN_TTL_SECONDS : Int := 3600
def LOCAL_JWT_ISSUER : String := "breero-api"
def LOCAL_JWT_AUDIENCE : String := "breero-api"

/-- `_STRICT_LOCAL_CLAIMS` -/
def strictLocalClaims : List String := ["iss", "aud", "nbf", "jti"]

/-- `_LOCAL_TOKEN_COMPATIBILITY_DEADLINE` of a worker that started at this second -/
def localTokenCompatibilityDeadline (started : Int) : Int := started + TOKEN_TTL_SECONDS

def legacyOptions : DecodeOptions where
  require := ["exp", "iat", "sub"]
  verifyAud := false
  verifyIss := false

def strictOptions : DecodeOptions where
  require := ["exp", "iat", "sub", "iss", "aud", "nbf", "jti"]
  issuer := some LOCAL_JWT_ISSUER
  audience := some LOCAL_JWT_AUDIENCE

/-- The lifetime of a legacy token is that of a token which a worker of the old release could
still have minted. -/
def outsideWindow (started issuedAt expiresAt : Int) : Bool :=
  localTokenCompatibilityDeadline started < issuedAt ||
  expiresAt ≤ issuedAt ||
  TOKEN_TTL_SECONDS < expiresAt - issuedAt ||
  localTokenCompatibilityDeadline started + TOKEN_TTL_SECONDS < expiresAt

/-- `_decode_legacy_local_token` -/
def decodeLegacyLocalToken (decode : Decode) (started : Int) (now : Rat) (token : Claims) :
    Except TokenRaised Claims := do
  let claims ← decode legacyOptions now token
  if strictLocalClaims.any (hasClaim claims) then
    throw (.invalidToken "partially migrated local token")
  let issuedAt ← int (← item claims "iat")
  let expiresAt ← int (← item claims "exp")
  if outsideWindow started issuedAt expiresAt then
    throw (.invalidToken "legacy local token outside compatibility window")
  return claims

/-- `jti is not None and (not isinstance(jti, str) or not jti.strip())` -/
def invalidJti (claims : Claims) : Bool :=
  match claim? claims "jti" with
  | none | some .null => false
  | some (.str s) => (stripText s).isEmpty
  | some _ => true

/-- `_decode_local_access_token` -/
def decodeLocalAccessToken (decode : Decode) (started : Int) (now : Rat) (token : Claims) :
    Except TokenRaised Claims := do
  let claims ← match decode strictOptions now token with
    | .error (.missingRequiredClaim _) => decodeLegacyLocalToken decode started now token
    | result => result
  if invalidJti claims then
    throw (.invalidToken "invalid jti")
  return claims

/-! ## The two shapes -/

/-- The claim is there and reads as this number. -/
def Dates (claims : Claims) (name : String) (n : Int) : Prop :=
  ∃ value, claim? claims name = some value ∧ int value = .ok n

/-- All claims are there and valid at this time. -/
structure StrictToken (now : Rat) (claims : Claims) : Prop where
  exp : ∃ n, Dates claims "exp" n ∧ now < n
  iat : ∃ n, Dates claims "iat" n ∧ n ≤ now
  nbf : ∃ n, Dates claims "nbf" n ∧ n ≤ now
  sub : ∃ s, claim? claims "sub" = some (.str s)
  iss : claim? claims "iss" = some (.str (ofString LOCAL_JWT_ISSUER))
  aud : ∃ value, claim? claims "aud" = some value ∧ names LOCAL_JWT_AUDIENCE value = true
  jti : ∃ s, claim? claims "jti" = some (.str s) ∧ stripText s ≠ []

/-- No strict claim is there, not even as `null`; the others are there and valid at this time, and
the token is one of the compatibility window. -/
structure LegacyToken (started : Int) (now : Rat) (claims : Claims) : Prop where
  absent : ∀ name ∈ strictLocalClaims, claim? claims name = none
  sub : ∃ s, claim? claims "sub" = some (.str s)
  lifetime : ∃ iat exp, Dates claims "iat" iat ∧ Dates claims "exp" exp ∧ iat ≤ now ∧ now < exp ∧
    0 < exp - iat ∧ exp - iat ≤ TOKEN_TTL_SECONDS ∧ iat ≤ localTokenCompatibilityDeadline started

/-! ## Reading the checks -/

theorem int_null {n : Int} : int .null ≠ .ok n := by
  simp [int]

theorem Dates.present {claims : Claims} {name : String} {n : Int} (h : Dates claims name n) :
    present claims name = true := by
  obtain ⟨value, hvalue, hn⟩ := h
  unfold AccessTokens.present
  rw [hvalue]
  cases value with
  | null => exact absurd hn int_null
  | bool | int | float | str | arr | obj => rfl

theorem present_of_text {claims : Claims} {name : String} {s : Text}
    (h : claim? claims name = some (.str s)) : present claims name = true := by
  simp [present, h]

/-- A date that is required and checked. -/
theorem dated_iff {claims : Claims} {name : String} {holds : Int → Bool}
    (hpresent : present claims name = true) :
    dated claims name holds = true ↔ ∃ n, Dates claims name n ∧ holds n = true := by
  unfold dated Dates
  cases hc : claim? claims name with
  | none => simp [present, hc] at hpresent
  | some value =>
    cases hn : int value with
    | error e => simp [hn]
    | ok n => simp [hn]

/-- A text that is required and checked. -/
theorem named_iff {claims : Claims} {name : String} (hpresent : present claims name = true) :
    named claims name = true ↔ ∃ s, claim? claims name = some (.str s) := by
  unfold named
  cases hc : claim? claims name with
  | none => simp [present, hc] at hpresent
  | some value => cases value <;> simp

theorem named_of_absent {claims : Claims} {name : String} (h : claim? claims name = none) :
    named claims name = true := by
  simp [named, h]

theorem dated_of_absent {claims : Claims} {name : String} {holds : Int → Bool}
    (h : claim? claims name = none) : dated claims name holds = true := by
  simp [dated, h]

theorem issuedBy_iff {claims : Claims} {issuer : String} :
    issuedBy claims (some issuer) = true ↔ claim? claims "iss" = some (.str (ofString issuer)) := by
  cases hc : claim? claims "iss" with
  | none => simp [issuedBy, hc]
  | some value => cases value <;> simp [issuedBy, hc]

theorem meantFor_iff {claims : Claims} {audience : String} :
    meantFor claims (some audience) = true ↔
      ∃ value, claim? claims "aud" = some value ∧ names audience value = true := by
  simp [meantFor, Option.any_eq_true]

theorem names_present {claims : Claims} {audience : String} {value : JsonText.Value}
    (hvalue : claim? claims "aud" = some value) (h : names audience value = true) :
    present claims "aud" = true := by
  unfold present
  rw [hvalue]
  cases value with
  | null => simp [names] at h
  | bool | int | float | str | arr | obj => rfl

theorem invalidJti_of_text {claims : Claims} {s : Text}
    (h : claim? claims "jti" = some (.str s)) : invalidJti claims = false ↔ stripText s ≠ [] := by
  simp [invalidJti, h]

theorem invalidJti_of_absent {claims : Claims} (h : claim? claims "jti" = none) :
    invalidJti claims = false := by
  simp [invalidJti, h]

theorem outsideWindow_iff {started issuedAt expiresAt : Int} :
    outsideWindow started issuedAt expiresAt = false ↔
      0 < expiresAt - issuedAt ∧ expiresAt - issuedAt ≤ TOKEN_TTL_SECONDS ∧
        issuedAt ≤ localTokenCompatibilityDeadline started := by
  simp only [outsideWindow, Bool.or_eq_false_iff, decide_eq_false_iff_not]
  omega

/-! ## What each decoder lets through -/

section
variable {decode : Decode} {started : Int} {now : Rat} {token claims : Claims}

theorem any_hasClaim : strictLocalClaims.any (hasClaim claims) = false ↔
    ∀ name ∈ strictLocalClaims, claim? claims name = none := by
  simp [List.any_eq_false, hasClaim]

theorem strict_verified (hexp : present claims "exp" = true) (hiat : present claims "iat" = true)
    (hnbf : present claims "nbf" = true) (hsub : present claims "sub" = true)
    (hjti : present claims "jti" = true) :
    verified strictOptions now claims = true ∧ invalidJti claims = false ↔
      StrictToken now claims := by
  have hissuer : issuedBy claims strictOptions.issuer = true ↔
      claim? claims "iss" = some (.str (ofString LOCAL_JWT_ISSUER)) := issuedBy_iff
  have haudience : meantFor claims strictOptions.audience = true ↔
      ∃ value, claim? claims "aud" = some value ∧ names LOCAL_JWT_AUDIENCE value = true :=
    meantFor_iff
  constructor
  · rintro ⟨hchecks, hinvalid⟩
    simp only [verified, Bool.and_eq_true] at hchecks
    obtain ⟨⟨⟨⟨⟨⟨hi, hn⟩, he⟩, his⟩, hau⟩, hs⟩, hj⟩ := hchecks
    obtain ⟨s, hs'⟩ := (named_iff hjti).mp hj
    exact {
      exp := by simpa using (dated_iff hexp).mp he
      iat := by simpa using (dated_iff hiat).mp hi
      nbf := by simpa using (dated_iff hnbf).mp hn
      sub := (named_iff hsub).mp hs
      iss := hissuer.mp (by simpa [strictOptions] using his)
      aud := haudience.mp (by simpa [strictOptions] using hau)
      jti := ⟨s, hs', (invalidJti_of_text hs').mp hinvalid⟩ }
  · intro h
    obtain ⟨s, hjs, hblank⟩ := h.jti
    refine ⟨?_, (invalidJti_of_text hjs).mpr hblank⟩
    simp only [verified, Bool.and_eq_true]
    refine ⟨⟨⟨⟨⟨⟨?_, ?_⟩, ?_⟩, ?_⟩, ?_⟩, (named_iff hsub).mpr h.sub⟩,
      (named_iff hjti).mpr ⟨s, hjs⟩⟩
    · exact (dated_iff hiat).mpr (by simpa using h.iat)
    · exact (dated_iff hnbf).mpr (by simpa using h.nbf)
    · exact (dated_iff hexp).mpr (by simpa using h.exp)
    · simpa [strictOptions] using hissuer.mpr h.iss
    · simpa [strictOptions] using haudience.mpr h.aud

theorem StrictToken.present (h : StrictToken now claims) :
    ∀ name ∈ strictOptions.require, present claims name = true := by
  obtain ⟨_, hexp, -⟩ := h.exp
  obtain ⟨_, hiat, -⟩ := h.iat
  obtain ⟨_, hnbf, -⟩ := h.nbf
  obtain ⟨_, hsub⟩ := h.sub
  obtain ⟨_, haud, hnames⟩ := h.aud
  obtain ⟨_, hjti, -⟩ := h.jti
  simp only [strictOptions, List.forall_mem_cons, List.not_mem_nil, false_implies, implies_true,
    and_true]
  exact ⟨hexp.present, hiat.present, present_of_text hsub, present_of_text h.iss,
    names_present haud hnames, hnbf.present, present_of_text hjti⟩

/-- The strict decoder, and the check of the `jti` after it. -/
theorem decode_strict_ok (hdecode : ChecksRequested decode) :
    decode strictOptions now token = .ok claims ∧ invalidJti claims = false ↔
      claims = token ∧ StrictToken now token := by
  rw [hdecode.accepts]
  constructor
  · rintro ⟨⟨rfl, hpresent, hchecks⟩, hinvalid⟩
    have hp (name : String) (hname : name ∈ strictOptions.require) := hpresent name hname
    exact ⟨rfl, (strict_verified (hp "exp" (by decide)) (hp "iat" (by decide))
      (hp "nbf" (by decide)) (hp "sub" (by decide)) (hp "jti" (by decide))).mp
      ⟨hchecks, hinvalid⟩⟩
  · rintro ⟨rfl, h⟩
    have hp (name : String) (hname : name ∈ strictOptions.require) := h.present name hname
    obtain ⟨hchecks, hinvalid⟩ := (strict_verified (hp "exp" (by decide)) (hp "iat" (by decide))
      (hp "nbf" (by decide)) (hp "sub" (by decide)) (hp "jti" (by decide))).mpr h
    exact ⟨⟨rfl, h.present, hchecks⟩, hinvalid⟩

/-- The checks that are asked for a legacy token. -/
theorem legacy_verified (habsent : ∀ name ∈ strictLocalClaims, claim? claims name = none)
    (hexp : present claims "exp" = true) (hiat : present claims "iat" = true)
    (hsub : present claims "sub" = true) :
    verified legacyOptions now claims = true ↔
      (∃ n, Dates claims "iat" n ∧ n ≤ now) ∧ (∃ n, Dates claims "exp" n ∧ now < n) ∧
        ∃ s, claim? claims "sub" = some (.str s) := by
  have hnbf : dated claims "nbf" (fun n => (n : Rat) ≤ now) = true :=
    dated_of_absent (habsent "nbf" (by decide))
  have hjti := named_of_absent (habsent "jti" (by decide))
  simp only [verified, hnbf, hjti, legacyOptions, dated_iff hiat, dated_iff hexp, named_iff hsub,
    Bool.and_eq_true, Bool.not_false, Bool.true_or, and_true, decide_eq_true_eq, and_assoc]

/-- The legacy decoder, up to the reading of the dates. -/
theorem decodeLegacyLocalToken_eq (hdecode : decode legacyOptions now token = .ok token)
    (habsent : ∀ name ∈ strictLocalClaims, claim? token name = none) {iat exp : Int}
    (hiat : Dates token "iat" iat) (hexp : Dates token "exp" exp) :
    decodeLegacyLocalToken decode started now token =
      if outsideWindow started iat exp then
        .error (.invalidToken "legacy local token outside compatibility window")
      else .ok token := by
  obtain ⟨vi, hvi, hni⟩ := hiat
  obtain ⟨ve, hve, hne⟩ := hexp
  simp only [decodeLegacyLocalToken, hdecode, bind, Except.bind, any_hasClaim.mpr habsent,
    item_ok.mpr hvi, item_ok.mpr hve, hni, hne]
  rfl

/-- Nothing is let through that has a strict claim. -/
theorem decodeLegacyLocalToken_inv
    (h : decodeLegacyLocalToken decode started now token = .ok claims) :
    ∃ payload, decode legacyOptions now token = .ok payload ∧
      strictLocalClaims.any (hasClaim payload) = false := by
  unfold decodeLegacyLocalToken at h
  cases hc : decode legacyOptions now token with
  | error e => simp [hc, bind, Except.bind] at h
  | ok payload =>
    refine ⟨payload, rfl, ?_⟩
    by_contra hany
    rw [Bool.not_eq_false] at hany
    simp [hc, hany, bind, Except.bind, throw, throwThe, MonadExceptOf.throw] at h

theorem LegacyToken.accepted (hdecode : ChecksRequested decode)
    (h : LegacyToken started now token) :
    decode legacyOptions now token = .ok token := by
  obtain ⟨iat, exp, hiat, hexp, hissued, hnow, -⟩ := h.lifetime
  obtain ⟨s, hsub⟩ := h.sub
  refine (hdecode.accepts _ _ _ _).mpr ⟨rfl, ?_, ?_⟩
  · simp only [legacyOptions, List.forall_mem_cons, List.not_mem_nil, false_implies, implies_true,
      and_true]
    exact ⟨hexp.present, hiat.present, present_of_text hsub⟩
  · exact (legacy_verified h.absent hexp.present hiat.present (present_of_text hsub)).mpr
      ⟨⟨iat, hiat, hissued⟩, ⟨exp, hexp, hnow⟩, h.sub⟩

theorem decodeLegacyLocalToken_ok (hdecode : ChecksRequested decode) :
    decodeLegacyLocalToken decode started now token = .ok claims ↔
      claims = token ∧ LegacyToken started now token := by
  constructor
  · intro h
    obtain ⟨payload, hpayload, hany⟩ := decodeLegacyLocalToken_inv h
    obtain ⟨rfl, hpresent, hchecks⟩ := (hdecode.accepts _ _ _ _).mp hpayload
    have habsent := any_hasClaim.mp hany
    obtain ⟨⟨iat, hiat, hissued⟩, ⟨exp, hexp, hnow⟩, hsub⟩ :=
      (legacy_verified habsent (hpresent "exp" (by decide)) (hpresent "iat" (by decide))
        (hpresent "sub" (by decide))).mp hchecks
    rw [decodeLegacyLocalToken_eq hpayload habsent hiat hexp] at h
    cases hw : outsideWindow started iat exp with
    | true => simp [hw] at h
    | false =>
      simp only [hw, Bool.false_eq_true, if_false, Except.ok.injEq] at h
      exact ⟨h.symm, habsent, hsub, iat, exp, hiat, hexp, hissued, hnow, outsideWindow_iff.mp hw⟩
  · rintro ⟨rfl, h⟩
    obtain ⟨iat, exp, hiat, hexp, -, -, hwindow⟩ := h.lifetime
    rw [decodeLegacyLocalToken_eq (h.accepted hdecode) h.absent hiat hexp,
      outsideWindow_iff.mpr hwindow]
    rfl

/-- A legacy token has nothing that the strict decoder could look at. -/
theorem LegacyToken.missing (hdecode : ChecksRequested decode) (h : LegacyToken started now token) :
    ∃ claim, decode strictOptions now token = .error (.missingRequiredClaim claim) := by
  have habsent : present token "jti" = false := by
    simp [present, h.absent "jti" (by decide)]
  exact hdecode.missing _ _ _ "jti" (by decide) habsent

/-- What is let through has passed one of the decoders, and its `jti` is sound. -/
theorem decodeLocalAccessToken_inv
    (h : decodeLocalAccessToken decode started now token = .ok claims) :
    invalidJti claims = false ∧ (decode strictOptions now token = .ok claims ∨
      decodeLegacyLocalToken decode started now token = .ok claims) := by
  have hjti (payload : Claims) (h : (do
      if invalidJti payload then
        throw (.invalidToken "invalid jti")
      return payload : Except TokenRaised Claims) = .ok claims) :
      payload = claims ∧ invalidJti claims = false := by
    cases hinvalid : invalidJti payload with
    | true => simp [hinvalid, bind, Except.bind, throw, throwThe, MonadExceptOf.throw] at h
    | false =>
      simp only [hinvalid, Bool.false_eq_true, if_false, bind, Except.bind, pure, Except.pure,
        Except.ok.injEq] at h
      exact ⟨h, h ▸ hinvalid⟩
  unfold decodeLocalAccessToken at h
  split at h
  · cases hlegacy : decodeLegacyLocalToken decode started now token with
    | error e => simp [hlegacy, bind, Except.bind] at h
    | ok payload =>
      rw [hlegacy] at h
      obtain ⟨rfl, hinvalid⟩ := hjti payload h
      exact ⟨hinvalid, .inr rfl⟩
  · cases hstrict : decode strictOptions now token with
    | error e => simp [hstrict, bind, Except.bind] at h
    | ok payload =>
      rw [hstrict] at h
      obtain ⟨rfl, hinvalid⟩ := hjti payload h
      exact ⟨hinvalid, .inl rfl⟩

theorem decodeLocalAccessToken_ok (hdecode : ChecksRequested decode) :
    decodeLocalAccessToken decode started now token = .ok claims ↔
      claims = token ∧ (StrictToken now token ∨ LegacyToken started now token) := by
  constructor
  · intro h
    obtain ⟨hinvalid, hstrict | hlegacy⟩ := decodeLocalAccessToken_inv h
    · obtain ⟨heq, htoken⟩ := (decode_strict_ok hdecode).mp ⟨hstrict, hinvalid⟩
      exact ⟨heq, .inl htoken⟩
    · obtain ⟨heq, htoken⟩ := (decodeLegacyLocalToken_ok hdecode).mp hlegacy
      exact ⟨heq, .inr htoken⟩
  · rintro ⟨rfl, hstrict | hlegacy⟩
    · obtain ⟨hok, hinvalid⟩ := (decode_strict_ok hdecode).mpr ⟨rfl, hstrict⟩
      simp [decodeLocalAccessToken, hok, hinvalid, bind, Except.bind, pure, Except.pure]
    · obtain ⟨claim, hmissing⟩ := hlegacy.missing hdecode
      have hok := (decodeLegacyLocalToken_ok hdecode).mpr ⟨rfl, hlegacy⟩
      have hinvalid := invalidJti_of_absent (hlegacy.absent "jti" (by decide))
      simp [decodeLocalAccessToken, hmissing, hok, hinvalid, bind, Except.bind, pure, Except.pure]

end

/-! ## Downgrades -/

theorem LegacyToken.dies {started : Int} {now : Rat} {token : Claims}
    (h : LegacyToken started now token) :
    now < (localTokenCompatibilityDeadline started + TOKEN_TTL_SECONDS : Int) := by
  obtain ⟨iat, exp, -, -, -, hnow, -, hlifetime, hdeadline⟩ := h.lifetime
  have hexp : exp ≤ localTokenCompatibilityDeadline started + TOKEN_TTL_SECONDS := by omega
  exact hnow.trans_le (by exact_mod_cast hexp)

/-- A local access token is let through if and only if it has one of the two shapes, and one that
lacks a strict claim is not let through after the deadline and one lifetime. -/
theorem local_token_accepted_iff {decode : Decode} (hdecode : ChecksRequested decode)
    (started : Int) (now : Rat) (token : Claims) :
    ((∃ claims, decodeLocalAccessToken decode started now token = .ok claims) ↔
      StrictToken now token ∨ LegacyToken started now token) ∧
    ((∃ name ∈ strictOptions.require, present token name = false) →
      (∃ claims, decodeLocalAccessToken decode started now token = .ok claims) →
      now < (localTokenCompatibilityDeadline started + TOKEN_TTL_SECONDS : Int)) := by
  have haccepted : (∃ claims, decodeLocalAccessToken decode started now token = .ok claims) ↔
      StrictToken now token ∨ LegacyToken started now token := by
    simp only [decodeLocalAccessToken_ok hdecode, exists_eq_left]
  refine ⟨haccepted, ?_⟩
  rintro ⟨name, hname, hmissing⟩ h
  rcases haccepted.mp h with hstrict | hlegacy
  · rw [hstrict.present name hname] at hmissing
    cases hmissing
  · exact hlegacy.dies

/-- `jwt.decode` that names the first missing claim. -/
def jwtDecode : Decode := fun options now claims =>
  match options.require.find? fun name => !present claims name with
  | some name => .error (.missingRequiredClaim name)
  | none => if verified options now claims then .ok claims else .error (.invalidToken "invalid")

theorem jwtDecode_checks : ChecksRequested jwtDecode where
  missing := by
    intro options now claims name hname hmissing
    cases hf : options.require.find? fun name => !present claims name with
    | none =>
      have hpresent := List.find?_eq_none.mp hf name hname
      rw [hmissing] at hpresent
      exact absurd rfl hpresent
    | some first => exact ⟨first, by simp [jwtDecode, hf]⟩
  accepts := by
    intro options now claims claims'
    cases hf : options.require.find? fun name => !present claims name with
    | none =>
      have hpresent : ∀ name ∈ options.require, present claims name = true := by
        intro name hname
        simpa using List.find?_eq_none.mp hf name hname
      simp only [jwtDecode, hf]
      cases hv : verified options now claims with
      | true => exact ⟨fun h => ⟨(Except.ok.inj h).symm, hpresent, rfl⟩, fun h => by simp [h.1]⟩
      | false => simp
    | some first =>
      have hmissing : present claims first = false := by
        have hfirst := List.find?_some hf
        simpa using hfirst
      have hfirst : ¬ ∀ name ∈ options.require, present claims name = true := by
        intro hall
        rw [hall first (List.mem_of_find?_eq_some hf)] at hmissing
        cases hmissing
      simp [jwtDecode, hf, hfirst]

/-- A token of the old release, half an hour after the worker started. -/
def oldToken : Claims :=
  [(ofString "sub", .str (ofString "9")), (ofString "role", .str (ofString "customer")),
    (ofString "iat", .int 1000), (ofString "exp", .int 4600)]

theorem oldToken_legacy : LegacyToken 200 2000 oldToken where
  absent := by
    simp only [strictLocalClaims, List.forall_mem_cons, List.not_mem_nil, false_implies,
      implies_true, and_true]
    exact ⟨rfl, rfl, rfl, rfl⟩
  sub := ⟨_, rfl⟩
  lifetime := ⟨1000, 4600, ⟨_, rfl, rfl⟩, ⟨_, rfl, rfl⟩, by decide +kernel⟩

theorem oldToken_accepted :
    (∃ claims, decodeLocalAccessToken jwtDecode 200 2000 oldToken = .ok claims) ∧
      (2000 : Rat) < (localTokenCompatibilityDeadline 200 + TOKEN_TTL_SECONDS : Int) := by
  have h := local_token_accepted_iff jwtDecode_checks 200 2000 oldToken
  have haccepted := h.1.mpr (.inr oldToken_legacy)
  exact ⟨haccepted, h.2 ⟨"jti", by decide, by decide⟩ haccepted⟩

end Breero.Auth.AccessTokens
