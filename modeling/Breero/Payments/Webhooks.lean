import Breero.Common.Numbers
import Breero.Lib.JsonText
import Breero.Lib.Text
import Breero.Lib.Transaction

/-!
`StripeAdapter.verify_webhook`: which webhooks are let through, and what it raises for the rest.

* `verifyWebhook` reads the header, compares the signatures and decodes the body; HMAC-SHA256 is
  a function of the key and the message;
* `Genuine` says of a webhook and an event what is to be checked, apart from how;
* `anyMatches_ok` and `anyMatches_raises` are the comparisons, one signature after another;
* `checked_exactly_iff`: the check is exact, and raises nothing but `InvalidWebhook`, unless a
  signature that is not ASCII is compared, or the body of a genuine one cannot be decoded.
-/

namespace Breero.Payments.Stripe
open Transaction JsonText

/-- What `verify_webhook` can raise. -/
inductive WebhookRaised
  | invalidWebhook (message : String)
  | typeError (message : String)
  | loadsError (error : LoadsError)
  deriving DecidableEq, Repr

/-- `StripeAdapter`, as far as webhooks go -/
structure StripeAdapter where
  webhookSecret : String
  webhookToleranceSeconds : Int := 300
  deriving DecidableEq, Repr

/-! ## The header -/

/-- The fields of the header that have a `=`. -/
def fields (signature : String) : List (List Char × List Char) :=
  (signature.toList.splitOn ',').filterMap fun item =>
    match Text.splitOnce '=' item with
    | (key, some value) => some (key, value)
    | (_, none) => none

/-- `parts[key]` -/
def parts (signature key : String) : List (List Char) :=
  ((fields signature).filter fun field => field.1 = key.toList).map (·.2)

/-- `int(parts["t"][0])`, if there is one. -/
def timestampOf (signature : String) : Option Int :=
  (parts signature "t").head?.bind intOfChars

/-! ## Signatures -/

/-- `s.encode()` -/
def encode (s : String) : List UInt8 := s.toUTF8.toList

def hexDigit (n : Nat) : Char := Char.ofNat (if n < 10 then 48 + n else 87 + n)

def hexdigest (mac : List UInt8) : List Char :=
  mac.flatMap fun b => [hexDigit (b.toNat / 16), hexDigit (b.toNat % 16)]

def isAscii (cs : List Char) : Bool := cs.all fun c => c.toNat < 128

/-- `hmac.compare_digest` of two texts -/
def compareDigest (expected candidate : List Char) : Except WebhookRaised Bool :=
  if isAscii expected && isAscii candidate then .ok (expected = candidate)
  else .error (.typeError "comparing strings with non-ASCII characters is not supported")

/-- `any(hmac.compare_digest(expected, candidate) for candidate in signatures)` -/
def anyMatches (expected : List Char) : List (List Char) → Except WebhookRaised Bool
  | [] => .ok false
  | candidate :: signatures => do
    let same ← compareDigest expected candidate
    if same then .ok true else anyMatches expected signatures

section
variable (mac : List UInt8 → List UInt8 → List UInt8)

/-- The signature of the body at the timestamp. -/
def expectedSignature (adapter : StripeAdapter) (timestamp : Int) (body : List UInt8) :
    List Char :=
  hexdigest (mac (encode adapter.webhookSecret) (encode (toString timestamp ++ ".") ++ body))

/-! ## The check -/

/-- A dict with an `id` and a `type` -/
def hasIdentity : JsonText.Value → Bool
  | .obj members =>
    (getMember members (ofString "id")).truthy && (getMember members (ofString "type")).truthy
  | _ => false

/-- `json.loads(body)`, and `except json.JSONDecodeError`. Containers may be nested as deep as the
interpreter lets them. -/
def loadEvent (nesting : Nat) (body : List UInt8) : Except WebhookRaised JsonText.Value :=
  match loads { nesting := some nesting, intDigits := some intMaxStrDigits } body with
  | .ok event => .ok event
  | .error .jsonDecodeError => .error (.invalidWebhook "Webhook payload is not valid JSON")
  | .error error => .error (.loadsError error)

/-- `verify_webhook` -/
def verifyWebhook (nesting : Nat) (adapter : StripeAdapter) (now : Int) (body : List UInt8)
    (signature : String) : Except WebhookRaised JsonText.Value := do
  require (adapter.webhookSecret ≠ "")
    (.invalidWebhook "Stripe webhook secret is not configured")
  let timestamp ← orRaise (timestampOf signature)
    (.invalidWebhook "Malformed Stripe-Signature header")
  require (parts signature "v1" ≠ []) (.invalidWebhook "Malformed Stripe-Signature header")
  require (¬ adapter.webhookToleranceSeconds < |now - timestamp|)
    (.invalidWebhook "Webhook signature timestamp is outside tolerance")
  let verified ← anyMatches (expectedSignature mac adapter timestamp body)
    (parts signature "v1")
  require (verified) (.invalidWebhook "Webhook signature verification failed")
  let event ← loadEvent nesting body
  require (hasIdentity event) (.invalidWebhook "Webhook payload is missing event identity")
  return event

/-! ## What is to be checked -/

/-- The timestamp is the first `t`, an integer within the tolerance, some `v1` is the signature,
and the body is a JSON object with an id and a type: the event. -/
structure Genuine (adapter : StripeAdapter) (now : Int) (body : List UInt8)
    (signature : String) (timestamp : Int) (event : JsonText.Value) : Prop where
  stamped : timestampOf signature = some timestamp
  inTime : |now - timestamp| ≤ adapter.webhookToleranceSeconds
  signed : expectedSignature mac adapter timestamp body ∈ parts signature "v1"
  json : loads {} body = .ok event
  identity : hasIdentity event

/-- An event is returned iff the webhook is genuine, and else `InvalidWebhook` is raised. -/
def CheckedExactly (nesting : Nat) (adapter : StripeAdapter) (now : Int) (body : List UInt8)
    (signature : String) : Prop :=
  (∀ event, verifyWebhook mac nesting adapter now body signature = .ok event ↔
    ∃ timestamp, Genuine mac adapter now body signature timestamp event) ∧
  ∀ raised, verifyWebhook mac nesting adapter now body signature = .error raised →
    ∃ message, raised = .invalidWebhook message

/-- The signatures up to the one that verifies are ASCII. -/
def Comparable (expected : List Char) (signatures : List (List Char)) : Prop :=
  ∀ candidate ∈ signatures.takeWhile (· ≠ expected), isAscii candidate

/-- `json.loads` returns a value or raises a `JSONDecodeError`. -/
def Loadable (nesting : Nat) (body : List UInt8) : Prop :=
  ∀ error, loads { nesting := some nesting, intDigits := some intMaxStrDigits } body =
    .error error → error = .jsonDecodeError

/-- A webhook in time is compared with nothing but ASCII, and can be loaded if it is signed. -/
def Decent (nesting : Nat) (adapter : StripeAdapter) (now : Int) (body : List UInt8)
    (signature : String) : Prop :=
  ∀ timestamp, timestampOf signature = some timestamp →
    |now - timestamp| ≤ adapter.webhookToleranceSeconds →
    Comparable (expectedSignature mac adapter timestamp body) (parts signature "v1") ∧
      (expectedSignature mac adapter timestamp body ∈ parts signature "v1" →
        Loadable nesting body)

end

/-! ## Comparing -/

theorem hexDigit_ascii : ∀ n < 16, (hexDigit n).toNat < 128 := by decide

theorem isAscii_hexdigest (mac : List UInt8) : isAscii (hexdigest mac) = true := by
  unfold isAscii hexdigest
  rw [List.all_eq_true]
  intro c hc
  obtain ⟨b, -, hb⟩ := List.mem_flatMap.mp hc
  have hlow : b.toNat % 16 < 16 := Nat.mod_lt _ (by decide)
  have hhigh : b.toNat / 16 < 16 := by
    have hbyte := b.toNat_lt
    omega
  rw [decide_eq_true_eq]
  rcases List.mem_pair.mp hb with rfl | rfl
  · exact hexDigit_ascii _ hhigh
  · exact hexDigit_ascii _ hlow

section
variable {expected candidate : List Char} {signatures : List (List Char)}

theorem compareDigest_ascii (hexpected : isAscii expected = true)
    (hcandidate : isAscii candidate = true) :
    compareDigest expected candidate = .ok (decide (expected = candidate)) := by
  rw [compareDigest, hexpected, hcandidate]
  rfl

theorem anyMatches_ok (hexpected : isAscii expected = true)
    (h : Comparable expected signatures) :
    anyMatches expected signatures = .ok (decide (expected ∈ signatures)) := by
  induction signatures with
  | nil => rfl
  | cons candidate signatures ih =>
    rw [anyMatches]
    by_cases hsame : candidate = expected
    · subst hsame
      rw [compareDigest_ascii hexpected hexpected]
      simp [bind, Except.bind]
    · unfold Comparable at h
      rw [List.takeWhile_cons_of_pos (by simpa using hsame)] at h
      have hrest := ih fun c hc => h c (List.mem_cons_of_mem _ hc)
      rw [compareDigest_ascii hexpected (h candidate List.mem_cons_self),
        decide_eq_false (Ne.symm hsame), hrest]
      simp [bind, Except.bind, Ne.symm hsame]

theorem anyMatches_raises (hexpected : isAscii expected = true)
    (h : ¬ Comparable expected signatures) :
    ∃ message, anyMatches expected signatures = .error (.typeError message) := by
  induction signatures with
  | nil => exact absurd (fun c hc => nomatch hc) h
  | cons candidate signatures ih =>
    rw [anyMatches]
    by_cases hsame : candidate = expected
    · refine absurd ?_ h
      unfold Comparable
      rw [List.takeWhile_cons_of_neg (by simpa using hsame)]
      exact fun c hc => nomatch hc
    · cases hascii : isAscii candidate with
      | false =>
        rw [compareDigest, hascii, Bool.and_false]
        exact ⟨_, rfl⟩
      | true =>
        rw [compareDigest_ascii hexpected hascii, decide_eq_false (Ne.symm hsame)]
        refine ih fun hrest => h ?_
        unfold Comparable
        rw [List.takeWhile_cons_of_pos (by simpa using hsame)]
        intro c hc
        rcases List.mem_cons.mp hc with rfl | hc
        · exact hascii
        · exact hrest c hc

theorem mem_of_anyMatches (hexpected : isAscii expected = true)
    (h : anyMatches expected signatures = .ok true) : expected ∈ signatures := by
  by_cases hcomparable : Comparable expected signatures
  · rw [anyMatches_ok hexpected hcomparable] at h
    exact of_decide_eq_true (Except.ok.inj h)
  · obtain ⟨message, hraised⟩ := anyMatches_raises hexpected hcomparable
    rw [hraised] at h
    cases h

end

/-! ## When the check is exact -/

section
variable {mac : List UInt8 → List UInt8 → List UInt8} {nesting : Nat} {adapter : StripeAdapter}
  {now timestamp : Int} {body : List UInt8} {signature : String} {event : JsonText.Value}

theorem isAscii_expected : isAscii (expectedSignature mac adapter timestamp body) = true :=
  isAscii_hexdigest _

theorem loadEvent_ok : loadEvent nesting body = .ok event ↔
    loads { nesting := some nesting, intDigits := some intMaxStrDigits } body = .ok event := by
  unfold loadEvent
  split <;> simp_all

/-- A body that can be loaded is decoded, or is no JSON. -/
theorem loadEvent_of_loadable (h : Loadable nesting body) :
    (∃ event, loadEvent nesting body = .ok event) ∨
      (∃ message, loadEvent nesting body = .error (.invalidWebhook message)) ∧
        ∀ event, loads {} body ≠ .ok event := by
  unfold loadEvent
  cases hloads : loads { nesting := some nesting, intDigits := some intMaxStrDigits } body with
  | ok event => exact .inl ⟨event, rfl⟩
  | error error =>
    cases h error hloads
    refine .inr ⟨⟨_, rfl⟩, fun event hok => ?_⟩
    rw [(loads_cut body).of_error hloads] at hok
    cases hok

theorem loadEvent_of_not_loadable (h : ¬ Loadable nesting body) :
    ∃ error, loadEvent nesting body = .error (.loadsError error) := by
  unfold Loadable at h
  push Not at h
  obtain ⟨error, hloads, hne⟩ := h
  unfold loadEvent
  rw [hloads]
  cases error with
  | jsonDecodeError => exact absurd rfl hne
  | unicodeDecodeError | recursionError | valueError => exact ⟨_, rfl⟩

theorem verifyWebhook_ok :
    verifyWebhook mac nesting adapter now body signature = .ok event ↔
      adapter.webhookSecret ≠ "" ∧ ∃ timestamp, timestampOf signature = some timestamp ∧
        parts signature "v1" ≠ [] ∧ |now - timestamp| ≤ adapter.webhookToleranceSeconds ∧
        anyMatches (expectedSignature mac adapter timestamp body) (parts signature "v1") =
          .ok true ∧
        loadEvent nesting body = .ok event ∧ hasIdentity event = true := by
  simp only [verifyWebhook, seq_committed, require_committed, orRaise_committed,
    return_committed]
  constructor
  · rintro ⟨_, hsecret, timestamp, hstamped, _, hparts, _, hin, verified, hany, _, hverified,
      event, hload, _, hidentity, rfl⟩
    exact ⟨hsecret, timestamp, hstamped, hparts, not_lt.mp hin, hverified ▸ hany, hload,
      hidentity⟩
  · rintro ⟨hsecret, timestamp, hstamped, hparts, hin, hany, hload, hidentity⟩
    exact ⟨(), hsecret, timestamp, hstamped, (), hparts, (), not_lt.mpr hin, true, hany, (), rfl,
      event, hload, (), hidentity, rfl⟩

/-- An event that is returned is genuine, whatever else could have been raised. -/
theorem genuine_of_ok (h : verifyWebhook mac nesting adapter now body signature = .ok event) :
    ∃ timestamp, Genuine mac adapter now body signature timestamp event := by
  obtain ⟨-, timestamp, hstamped, -, hin, hany, hload, hidentity⟩ := verifyWebhook_ok.mp h
  exact ⟨timestamp, hstamped, hin, mem_of_anyMatches isAscii_expected hany,
    (loads_cut body).of_ok (loadEvent_ok.mp hload), hidentity⟩

/-- A genuine event is returned if nothing raises on the way. -/
theorem ok_of_genuine (hsecret : adapter.webhookSecret ≠ "")
    (hdecent : Decent mac nesting adapter now body signature)
    (h : Genuine mac adapter now body signature timestamp event) :
    verifyWebhook mac nesting adapter now body signature = .ok event := by
  obtain ⟨hcomparable, hloadable⟩ := hdecent timestamp h.stamped h.inTime
  have hany := anyMatches_ok isAscii_expected hcomparable
  rw [decide_eq_true h.signed] at hany
  have hload : loadEvent nesting body = .ok event := by
    rcases loadEvent_of_loadable (hloadable h.signed) with ⟨loaded, hloaded⟩ | ⟨-, hnone⟩
    · have heq := (loads_cut body).of_ok (loadEvent_ok.mp hloaded)
      rw [h.json] at heq
      cases heq
      exact hloaded
    · exact absurd h.json (hnone event)
  exact verifyWebhook_ok.mpr ⟨hsecret, timestamp, h.stamped, List.ne_nil_of_mem h.signed,
    h.inTime, hany, hload, h.identity⟩

/-- Nothing but `InvalidWebhook` is raised if nothing else raises on the way. -/
theorem invalid_of_raised (hdecent : Decent mac nesting adapter now body signature)
    {raised : WebhookRaised}
    (h : verifyWebhook mac nesting adapter now body signature = .error raised) :
    ∃ message, raised = .invalidWebhook message := by
  simp only [verifyWebhook, seq_raised, require_raised, orRaise_raised, require_committed,
    orRaise_committed, return_raised] at h
  rcases h with ⟨-, rfl⟩ | ⟨_, -, ⟨-, rfl⟩ | ⟨timestamp, hstamped, ⟨-, rfl⟩ | ⟨_, -, ⟨-, rfl⟩ |
    ⟨_, hin, hrest⟩⟩⟩⟩
  · exact ⟨_, rfl⟩
  · exact ⟨_, rfl⟩
  · exact ⟨_, rfl⟩
  · exact ⟨_, rfl⟩
  · obtain ⟨hcomparable, hloadable⟩ := hdecent timestamp hstamped (not_lt.mp hin)
    have hany := anyMatches_ok isAscii_expected hcomparable
    rcases hrest with hraised | ⟨verified, hverified, ⟨-, rfl⟩ | ⟨_, htrue, hload⟩⟩
    · rw [hany] at hraised
      cases hraised
    · exact ⟨_, rfl⟩
    · subst htrue
      have hsigned := mem_of_anyMatches isAscii_expected hverified
      rcases hload with hraised | ⟨event, -, ⟨-, rfl⟩ | ⟨_, -, ⟨⟩⟩⟩
      · rcases loadEvent_of_loadable (hloadable hsigned) with ⟨event, hok⟩ | ⟨⟨m, hm⟩, -⟩
        · rw [hok] at hraised
          cases hraised
        · rw [hm] at hraised
          cases hraised
          exact ⟨m, rfl⟩
      · exact ⟨_, rfl⟩

/-- What is raised from the comparison on is raised by the whole. -/
theorem verifyWebhook_raises {raised : WebhookRaised} (hsecret : adapter.webhookSecret ≠ "")
    (hstamped : timestampOf signature = some timestamp) (hparts : parts signature "v1" ≠ [])
    (hin : |now - timestamp| ≤ adapter.webhookToleranceSeconds)
    (h : anyMatches (expectedSignature mac adapter timestamp body) (parts signature "v1") =
        .error raised ∨
      anyMatches (expectedSignature mac adapter timestamp body) (parts signature "v1") =
        .ok true ∧ loadEvent nesting body = .error raised) :
    verifyWebhook mac nesting adapter now body signature = .error raised := by
  simp only [verifyWebhook, seq_raised, require_raised, orRaise_raised, require_committed,
    orRaise_committed]
  refine .inr ⟨(), hsecret, .inr ⟨timestamp, hstamped, .inr ⟨(), hparts, .inr
    ⟨(), not_lt.mpr hin, ?_⟩⟩⟩⟩
  rcases h with hcompared | ⟨htrue, hloaded⟩
  · exact .inl hcompared
  · exact .inr ⟨true, htrue, .inr ⟨(), rfl, .inl hloaded⟩⟩

/-- **Webhooks are checked exactly** with one rejection iff the signatures compared are ASCII
and a genuine body can be loaded. -/
theorem checked_exactly_iff (mac : List UInt8 → List UInt8 → List UInt8) (nesting : Nat)
    (adapter : StripeAdapter) (now : Int) (body : List UInt8) (signature : String)
    (hsecret : adapter.webhookSecret ≠ "") :
    CheckedExactly mac nesting adapter now body signature ↔
      Decent mac nesting adapter now body signature := by
  constructor
  · rintro ⟨-, hraised⟩ timestamp hstamped hin
    have hcomparable : Comparable (expectedSignature mac adapter timestamp body)
        (parts signature "v1") := by
      by_contra hnot
      obtain ⟨message, hcompared⟩ := anyMatches_raises isAscii_expected hnot
      have hparts : parts signature "v1" ≠ [] := by
        intro hempty
        rw [hempty] at hnot
        exact hnot fun candidate hc => nomatch hc
      obtain ⟨_, heq⟩ := hraised _
        (verifyWebhook_raises hsecret hstamped hparts hin (.inl hcompared))
      cases heq
    refine ⟨hcomparable, fun hsigned => ?_⟩
    by_contra hnot
    obtain ⟨error, hloaded⟩ := loadEvent_of_not_loadable hnot
    have hany := anyMatches_ok isAscii_expected hcomparable
    rw [decide_eq_true hsigned] at hany
    obtain ⟨_, heq⟩ := hraised _ (verifyWebhook_raises hsecret hstamped
      (List.ne_nil_of_mem hsigned) hin (.inr ⟨hany, hloaded⟩))
    cases heq
  · intro hdecent
    refine ⟨fun event => ⟨genuine_of_ok, ?_⟩, fun raised h => invalid_of_raised hdecent h⟩
    rintro ⟨timestamp, hgenuine⟩
    exact ok_of_genuine hsecret hdecent hgenuine

end

/-! ## A signature that is not ASCII -/

def adapter : StripeAdapter where
  webhookSecret := "whsec"

/-- A digest that is zero. -/
def zeroMac (_ _ : List UInt8) : List UInt8 := List.replicate 32 0

/-- The header is decoded as Latin-1, so that any byte can stand in it. -/
theorem accented_signature_not_exact :
    ¬ CheckedExactly zeroMac 1000 adapter 1700000000 [] "t=1700000000,v1=é" := by
  rintro ⟨-, hraised⟩
  obtain ⟨_, heq⟩ := hraised (.typeError _) rfl
  cases heq

/-- `{"id":"e","type":"t"}` -/
def eventBody : List UInt8 :=
  [123, 34, 105, 100, 34, 58, 34, 101, 34, 44, 34, 116, 121, 112, 101, 34, 58, 34, 116, 34, 125]

def eventSignature : String :=
  "t=1700000000,v1=bad,v1=0000000000000000000000000000000000000000000000000000000000000000"

theorem event_exact :
    (verifyWebhook zeroMac 1000 adapter 1700000000 eventBody eventSignature).isOk ∧
      CheckedExactly zeroMac 1000 adapter 1700000000 eventBody eventSignature := by
  have hascii : ∀ candidate ∈ parts eventSignature "v1", isAscii candidate := by decide +kernel
  have hloads : (loads { nesting := some 1000, intDigits := some intMaxStrDigits }
      eventBody).isOk := by decide +kernel
  refine ⟨by decide +kernel, (checked_exactly_iff _ _ _ _ _ _ (by decide)).mpr ?_⟩
  intro timestamp _ _
  refine ⟨fun candidate hc => hascii candidate (List.takeWhile_subset _ hc), ?_⟩
  intro _ error herror
  rw [herror] at hloads
  cases hloads

end Breero.Payments.Stripe
