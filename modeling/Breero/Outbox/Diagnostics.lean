import Breero.Lib.Markers
import Breero.Outbox.Service
import Mathlib.Data.List.TakeWhile
import Mathlib.Data.Option.Basic

/-!
What the `last_error` of an event keeps of the message of a failed delivery.

* `EmailAdapter.send` is one of the deliveries, with the HTTP client as a parameter;
* `secretsOf` lists the URLs of a message and the values that it assigns to a field with a
  secret, however they are written;
* `runs` are the parts of a message that no match of the pattern replaces;
* `diagnostic_iff` says for which messages none of the secrets is persisted: `NothingLeft`.
-/

namespace Breero.Outbox
open Markers

/-! ## Delivery by e-mail -/

structure EmailSettings where
  liveEmailDelivery : Bool := false
  emailEnabled : Bool := false
  transactionalEmailMode : String := "controlled_canary"

/-- `EmailDeliveryDisabled` -/
def emailDeliveryDisabled (text : String) : Failure := {
  text
  code := "EMAIL_DELIVERY_DISABLED"
  pendingConfiguration := true }

def requireLiveEmailDelivery (settings : EmailSettings) : Except Failure Unit :=
  if settings.liveEmailDelivery ∧ settings.emailEnabled ∧
      settings.transactionalEmailMode = "controlled_canary" then .ok ()
  else .error (emailDeliveryDisabled "Email delivery is disabled or awaiting configuration")

structure EmailRequest where
  url : String
  eventType : String
  payload : EventPayload
  headers : List (String × String)

/-- `httpx`: `AsyncClient.post`, and `raise_for_status` of its response. -/
structure HttpClient (Response : Type) where
  post : EmailRequest → Except Failure Response
  raiseForStatus : Response → Except Failure Unit

structure EmailAdapter where
  deliveryUrl : String
  apiKey : String

def EmailAdapter.send {Response : Type} (adapter : EmailAdapter) (settings : EmailSettings)
    (client : HttpClient Response) (eventType : String) (payload : EventPayload) :
    Except Failure Unit := do
  requireLiveEmailDelivery settings
  if adapter.deliveryUrl = "" then
    throw (emailDeliveryDisabled "Email provider is not configured")
  let headers := if adapter.apiKey = "" then [] else
    [("Authorization", "Bearer " ++ adapter.apiKey)]
  let response ← client.post { url := adapter.deliveryUrl, eventType, payload, headers }
  client.raiseForStatus response

/-- What `send` raises is about the configuration or comes from the client. -/
theorem send_error {Response : Type} {adapter : EmailAdapter} {settings : EmailSettings}
    {client : HttpClient Response} {eventType : String} {payload : EventPayload}
    {failure : Failure} (h : adapter.send settings client eventType payload = .error failure) :
    failure = emailDeliveryDisabled "Email delivery is disabled or awaiting configuration" ∨
      failure = emailDeliveryDisabled "Email provider is not configured" ∨
      (∃ request, client.post request = .error failure) ∨
      ∃ request response, client.post request = .ok response ∧
        client.raiseForStatus response = .error failure := by
  rw [EmailAdapter.send] at h
  cases hlive : requireLiveEmailDelivery settings with
  | error refused =>
    rw [hlive] at h
    rw [requireLiveEmailDelivery] at hlive
    split at hlive
    · cases hlive
    · cases hlive
      cases h
      exact .inl rfl
  | ok live =>
    rw [hlive] at h
    dsimp only [bind, Except.bind] at h
    split at h
    · cases h
      exact .inr (.inl rfl)
    · refine .inr (.inr ?_)
      split at h
      · next refused hpost =>
        cases h
        exact .inl ⟨_, hpost⟩
      · next response hpost => exact .inr ⟨_, response, hpost, h⟩

/-! ## The secrets of a message -/

/-- A double or a single quotation mark. -/
def isQuote (c : Char) : Bool := c.toNat = 34 || c.toNat = 39

def isSign (c : Char) : Bool := c = ':' || c = '='

def isOpening (c : Char) : Bool := c ∈ ['(', '[', '{']

def isClosing (c : Char) : Bool := c ∈ [')', ']', '}']

/-- A URL ends before a space, a quotation mark or an angle bracket. -/
def isUrlChar (c : Char) : Bool := !isSpace c && !isQuote c && c ∉ ['<', '>']

/-- The URL at the front of a text. -/
def urlAt (text : List Char) : Option (List Char) :=
  let scheme := text.takeWhile Char.isAlphanum
  let rest := text.drop scheme.length
  let address := (rest.drop 3).takeWhile isUrlChar
  if text.head?.any Char.isAlpha ∧ rest.take 3 = "://".toList ∧ address ≠ [] then
    some (scheme ++ "://".toList ++ address)
  else none

/-- The URLs of a text; none begins in the middle of a word. -/
def urlsFrom (inWord : Bool) : List Char → List (List Char)
  | [] => []
  | c :: text =>
    (if inWord then [] else (urlAt (c :: text)).toList) ++ urlsFrom c.isAlphanum text

/-- A value without quotation marks ends before a space, a quotation mark, a comma, a semicolon,
an ampersand or a closing bracket. -/
def isBare (c : Char) : Bool :=
  !isSpace c && !isQuote c && !isClosing c && c ∉ [',', ';', '&']

/-- The value at the front of a text, quoted or bare. -/
def plainValue (bare : Char → Bool) : List Char → List Char
  | [] => []
  | c :: text => if isQuote c then text.takeWhile (· ≠ c) else (c :: text).takeWhile bare

def authSchemes : List String :=
  ["basic", "bearer", "digest", "negotiate", "token", "apikey", "oauth"]

/-- The value that `read` finds at the front of a text; where it finds another one behind a
scheme and spaces, it is the other one. -/
def credential (read : List Char → List Char) (text : List Char) : List Char :=
  match authSchemes.findSome? (wordAt text) with
  | none => read text
  | some (_, rest) =>
    let value := read (rest.dropWhile isSpace)
    if rest.head?.any isSpace ∧ value ≠ [] then value else read text

/-- The values of an object or a list, to its closing bracket. A key, which has a sign behind
it, is none. -/
def nestedFrom (depth skip : Nat) : List Char → List (List Char)
  | [] => []
  | c :: text =>
    match skip with
    | skip + 1 => nestedFrom depth skip text
    | 0 =>
      if isOpening c then nestedFrom (depth + 1) 0 text
      else if isClosing c then if depth ≤ 1 then [] else nestedFrom (depth - 1) 0 text
      else
        let value := plainValue (fun c => isBare c && !isSign c && !isOpening c) (c :: text)
        let width := if isQuote c then value.length + 2 else value.length
        let behind := ((c :: text).drop width).dropWhile isSpace
        (if behind.head?.any isSign then [] else [credential id value]) ++
          nestedFrom depth (width - 1) text

/-- The values that a field with a secret at the front of a text is given. -/
def assignedAt (text : List Char) : List (List Char) :=
  match secretWords.findSome? (wordAt text) with
  | none => []
  | some (_, rest) =>
    match rest.dropWhile fun c => isSpace c || isQuote c with
    | [] => []
    | sign :: rest =>
      if isSign sign then
        match rest.dropWhile isSpace with
        | [] => []
        | c :: text =>
          if isOpening c then nestedFrom 0 0 (c :: text)
          else if isQuote c then [credential id (text.takeWhile (· ≠ c))]
          else [credential (plainValue isBare) (c :: text)]
      else []

/-- The URLs of a message and the values of its fields with a secret. -/
def secretsOf (message : String) : List (List Char) :=
  (urlsFrom false message.toList ++ message.toList.tails.flatMap assignedAt).filter (· ≠ [])

/-- The diagnostic has none of the secrets of the message in it. -/
def KeepsNoSecret (message diagnostic : String) : Prop :=
  ∀ secret ∈ secretsOf message, ¬ secret <:+: diagnostic.toList

instance (message diagnostic : String) : Decidable (KeepsNoSecret message diagnostic) :=
  inferInstanceAs (Decidable (∀ _ ∈ _, _))

/-! ## What the pattern leaves -/

/-- What `re.sub` puts behind the word of a match. -/
def marker : List Char := "=[REDACTED]".toList

/-- The runs of a message that no match replaces, of which all but the last end with the word of
a match; `skip` characters of the last match are still to be passed over. -/
def runsFrom (skip : Nat) : List Char → List (List Char)
  | [] => [[]]
  | c :: text =>
    match skip with
    | skip + 1 => runsFrom skip text
    | 0 =>
      match secretAt (c :: text) with
      | some (word, n) => word :: runsFrom (n - 1) text
      | none => (runsFrom 0 text).modifyHead (c :: ·)

def runs (message : String) : List (List Char) := runsFrom 0 message.toList

theorem runsFrom_cons (skip : Nat) (text : List Char) :
    ∃ run rest, runsFrom skip text = run :: rest := by
  induction text generalizing skip with
  | nil => exact ⟨[], [], rfl⟩
  | cons c text ih =>
    cases skip with
    | succ skip => exact ih skip
    | zero =>
      rw [runsFrom]
      cases secretAt (c :: text) with
      | some found => exact ⟨found.1, _, rfl⟩
      | none =>
        obtain ⟨run, rest, hruns⟩ := ih 0
        exact ⟨c :: run, rest, by rw [hruns, List.modifyHead_cons]⟩

/-- The text after the substitution has the marker between the runs. -/
theorem redactFrom_eq (skip : Nat) (text : List Char) :
    redactFrom skip text = marker.intercalate (runsFrom skip text) := by
  induction text generalizing skip with
  | nil => rfl
  | cons c text ih =>
    cases skip with
    | succ skip => exact ih skip
    | zero =>
      rw [redactFrom, runsFrom]
      cases secretAt (c :: text) with
      | some found =>
        obtain ⟨word, n⟩ := found
        obtain ⟨x, xs, hruns⟩ := runsFrom_cons (n - 1) text
        dsimp only
        rw [ih, hruns, List.intercalate_cons_cons]
        rfl
      | none =>
        obtain ⟨x, xs, hruns⟩ := runsFrom_cons 0 text
        dsimp only
        rw [ih, hruns, List.modifyHead_cons]
        cases xs with
        | nil => rw [List.intercalate_singleton, List.intercalate_singleton]
        | cons y ys => simp only [List.intercalate_cons_cons, List.cons_append]

/-- What a match replaces: a sign with spaces around it, and a secret to the next space. -/
def IsAssignment (part : List Char) : Prop :=
  ∃ before sign behind secret, part = before ++ sign :: (behind ++ secret) ∧
    (∀ c ∈ before, isSpace c) ∧ isSign sign ∧ (∀ c ∈ behind, isSpace c) ∧
    secret ≠ [] ∧ ∀ c ∈ secret, ¬ isSpace c

theorem wordAt_append {text word rest : List Char} {w : String}
    (h : wordAt text w = some (word, rest)) : text = word ++ rest := by
  simp only [wordAt] at h
  split at h
  · cases h
    exact (List.take_append_drop _ _).symm
  · cases h

theorem takeWhile_ne_nil {text : List Char} (h : text.dropWhile isSpace ≠ []) :
    (text.dropWhile isSpace).takeWhile (fun c => !isSpace c) ≠ [] := by
  have hhead := List.head_dropWhile_not isSpace h
  cases htext : text.dropWhile isSpace with
  | nil => exact absurd htext h
  | cons c rest =>
    simp only [htext, List.head_cons] at hhead
    rw [List.takeWhile_cons_of_pos (by rw [hhead]; rfl)]
    exact List.cons_ne_nil _ _

theorem secretAt_append {text word : List Char} {n : Nat} (h : secretAt text = some (word, n)) :
    ∃ part rest, text = word ++ part ++ rest ∧ n = word.length + part.length ∧
      IsAssignment part := by
  simp only [secretAt, Option.bind_eq_bind, Option.bind_eq_some_iff, Option.pure_def] at h
  obtain ⟨⟨word', rest⟩, hword, _, hsign, _, hsecret, heq⟩ := h
  obtain ⟨w, -, hw⟩ := List.exists_of_findSome?_eq_some hword
  obtain rfl := wordAt_append hw
  have hsplit := List.takeWhile_append_dropWhile (p := isSpace) (l := rest)
  dsimp only at hsign hsecret heq
  cases hbehind : rest.dropWhile isSpace with
  | nil => simp [hbehind] at hsign
  | cons sign behind =>
    simp only [hbehind, List.head?_cons, Option.some.injEq, List.drop_one, List.tail_cons,
      Option.guard_eq_some'] at hsign hsecret heq
    have hsplit' := List.takeWhile_append_dropWhile (p := isSpace) (l := behind)
    have hsplit'' := List.takeWhile_append_dropWhile (p := fun c => !isSpace c)
      (l := behind.dropWhile isSpace)
    have htext : rest = rest.takeWhile isSpace ++ sign :: (behind.takeWhile isSpace ++
        (behind.dropWhile isSpace).takeWhile fun c => !isSpace c) ++
        (behind.dropWhile isSpace).dropWhile fun c => !isSpace c := by
      rw [List.append_assoc, List.cons_append, List.append_assoc, hsplit'', hsplit', ← hbehind,
        hsplit]
    cases heq
    refine ⟨_, _, by rw [List.append_assoc, ← htext], ?_, _, sign, _, _, rfl,
      fun c hc => List.mem_takeWhile_imp hc, ?_, fun c hc => List.mem_takeWhile_imp hc,
      takeWhile_ne_nil hsecret, fun c hc => ?_⟩
    · have hlength := congrArg List.length htext
      simp only [List.length_append] at hlength ⊢
      omega
    · rcases hsign with rfl | rfl <;> rfl
    · simpa using List.mem_takeWhile_imp hc

/-- A message is its runs, and between them what the matches replace. -/
theorem runsFrom_weave (skip : Nat) (text : List Char) :
    ∃ parts, text.drop skip = weave (runsFrom skip text) parts ∧
      (runsFrom skip text).length = parts.length + 1 ∧ ∀ part ∈ parts, IsAssignment part := by
  induction text generalizing skip with
  | nil => exact ⟨[], by simp [runsFrom, weave]⟩
  | cons c text ih =>
    cases skip with
    | succ skip => exact ih skip
    | zero =>
      rw [runsFrom]
      cases hsecret : secretAt (c :: text) with
      | some found =>
        obtain ⟨word, n⟩ := found
        obtain ⟨part, rest, htext, hn, hpart⟩ := secretAt_append hsecret
        obtain ⟨parts, hparts, hlength, hall⟩ := ih (n - 1)
        refine ⟨part :: parts, ?_, ?_, List.forall_mem_cons.mpr ⟨hpart, hall⟩⟩
        · have hdrop : text.drop (n - 1) = rest := by
            have hn' : n = n - 1 + 1 := by
              obtain ⟨before, sign, behind, secret, rfl, -⟩ := hpart
              simp only [List.length_append, List.length_cons] at hn
              omega
            rw [← List.drop_succ_cons (a := c), ← hn', htext, hn, ← List.length_append,
              List.drop_left]
          rw [List.drop_zero, htext, weave, ← hparts, hdrop]
        · rw [List.length_cons, List.length_cons, hlength]
      | none =>
        obtain ⟨parts, hparts, hlength, hall⟩ := ih 0
        obtain ⟨x, xs, hruns⟩ := runsFrom_cons 0 text
        rw [hruns] at hparts hlength
        dsimp only
        rw [hruns, List.modifyHead_cons]
        refine ⟨parts, ?_, hlength, hall⟩
        rw [List.drop_zero] at hparts ⊢
        rw [hparts]
        cases parts with
        | nil => rfl
        | cons part parts => rfl

/-- A message in which the pattern matches nowhere is one run. -/
theorem runsFrom_unmatched {text : List Char} (h : ∀ rest, rest <:+ text → secretAt rest = none) :
    runsFrom 0 text = [text] := by
  induction text with
  | nil => rfl
  | cons c text ih =>
    rw [runsFrom, h (c :: text) List.suffix_rfl]
    dsimp only
    rw [ih fun rest hrest => h rest (hrest.trans (List.suffix_cons c text)), List.modifyHead_cons]

/-! ## Messages that leave nothing -/

/-- No secret of the message stands in a run within the first 500 characters, and none is spelt
with a marker there. -/
def NothingLeft (message : String) : Prop :=
  ∀ secret ∈ secretsOf message,
    ¬ Stands marker (runs message) secret 500 ∧ ¬ Spelt marker (runs message) secret 500

theorem toList_diagnostic (message : String) :
    (truncate 500 (redact message)).toList = (marker.intercalate (runs message)).take 500 := by
  rw [truncate, redact, String.toList_ofList, String.toList_ofList, redactFrom_eq]
  rfl

theorem ne_nil_of_mem_secretsOf {message : String} {secret : List Char}
    (h : secret ∈ secretsOf message) : secret ≠ [] :=
  of_decide_eq_true (List.mem_filter.mp h).2

theorem keepsNoSecret_iff (message : String) :
    KeepsNoSecret message (truncate 500 (redact message)) ↔ NothingLeft message := by
  refine forall₂_congr fun secret hsecret => ?_
  rw [toList_diagnostic, infix_take_iff (by decide) (ne_nil_of_mem_secretsOf hsecret), not_or]

/-- Where the pattern matches nowhere, a secret is persisted unless the cut comes before its
end. -/
theorem nothingLeft_unmatched {message : String}
    (h : ∀ rest, rest <:+ message.toList → secretAt rest = none) :
    NothingLeft message ↔
      ∀ secret ∈ secretsOf message, ¬ secret <:+: message.toList.take 500 := by
  rw [← keepsNoSecret_iff, KeepsNoSecret, toList_diagnostic, runs, runsFrom_unmatched h,
    List.intercalate_singleton]

/-- The adapter has no secrets of its own to give away: what the client raises decides. -/
theorem send_nothingLeft {Response : Type} {client : HttpClient Response}
    (hpost : ∀ request failure, client.post request = .error failure → NothingLeft failure.text)
    (hstatus : ∀ response failure, client.raiseForStatus response = .error failure →
      NothingLeft failure.text) {adapter : EmailAdapter} {settings : EmailSettings}
    {eventType : String} {payload : EventPayload} {failure : Failure}
    (h : adapter.send settings client eventType payload = .error failure) :
    NothingLeft failure.text := by
  obtain rfl | rfl | ⟨request, hraised⟩ | ⟨_, response, -, hraised⟩ := send_error h
  · exact (keepsNoSecret_iff _).mp (by decide +kernel)
  · exact (keepsNoSecret_iff _).mp (by decide +kernel)
  · exact hpost request failure hraised
  · exact hstatus response failure hraised

/-- A value behind its scheme is persisted, and one that the pattern replaces is not. -/
example : ¬ NothingLeft "refused with token: Bearer abc123" ∧
    NothingLeft "refused with token=abc123 once" := by
  rw [← keepsNoSecret_iff, ← keepsNoSecret_iff]
  decide +kernel

end Breero.Outbox
