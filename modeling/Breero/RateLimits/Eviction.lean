import Breero.RateLimits.Service

/-!
Buckets are dropped without a trace: a bucket that is idle for two windows would be full again.

* `Ideal` is a limiter that keeps every bucket;
* `Mirrors.served` and `Mirrors.refused` are a request that the limiter serves and one that it
  refuses as its table is full, `shown_eq` a run;
* `eviction_invisible` adds when the table is full, and how large it gets.
-/

namespace Breero.RateLimits
open TokenBuckets

/-! ## The limiter that drops nothing -/

/-- The bucket of each key that has sent a request. -/
abbrev Ideal := String → Option (Bucket Rat)

def Ideal.tokens (limit : Limit) (ideal : Ideal) (key : String) (now : Rat) : Rat :=
  match ideal key with
  | none => limit.capacity
  | some bucket => level limit.flow bucket now

def Ideal.exec (limits : String → Limit) (ideal : Ideal) (request : Request) : Ideal :=
  let tokens := ideal.tokens (limits request.key) request.key request.now
  fun name => if name = request.key then some (spent tokens request.now) else ideal name

def Ideal.serve (limits : String → Limit) (ideal : Ideal) : List Request → List (Bool × Int)
  | [] => []
  | request :: later =>
    decision (limits request.key) (ideal.tokens (limits request.key) request.key request.now) ::
      (ideal.exec limits request).serve limits later

variable {maxKeys : Nat} {limits : String → Limit} {buckets : LocalBuckets} {ideal : Ideal}
  {key : String} {limit : Limit} {now later : Rat} {request : Request} {requests : List Request}

theorem Ideal.tokens_nonneg (h : ∀ bucket ∈ ideal key, 0 ≤ bucket.tokens) :
    0 ≤ ideal.tokens limit key now := by
  unfold Ideal.tokens
  cases hkey : ideal key with
  | none => exact Nat.cast_nonneg _
  | some bucket => exact level_nonneg (h bucket hkey)

/-! ## One request -/

/-- From `now` on, every key finds what it would find had no bucket been dropped. -/
structure Mirrors (limits : String → Limit) (buckets : LocalBuckets) (ideal : Ideal)
    (now : Rat) : Prop where
  tokens : ∀ key later, now ≤ later →
    buckets.tokens (limits key) key later = ideal.tokens (limits key) key later
  nonneg : ∀ key, ∀ bucket ∈ ideal key, 0 ≤ bucket.tokens

theorem Mirrors.start (now : Rat) : Mirrors limits ∅ (fun _ => none) now where
  tokens _ _ _ := tokens_of_none (AList.lookup_empty _)
  nonneg _ _ h := nomatch h

theorem Mirrors.served (h : Mirrors limits buckets ideal now) (hnow : now ≤ request.now)
    (hroom : tableFull maxKeys buckets request.key request.now = false) :
    Mirrors limits (exec maxKeys limits buckets request) (ideal.exec limits request)
      request.now := by
  have hsame := h.tokens request.key request.now hnow
  have hnonneg : 0 ≤ ideal.tokens (limits request.key) request.key request.now :=
    Ideal.tokens_nonneg (h.nonneg request.key)
  refine ⟨?_, ?_⟩
  · intro key later hlater
    by_cases hkey : key = request.key
    · subst hkey
      simp only [exec, Ideal.exec, Ideal.tokens, ↓reduceIte]
      rw [tokens_served hroom (hsame ▸ hnonneg), hsame]
      rfl
    · have hothers := h.tokens key later (hnow.trans hlater)
      simp only [exec, Ideal.exec, Ideal.tokens, if_neg hkey]
      rw [tokens_others hkey hlater, hothers]
      rfl
  · intro key bucket hbucket
    unfold Ideal.exec at hbucket
    split at hbucket
    · cases hbucket
      exact spent_nonneg hnonneg
    · exact h.nonneg key bucket hbucket

theorem Mirrors.refused (h : Mirrors limits buckets ideal now) (hnow : now ≤ request.now)
    (hfull : tableFull maxKeys buckets request.key request.now = true) :
    Mirrors limits (exec maxKeys limits buckets request) ideal request.now where
  tokens key later hlater :=
    (tokens_full hfull hlater).trans (h.tokens key later (hnow.trans hlater))
  nonneg := h.nonneg

/-! ## Runs -/

/-- The outcomes that are not refusals for a full table. -/
def shown (outcomes : List Outcome) : List Outcome := outcomes.filter (!·.full)

theorem shown_eq (h : Mirrors limits buckets ideal now)
    (hsorted : (now :: requests.map (·.now)).Pairwise (· ≤ ·)) :
    (shown (serve maxKeys limits buckets requests)).map (·.decision) =
      ideal.serve limits ((shown (serve maxKeys limits buckets requests)).map (·.request)) := by
  induction requests generalizing buckets ideal now with
  | nil => rfl
  | cons request requests ih =>
    obtain ⟨hnow, hrest⟩ := List.pairwise_cons.mp hsorted
    have hle : now ≤ request.now := hnow _ List.mem_cons_self
    cases hfull : tableFull maxKeys buckets request.key request.now with
    | true =>
      have hdropped : shown (serve maxKeys limits buckets (request :: requests)) =
          shown (serve maxKeys limits (exec maxKeys limits buckets request) requests) := by
        simp [shown, serve, outcome, hfull]
      rw [hdropped]
      exact ih (h.refused hle hfull) hrest
    | false =>
      have hkept : shown (serve maxKeys limits buckets (request :: requests)) =
          outcome maxKeys limits buckets request ::
            shown (serve maxKeys limits (exec maxKeys limits buckets request) requests) := by
        simp [shown, serve, outcome, hfull]
      have hdecision : (outcome maxKeys limits buckets request).decision =
          decision (limits request.key)
            (ideal.tokens (limits request.key) request.key request.now) := by
        rw [← h.tokens request.key request.now hle, outcome, consume_served hfull]
      rw [hkept, List.map_cons, List.map_cons, ih (h.served hle hfull) hrest, hdecision]
      rfl

/-! ## A full table -/

/-- The unexpired buckets of other keys. -/
def othersLive (buckets : LocalBuckets) (key : String) (now : Rat) :
    List (Sigma fun _ : String => LocalBucket) :=
  buckets.entries.filter fun entry => entry.1 ≠ key ∧ now < entry.2.expiresAt

/-- Why a request is refused for a full table, and with what answer. -/
structure Refused (maxKeys : Nat) (limits : String → Limit) (buckets : LocalBuckets)
    (request : Request) : Prop where
  answer : (outcome maxKeys limits buckets request).decision =
    (false, max 1 ((limits request.key).windowSeconds : Int))
  unseen : ∀ bucket ∈ buckets.lookup request.key, bucket.expiresAt ≤ request.now
  others : maxKeys ≤ (othersLive buckets request.key request.now).length

theorem unseen_of_none (h : (reclaimed maxKeys buckets key now).lookup key = none) :
    ∀ bucket ∈ buckets.lookup key, bucket.expiresAt ≤ now := by
  intro bucket hbucket
  rcases lookup_reclaimed maxKeys buckets key key now with hstays | ⟨-, found, hfound, hexpired⟩
  · rw [← hstays, h] at hbucket
    cases hbucket
  · cases Option.mem_unique hbucket hfound
    exact hexpired

theorem reclaimed_subset (hnone : (reclaimed maxKeys buckets key now).lookup key = none)
    (hfull : maxKeys ≤ (reclaimed maxKeys buckets key now).entries.length) :
    (reclaimed maxKeys buckets key now).entries ⊆ othersLive buckets key now := by
  rintro ⟨name, bucket⟩ hentry
  have hfound := AList.mem_lookup_iff.mpr hentry
  have hlive := not_expired_of_full hfull hfound
  have hname : name ≠ key := by
    rintro rfl
    rw [hnone] at hfound
    cases hfound
  have hold : buckets.lookup name = some bucket := by
    rcases lookup_reclaimed maxKeys buckets key name now with hstays | ⟨hpopped, -⟩
    · exact hstays ▸ hfound
    · rw [hpopped] at hfound
      cases hfound
  exact List.mem_filter.mpr ⟨AList.mem_lookup_iff.mp hold, decide_eq_true ⟨hname, hlive⟩⟩

theorem refused_of_full (h : tableFull maxKeys buckets request.key request.now = true) :
    Refused maxKeys limits buckets request := by
  have hboth := h
  simp only [tableFull, Bool.and_eq_true, Option.isNone_iff_eq_none, decide_eq_true_eq] at hboth
  obtain ⟨hnone, hfull⟩ := hboth
  refine ⟨?_, unseen_of_none hnone, ?_⟩
  · rw [outcome, consume_full h]
  · have hnodup := (reclaimed maxKeys buckets request.key request.now).nodupKeys.nodup
    exact hfull.trans (List.subperm_of_subset hnodup (reclaimed_subset hnone hfull)).length_le

/-- **Eviction is invisible.** The decisions are those of a limiter that drops nothing and is
not shown the requests refused for a full table; these are requests of a key without an unexpired
bucket while as many other keys have one as the table may hold, and it never holds more. -/
theorem eviction_invisible (maxKeys : Nat) (limits : String → Limit) (requests : List Request)
    (hsorted : (requests.map (·.now)).Pairwise (· ≤ ·)) :
    let served := shown (serve maxKeys limits ∅ requests)
    served.map (·.decision) = Ideal.serve limits (fun _ => none) (served.map (·.request)) ∧
      Runs.Along (exec maxKeys limits) (fun buckets request =>
        tableFull maxKeys buckets request.key request.now = true →
          Refused maxKeys limits buckets request) ∅ requests ∧
      Runs.Always (exec maxKeys limits) (fun buckets => buckets.entries.length ≤ maxKeys)
        ∅ requests := by
  refine ⟨?_, ?_, ?_⟩
  · cases requests with
    | nil => rfl
    | cons request requests =>
      exact shown_eq (Mirrors.start request.now) (sorted_from_first hsorted)
  · exact Runs.along_of_forall fun buckets request => refused_of_full
  · refine Runs.always_of_inv (P := fun _ _ => True) ?_ (Nat.zero_le _)
      (Runs.along_of_forall fun _ _ => trivial)
    intro buckets request h _
    exact length_consume_le h

/-- The second key finds the one place taken, and later the first key's bucket expired. -/
def twoKeys : List Request := [⟨"first", 0⟩, ⟨"second", 1⟩, ⟨"second", 200⟩]

theorem twoKeys_eviction_invisible :
    (serve 1 (fun _ => oneAMinute) ∅ twoKeys).map (·.full) = [false, true, false] ∧
      (shown (serve 1 (fun _ => oneAMinute) ∅ twoKeys)).map (·.decision) =
        Ideal.serve (fun _ => oneAMinute) (fun _ => none)
          ((shown (serve 1 (fun _ => oneAMinute) ∅ twoKeys)).map (·.request)) :=
  ⟨by decide +kernel, (eviction_invisible 1 (fun _ => oneAMinute) twoKeys (by decide)).1⟩

end Breero.RateLimits
