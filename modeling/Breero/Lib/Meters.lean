import Breero.Lib.Runs
import Breero.Lib.TokenBuckets
import Mathlib.Algebra.BigOperators.Group.List.Basic

/-!
Meters: a system lets steps pass as long as there is stock, and its stock grows with a clock that
some of the steps read. The clock need not be monotone.

* `forward` is how far a clock moves forward over its readings, and `supply` what a meter can
  let pass meanwhile;
* `Metered` is what one step does to the stock, and `passed_le` what a run lets pass;
* `countSteps_le_sum` splits what passes between several meters.
-/

namespace Meters
open Runs

variable {K : Type} [Field K] [LinearOrder K]

/-! ## Clocks -/

/-- How far the clock moves forward from `last` on; what it moves back does not count. -/
def forward (last : K) : List K → K
  | [] => 0
  | now :: later => max 0 (now - last) + forward now later

/-- What can pass while the clock has these readings. -/
def supply (capacity rate : K) : List K → K
  | [] => 0
  | first :: later => capacity + forward first later * rate

variable [IsStrictOrderedRing K]

/-! ## One meter -/

section
variable {σ ι : Type} {exec : σ → ι → σ}

/-- What one step does to the stock: a step that reads the clock takes what it lets pass from the
stock, and no other step lets anything pass or adds to it. -/
structure Metered (exec : σ → ι → σ) (reading : ι → Option K) (passes : σ → ι → Bool)
    (stock : σ → K → K) (capacity rate : K) (Inv : σ → Prop) : Prop where
  inv : ∀ s i, Inv s → Inv (exec s i)
  nonneg : ∀ s now, Inv s → 0 ≤ stock s now
  le_capacity : ∀ s now, Inv s → stock s now ≤ capacity
  moved : ∀ s now later, Inv s → stock s later ≤ stock s now + max 0 (later - now) * rate
  paid : ∀ s i now, Inv s → reading i = some now →
    (if passes s i then 1 else 0) + stock (exec s i) now ≤ stock s now
  idle : ∀ s i now, Inv s → reading i = none →
    passes s i = false ∧ stock (exec s i) now ≤ stock s now

namespace Metered
variable {reading : ι → Option K} {passes : σ → ι → Bool} {stock : σ → K → K} {capacity rate : K}
  {Inv : σ → Prop} {s : σ}

theorem passed_le_stock (h : Metered exec reading passes stock capacity rate Inv) (hs : Inv s)
    (last : K) (steps : List ι) :
    (countSteps exec passes s steps : K) ≤
      stock s last + forward last (steps.filterMap reading) * rate := by
  induction steps generalizing s last with
  | nil =>
    have hnonneg := h.nonneg s last hs
    simpa [countSteps, forward] using hnonneg
  | cons i steps ih =>
    have hrest := ih (h.inv s i hs)
    cases hread : reading i with
    | none =>
      obtain ⟨hpasses, hstock⟩ := h.idle s i last hs hread
      have hle := hrest last
      simp only [countSteps, hpasses, Bool.false_eq_true, if_false, zero_add,
        List.filterMap_cons_none hread]
      linarith
    | some now =>
      have hpaid := h.paid s i now hs hread
      have hmoved := h.moved s last now hs
      have hle := hrest now
      simp only [countSteps, List.filterMap_cons_some hread, forward, Nat.cast_add, Nat.cast_ite,
        Nat.cast_one, Nat.cast_zero, add_mul]
      linarith

/-- What a run lets pass is no more than the capacity and what flows in. -/
theorem passed_le (h : Metered exec reading passes stock capacity rate Inv) (hs : Inv s)
    (steps : List ι) :
    (countSteps exec passes s steps : K) ≤
      supply capacity rate (steps.filterMap reading) := by
  induction steps generalizing s with
  | nil => simp [countSteps, supply]
  | cons i steps ih =>
    cases hread : reading i with
    | none =>
      have hle := ih (h.inv s i hs)
      have hpasses := (h.idle s i 0 hs hread).1
      simpa [countSteps, hpasses, List.filterMap_cons_none hread] using hle
    | some now =>
      have hpaid := h.paid s i now hs hread
      have hcapacity := h.le_capacity s now hs
      have hle := h.passed_le_stock (h.inv s i hs) now steps
      simp only [countSteps, List.filterMap_cons_some hread, supply, Nat.cast_add,
        Nat.cast_ite, Nat.cast_one, Nat.cast_zero]
      linarith

end Metered

/-! ## Several meters -/

theorem countSteps_le_add {p q r : σ → ι → Bool} {steps : List ι} {s : σ}
    (h : ∀ i ∈ steps, ∀ s, p s i → q s i ∨ r s i) :
    countSteps exec p s steps ≤ countSteps exec q s steps + countSteps exec r s steps := by
  induction steps generalizing s with
  | nil => exact le_rfl
  | cons i steps ih =>
    have hrest := ih (s := exec s i) fun j hj => h j (List.mem_cons_of_mem _ hj)
    have hfirst : (if p s i then 1 else 0) ≤
        (if q s i then 1 else 0) + (if r s i then 1 else 0 : Nat) := by
      cases hp : p s i with
      | false => simp
      | true =>
        rcases h i List.mem_cons_self s hp with hq | hr
        · simp [hq]
        · simp [hr]
    simp only [countSteps]
    omega

theorem countSteps_eq_zero {p : σ → ι → Bool} {steps : List ι} {s : σ}
    (h : ∀ i ∈ steps, ∀ s, p s i = false) : countSteps exec p s steps = 0 := by
  induction steps generalizing s with
  | nil => rfl
  | cons i steps ih =>
    rw [countSteps, h i List.mem_cons_self, ih fun j hj => h j (List.mem_cons_of_mem _ hj)]
    rfl

/-- What passes is bounded by the bounds of the meters one of which it passes by. -/
theorem countSteps_le_sum {α : Type} {p : σ → ι → Bool} {q : α → σ → ι → Bool} {steps : List ι}
    {s : σ} {bound : α → K} (meters : List α)
    (h : ∀ i ∈ steps, ∀ s, p s i → ∃ a ∈ meters, q a s i)
    (hbound : ∀ a ∈ meters, (countSteps exec (q a) s steps : K) ≤ bound a) :
    (countSteps exec p s steps : K) ≤ (meters.map bound).sum := by
  induction meters generalizing p with
  | nil =>
    have hnone : ∀ i ∈ steps, ∀ s, p s i = false := by
      intro i hi s
      rw [Bool.eq_false_iff]
      intro hp
      obtain ⟨_, ha, _⟩ := h i hi s hp
      cases ha
    rw [countSteps_eq_zero hnone]
    simp
  | cons a meters ih =>
    let others : σ → ι → Bool := fun s i => meters.any fun b => q b s i
    have hsplit : ∀ i ∈ steps, ∀ s, p s i → q a s i ∨ others s i := by
      intro i hi s hp
      obtain ⟨b, hb, hq⟩ := h i hi s hp
      rcases List.mem_cons.mp hb with rfl | hb
      · exact .inl hq
      · exact .inr (List.any_eq_true.mpr ⟨b, hb, hq⟩)
    have hothers : (countSteps exec others s steps : K) ≤ (meters.map bound).sum :=
      ih (fun i _ s hp => List.any_eq_true.mp hp) fun b hb => hbound b (List.mem_cons_of_mem _ hb)
    have hfirst := hbound a List.mem_cons_self
    have hboth : (countSteps exec p s steps : K) ≤
        countSteps exec (q a) s steps + countSteps exec others s steps := by
      exact_mod_cast countSteps_le_add hsplit
    rw [List.map_cons, List.sum_cons]
    linarith

end

end Meters
