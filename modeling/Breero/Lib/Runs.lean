import Mathlib.Data.List.Pairwise

/-!
Runs of a deterministic system: `exec s i` is the state after the labelled step
`i` from `s`, and a run is the list of its labels. A step the system refuses
leaves the state as it is.

* `Along P` says that every step of a run satisfies `P` in the state it starts
  from, `Always Q` that every state visited satisfies `Q`, and `AnyTwo R` that any two
  of them are related;
* `always_of_inv` is induction over a run, `pairwise_of_step` the same for a
  relation between any earlier and any later state;
* `countSteps_le_one` bounds how often a step can fire that closes a latch.
-/

namespace Runs

variable {σ ι : Type} (exec : σ → ι → σ)

def run (s : σ) (ops : List ι) : σ := ops.foldl exec s

/-- Every state the run visits, the first and the last included. -/
def states (s : σ) : List ι → List σ
  | [] => [s]
  | i :: ops => s :: states (exec s i) ops

def Along (P : σ → ι → Prop) (s : σ) : List ι → Prop
  | [] => True
  | i :: ops => P s i ∧ Along P (exec s i) ops

def Always (Q : σ → Prop) (s : σ) (ops : List ι) : Prop := ∀ t ∈ states exec s ops, Q t

/-- Any two states of the run, in either order, are related. -/
def AnyTwo (R : σ → σ → Prop) (s : σ) (ops : List ι) : Prop :=
  ∀ t ∈ states exec s ops, ∀ u ∈ states exec s ops, R t u

/-- The number of steps of the run that satisfy `p`. -/
def countSteps (p : σ → ι → Bool) (s : σ) : List ι → Nat
  | [] => 0
  | i :: ops => (if p s i then 1 else 0) + countSteps p (exec s i) ops

instance Along.decidable (P : σ → ι → Prop) [∀ s i, Decidable (P s i)] :
    ∀ (s : σ) (ops : List ι), Decidable (Along exec P s ops)
  | _, [] => isTrue trivial
  | s, i :: ops =>
    have := Along.decidable P (exec s i) ops
    inferInstanceAs (Decidable (P s i ∧ Along exec P (exec s i) ops))

instance Always.decidable (Q : σ → Prop) [DecidablePred Q] (s : σ) (ops : List ι) :
    Decidable (Always exec Q s ops) :=
  inferInstanceAs (Decidable (∀ t ∈ states exec s ops, Q t))

instance AnyTwo.decidable (R : σ → σ → Prop) [DecidableRel R] (s : σ) (ops : List ι) :
    Decidable (AnyTwo exec R s ops) :=
  inferInstanceAs (Decidable (∀ t ∈ states exec s ops, ∀ u ∈ states exec s ops, R t u))

variable {exec} {P P' : σ → ι → Prop} {Q I : σ → Prop} {s : σ} {ops : List ι}

theorem start_mem_states (s : σ) (ops : List ι) : s ∈ states exec s ops := by
  cases ops <;> simp [states]

theorem run_mem_states (s : σ) (ops : List ι) : run exec s ops ∈ states exec s ops := by
  induction ops generalizing s with
  | nil => simp [states, run]
  | cons i ops ih => exact List.mem_cons_of_mem _ (ih (exec s i))

theorem along_of_forall (h : ∀ s i, P s i) : Along exec P s ops := by
  induction ops generalizing s with
  | nil => trivial
  | cons i ops ih => exact ⟨h s i, ih⟩

theorem Along.and (h : Along exec P s ops) (h' : Along exec P' s ops) :
    Along exec (fun s i => P s i ∧ P' s i) s ops := by
  induction ops generalizing s with
  | nil => trivial
  | cons i ops ih => exact ⟨⟨h.1, h'.1⟩, ih h.2 h'.2⟩

/-- Steps that satisfy `P` satisfy `P'` where the invariant of `P` holds. -/
theorem Along.imp (hinv : ∀ s i, I s → P s i → I (exec s i))
    (himp : ∀ s i, I s → P s i → P' s i) (hs : I s) (h : Along exec P s ops) :
    Along exec P' s ops := by
  induction ops generalizing s with
  | nil => trivial
  | cons i ops ih => exact ⟨himp s i hs h.1, ih (hinv s i hs h.1) h.2⟩

/-- Induction over a run. -/
theorem always_of_inv (hinv : ∀ s i, I s → P s i → I (exec s i)) (hs : I s)
    (h : Along exec P s ops) : Always exec I s ops := by
  induction ops generalizing s with
  | nil =>
    intro t ht
    rw [states, List.mem_singleton] at ht
    exact ht ▸ hs
  | cons i ops ih =>
    intro t ht
    rcases List.mem_cons.mp ht with rfl | ht
    · exact hs
    · exact ih (hinv s i hs h.1) h.2 t ht

theorem Always.imp (himp : ∀ s, Q s → I s) (h : Always exec Q s ops) :
    Always exec I s ops :=
  fun t ht => himp t (h t ht)

/-- A property that, from the invariant of `P`, a step can only lead to if it satisfies
`P`. -/
theorem along_of_always_inv (hinv : ∀ s i, I s → P s i → I (exec s i))
    (hstep : ∀ s i, I s → Q (exec s i) → P s i) (hs : I s) (h : Always exec Q s ops) :
    Along exec P s ops := by
  induction ops generalizing s with
  | nil => trivial
  | cons i ops ih =>
    have hrest : Always exec Q (exec s i) ops := fun t ht => h t (List.mem_cons_of_mem _ ht)
    have hp := hstep s i hs (hrest _ (start_mem_states _ _))
    exact ⟨hp, ih (hinv s i hs hp) hrest⟩

/-- A property that a step can only lead to if it satisfies `P`. -/
theorem along_of_always (hstep : ∀ s i, Q (exec s i) → P s i) (h : Always exec Q s ops) :
    Along exec P s ops :=
  along_of_always_inv (I := fun _ => True) (fun _ _ _ _ => trivial)
    (fun s i _ => hstep s i) trivial h

/-- A reflexive and transitive relation kept by every step holds between any
earlier and any later state of the run. -/
theorem pairwise_of_step {R : σ → σ → Prop} (hrefl : ∀ s, R s s)
    (htrans : ∀ s t u, R s t → R t u → R s u)
    (hinv : ∀ s i, I s → P s i → I (exec s i))
    (hstep : ∀ s i, I s → P s i → R s (exec s i)) (hs : I s)
    (h : Along exec P s ops) : (states exec s ops).Pairwise R := by
  have hfrom : ∀ (ops : List ι) (s : σ), I s → Along exec P s ops →
      ∀ t ∈ states exec s ops, R s t := by
    intro ops
    induction ops with
    | nil =>
      intro s _ _ t ht
      rw [states, List.mem_singleton] at ht
      exact ht ▸ hrefl s
    | cons i ops ih =>
      intro s hs h t ht
      rcases List.mem_cons.mp ht with rfl | ht
      · exact hrefl t
      · exact htrans _ _ _ (hstep s i hs h.1) (ih _ (hinv s i hs h.1) h.2 t ht)
  induction ops generalizing s with
  | nil => simp [states]
  | cons i ops ih =>
    rw [states, List.pairwise_cons]
    refine ⟨fun t ht => ?_, ih (hinv s i hs h.1) h.2⟩
    exact htrans _ _ _ (hstep s i hs h.1) (hfrom ops _ (hinv s i hs h.1) h.2 t ht)

/-- A relation that holds between any earlier and any later state holds across
each step. -/
theorem step_of_pairwise {R : σ → σ → Prop} (h : (states exec s ops).Pairwise R) :
    Along exec (fun s i => R s (exec s i)) s ops := by
  induction ops generalizing s with
  | nil => trivial
  | cons i ops ih =>
    rw [states, List.pairwise_cons] at h
    exact ⟨h.1 _ (start_mem_states _ _), ih h.2⟩

theorem anyTwo_of_pairwise {R : σ → σ → Prop} (hsymm : ∀ t u, R t u → R u t)
    (hsame : Always exec (fun t => R t t) s ops) (h : (states exec s ops).Pairwise R) :
    AnyTwo exec R s ops := by
  have : Std.Symm R := ⟨hsymm⟩
  exact fun t ht u hu => List.Pairwise.forall_of_forall hsame h ht hu

theorem countSteps_eq_zero {p : σ → ι → Bool} {L : σ → Prop}
    (hinv : ∀ s i, I s → P s i → I (exec s i))
    (hopen : ∀ s i, I s → P s i → p s i = true → ¬ L s)
    (hkeep : ∀ s i, I s → P s i → L s → L (exec s i))
    (hs : I s) (hl : L s) (h : Along exec P s ops) :
    countSteps exec p s ops = 0 := by
  induction ops generalizing s with
  | nil => rfl
  | cons i ops ih =>
    have hp : p s i = false := by
      cases hp : p s i with
      | false => rfl
      | true => exact absurd hl (hopen s i hs h.1 hp)
    rw [countSteps, hp, ih (hinv s i hs h.1) (hkeep s i hs h.1 hl) h.2]
    rfl

/-- A step that needs the latch open and closes it for good fires at most once. -/
theorem countSteps_le_one {p : σ → ι → Bool} {L : σ → Prop}
    (hinv : ∀ s i, I s → P s i → I (exec s i))
    (hopen : ∀ s i, I s → P s i → p s i = true → ¬ L s)
    (hclose : ∀ s i, I s → P s i → p s i = true → L (exec s i))
    (hkeep : ∀ s i, I s → P s i → L s → L (exec s i))
    (hs : I s) (h : Along exec P s ops) : countSteps exec p s ops ≤ 1 := by
  induction ops generalizing s with
  | nil => exact Nat.zero_le _
  | cons i ops ih =>
    have hs' := hinv s i hs h.1
    rw [countSteps]
    cases hp : p s i with
    | false => simpa using ih hs' h.2
    | true =>
      have hzero := countSteps_eq_zero hinv hopen hkeep hs' (hclose s i hs h.1 hp) h.2
      simp [hzero]

end Runs
