import Mathlib.Tactic.Common

/-!
A transaction over a store: a function that returns the new store or raises. A
transaction that raises is rolled back, so only the `ok` results are committed.

* `require` and `orRaise` are the checks of a transaction;
* `seq_committed`, `require_committed` and `orRaise_committed` take a committed transaction
  apart, one check at a time;
* `commit` is what the store is after the transaction.
-/

namespace Transaction

variable {ε α β σ : Type}

def require (p : Prop) [Decidable p] (e : ε) : Except ε Unit :=
  if p then .ok () else .error e

/-- A part of the transaction that runs only if `p` holds. -/
def onlyIf (p : Prop) [Decidable p] (x : Except ε Unit) : Except ε Unit :=
  if p then x else .ok ()

def orRaise (o : Option α) (e : ε) : Except ε α :=
  match o with
  | some a => .ok a
  | none => .error e

/-- A committed sequence committed its first part and the rest after it. -/
@[simp] theorem seq_committed (first : Except ε α) (rest : α → Except ε β) (out : β) :
    (first >>= rest) = .ok out ↔ ∃ mid, first = .ok mid ∧ rest mid = .ok out := by
  rcases first with raised | mid
  · constructor
    · rintro ⟨⟩
    · rintro ⟨_, ⟨⟩, _⟩
  · exact ⟨fun h => ⟨mid, rfl, h⟩, fun ⟨_, h, hrest⟩ => by cases h; exact hrest⟩

@[simp] theorem return_committed (a out : α) :
    (pure a : Except ε α) = .ok out ↔ a = out :=
  ⟨fun h => Except.ok.inj h, fun h => congrArg Except.ok h⟩

@[simp] theorem require_committed {p : Prop} [Decidable p] {e : ε} {u : Unit} :
    require p e = .ok u ↔ p := by
  unfold require
  split <;> simp_all

@[simp] theorem onlyIf_committed {p : Prop} [Decidable p] {x : Except ε Unit} {u : Unit} :
    onlyIf p x = .ok u ↔ (p → x = .ok ()) := by
  unfold onlyIf
  split <;> simp_all

@[simp] theorem orRaise_committed {o : Option α} {e : ε} {a : α} :
    orRaise o e = .ok a ↔ o = some a := by
  cases o <;> simp [orRaise]

@[simp] theorem mapError_committed {ε' : Type} {x : Except ε α} {f : ε → ε'} {a : α} :
    x.mapError f = .ok a ↔ x = .ok a := by
  cases x <;> simp [Except.mapError]

/-! ## Raising -/

theorem isOk_iff {r : Except ε α} : r.isOk ↔ ∃ a, r = .ok a := by
  cases r with
  | error e =>
    constructor
    · intro h
      cases h
    · rintro ⟨_, h⟩
      cases h
  | ok a => exact iff_of_true rfl ⟨a, rfl⟩

theorem seq_isOk {first : Except ε α} {rest : α → Except ε β} :
    (first >>= rest).isOk ↔ ∃ a, first = .ok a ∧ (rest a).isOk := by
  cases first with
  | error e =>
    constructor
    · intro h
      cases h
    · rintro ⟨_, h, _⟩
      cases h
  | ok a =>
    constructor
    · intro h
      exact ⟨a, rfl, h⟩
    · rintro ⟨_, h, hrest⟩
      cases h
      exact hrest

theorem seq_return_isOk {first : Except ε α} {f : α → β} :
    (first >>= fun a => pure (f a)).isOk ↔ first.isOk := by
  cases first with
  | error e => exact Iff.rfl
  | ok a => exact iff_of_true rfl rfl

theorem mapError_isOk {ε' : Type} {x : Except ε α} {f : ε → ε'} : (x.mapError f).isOk ↔ x.isOk := by
  cases x <;> exact Iff.rfl

/-- A sequence raises what its first part raises, or what the rest does. -/
theorem seq_raised (first : Except ε α) (rest : α → Except ε β) (e : ε) :
    (first >>= rest) = .error e ↔
      first = .error e ∨ ∃ mid, first = .ok mid ∧ rest mid = .error e := by
  rcases first with raised | mid
  · simp [bind, Except.bind]
  · simp [bind, Except.bind]

theorem require_raised {p : Prop} [Decidable p] {e e' : ε} :
    require p e = .error e' ↔ ¬ p ∧ e = e' := by
  unfold require
  split <;> simp_all

theorem orRaise_raised {o : Option α} {e e' : ε} :
    orRaise o e = .error e' ↔ o = none ∧ e = e' := by
  cases o <;> simp [orRaise]

theorem return_raised (a : α) (e : ε) : (pure a : Except ε α) = .error e ↔ False := by
  simp [pure, Except.pure]

/-! ### What is not raised -/

theorem seq_ne_raised {first : Except ε α} {rest : α → Except ε β} {e : ε}
    (hfirst : first ≠ .error e) (hrest : ∀ a, rest a ≠ .error e) :
    (first >>= rest) ≠ .error e := by
  intro h
  rcases (seq_raised first rest e).mp h with h | ⟨a, _, h⟩
  · exact hfirst h
  · exact hrest a h

theorem require_ne_raised {p : Prop} [Decidable p] {e e' : ε} (h : e ≠ e') :
    require p e ≠ .error e' :=
  fun hraised => h (require_raised.mp hraised).2

theorem orRaise_ne_raised {o : Option α} {e e' : ε} (h : e ≠ e') : orRaise o e ≠ .error e' :=
  fun hraised => h (orRaise_raised.mp hraised).2

theorem return_ne_raised (a : α) (e : ε) : (pure a : Except ε α) ≠ .error e :=
  fun hraised => (return_raised a e).mp hraised

/-! ## Committing -/

/-- The store after a transaction that started in `s`. -/
def commit (s : σ) (r : Except ε (σ × α)) : σ :=
  match r with
  | .ok (t, _) => t
  | .error _ => s

theorem commit_raised {s : σ} {r : Except ε (σ × α)} (h : ¬ r.isOk) : commit s r = s := by
  cases r with
  | error e => rfl
  | ok p => exact absurd rfl h

theorem commit_ok {s t : σ} {r : Except ε (σ × α)} {a : α} (h : r = .ok (t, a)) :
    commit s r = t := by
  rw [h]
  rfl

theorem isOk_of_eq {r : Except ε α} {a : α} (h : r = .ok a) : r.isOk := by
  rw [h]
  rfl

theorem eq_ok_of_isOk {r : Except ε (σ × α)} (h : r.isOk) : ∃ t a, r = .ok (t, a) := by
  cases r with
  | error e => cases h
  | ok p => exact ⟨p.1, p.2, rfl⟩

theorem map_fst_ok {r : Except ε (σ × α)} {s : σ} (h : r.map Prod.fst = .ok s) :
    ∃ a, r = .ok (s, a) := by
  cases r with
  | error e => cases h
  | ok p =>
    cases h
    exact ⟨p.2, rfl⟩

/-- What every committed transaction keeps holds after it, raised or not. -/
theorem commit_induction {s : σ} {r : Except ε (σ × α)} {motive : σ → Prop} (hs : motive s)
    (h : ∀ t a, r = .ok (t, a) → motive t) : motive (commit s r) := by
  cases r with
  | error e => exact hs
  | ok p => exact h p.1 p.2 rfl

end Transaction
