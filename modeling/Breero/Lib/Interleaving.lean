import Breero.Lib.Locks

/-!
Interleaved transactions over one store, statement by statement.

A `Program` is a transaction: it locks, reads and writes one statement after the other, and
ends by committing or by leaving what it wrote. A `World` runs any number of them at once. A
statement reads what is committed when it runs and what its own transaction wrote before; a
lock that another transaction has is waited for, and a transaction may be aborted anywhere.

* `Program.alone` runs a program with nothing in between, and `alone_bind` takes such a run
  apart;
* `Program.Ends` follows the locks of a program to its ends, by the rules `ends_bind`,
  `ends_lockFor` and so on; `Guarded` programs read and write under some lock and commit under
  all of them;
* `exec_committed`: a guarded program that commits, whatever ran in between, has the effect
  that it has alone on the store that it commits in.
-/

namespace Interleaving
open Locks

variable {σ ε L α β ι : Type}

inductive Program (σ ε L α : Type) : Type
  | done (a : α)
  | leave (why : ε)
  | lock (l : L) (next : σ → Program σ ε L α)
  | read (next : σ → Program σ ε L α)
  | write (f : σ → σ) (next : Program σ ε L α)

namespace Program

def bind : Program σ ε L α → (α → Program σ ε L β) → Program σ ε L β
  | .done a, rest => rest a
  | .leave why, _ => .leave why
  | .lock l next, rest => .lock l fun s => (next s).bind rest
  | .read next, rest => .read fun s => (next s).bind rest
  | .write f next, rest => .write f (next.bind rest)

instance : Monad (Program σ ε L) where
  pure := .done
  bind := bind

/-- `SELECT … FOR UPDATE` of what `f` selects. -/
def lockFor (l : L) (f : σ → α) : Program σ ε L α := .lock l fun s => .done (f s)

def select (f : σ → α) : Program σ ε L α := .read fun s => .done (f s)

def update (f : σ → σ) : Program σ ε L Unit := .write f (.done ())

/-- A computation on what was read. -/
def check (x : Except ε α) : Program σ ε L α :=
  match x with
  | .ok a => .done a
  | .error why => .leave why

/-! ## Running alone -/

def alone : Program σ ε L α → σ → Except ε (α × σ)
  | .done a, s => .ok (a, s)
  | .leave why, _ => .error why
  | .lock _ next, s => (next s).alone s
  | .read next, s => (next s).alone s
  | .write f next, s => next.alone (f s)

theorem alone_bind (x : Program σ ε L α) (rest : α → Program σ ε L β) (s : σ)
    (out : β × σ) :
    (x >>= rest).alone s = .ok out ↔
      ∃ a t, x.alone s = .ok (a, t) ∧ (rest a).alone t = .ok out := by
  show (x.bind rest).alone s = .ok out ↔ _
  induction x generalizing s with
  | done a => simp [bind, alone]
  | leave why => simp [bind, alone]
  | lock l next ih => exact ih s s
  | read next ih => exact ih s s
  | write f next ih => exact ih (f s)

theorem alone_pure (a : α) (s : σ) (out : α × σ) :
    (pure a : Program σ ε L α).alone s = .ok out ↔ (a, s) = out :=
  ⟨Except.ok.inj, congrArg Except.ok⟩

theorem alone_lockFor (l : L) (f : σ → α) (s : σ) (out : α × σ) :
    (lockFor l f : Program σ ε L α).alone s = .ok out ↔ (f s, s) = out :=
  ⟨Except.ok.inj, congrArg Except.ok⟩

theorem alone_select (f : σ → α) (s : σ) (out : α × σ) :
    (select f : Program σ ε L α).alone s = .ok out ↔ (f s, s) = out :=
  ⟨Except.ok.inj, congrArg Except.ok⟩

theorem alone_update (f : σ → σ) (s : σ) (out : Unit × σ) :
    (update f : Program σ ε L Unit).alone s = .ok out ↔ ((), f s) = out :=
  ⟨Except.ok.inj, congrArg Except.ok⟩

theorem alone_check (x : Except ε α) (s : σ) (a : α) (t : σ) :
    (check x : Program σ ε L α).alone s = .ok (a, t) ↔ x = .ok a ∧ s = t := by
  cases x <;> simp [check, alone]

/-! ## Following the locks -/

/-- Under `held` the program reads and writes under some lock, and where it is done it has
locks that satisfy `post`. -/
def Ends : Program σ ε L α → List L → (α → List L → Prop) → Prop
  | .done a, held, post => post a held
  | .leave _, _, _ => True
  | .lock l next, held, post => ∀ s, (next s).Ends (l :: held) post
  | .read next, held, post => held ≠ [] ∧ ∀ s, (next s).Ends held post
  | .write _ next, held, post => held ≠ [] ∧ next.Ends held post

variable {held : List L} {post : α → List L → Prop}

@[simp] theorem ends_bind (x : Program σ ε L α) (rest : α → Program σ ε L β)
    (post : β → List L → Prop) :
    (x >>= rest).Ends held post ↔ x.Ends held fun a held => (rest a).Ends held post := by
  show (x.bind rest).Ends held post ↔ _
  induction x generalizing held with
  | done a => rfl
  | leave why => rfl
  | lock l next ih => exact forall_congr' fun s => ih s
  | read next ih => exact and_congr_right fun _ => forall_congr' fun s => ih s
  | write f next ih => exact and_congr_right fun _ => ih

@[simp] theorem ends_pure (a : α) :
    (pure a : Program σ ε L α).Ends held post ↔ post a held := Iff.rfl

@[simp] theorem ends_leave (why : ε) :
    (leave why : Program σ ε L α).Ends held post ↔ True := Iff.rfl

@[simp] theorem ends_lockFor (l : L) (f : σ → α) :
    (lockFor l f : Program σ ε L α).Ends held post ↔ ∀ s, post (f s) (l :: held) := Iff.rfl

@[simp] theorem ends_select (f : σ → α) :
    (select f : Program σ ε L α).Ends held post ↔ held ≠ [] ∧ ∀ s, post (f s) held := Iff.rfl

@[simp] theorem ends_update (f : σ → σ) (post : Unit → List L → Prop) :
    (update f : Program σ ε L Unit).Ends held post ↔ held ≠ [] ∧ post () held := Iff.rfl

@[simp] theorem ends_check (x : Except ε α) :
    (check x : Program σ ε L α).Ends held post ↔ ∀ a, x = .ok a → post a held := by
  cases x <;> simp [check, Ends]

/-- Read and written under some lock, committed under all of them. -/
def Guarded (x : Program σ ε L α) : Prop := x.Ends [] fun _ held => ∀ l, l ∈ held

end Program
open Program

/-! ## Any number of transactions -/

/-- An open transaction: what it has locked and written, and what is left of it to run. -/
structure Txn (σ ε L ι : Type) where
  label : ι
  held : List L := []
  writes : σ → σ := id
  left : Program σ ε L Unit

structure World (σ ε L ι : Type) where
  store : σ
  opened : List (Txn σ ε L ι) := []

inductive Op (ι : Type)
  | begin (label : ι)
  | advance (position : Nat)
  | abort (position : Nat)
  deriving DecidableEq, Repr

variable [DecidableEq L]

def exec (programs : ι → Program σ ε L Unit) (w : World σ ε L ι) : Op ι → World σ ε L ι
  | .begin label => { w with opened := w.opened ++ [{ label, left := programs label }] }
  | .advance position =>
    match w.opened[position]? with
    | none => w
    | some txn =>
      let others := w.opened.eraseIdx position
      match txn.left with
      | .done _ => { store := txn.writes w.store, opened := others }
      | .leave _ => { w with opened := others }
      | .lock l next =>
        if Free Txn.held others [l] then
          { w with
            opened := others ++
              [{ txn with held := l :: txn.held, left := next (txn.writes w.store) }] }
        else w
      | .read next =>
        { w with opened := others ++ [{ txn with left := next (txn.writes w.store) }] }
      | .write f next =>
        { w with opened := others ++ [{ txn with writes := f ∘ txn.writes, left := next }] }
  | .abort position => { w with opened := w.opened.eraseIdx position }

/-- The transaction that the step commits. -/
def committed (w : World σ ε L ι) : Op ι → Option ι
  | .advance position =>
    match w.opened[position]? with
    | some { left := .done _, label, .. } => some label
    | _ => none
  | _ => none

/-- What is left of a transaction does to its own view of the store what the whole program does
to the store. One that has no lock has not begun. -/
structure Standing (programs : ι → Program σ ε L Unit) (store : σ) (txn : Txn σ ε L ι) :
    Prop where
  ends : txn.left.Ends txn.held fun _ held => ∀ l, l ∈ held
  fresh : txn.held = [] → txn.left = programs txn.label ∧ txn.writes = id
  serial : txn.left.alone (txn.writes store) = (programs txn.label).alone store

structure Coherent (programs : ι → Program σ ε L Unit) (w : World σ ε L ι) : Prop where
  exclusive : Exclusive Txn.held w.opened
  standing : ∀ txn ∈ w.opened, Standing programs w.store txn

variable {programs : ι → Program σ ε L Unit} {w : World σ ε L ι}

omit [DecidableEq L] in
/-- A transaction that has not begun stands in any store. -/
theorem Standing.of_unlocked {store other : σ} {txn : Txn σ ε L ι}
    (h : Standing programs store txn) (hheld : txn.held = []) : Standing programs other txn := by
  refine ⟨h.ends, h.fresh, ?_⟩
  obtain ⟨hleft, hwrites⟩ := h.fresh hheld
  rw [hleft, hwrites]
  rfl

omit [DecidableEq L] in
theorem coherent_start (store : σ) : Coherent programs ⟨store, []⟩ :=
  ⟨List.Pairwise.nil, fun _ hmem => absurd hmem List.not_mem_nil⟩

omit [DecidableEq L] in
theorem Coherent.erase (h : Coherent programs w) (position : Nat) :
    Coherent programs { w with opened := w.opened.eraseIdx position } :=
  ⟨h.exclusive.eraseIdx position,
    fun txn hmem => h.standing txn (List.mem_of_mem_eraseIdx hmem)⟩

omit [DecidableEq L] in
/-- A transaction goes on, with locks that the others do not have. -/
theorem Coherent.proceed (h : Coherent programs w) {position : Nat} {next : Txn σ ε L ι}
    (hfree : Free Txn.held (w.opened.eraseIdx position) next.held)
    (hnext : Standing programs w.store next) :
    Coherent programs { w with opened := w.opened.eraseIdx position ++ [next] } := by
  have hrest := h.erase position
  refine ⟨hrest.exclusive.push hfree, ?_⟩
  intro txn hmem
  rcases List.mem_append.mp hmem with hmem | hmem
  · exact hrest.standing txn hmem
  · rw [List.mem_singleton] at hmem
    exact hmem ▸ hnext

omit [DecidableEq L] in
theorem Coherent.others_free (h : Coherent programs w) {position : Nat} {txn : Txn σ ε L ι}
    (hat : w.opened[position]? = some txn) :
    Free Txn.held (w.opened.eraseIdx position) txn.held :=
  h.exclusive.others hat

omit [DecidableEq L] in
/-- The others have no lock where one transaction has them all. -/
theorem Coherent.others_unlocked (h : Coherent programs w) {position : Nat}
    {txn : Txn σ ε L ι} (hat : w.opened[position]? = some txn) (hall : ∀ l, l ∈ txn.held) :
    ∀ other ∈ w.opened.eraseIdx position, other.held = [] := by
  intro other hother
  apply List.eq_nil_iff_forall_not_mem.mpr
  intro l hl
  exact h.others_free hat other hother l hl (hall l)

theorem exec_coherent (hguarded : ∀ i, (programs i).Guarded) (h : Coherent programs w)
    (op : Op ι) : Coherent programs (exec programs w op) := by
  cases op with
  | begin label =>
    have hfree : Free Txn.held w.opened ([] : List L) := fun _ _ _ _ => List.not_mem_nil
    refine ⟨h.exclusive.push hfree, ?_⟩
    intro txn hmem
    rcases List.mem_append.mp hmem with hmem | hmem
    · exact h.standing txn hmem
    · rw [List.mem_singleton] at hmem
      subst hmem
      exact ⟨hguarded label, fun _ => ⟨rfl, rfl⟩, rfl⟩
  | abort position => exact h.erase position
  | advance position =>
    simp only [exec]
    split
    · exact h
    · next txn hat =>
      have hstands := h.standing txn (List.mem_of_getElem? hat)
      have hothers := h.others_free hat
      have hends := hstands.ends
      have hserial := hstands.serial
      split
      · next hleft =>
        -- it has every lock, so the others have not begun
        rw [hleft] at hends
        refine ⟨h.exclusive.eraseIdx position, fun other hother => ?_⟩
        have hunlocked := h.others_unlocked hat hends other hother
        exact (h.standing other (List.mem_of_mem_eraseIdx hother)).of_unlocked hunlocked
      · exact h.erase position
      · next l next hleft =>
        rw [hleft] at hends hserial
        split
        · next hfree =>
          refine h.proceed ?_ ⟨hends _, fun hnil => absurd hnil (List.cons_ne_nil _ _), hserial⟩
          intro other hother lock hlock hmem
          rcases List.mem_cons.mp hmem with rfl | hmem
          · exact hfree other hother lock hlock (List.mem_singleton.mpr rfl)
          · exact hothers other hother lock hlock hmem
        · exact h
      · next next hleft =>
        rw [hleft] at hends hserial
        exact h.proceed hothers ⟨hends.2 _, fun hnil => absurd hnil hends.1, hserial⟩
      · next f next hleft =>
        rw [hleft] at hends hserial
        exact h.proceed hothers ⟨hends.2, fun hnil => absurd hnil hends.1, hserial⟩

theorem exec_uncommitted {op : Op ι} (hnone : committed w op = none) :
    (exec programs w op).store = w.store := by
  cases op with
  | begin label => rfl
  | abort position => rfl
  | advance position =>
    simp only [committed] at hnone
    simp only [exec]
    split
    · rfl
    · next txn hat =>
      obtain ⟨label, held, writes, left⟩ := txn
      cases left with
      | done a => simp [hat] at hnone
      | leave why => rfl
      | lock l next =>
        dsimp only
        split <;> rfl
      | read next => rfl
      | write f next => rfl

/-- A committed transaction did what it does alone. -/
theorem exec_committed (h : Coherent programs w) {op : Op ι} {i : ι}
    (hsome : committed w op = some i) :
    (programs i).alone w.store = .ok ((), (exec programs w op).store) := by
  cases op with
  | begin label => cases hsome
  | abort position => cases hsome
  | advance position =>
    simp only [committed] at hsome
    split at hsome
    · next a label held writes hat =>
      cases hsome
      have hserial := (h.standing _ (List.mem_of_getElem? hat)).serial
      simp only [exec, hat]
      exact hserial.symm
    · cases hsome

end Interleaving
