import Mathlib.Data.List.Pairwise
import Mathlib.Data.List.Perm.Basic

/-!
Open transactions with exclusive locks, in a list.

* `Free` says that a transaction may take its locks, `Exclusive` that no lock is had twice;
* `Exclusive.push` and `Exclusive.eraseIdx` keep it as transactions open and close, and
  `Exclusive.others` sets one of them apart from the rest.
-/

namespace Locks

variable {α L : Type} (locks : α → List L)

/-- No open transaction has one of the locks. -/
def Free (opened : List α) (wanted : List L) : Prop :=
  ∀ other ∈ opened, ∀ lock ∈ locks other, lock ∉ wanted

instance [DecidableEq L] (opened : List α) (wanted : List L) :
    Decidable (Free locks opened wanted) :=
  inferInstanceAs (Decidable (∀ other ∈ opened, ∀ lock ∈ locks other, lock ∉ wanted))

def Exclusive (opened : List α) : Prop :=
  opened.Pairwise fun a b => ∀ lock ∈ locks a, lock ∉ locks b

variable {locks} {opened : List α}

theorem Exclusive.push (h : Exclusive locks opened) {a : α} (hfree : Free locks opened (locks a)) :
    Exclusive locks (opened ++ [a]) := by
  refine List.pairwise_append.mpr ⟨h, List.pairwise_singleton _ _, ?_⟩
  intro other hother b hb
  rw [List.mem_singleton] at hb
  subst hb
  exact hfree other hother

theorem Exclusive.eraseIdx (h : Exclusive locks opened) (position : Nat) :
    Exclusive locks (opened.eraseIdx position) :=
  h.sublist (List.eraseIdx_sublist opened position)

/-- The others have none of the locks of the one at the position. -/
theorem Exclusive.others (h : Exclusive locks opened) {position : Nat} {a : α}
    (hat : opened[position]? = some a) :
    ∀ other ∈ opened.eraseIdx position, ∀ lock ∈ locks other, lock ∉ locks a := by
  obtain ⟨hlt, rfl⟩ := List.getElem?_eq_some_iff.mp hat
  have hsymm : ∀ {a b : α}, (∀ lock ∈ locks a, lock ∉ locks b) → ∀ lock ∈ locks b, lock ∉ locks a :=
    fun hab lock hb ha => hab lock ha hb
  have hperm := List.getElem_cons_eraseIdx_perm hlt
  have hpair := (hperm.pairwise_iff hsymm).mpr h
  intro other hother lock hlock hmem
  exact (List.pairwise_cons.mp hpair).1 other hother lock hmem hlock

end Locks
