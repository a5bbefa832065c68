import Mathlib.Data.Finset.Card
import Mathlib.Data.Finset.Image

/-!
Representatives: each item has one of its options, and items in conflict have different
ones.

* `Represents.mono`: fewer items, with more options, keep their representatives;
* `Represents.extend`: a new item has an option that no item in conflict with it has, if
  fewer of those can have one of its options than there are.
-/

namespace Representatives

variable {ι β : Type}

structure Represents (f : ι → β) (items : List ι) (options : ι → List β)
    (conflict : ι → ι → Prop) : Prop where
  option : ∀ x ∈ items, f x ∈ options x
  distinct : ∀ x ∈ items, ∀ y ∈ items, x ≠ y → conflict x y → f x ≠ f y

variable {f : ι → β} {items items' : List ι} {options options' : ι → List β}
  {conflict : ι → ι → Prop}

theorem Represents.mono (h : Represents f items options conflict) (hitems : items' ⊆ items)
    (hoptions : ∀ x ∈ items', options x ⊆ options' x) :
    Represents f items' options' conflict where
  option x hx := hoptions x hx (h.option x (hitems hx))
  distinct x hx y hy := h.distinct x (hitems hx) y (hitems hy)

open Classical in
/-- The items in conflict with `a` leave one of its options. -/
theorem exists_free_option {a : ι} {taken : List ι} (hnodup : (options a).Nodup)
    (htaken : ∀ x ∈ items, conflict x a → f x ∈ options a → x ∈ taken)
    (hfew : taken.length < (options a).length) :
    ∃ b ∈ options a, ∀ x ∈ items, conflict x a → f x ≠ b := by
  have hcard : (taken.toFinset.image f).card < (options a).toFinset.card := by
    have himage : (taken.toFinset.image f).card ≤ taken.toFinset.card := Finset.card_image_le
    have hlist : taken.toFinset.card ≤ taken.length := List.toFinset_card_le taken
    rw [List.toFinset_card_of_nodup hnodup]
    omega
  obtain ⟨b, hb, hfree⟩ := Finset.exists_mem_notMem_of_card_lt_card hcard
  have hb' : b ∈ options a := List.mem_toFinset.mp hb
  refine ⟨b, hb', ?_⟩
  rintro x hx hconflict rfl
  exact hfree (Finset.mem_image_of_mem f (List.mem_toFinset.mpr (htaken x hx hconflict hb')))

open Classical in
/-- The greedy step. -/
theorem Represents.extend (h : Represents f items options conflict) {a : ι} {taken : List ι}
    (hnew : a ∉ items) (hsymm : ∀ x y, conflict x y → conflict y x)
    (hnodup : (options a).Nodup)
    (htaken : ∀ x ∈ items, conflict x a → f x ∈ options a → x ∈ taken)
    (hfew : taken.length < (options a).length) :
    ∃ g, Represents g (items ++ [a]) options conflict := by
  obtain ⟨b, hb, hfree⟩ := exists_free_option hnodup htaken hfew
  have hold : ∀ x ∈ items, Function.update f a b x = f x := by
    intro x hx
    refine Function.update_of_ne ?_ b f
    rintro rfl
    exact hnew hx
  have hself : Function.update f a b a = b := Function.update_self a b f
  refine ⟨Function.update f a b, ?_, ?_⟩
  · intro x hx
    rcases List.mem_append.mp hx with hx | hx
    · rw [hold x hx]
      exact h.option x hx
    · rw [List.mem_singleton.mp hx, hself]
      exact hb
  · intro x hx y hy hne hconflict
    rcases List.mem_append.mp hx with hx' | hx' <;> rcases List.mem_append.mp hy with hy' | hy'
    · rw [hold x hx', hold y hy']
      exact h.distinct x hx' y hy' hne hconflict
    · obtain rfl := List.mem_singleton.mp hy'
      rw [hold x hx', hself]
      exact hfree x hx' hconflict
    · obtain rfl := List.mem_singleton.mp hx'
      rw [hold y hy', hself]
      exact (hfree y hy' (hsymm _ _ hconflict)).symm
    · exact absurd ((List.mem_singleton.mp hx').trans (List.mem_singleton.mp hy').symm) hne

end Representatives
