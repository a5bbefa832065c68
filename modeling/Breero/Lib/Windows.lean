import Mathlib.Algebra.Order.BigOperators.Group.List
import Mathlib.Algebra.Ring.Int.Defs
import Mathlib.Data.List.MinMax
import Mathlib.Data.List.Perm.Subperm
import Mathlib.Order.Lattice

/-!
Half-open windows `[start, stop)` over a linear order, and lists of items that occupy them.

* `depth window items t` is the number of items whose window covers the point `t`;
* `countP_le_of_seen` and `sum_le_of_seen`: what is counted of a list without repetitions is
  at most what is counted of a list that has seen it;
* `depth_le_iff_starts`: a depth is bounded if it is at the starts of the windows.
-/

namespace Windows

structure Window (τ : Type) where
  start : τ
  stop : τ
  deriving DecidableEq, Repr

namespace Window

variable {τ : Type} [LinearOrder τ]

def covers (w : Window τ) (t : τ) : Bool := w.start ≤ t && t < w.stop

/-- The windows share a point. -/
def meets (v w : Window τ) : Bool := w.start < v.stop && v.start < w.stop

theorem covers_iff {w : Window τ} {t : τ} : w.covers t = true ↔ w.start ≤ t ∧ t < w.stop := by
  simp [covers]

theorem meets_iff {v w : Window τ} : v.meets w = true ↔ w.start < v.stop ∧ v.start < w.stop := by
  simp [meets]

theorem meets_of_covers {v w : Window τ} {t : τ} (hv : v.covers t = true)
    (hw : w.covers t = true) : v.meets w = true := by
  rw [covers_iff] at hv hw
  exact meets_iff.mpr ⟨hw.1.trans_lt hv.2, hv.1.trans_lt hw.2⟩

/-- No point of the first window is outside the second. -/
def within (v w : Window τ) : Bool := w.start ≤ v.start && v.stop ≤ w.stop

theorem meets_of_within {u v w : Window τ} (h : v.within w = true) (hmeets : u.meets v = true) :
    u.meets w = true := by
  simp only [within, Bool.and_eq_true, decide_eq_true_eq] at h
  rw [meets_iff] at hmeets ⊢
  exact ⟨h.1.trans_lt hmeets.1, hmeets.2.trans_le h.2⟩

end Window

/-! ## Counting what was seen -/

variable {α : Type}

theorem countP_le_of_seen {items seen : List α} {p q : α → Bool} (hnodup : items.Nodup)
    (h : ∀ x ∈ items, p x = true → x ∈ seen ∧ q x = true) : items.countP p ≤ seen.countP q := by
  rw [List.countP_eq_length_filter, List.countP_eq_length_filter]
  have hsub : items.filter p ⊆ seen.filter q := by
    intro x hx
    obtain ⟨hmem, hp⟩ := List.mem_filter.mp hx
    exact List.mem_filter.mpr (h x hmem hp)
  exact (List.subperm_of_subset (hnodup.filter p) hsub).length_le

/-- All but one of the items were seen. -/
theorem countP_le_succ {items : List α} {own : α} {p q : α → Bool} (hnodup : items.Nodup)
    (h : ∀ x ∈ items, p x = true → x = own ∨ q x = true) :
    items.countP p ≤ items.countP q + 1 := by
  rw [List.countP_eq_length_filter, List.countP_eq_length_filter]
  have hsub : items.filter p ⊆ own :: items.filter q := by
    intro x hx
    obtain ⟨hmem, hp⟩ := List.mem_filter.mp hx
    rcases h x hmem hp with rfl | hq
    · exact List.mem_cons_self
    · exact List.mem_cons_of_mem _ (List.mem_filter.mpr ⟨hmem, hq⟩)
  have hle := (List.subperm_of_subset (hnodup.filter p) hsub).length_le
  simpa using hle

theorem sum_le_of_subperm {xs ys : List α} {f : α → Int} (h : List.Subperm xs ys)
    (hpos : ∀ y ∈ ys, 0 ≤ f y) : (xs.map f).sum ≤ (ys.map f).sum := by
  obtain ⟨zs, hperm, hsub⟩ := h
  have hsum : (zs.map f).sum = (xs.map f).sum := (hperm.map f).sum_eq
  rw [← hsum]
  refine (hsub.map f).sum_le_sum ?_
  intro n hn
  obtain ⟨y, hy, rfl⟩ := List.mem_map.mp hn
  exact hpos y hy

theorem sum_le_of_seen {items seen : List α} {p : α → Bool} {f : α → Int}
    (hnodup : items.Nodup) (h : ∀ x ∈ items, p x = true → x ∈ seen)
    (hpos : ∀ y ∈ seen, 0 ≤ f y) : ((items.filter p).map f).sum ≤ (seen.map f).sum := by
  refine sum_le_of_subperm (List.subperm_of_subset (hnodup.filter p) ?_) hpos
  intro x hx
  obtain ⟨hmem, hp⟩ := List.mem_filter.mp hx
  exact h x hmem hp

/-! ## Depth -/

variable {τ : Type} [LinearOrder τ]

/-- The number of items over the point `t`. -/
def depth (window : α → Window τ) (items : List α) (t : τ) : Nat :=
  items.countP fun x => (window x).covers t

theorem depth_cons (window : α → Window τ) (x : α) (items : List α) (t : τ) :
    depth window (x :: items) t =
      depth window items t + if (window x).covers t = true then 1 else 0 :=
  List.countP_cons

theorem depth_le_of_subperm {window : α → Window τ} {xs ys : List α} (h : List.Subperm xs ys)
    (t : τ) : depth window xs t ≤ depth window ys t :=
  h.countP_le _

/-- The last window to start of those over a point: as many items are over its start. -/
theorem depth_le_start {window : α → Window τ} {items : List α} {x : α} {t : τ} (hx : x ∈ items)
    (hcovers : (window x).covers t = true) :
    ∃ y ∈ items, (window x).start ≤ (window y).start ∧ (window y).start ≤ t ∧
      depth window items t ≤ depth window items (window y).start := by
  let those := items.filter fun y => (window y).covers t
  have hthose : x ∈ those := List.mem_filter.mpr ⟨hx, hcovers⟩
  obtain ⟨y, hy⟩ : ∃ y, y ∈ List.argmax (fun y => (window y).start) those := by
    cases hmax : List.argmax (fun y => (window y).start) those with
    | none =>
      rw [List.argmax_eq_none.mp hmax] at hthose
      cases hthose
    | some y => exact ⟨y, rfl⟩
  have hlatest : ∀ z ∈ those, (window z).start ≤ (window y).start :=
    fun z hz => List.le_of_mem_argmax (f := fun y => (window y).start) hz hy
  obtain ⟨hmem, hcoversy⟩ := List.mem_filter.mp (List.argmax_mem hy)
  have hstart : (window y).start ≤ t := (Window.covers_iff.mp hcoversy).1
  refine ⟨y, hmem, hlatest x hthose, hstart, ?_⟩
  refine List.countP_mono_left ?_
  intro z hz hcoversz
  have hlast := hlatest z (List.mem_filter.mpr ⟨hz, hcoversz⟩)
  exact Window.covers_iff.mpr ⟨hlast, hstart.trans_lt (Window.covers_iff.mp hcoversz).2⟩

/-- It is enough to count at the starts of the windows. -/
theorem depth_le_iff_starts {window : α → Window τ} {items : List α} {x : α} {n : Int}
    (hx : x ∈ items) :
    (∀ t, (window x).covers t = true → (depth window items t : Int) ≤ n) ↔
      ∀ y ∈ items, (window x).covers (window y).start = true →
        (depth window items (window y).start : Int) ≤ n := by
  constructor
  · intro h y _ hcovers
    exact h _ hcovers
  · intro h t hcovers
    obtain ⟨y, hy, hlast, hstart, hle⟩ := depth_le_start hx hcovers
    refine (Int.ofNat_le.mpr hle).trans (h y hy ?_)
    exact Window.covers_iff.mpr ⟨hlast, hstart.trans_lt (Window.covers_iff.mp hcovers).2⟩

end Windows
