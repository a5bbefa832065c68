import Breero.Lib.Windows

/-!
Items with windows, on days that limit them: how many at one instant, how many on the day,
and how much they weigh on it together.

* `Calendar.Kept` says that a list of items keeps the limits of the days of its items;
* `Kept.of_subset`: fewer items keep them;
* `Kept.add`: an item with room on its day keeps them, if what it meets is of that day.
-/

namespace Windows

structure Limits where
  atOnce : Int
  count : Int
  weight : Int
  deriving DecidableEq, Repr

structure Calendar (α δ τ : Type) where
  window : α → Window τ
  weight : α → Int
  day : α → Option δ
  touches : δ → Window τ → Bool
  limits : δ → Limits

namespace Calendar

section Days

variable {α δ τ : Type} (cal : Calendar α δ τ)

def onDay (items : List α) (d : δ) : List α :=
  items.filter fun x => cal.touches d (cal.window x)

variable {cal} {items items' : List α}

theorem mem_onDay {d : δ} {x : α} :
    x ∈ cal.onDay items d ↔ x ∈ items ∧ cal.touches d (cal.window x) = true :=
  List.mem_filter

theorem onDay_subperm (hnodup : items'.Nodup) {d : δ}
    (hsub : ∀ x ∈ items', cal.touches d (cal.window x) = true → x ∈ items) :
    List.Subperm (cal.onDay items' d) (cal.onDay items d) := by
  refine List.subperm_of_subset (hnodup.filter _) ?_
  intro x hx
  obtain ⟨hmem, htouches⟩ := mem_onDay.mp hx
  exact mem_onDay.mpr ⟨hsub x hmem htouches, htouches⟩

end Days

variable {α δ τ : Type} [LinearOrder τ] (cal : Calendar α δ τ)

/-- The items keep the limits of the day `d` of the item `x`. -/
structure Within (items : List α) (d : δ) (x : α) : Prop where
  atOnce : ∀ t, (cal.window x).covers t = true →
    (depth cal.window items t : Int) ≤ (cal.limits d).atOnce
  count : ((cal.onDay items d).length : Int) ≤ (cal.limits d).count
  weight : ((cal.onDay items d).map cal.weight).sum ≤ (cal.limits d).weight

def Kept (items : List α) : Prop := ∀ x ∈ items, ∀ d ∈ cal.day x, cal.Within items d x

instance (items : List α) : Decidable (cal.Kept items) :=
  decidable_of_iff
    (∀ x ∈ items, ∀ d ∈ cal.day x,
      (∀ y ∈ items, (cal.window x).covers (cal.window y).start = true →
        (depth cal.window items (cal.window y).start : Int) ≤ (cal.limits d).atOnce) ∧
      ((cal.onDay items d).length : Int) ≤ (cal.limits d).count ∧
      ((cal.onDay items d).map cal.weight).sum ≤ (cal.limits d).weight)
    (forall₂_congr fun x hx => forall₂_congr fun d _ => by
      constructor
      · rintro ⟨hstarts, hcount, hweight⟩
        exact ⟨(depth_le_iff_starts hx).mpr hstarts, hcount, hweight⟩
      · rintro ⟨hall, hcount, hweight⟩
        exact ⟨(depth_le_iff_starts hx).mp hall, hcount, hweight⟩)

variable {cal} {items items' : List α} {d d₀ : δ} {x y : α}

/-! ## Fewer items -/

theorem Within.of_fewer (h : cal.Within items d x)
    (hdepth : ∀ t, (cal.window x).covers t = true →
      depth cal.window items' t ≤ depth cal.window items t)
    (hday : List.Subperm (cal.onDay items' d) (cal.onDay items d))
    (hpos : ∀ y ∈ items, 0 ≤ cal.weight y) : cal.Within items' d x := by
  constructor
  · intro t ht
    have hle := hdepth t ht
    have hlimit := h.atOnce t ht
    omega
  · have hle := hday.length_le
    have hlimit := h.count
    omega
  · have hle := sum_le_of_subperm (f := cal.weight) hday
      fun y hy => hpos y (mem_onDay.mp hy).1
    exact hle.trans h.weight

theorem Kept.of_subset (h : cal.Kept items) (hnodup : items'.Nodup) (hsub : items' ⊆ items)
    (hpos : ∀ y ∈ items, 0 ≤ cal.weight y) : cal.Kept items' := by
  intro x hx d hd
  exact (h x (hsub hx) d hd).of_fewer
    (fun t _ => depth_le_of_subperm (List.subperm_of_subset hnodup hsub) t)
    (onDay_subperm hnodup fun y hy _ => hsub hy) hpos

/-! ## One more item -/

/-- The day `d` has room for the item `x` beside the others. -/
structure Room (cal : Calendar α δ τ) (items : List α) (d : δ) (x : α) : Prop where
  atOnce : (items.countP fun y => (cal.window y).meets (cal.window x) : Int) <
    (cal.limits d).atOnce
  count : ((cal.onDay items d).length : Int) < (cal.limits d).count
  weight : ((cal.onDay items d).map cal.weight).sum + cal.weight x ≤ (cal.limits d).weight

/-- The items that meet the window, or whose days it touches, are of the day `d`. -/
def OneDay (cal : Calendar α δ τ) (items : List α) (d : δ) (w : Window τ) : Prop :=
  ∀ y ∈ items, ((cal.window y).meets w = true ∨ ∃ e ∈ cal.day y, cal.touches e w = true) →
    cal.day y = some d

instance [DecidableEq δ] (items : List α) (d : δ) (w : Window τ) :
    Decidable (cal.OneDay items d w) :=
  inferInstanceAs (Decidable (∀ y ∈ items, (_ ∨ ∃ e ∈ cal.day y, _) → _))

/-- The limits of the day of the new item. -/
theorem Room.within (hroom : cal.Room items d₀ x) (hnodup : items'.Nodup)
    (hsub : items' ⊆ x :: items) (hpos : ∀ y ∈ x :: items, 0 ≤ cal.weight y)
    (hkept : ∀ t, (cal.window y).covers t = true → (cal.window x).covers t = false →
      (depth cal.window items t : Int) ≤ (cal.limits d₀).atOnce) : cal.Within items' d₀ y := by
  have hday : List.Subperm (cal.onDay items' d₀) (x :: cal.onDay items d₀) := by
    refine List.subperm_of_subset (hnodup.filter _) ?_
    intro z hz
    obtain ⟨hmem, htouches⟩ := mem_onDay.mp hz
    rcases List.mem_cons.mp (hsub hmem) with rfl | hmem
    · exact List.mem_cons_self
    · exact List.mem_cons_of_mem _ (mem_onDay.mpr ⟨hmem, htouches⟩)
  constructor
  · intro t ht
    have hle : depth cal.window items' t ≤ depth cal.window (x :: items) t :=
      depth_le_of_subperm (List.subperm_of_subset hnodup hsub) t
    rw [depth_cons] at hle
    cases hcovers : (cal.window x).covers t with
    | true =>
      -- whatever covers the instant meets the new item
      have hmeet : depth cal.window items t ≤
          items.countP fun y => (cal.window y).meets (cal.window x) := by
        refine List.countP_mono_left ?_
        intro z _ hz
        exact Window.meets_of_covers hz hcovers
      have hless := hroom.atOnce
      rw [hcovers, if_pos rfl] at hle
      omega
    | false =>
      have hold := hkept t ht hcovers
      rw [hcovers, if_neg Bool.false_ne_true] at hle
      omega
  · have hle := hday.length_le
    have hless := hroom.count
    rw [List.length_cons] at hle
    omega
  · have hle : ((cal.onDay items' d₀).map cal.weight).sum ≤
        ((x :: cal.onDay items d₀).map cal.weight).sum := by
      refine sum_le_of_subperm hday ?_
      intro z hz
      rcases List.mem_cons.mp hz with rfl | hz
      · exact hpos z List.mem_cons_self
      · exact hpos z (List.mem_cons_of_mem _ (mem_onDay.mp hz).1)
    have hless := hroom.weight
    rw [List.map_cons, List.sum_cons] at hle
    omega

theorem Kept.add (h : cal.Kept items) (hday : cal.day x = some d₀)
    (hroom : cal.Room items d₀ x) (hone : cal.OneDay items d₀ (cal.window x))
    (hnodup : items'.Nodup)
    (hsub : items' ⊆ x :: items) (hpos : ∀ y ∈ x :: items, 0 ≤ cal.weight y) :
    cal.Kept items' := by
  intro y hy d hd
  rcases List.mem_cons.mp (hsub hy) with rfl | hmem
  · rw [hday] at hd
    cases hd
    refine hroom.within hnodup hsub hpos fun t ht hoff => ?_
    rw [ht] at hoff
    cases hoff
  · have hold := h y hmem d hd
    by_cases hsame : d = d₀
    · subst hsame
      exact hroom.within hnodup hsub hpos fun t ht _ => hold.atOnce t ht
    · -- an item of another day shares neither an instant nor its day with the new one
      have hapart : (cal.window y).meets (cal.window x) = false ∧
          cal.touches d (cal.window x) = false := by
        constructor
        · rw [← Bool.not_eq_true]
          intro hmeets
          rw [hone y hmem (Or.inl hmeets)] at hd
          exact hsame (Option.some.inj hd).symm
        · rw [← Bool.not_eq_true]
          intro htouches
          rw [hone y hmem (Or.inr ⟨d, hd, htouches⟩)] at hd
          exact hsame (Option.some.inj hd).symm
      refine hold.of_fewer ?_ ?_ fun z hz => hpos z (List.mem_cons_of_mem _ hz)
      · intro t ht
        have hoff : (cal.window x).covers t = false := by
          rw [← Bool.not_eq_true]
          intro hcovers
          rw [Window.meets_of_covers ht hcovers] at hapart
          cases hapart.1
        have hle : depth cal.window items' t ≤ depth cal.window (x :: items) t :=
          depth_le_of_subperm (List.subperm_of_subset hnodup hsub) t
        rwa [depth_cons, hoff, if_neg Bool.false_ne_true] at hle
      · refine onDay_subperm hnodup fun z hz htouches => ?_
        rcases List.mem_cons.mp (hsub hz) with rfl | hz
        · rw [hapart.2] at htouches
          cases htouches
        · exact hz

end Calendar

end Windows
