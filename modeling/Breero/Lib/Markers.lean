import Mathlib.Data.List.Infix

/-!
Runs of a list with a marker between them, and what can be read in the first `n` elements.

* `Stands`: a list is part of a run;
* `Spelt`: a list takes in elements of a marker;
* `infix_take_iff`: there is no third way to read it.
-/

namespace Markers

variable {α : Type*}

/-- Runs that others follow, each with its marker. -/
def front (mark : List α) (runs : List (List α)) : List α := runs.flatMap (· ++ mark)

/-- Runs with other parts between them. -/
def weave : List (List α) → List (List α) → List α
  | x :: xs, part :: parts => x ++ part ++ weave xs parts
  | x :: _, [] => x
  | [], _ => []

/-- `v` is part of a run and ends within the first `n` elements. -/
def Stands (mark : List α) (runs : List (List α)) (v : List α) (n : Nat) : Prop :=
  ∃ xs x ys, runs = xs ++ x :: ys ∧
    ∃ a, a ++ v <+: x ∧ (front mark xs).length + a.length + v.length ≤ n

/-- `v` is an end of a run, a part of the marker behind it and the beginning of what follows,
and ends within the first `n` elements. -/
def Spelt (mark : List α) (runs : List (List α)) (v : List α) (n : Nat) : Prop :=
  ∃ xs x ys, runs = xs ++ x :: ys ∧ ys ≠ [] ∧
    ∃ s m u p q, v = s ++ m ++ u ∧ m ≠ [] ∧ mark = p ++ m ++ q ∧
      s <:+ x ∧ (s = [] ∨ p = []) ∧ u <+: mark.intercalate ys ∧ (u = [] ∨ q = []) ∧
      (front mark xs).length + x.length + p.length + m.length + u.length ≤ n

variable {mark v a : List α} {runs xs ys : List (List α)} {x y : List α} {n : Nat}

theorem front_cons : front mark (x :: xs) = x ++ mark ++ front mark xs := by
  simp only [front, List.flatMap_cons]

theorem infix_take_iff_prefix {l : List α} :
    v <:+: l.take n ↔ ∃ a, a ++ v <+: l ∧ a.length + v.length ≤ n := by
  constructor
  · rintro ⟨a, b, hab⟩
    have hprefix : a ++ v <+: l.take n := ⟨b, hab⟩
    refine ⟨a, hprefix.trans (List.take_prefix n l), ?_⟩
    rw [← List.length_append]
    exact hprefix.length_le.trans (List.length_take_le n l)
  · rintro ⟨a, hprefix, hlength⟩
    rw [← List.length_append] at hlength
    have htake : a ++ v <+: l.take n := List.prefix_take_iff.mpr ⟨ hprefix, hlength⟩
    exact (List.infix_append' a v []).trans (by simpa using htake.isInfix)

theorem intercalate_append (hys : ys ≠ []) :
    mark.intercalate (xs ++ ys) = front mark xs ++ mark.intercalate ys := by
  induction xs with
  | nil => rfl
  | cons x xs ih =>
    have hrest : xs ++ ys ≠ [] := List.append_ne_nil_of_right_ne_nil xs hys
    obtain ⟨z, zs, hzs⟩ := List.exists_cons_of_ne_nil hrest
    rw [List.cons_append, hzs, List.intercalate_cons_cons, ← hzs, ih, front_cons]
    simp only [List.append_assoc]

theorem prefix_intercalate_cons : x <+: mark.intercalate (x :: ys) := by
  cases ys with
  | nil => rw [List.intercalate_singleton]
  | cons y ys =>
    rw [List.intercalate_cons_cons, List.append_assoc]
    exact List.prefix_append x _

theorem Stands.infix_take (h : Stands mark runs v n) : v <:+: (mark.intercalate runs).take n := by
  obtain ⟨xs, x, ys, rfl, a, hax, hlength⟩ := h
  refine infix_take_iff_prefix.mpr ⟨front mark xs ++ a, ?_, ?_⟩
  · rw [intercalate_append (List.cons_ne_nil x ys), List.append_assoc]
    exact (List.prefix_append_right_inj _).mpr (hax.trans prefix_intercalate_cons)
  · rw [List.length_append]
    exact hlength

theorem Spelt.infix_take (h : Spelt mark runs v n) : v <:+: (mark.intercalate runs).take n := by
  obtain ⟨xs, x, ys, rfl, hys, s, m, u, p, q, rfl, -, hmark, ⟨x', rfl⟩, hsp, hu, huq, hlength⟩ := h
  refine infix_take_iff_prefix.mpr ⟨front mark xs ++ x' ++ p, ?_, ?_⟩
  · obtain ⟨y, ys, rfl⟩ := List.exists_cons_of_ne_nil hys
    -- One of `s` and `p` is empty, and so they change places.
    have hswap : p ++ s = s ++ p := by
      rcases hsp with rfl | rfl <;> simp
    have hread : m ++ u <+: m ++ q ++ mark.intercalate (y :: ys) := by
      rcases huq with rfl | rfl
      · rw [List.append_nil, List.append_assoc]
        exact List.prefix_append m _
      · rw [List.append_nil]
        exact (List.prefix_append_right_inj m).mpr hu
    have hwhole : mark.intercalate (xs ++ (x' ++ s) :: y :: ys) =
        front mark xs ++ x' ++ s ++ p ++ (m ++ q ++ mark.intercalate (y :: ys)) := by
      rw [intercalate_append (List.cons_ne_nil _ _), List.intercalate_cons_cons]
      nth_rewrite 2 [hmark]
      simp only [List.append_assoc]
    have hwindow : front mark xs ++ x' ++ p ++ (s ++ m ++ u) =
        front mark xs ++ x' ++ s ++ p ++ (m ++ u) := by
      calc
        _ = front mark xs ++ x' ++ (p ++ s) ++ (m ++ u) := by simp only [List.append_assoc]
        _ = _ := by simp only [hswap, List.append_assoc]
    rw [hwhole, hwindow]
    exact (List.prefix_append_right_inj _).mpr hread
  · simp only [List.length_append] at hlength ⊢
    omega

theorem Stands.cons (h : Stands mark runs v n) :
    Stands mark (x :: runs) v (x.length + mark.length + n) := by
  obtain ⟨xs, z, ys, rfl, a, hax, hlength⟩ := h
  refine ⟨x :: xs, z, ys, rfl, a, hax, ?_⟩
  rw [front_cons]
  simp only [List.length_append]
  omega

theorem Spelt.cons (h : Spelt mark runs v n) :
    Spelt mark (x :: runs) v (x.length + mark.length + n) := by
  obtain ⟨xs, z, ys, rfl, hys, s, m, u, p, q, hv, hm, hmark, hs, hsp, hu, huq, hlength⟩ := h
  refine ⟨x :: xs, z, ys, rfl, hys, s, m, u, p, q, hv, hm, hmark, hs, hsp, hu, huq, ?_⟩
  rw [front_cons]
  simp only [List.length_append]
  omega

/-- A stretch that takes in elements of the first marker. -/
theorem spelt_of_overlap (h : a ++ v <+: x ++ mark ++ mark.intercalate (y :: ys))
    (hreach : x.length < a.length + v.length) (hstart : a.length < x.length + mark.length)
    (hmark : mark ≠ []) (hv : v ≠ []) :
    Spelt mark (x :: y :: ys) v (a.length + v.length) := by
  have hpos : 0 < v.length := List.length_pos_iff.mpr hv
  have hpos' : 0 < mark.length := List.length_pos_iff.mpr hmark
  have hread : v = ((x ++ mark ++ mark.intercalate (y :: ys)).drop a.length).take v.length := by
    obtain ⟨b, hb⟩ := h
    rw [← hb, List.append_assoc, List.drop_left, List.take_left]
  have hend := h.length_le
  simp only [List.length_append] at hend
  have hsplit : v = x.drop a.length ++
      (mark.drop (a.length - x.length)).take (v.length - (x.length - a.length)) ++
      (mark.intercalate (y :: ys)).take (a.length + v.length - (x.length + mark.length)) := by
    conv_lhs => rw [hread]
    rw [List.append_assoc, List.drop_append, List.drop_append, List.take_append, List.take_append,
      List.take_of_length_le (by rw [List.length_drop]; omega), List.append_assoc]
    simp only [List.length_drop]
    rw [show a.length - x.length - mark.length = 0 by omega, List.drop_zero,
      show v.length - (x.length - a.length) - (mark.length - (a.length - x.length)) =
        a.length + v.length - (x.length + mark.length) by omega]
  refine ⟨[], x, y :: ys, rfl, List.cons_ne_nil y ys, _, _, _, mark.take (a.length - x.length),
    (mark.drop (a.length - x.length)).drop (v.length - (x.length - a.length)), hsplit, ?_, ?_,
    List.drop_suffix _ _, ?_, List.take_prefix _ _, ?_, ?_⟩
  · intro hnil
    have hlength := congrArg List.length hnil
    simp only [List.length_take, List.length_drop, List.length_nil] at hlength
    omega
  · rw [List.append_assoc, List.take_append_drop, List.take_append_drop]
  · simp only [List.drop_eq_nil_iff, List.take_eq_nil_iff]
    omega
  · simp only [List.take_eq_nil_iff, List.drop_eq_nil_iff, List.length_drop]
    omega
  · simp only [front, List.flatMap_nil, List.length_nil, List.length_take, List.length_drop]
    omega

theorem Stands.mono {m : Nat} (hmn : m ≤ n) : Stands mark runs v m → Stands mark runs v n := by
  rintro ⟨xs, x, ys, hruns, a, hax, hlength⟩
  exact ⟨xs, x, ys, hruns, a, hax, hlength.trans hmn⟩

theorem Spelt.mono {m : Nat} (hmn : m ≤ n) : Spelt mark runs v m → Spelt mark runs v n := by
  rintro ⟨xs, x, ys, hruns, hys, s, t, u, p, q, hv, ht, hmark, hs, hsp, hu, huq, hlength⟩
  exact ⟨xs, x, ys, hruns, hys, s, t, u, p, q, hv, ht, hmark, hs, hsp, hu, huq,
    hlength.trans hmn⟩

/-- What can be read at a place, by the run or the marker that it is in. -/
theorem stands_or_spelt (hmark : mark ≠ []) (hv : v ≠ []) (h : a ++ v <+: mark.intercalate runs) :
    Stands mark runs v (a.length + v.length) ∨ Spelt mark runs v (a.length + v.length) := by
  induction runs generalizing a with
  | nil =>
    rw [List.intercalate_nil, List.prefix_nil, List.append_eq_nil_iff] at h
    exact absurd h.2 hv
  | cons x runs ih =>
    cases runs with
    | nil =>
      rw [List.intercalate_singleton] at h
      exact .inl ⟨[], x, [], rfl, a, h, by simp [front]⟩
    | cons y ys =>
      rw [List.intercalate_cons_cons] at h
      by_cases hinside : a.length + v.length ≤ x.length
      · have hax : a ++ v <+: x := by
          rw [List.append_assoc] at h
          refine List.prefix_of_prefix_length_le h (List.prefix_append x _) ?_
          rwa [List.length_append]
        exact .inl ⟨[], x, y :: ys, rfl, a, hax, by simp [front]⟩
      · by_cases hbehind : x.length + mark.length ≤ a.length
        · -- The place is behind the first marker, and the runs after it decide.
          have ha : x ++ mark <+: a := by
            refine List.prefix_of_prefix_length_le (List.prefix_append (x ++ mark) _)
              ((List.prefix_append a v).trans h) ?_
            rwa [List.length_append]
          obtain ⟨a, rfl⟩ := ha
          rw [List.append_assoc, List.prefix_append_right_inj] at h
          have hlength : (x ++ mark ++ a).length + v.length =
              x.length + mark.length + (a.length + v.length) := by
            simp only [List.length_append]
            omega
          rw [hlength]
          exact (ih h).imp .cons .cons
        · exact .inr (spelt_of_overlap h (by omega) (by omega) hmark hv)

theorem infix_take_iff (hmark : mark ≠ []) (hv : v ≠ []) :
    v <:+: (mark.intercalate runs).take n ↔ Stands mark runs v n ∨ Spelt mark runs v n := by
  constructor
  · intro h
    obtain ⟨a, hprefix, hlength⟩ := infix_take_iff_prefix.mp h
    exact (stands_or_spelt hmark hv hprefix).imp (.mono hlength) (.mono hlength)
  · rintro (h | h)
    · exact h.infix_take
    · exact h.infix_take

end Markers
