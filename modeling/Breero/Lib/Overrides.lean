import Mathlib.Data.Finset.Basic
import Mathlib.Logic.Function.Basic

/-!
A set that is changed by rows, one after the other: a row that allows its name adds it, and
one that denies it takes it out.

* `mem_override_append_singleton`: the last row about a name decides;
* `Agreeing` rows do not both allow and deny a name, and `mem_override_congr` is that their
  order does not matter then;
* `exists_perm_override`: in some order, a given row is the one that decides;
* `assign` changes a map by rows, and `assign_apply` is that the last row about a name gives
  its value.
-/

namespace Overrides

variable {ρ α : Type} (name : ρ → α) (allow : ρ → Bool)

/-- No row allows a name that another one denies. -/
def Agreeing (rows : List ρ) (a : α) : Prop :=
  ∀ row ∈ rows, ∀ other ∈ rows, name row = a → name other = a → allow row = allow other

def override [DecidableEq α] (s : Finset α) (rows : List ρ) : Finset α :=
  rows.foldl (fun s row => if allow row then insert (name row) s else s.erase (name row)) s

variable {name allow} {s t : Finset α} {rows rows' : List ρ} {a : α}

theorem Agreeing.perm (h : Agreeing name allow rows a) (hperm : rows.Perm rows') :
    Agreeing name allow rows' a :=
  fun row hrow other hother => h row (hperm.mem_iff.mpr hrow) other (hperm.mem_iff.mpr hother)

variable [DecidableEq α]

theorem override_append (s : Finset α) (rows rows' : List ρ) :
    override name allow s (rows ++ rows') =
      override name allow (override name allow s rows) rows' :=
  List.foldl_append

theorem mem_override_singleton {row : ρ} :
    a ∈ override name allow s [row] ↔ if name row = a then allow row = true else a ∈ s := by
  simp only [override, List.foldl_cons, List.foldl_nil]
  split
  · next hallow =>
    split
    · next hname => simp [hname, hallow]
    · next hname => simp [Ne.symm hname]
  · next hallow =>
    split
    · next hname => simp [hname, hallow]
    · next hname => simp [Ne.symm hname]

/-- The last row about a name decides. -/
theorem mem_override_append_singleton {row : ρ} :
    a ∈ override name allow s (rows ++ [row]) ↔
      if name row = a then allow row = true else a ∈ override name allow s rows := by
  rw [override_append]
  exact mem_override_singleton

/-- What is in the set in the end was in it, or is allowed by a row. -/
theorem mem_of_mem_override (h : a ∈ override name allow s rows) :
    a ∈ s ∨ ∃ row ∈ rows, name row = a ∧ allow row = true := by
  induction rows using List.reverseRecOn with
  | nil => exact .inl h
  | append_singleton rows row ih =>
    rw [mem_override_append_singleton] at h
    split at h
    · next hname => exact .inr ⟨row, by simp, hname, h⟩
    · rcases ih h with hmem | ⟨other, hother, hallows⟩
      · exact .inl hmem
      · exact .inr ⟨other, List.mem_append_left _ hother, hallows⟩

/-- What no row is about stays as it was. -/
theorem mem_override_of_forall_ne (h : ∀ row ∈ rows, name row ≠ a) :
    a ∈ override name allow s rows ↔ a ∈ s := by
  induction rows using List.reverseRecOn with
  | nil => exact Iff.rfl
  | append_singleton rows row ih =>
    have hlast : name row ≠ a := h row (by simp)
    rw [mem_override_append_singleton, if_neg hlast]
    exact ih fun other hmem => h other (List.mem_append_left _ hmem)

/-- Where the rows agree, any row about the name decides. -/
theorem mem_override_of_agreeing (h : Agreeing name allow rows a) {row : ρ} (hmem : row ∈ rows)
    (hname : name row = a) : a ∈ override name allow s rows ↔ allow row = true := by
  induction rows using List.reverseRecOn with
  | nil => cases hmem
  | append_singleton rows last ih =>
    rw [mem_override_append_singleton]
    split
    · next hlast => rw [h row hmem last (by simp) hname hlast]
    · next hlast =>
      have hmem' : row ∈ rows := by
        rcases List.mem_append.mp hmem with hmem | hmem
        · exact hmem
        · rw [List.mem_singleton] at hmem
          exact absurd (hmem ▸ hname) hlast
      refine ih (fun first hfirst second hsecond => ?_) hmem'
      exact h first (List.mem_append_left _ hfirst) second (List.mem_append_left _ hsecond)

/-- Rows that agree on a name say the same of it in every order. -/
theorem mem_override_congr (h : Agreeing name allow rows a) (hperm : rows.Perm rows')
    (hs : a ∈ s ↔ a ∈ t) : a ∈ override name allow s rows ↔ a ∈ override name allow t rows' := by
  by_cases hnamed : ∃ row ∈ rows, name row = a
  · obtain ⟨row, hmem, hname⟩ := hnamed
    rw [mem_override_of_agreeing h hmem hname,
      mem_override_of_agreeing (h.perm hperm) (hperm.mem_iff.mp hmem) hname]
  · have hfree : ∀ row ∈ rows, name row ≠ a := fun row hmem hname => hnamed ⟨row, hmem, hname⟩
    rw [mem_override_of_forall_ne hfree,
      mem_override_of_forall_ne fun row hmem => hfree row (hperm.mem_iff.mpr hmem), hs]

/-- Some order ends with the row. -/
theorem exists_perm_override (name : ρ → α) (allow : ρ → Bool) {row : ρ} (hmem : row ∈ rows) :
    ∃ rows', rows'.Perm rows ∧
      ∀ s, name row ∈ override name allow s rows' ↔ allow row = true := by
  obtain ⟨before, after, rfl⟩ := List.append_of_mem hmem
  refine ⟨before ++ after ++ [row], ?_, fun s => ?_⟩
  · rw [List.append_assoc]
    exact (List.perm_append_singleton row after).append_left before
  · rw [mem_override_append_singleton, if_pos rfl]

/-! ## Maps changed by rows -/

variable {β : Type} {f : α → β}

def assign (f : α → β) (rows : List (α × β)) : α → β :=
  rows.foldl (fun f row => Function.update f row.1 row.2) f

@[simp] theorem assign_nil (f : α → β) : assign f [] = f := rfl

@[simp] theorem assign_cons (f : α → β) (row : α × β) (rows : List (α × β)) :
    assign f (row :: rows) = assign (Function.update f row.1 row.2) rows := rfl

theorem assign_append (f : α → β) (rows rows' : List (α × β)) :
    assign f (rows ++ rows') = assign (assign f rows) rows' :=
  List.foldl_append

/-- The value that the last row about the name gives it. -/
def lastOf (rows : List (α × β)) (a : α) : Option β := rows.reverse.lookup a

theorem lastOf_append_singleton (rows : List (α × β)) (a : α) (value : β) :
    lastOf (rows ++ [(a, value)]) = Function.update (lastOf rows) a (some value) := by
  funext b
  unfold lastOf
  rw [List.reverse_concat, List.lookup_cons]
  by_cases hname : b = a
  · simp [hname]
  · rw [Function.update_of_ne hname, beq_eq_false_iff_ne.mpr hname]

theorem lastOf_of_mem {rows : List (α × β)} {row : α × β} (h : row ∈ rows) :
    ∃ value, lastOf rows row.1 = some value :=
  Option.isSome_iff_exists.mp
    (List.lookup_isSome_iff.mpr ⟨row, List.mem_reverse.mpr h, beq_self_eq_true _⟩)

theorem mem_of_lastOf {rows : List (α × β)} {a : α} {value : β}
    (h : lastOf rows a = some value) : (a, value) ∈ rows := by
  obtain ⟨before, after, hrows, _⟩ := List.lookup_eq_some_iff.mp h
  rw [← List.mem_reverse, hrows]
  simp

theorem assign_apply (f : α → β) (rows : List (α × β)) (a : α) :
    assign f rows a = (lastOf rows a).getD (f a) := by
  unfold lastOf
  induction rows generalizing f with
  | nil => rfl
  | cons row rows ih =>
    obtain ⟨name, value⟩ := row
    rw [assign_cons, ih, List.reverse_cons, List.lookup_append, List.lookup_cons, List.lookup_nil]
    cases rows.reverse.lookup a with
    | some later => rfl
    | none =>
      by_cases hname : a = name
      · simp [hname]
      · rw [Function.update_of_ne hname, beq_eq_false_iff_ne.mpr hname]
        rfl

end Overrides
