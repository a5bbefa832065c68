import Mathlib.Data.List.Nodup
import Mathlib.Algebra.Order.BigOperators.Group.List
import Mathlib.Data.Fintype.EquivFin
import Mathlib.Tactic.Ring

/-!
A table of a relational store: a list of rows whose primary keys are distinct.

* `Table.get?` finds the row with a key, `Table.insert?` refuses a key that is
  taken, and `Table.put` replaces the row with the same key;
* `mem_put`, `mem_insert` and `get?_put_self` say what the rows are afterwards;
* `total_put` and `total_insert` do the same for a sum over the rows.
-/

namespace KeyedTable

/-- The primary key of a row. -/
class Keyed (α : Type) (κ : outParam Type) where
  key : α → κ

export Keyed (key)

structure Table (α : Type) {κ : Type} [Keyed α κ] where
  rows : List α
  nodup : (rows.map key).Nodup

namespace Table

variable {α κ : Type} [Keyed α κ]

def empty : Table α := ⟨[], List.nodup_nil⟩

@[simp] theorem rows_empty : (empty : Table α).rows = [] := rfl

theorem eq_of_key {t : Table α} {a b : α} (ha : a ∈ t.rows) (hb : b ∈ t.rows)
    (h : key a = key b) : a = b :=
  List.inj_on_of_nodup_map t.nodup ha hb h

/-! ## Sums over the rows -/

def total (t : Table α) (f : α → Int) : Int := (t.rows.map f).sum

theorem total_congr {t : Table α} {f g : α → Int} (h : ∀ a ∈ t.rows, f a = g a) :
    t.total f = t.total g := by
  unfold total
  rw [List.map_congr_left h]

/-- A sum over the rows that satisfy `p`, as the sum of a guarded summand. -/
theorem total_filter (t : Table α) (p : α → Bool) (f : α → Int) :
    ((t.rows.filter p).map f).sum = t.total (fun a => if p a then f a else 0) := by
  unfold total
  induction t.rows with
  | nil => rfl
  | cons a rows ih =>
    cases h : p a <;> simp [h, ih]

/-! ## Updating every row -/

/-- Every row rewritten, with its key kept. -/
def update (t : Table α) (f : α → α) (hf : ∀ a, key (f a) = key a) : Table α where
  rows := t.rows.map f
  nodup := by
    have hkeys : (t.rows.map f).map key = t.rows.map key := by
      rw [List.map_map]
      exact List.map_congr_left fun a _ => hf a
    exact hkeys ▸ t.nodup

theorem mem_update {t : Table α} {f : α → α} {hf : ∀ a, key (f a) = key a} {b : α} :
    b ∈ (t.update f hf).rows ↔ ∃ a ∈ t.rows, f a = b :=
  List.mem_map

theorem update_self {t : Table α} {f : α → α} (hf : ∀ a, key (f a) = key a)
    (h : ∀ a ∈ t.rows, f a = a) : t.update f hf = t := by
  have hrows : t.rows.map f = t.rows.map id := List.map_congr_left h
  rw [List.map_id] at hrows
  cases t
  simp only [update] at hrows ⊢
  simp only [hrows]

theorem total_update (t : Table α) (f : α → α) (hf : ∀ a, key (f a) = key a) (g : α → Int) :
    (t.update f hf).total g = t.total (fun a => g (f a)) := by
  unfold total update
  rw [List.map_map]
  rfl

variable [DecidableEq κ]

/-! ## Rows -/

def get? (t : Table α) (k : κ) : Option α := t.rows.find? (fun a => key a = k)

theorem get?_eq_some {t : Table α} {k : κ} {a : α} :
    t.get? k = some a ↔ a ∈ t.rows ∧ key a = k := by
  constructor
  · intro h
    exact ⟨List.mem_of_find?_eq_some h, by simpa using List.find?_some h⟩
  · rintro ⟨hm, hk⟩
    cases hf : t.get? k with
    | none =>
      have := List.find?_eq_none.mp hf a hm
      simp [hk] at this
    | some b =>
      have hb : b ∈ t.rows := List.mem_of_find?_eq_some hf
      have hbk : key b = k := by simpa using List.find?_some hf
      rw [eq_of_key hb hm (hbk.trans hk.symm)]

theorem get?_eq_none {t : Table α} {k : κ} :
    t.get? k = none ↔ ∀ a ∈ t.rows, key a ≠ k := by
  simp [get?, List.find?_eq_none]

theorem mem_of_get? {t : Table α} {k : κ} {a : α} (h : t.get? k = some a) : a ∈ t.rows :=
  (get?_eq_some.mp h).1

theorem key_of_get? {t : Table α} {k : κ} {a : α} (h : t.get? k = some a) : key a = k :=
  (get?_eq_some.mp h).2

theorem get?_key {t : Table α} {a : α} (h : a ∈ t.rows) : t.get? (key a) = some a :=
  get?_eq_some.mpr ⟨h, rfl⟩

/-- A row that is found is found under its own key. -/
theorem get?_found {t : Table α} {k : κ} {a : α} (h : t.get? k = some a) :
    t.get? (key a) = some a :=
  get?_key (mem_of_get? h)

theorem get?_update (t : Table α) (f : α → α) (hf : ∀ a, key (f a) = key a) (k : κ) :
    (t.update f hf).get? k = (t.get? k).map f := by
  cases hget : t.get? k with
  | none =>
    rw [Option.map_none, get?_eq_none]
    intro b hb
    obtain ⟨a, ha, rfl⟩ := mem_update.mp hb
    rw [hf a]
    exact get?_eq_none.mp hget a ha
  | some a =>
    rw [Option.map_some, get?_eq_some]
    exact ⟨mem_update.mpr ⟨a, mem_of_get? hget, rfl⟩, (hf a).trans (key_of_get? hget)⟩

omit [DecidableEq κ] in
theorem find?_update {t : Table α} {f : α → α} (hf : ∀ a, key (f a) = key a) {p : α → Bool}
    {a : α} (hp : ∀ a, p (f a) = p a) (h : t.rows.find? p = some a) :
    (t.update f hf).rows.find? p = some (f a) := by
  have hcomp : p ∘ f = p := funext hp
  show (t.rows.map f).find? p = some (f a)
  rw [List.find?_map, hcomp, h]
  rfl

/-! ## Replacing a row -/

private theorem map_replace_key (a : α) (rows : List α) :
    (rows.map (fun b => if key b = key a then a else b)).map key = rows.map key := by
  rw [List.map_map]
  apply List.map_congr_left
  intro b _
  simp only [Function.comp]
  split
  · next h => exact h.symm
  · rfl

/-- Replace the row that has the key of `a`; a table without that key is unchanged. -/
def put (t : Table α) (a : α) : Table α :=
  ⟨t.rows.map (fun b => if key b = key a then a else b), by
    rw [map_replace_key]; exact t.nodup⟩

theorem mem_put {t : Table α} {a b : α} :
    b ∈ (t.put a).rows ↔
      (b = a ∧ ∃ c ∈ t.rows, key c = key a) ∨ (b ∈ t.rows ∧ key b ≠ key a) := by
  simp only [put, List.mem_map]
  constructor
  · rintro ⟨c, hc, hb⟩
    by_cases h : key c = key a
    · rw [if_pos h] at hb
      exact Or.inl ⟨hb.symm, c, hc, h⟩
    · rw [if_neg h] at hb
      exact Or.inr (hb ▸ ⟨hc, h⟩)
  · rintro (⟨rfl, c, hc, h⟩ | ⟨hb, h⟩)
    · exact ⟨c, hc, if_pos h⟩
    · exact ⟨b, hb, if_neg h⟩

theorem mem_put_of_mem {t : Table α} {a b : α} (hb : b ∈ t.rows) (h : key b ≠ key a) :
    b ∈ (t.put a).rows :=
  mem_put.mpr (Or.inr ⟨hb, h⟩)

theorem mem_put_self {t : Table α} {a c : α} (hc : c ∈ t.rows) (h : key c = key a) :
    a ∈ (t.put a).rows :=
  mem_put.mpr (Or.inl ⟨rfl, c, hc, h⟩)

theorem get?_put_self {t : Table α} {k : κ} {a c : α} (hc : t.get? k = some c)
    (h : key a = k) : (t.put a).get? k = some a :=
  get?_eq_some.mpr ⟨mem_put_self (mem_of_get? hc) ((key_of_get? hc).trans h.symm), h⟩

theorem get?_put_ne {t : Table α} {k : κ} {a : α} (h : key a ≠ k) :
    (t.put a).get? k = t.get? k := by
  cases hf : t.get? k with
  | none =>
    rw [get?_eq_none] at hf ⊢
    intro b hb
    rcases mem_put.mp hb with ⟨rfl, _⟩ | ⟨hb, _⟩
    · exact h
    · exact hf b hb
  | some b =>
    have hb := get?_eq_some.mp hf
    exact get?_eq_some.mpr ⟨mem_put_of_mem hb.1 (fun e => h (e.symm.trans hb.2)), hb.2⟩

/-- What is found after a replacement. -/
theorem get?_put_some {t : Table α} {k : κ} {a b : α} (h : (t.put a).get? k = some b) :
    (b = a ∧ key a = k) ∨ (key a ≠ k ∧ t.get? k = some b) := by
  by_cases hk : key a = k
  · rcases mem_put.mp (mem_of_get? h) with ⟨hb, _⟩ | ⟨_, hne⟩
    · exact Or.inl ⟨hb, hk⟩
    · exact absurd ((key_of_get? h).trans hk.symm) hne
  · rw [get?_put_ne hk] at h
    exact Or.inr ⟨hk, h⟩

/-- What is found after the row of a key, if there is one, is replaced. -/
theorem get?_put_found {t u : Table α} {f : α → α} {k k' : κ} {b : α}
    (hnone : t.get? k = none → u = t)
    (hsome : ∀ a, t.get? k = some a → key (f a) = k ∧ u = t.put (f a))
    (h : u.get? k' = some b) :
    (k' ≠ k ∧ t.get? k' = some b) ∨ ∃ a, k' = k ∧ t.get? k = some a ∧ b = f a := by
  cases hget : t.get? k with
  | none =>
    rw [hnone hget] at h
    refine Or.inl ⟨?_, h⟩
    rintro rfl
    rw [hget] at h
    cases h
  | some a =>
    obtain ⟨hkey, rfl⟩ := hsome a hget
    rcases get?_put_some h with ⟨rfl, hid⟩ | ⟨hid, hother⟩
    · exact Or.inr ⟨a, hid.symm.trans hkey, rfl, rfl⟩
    · exact Or.inl ⟨fun heq => hid (hkey.trans heq.symm), hother⟩

/-- A key that was there still is. -/
theorem get?_put_of_some {t : Table α} {k : κ} {a c : α} (h : t.get? k = some c) :
    ∃ b, (t.put a).get? k = some b ∧ (b = a ∨ b = c) := by
  by_cases hk : key a = k
  · exact ⟨a, get?_put_self h hk, Or.inl rfl⟩
  · exact ⟨c, by rw [get?_put_ne hk]; exact h, Or.inr rfl⟩

/-- The row a reference points to, put back changed. -/
theorem bind_put_self {t : Table α} {o : Option κ} {a c : α} (h : o.bind t.get? = some c)
    (hk : key a = key c) : o.bind (t.put a).get? = some a := by
  obtain ⟨k, rfl, hget⟩ := Option.bind_eq_some_iff.mp h
  exact get?_put_self hget (hk.trans (key_of_get? hget))

theorem put_self {t : Table α} {k : κ} {a : α} (h : t.get? k = some a) : t.put a = t := by
  have hrows : (t.put a).rows = t.rows := by
    simp only [put]
    rw [List.map_congr_left (g := fun b => b) fun b hb => ?_, List.map_id']
    split
    · next hk => exact (eq_of_key hb (mem_of_get? h) hk).symm
    · rfl
  cases hput : t.put a
  cases t
  simp only [hput] at hrows
  subst hrows
  rfl

/-- The second of two replacements of one row. -/
theorem put_put {t : Table α} {a b : α} (h : key a = key b) : (t.put a).put b = t.put b := by
  have hrows : ((t.put a).put b).rows = (t.put b).rows := by
    simp only [put, List.map_map]
    apply List.map_congr_left
    intro c _
    simp only [Function.comp]
    by_cases hc : key c = key a
    · rw [if_pos hc, if_pos h, if_pos (hc.trans h)]
    · rw [if_neg hc]
  cases hab : (t.put a).put b
  cases hb : t.put b
  simp only [hab, hb] at hrows
  subst hrows
  rfl

private theorem sum_replace (f : α → Int) (a : α) : ∀ (rows : List α) (c : α),
    (rows.map key).Nodup → c ∈ rows → key c = key a →
      ((rows.map (fun b => if key b = key a then a else b)).map f).sum =
        (rows.map f).sum - f c + f a
  | [], c, _, hc, _ => by simp at hc
  | b :: rows, c, hn, hc, hk => by
    rw [List.map_cons, List.nodup_cons] at hn
    rcases List.mem_cons.mp hc with rfl | hc
    · have hrest : rows.map (fun b => if key b = key a then a else b) = rows.map id := by
        apply List.map_congr_left
        intro b hb
        refine if_neg (fun e => hn.1 ?_)
        rw [hk, ← e]
        exact List.mem_map_of_mem hb
      simp only [List.map_cons, hk, if_true, hrest, List.map_id, List.sum_cons]
      ring
    · have hb : key b ≠ key a := fun e => hn.1 (by rw [e, ← hk]; exact List.mem_map_of_mem hc)
      have ih := sum_replace f a rows c hn.2 hc hk
      simp only [List.map_cons, hb, if_false, List.sum_cons, ih]
      ring

theorem total_put {t : Table α} {a c : α} (f : α → Int) (hc : t.get? (key a) = some c) :
    (t.put a).total f = t.total f - f c + f a :=
  sum_replace f a t.rows c t.nodup (mem_of_get? hc) (key_of_get? hc)

/-! ## Adding a row -/

def insert? (t : Table α) (a : α) : Option (Table α) :=
  if h : key a ∈ t.rows.map key then none
  else some ⟨t.rows ++ [a], by
    rw [List.map_append, List.map_singleton]
    refine List.nodup_append.mpr ⟨t.nodup, List.nodup_singleton _, ?_⟩
    intro x hx y hy e
    rw [List.mem_singleton] at hy
    exact h (hy ▸ e ▸ hx)⟩

theorem insert?_eq_some {t u : Table α} {a : α} :
    t.insert? a = some u ↔ key a ∉ t.rows.map key ∧ u.rows = t.rows ++ [a] := by
  unfold insert?
  split
  · next h => simp [h]
  · next h =>
    simp only [Option.some.injEq]
    constructor
    · rintro rfl; exact ⟨h, rfl⟩
    · rintro ⟨_, hu⟩
      cases u
      simp only at hu
      subst hu
      rfl

theorem mem_insert {t u : Table α} {a b : α} (h : t.insert? a = some u) :
    b ∈ u.rows ↔ b ∈ t.rows ∨ b = a := by
  rw [(insert?_eq_some.mp h).2]
  simp

theorem key_fresh {t u : Table α} {a b : α} (h : t.insert? a = some u) (hb : b ∈ t.rows) :
    key b ≠ key a :=
  fun e => (insert?_eq_some.mp h).1 (e ▸ List.mem_map_of_mem hb)

/-- A row with a new key can be inserted. -/
theorem insert?_fresh {t : Table α} {a : α} (h : t.get? (key a) = none) :
    ∃ u, t.insert? a = some u := by
  have hfresh : key a ∉ t.rows.map key := by
    intro hmem
    obtain ⟨b, hb, hkey⟩ := List.mem_map.mp hmem
    exact get?_eq_none.mp h b hb hkey
  exact ⟨_, dif_neg hfresh⟩

theorem insert?_isSome {t : Table α} {a : α} : (t.insert? a).isSome ↔ t.get? (key a) = none := by
  constructor
  · intro h
    obtain ⟨u, hinsert⟩ := Option.isSome_iff_exists.mp h
    exact get?_eq_none.mpr fun b hb => key_fresh hinsert hb
  · intro h
    obtain ⟨u, hinsert⟩ := insert?_fresh h
    rw [hinsert]
    rfl

/-- Some key is not taken. -/
theorem exists_fresh [Infinite κ] (t : Table α) : ∃ k, t.get? k = none := by
  classical
  obtain ⟨k, hk⟩ := Infinite.exists_notMem_finset (t.rows.map key).toFinset
  refine ⟨k, get?_eq_none.mpr fun a ha hkey => hk ?_⟩
  rw [List.mem_toFinset, ← hkey]
  exact List.mem_map_of_mem ha

theorem get?_insert_of_some {t u : Table α} {a b : α} {k : κ} (h : t.insert? a = some u)
    (hb : t.get? k = some b) : u.get? k = some b :=
  get?_eq_some.mpr ⟨(mem_insert h).mpr (Or.inl (mem_of_get? hb)), key_of_get? hb⟩

theorem get?_insert_self {t u : Table α} {a : α} (h : t.insert? a = some u) :
    u.get? (key a) = some a :=
  get?_key ((mem_insert h).mpr (Or.inr rfl))

theorem get?_insert_ne {t u : Table α} {a : α} {k : κ} (h : t.insert? a = some u)
    (hk : key a ≠ k) : u.get? k = t.get? k := by
  cases hf : t.get? k with
  | none =>
    rw [get?_eq_none] at hf ⊢
    intro b hb
    rcases (mem_insert h).mp hb with hb | rfl
    · exact hf b hb
    · exact hk
  | some b => exact get?_insert_of_some h hf

/-- A row that is searched for is still the first one. -/
theorem find?_insert_of_some {t u : Table α} {a b : α} {p : α → Bool} (h : t.insert? a = some u)
    (hb : t.rows.find? p = some b) : u.rows.find? p = some b := by
  rw [(insert?_eq_some.mp h).2, List.find?_append, hb]
  rfl

theorem find?_insert_self {t u : Table α} {a : α} {p : α → Bool} (h : t.insert? a = some u)
    (hnone : t.rows.find? p = none) (ha : p a = true) : u.rows.find? p = some a := by
  rw [(insert?_eq_some.mp h).2, List.find?_append, hnone, Option.none_or, List.find?_cons_of_pos ha]

/-- A row can be inserted before or after another one is put back. -/
theorem insert?_put {t u : Table α} {a b : α} (h : t.insert? a = some u) (hne : key b ≠ key a) :
    (t.put b).insert? a = some (u.put b) := by
  obtain ⟨hfresh, hrows⟩ := insert?_eq_some.mp h
  refine insert?_eq_some.mpr ⟨?_, ?_⟩
  · rwa [put, map_replace_key]
  · simp only [put, hrows, List.map_append, List.map_singleton, if_neg (Ne.symm hne)]

/-- The last row replaced by one with its key. -/
theorem put_last {t : Table α} {rows : List α} {a b : α} (h : t.rows = rows ++ [a])
    (hk : key b = key a) : (t.put b).rows = rows ++ [b] := by
  have hnodup : ((rows ++ [a]).map key).Nodup := h ▸ t.nodup
  have hfresh : ∀ c ∈ rows, key c ≠ key b := by
    intro c hc heq
    rw [List.map_append, List.nodup_append] at hnodup
    exact hnodup.2.2 (key c) (List.mem_map_of_mem hc) (key a) (by simp) (heq.trans hk)
  have hrows : rows.map (fun c => if key c = key b then b else c) = rows.map id :=
    List.map_congr_left fun c hc => if_neg (hfresh c hc)
  show t.rows.map (fun c => if key c = key b then b else c) = _
  rw [h, List.map_append, hrows, List.map_id, List.map_singleton, if_pos hk.symm]

/-- A row that is written again before the commit might have been inserted as it is then. -/
theorem insert?_put_self {t u : Table α} {a b : α} (h : t.insert? a = some u)
    (hk : key b = key a) : t.insert? b = some (u.put b) := by
  obtain ⟨hfresh, hrows⟩ := insert?_eq_some.mp h
  exact insert?_eq_some.mpr ⟨hk ▸ hfresh, put_last hrows hk⟩

theorem total_insert {t u : Table α} {a : α} (f : α → Int) (h : t.insert? a = some u) :
    u.total f = t.total f + f a := by
  simp [total, (insert?_eq_some.mp h).2]

/-! ## Rows that a change is not about -/

/-- Rows of which only ones outside `p` are rewritten, and stay outside. -/
theorem filter_map_outside {rows : List α} {f : α → α} {p : α → Bool}
    (h : ∀ a ∈ rows, f a = a ∨ (p a = false ∧ p (f a) = false)) :
    (rows.map f).filter p = rows.filter p := by
  induction rows with
  | nil => rfl
  | cons a rows ih =>
    have hrest := ih fun b hb => h b (List.mem_cons_of_mem _ hb)
    rcases h a List.mem_cons_self with hsame | ⟨hbefore, hafter⟩
    · simp only [List.map_cons, hsame, List.filter_cons, hrest]
    · rw [List.map_cons, List.filter_cons_of_neg (by simp [hafter]), hrest,
        List.filter_cons_of_neg (by simp [hbefore])]

omit [DecidableEq κ] in
theorem filter_update {t : Table α} {f : α → α} {hf : ∀ a, key (f a) = key a} {p : α → Bool}
    (h : ∀ a, p a → f a = a) (h' : ∀ a, p a = false → p (f a) = false) :
    (t.update f hf).rows.filter p = t.rows.filter p := by
  refine filter_map_outside fun a _ => ?_
  cases hp : p a with
  | true => exact Or.inl (h a hp)
  | false => exact Or.inr ⟨rfl, h' a hp⟩

theorem filter_put {t : Table α} {a : α} {p : α → Bool} (ha : p a = false)
    (h : ∀ b, key b = key a → p b = false) : (t.put a).rows.filter p = t.rows.filter p := by
  refine filter_map_outside fun b _ => ?_
  split
  · next hkey => exact Or.inr ⟨h b hkey, ha⟩
  · exact Or.inl rfl

theorem filter_insert {t u : Table α} {a : α} {p : α → Bool} (h : t.insert? a = some u)
    (ha : p a = false) : u.rows.filter p = t.rows.filter p := by
  simp [(insert?_eq_some.mp h).2, ha]

/-- A row outside `p` is replaced by another one outside. -/
theorem filter_put_outside {t : Table α} {a c : α} {p : α → Bool}
    (hc : t.get? (key a) = some c) (hbefore : p c = false) (hafter : p a = false) :
    (t.put a).rows.filter p = t.rows.filter p := by
  refine filter_map_outside fun b hb => ?_
  split
  · next hkey =>
    have heq : b = c := eq_of_key hb (mem_of_get? hc) (hkey.trans (key_of_get? hc).symm)
    exact Or.inr ⟨heq ▸ hbefore, hafter⟩
  · exact Or.inl rfl

/-- A row of `p` is replaced by another one of `p`. -/
theorem filter_put_inside {t : Table α} {a c : α} {p : α → Bool}
    (hc : t.get? (key a) = some c) (hsame : p a = p c) :
    (t.put a).rows.filter p =
      (t.rows.filter p).map fun b => if key b = key a then a else b := by
  show (t.rows.map _).filter p = _
  rw [List.filter_map]
  congr 1
  refine List.filter_congr fun b hb => ?_
  simp only [Function.comp]
  split
  · next hkey =>
    have heq : b = c := eq_of_key hb (mem_of_get? hc) (hkey.trans (key_of_get? hc).symm)
    rw [heq, hsame]
  · rfl

/-- A row outside `p` is replaced by one of `p`. -/
theorem filter_put_entering {t : Table α} {a c : α} {p : α → Bool}
    (hc : t.get? (key a) = some c) (hbefore : p c = false) (hafter : p a = true) :
    ((t.put a).rows.filter p).Perm (a :: t.rows.filter p) := by
  have hout : a ∉ t.rows.filter p := by
    intro hmem
    obtain ⟨hrow, _⟩ := List.mem_filter.mp hmem
    have heq : a = c := eq_of_key hrow (mem_of_get? hc) (key_of_get? hc).symm
    rw [heq, hbefore] at hafter
    cases hafter
  have hnodup : (a :: t.rows.filter p).Nodup :=
    List.nodup_cons.mpr ⟨hout, t.nodup.of_map.filter p⟩
  refine (List.perm_ext_iff_of_nodup ((t.put a).nodup.of_map.filter p) hnodup).mpr fun b => ?_
  rw [List.mem_filter, List.mem_cons, List.mem_filter, mem_put]
  constructor
  · rintro ⟨⟨rfl, _⟩ | ⟨hmem, _⟩, hp⟩
    · exact Or.inl rfl
    · exact Or.inr ⟨hmem, hp⟩
  · rintro (rfl | ⟨hmem, hp⟩)
    · exact ⟨Or.inl ⟨rfl, c, mem_of_get? hc, key_of_get? hc⟩, hafter⟩
    · refine ⟨Or.inr ⟨hmem, fun hkey => ?_⟩, hp⟩
      have heq : b = c := eq_of_key hmem (mem_of_get? hc) (hkey.trans (key_of_get? hc).symm)
      rw [heq, hbefore] at hp
      cases hp

/-! ## Counting rows -/

omit [DecidableEq κ] in
theorem total_countP (t : Table α) (p : α → Bool) :
    t.total (fun a => if p a then 1 else 0) = t.rows.countP p := by
  unfold total
  induction t.rows with
  | nil => rfl
  | cons a rows ih =>
    cases h : p a
    · simp [h, ih]
    · simp [h, ih]
      omega

theorem countP_put {t : Table α} {k : κ} {a c : α} (p : α → Bool) (hc : t.get? k = some c)
    (hk : key a = key c) :
    (t.put a).rows.countP p + (if p c then 1 else 0) =
      t.rows.countP p + (if p a then 1 else 0) := by
  have htotal := total_put (fun a => if p a then 1 else 0) (hk ▸ get?_found hc)
  rw [total_countP, total_countP] at htotal
  split
  · split
    · simp_all
    · simp_all
      omega
  · split
    · simp_all
      omega
    · simp_all

theorem countP_insert {t u : Table α} {a : α} (p : α → Bool) (h : t.insert? a = some u) :
    u.rows.countP p = t.rows.countP p + (if p a then 1 else 0) := by
  rw [(insert?_eq_some.mp h).2, List.countP_append, List.countP_singleton]

omit [DecidableEq κ] in
theorem countP_update_le {t : Table α} {f : α → α} {hf : ∀ a, key (f a) = key a} {p : α → Bool}
    (h : ∀ a ∈ t.rows, p (f a) = true → p a = true) :
    (t.update f hf).rows.countP p ≤ t.rows.countP p := by
  show (t.rows.map f).countP p ≤ _
  rw [List.countP_map]
  exact List.countP_mono_left h

theorem countP_put_le {t : Table α} {a : α} {p : α → Bool} (ha : p a = false) :
    (t.put a).rows.countP p ≤ t.rows.countP p := by
  show (t.rows.map _).countP p ≤ _
  rw [List.countP_map]
  refine List.countP_mono_left fun b _ hb => ?_
  by_cases hkey : key b = key a
  · simp [hkey, ha] at hb
  · simpa [hkey] using hb

/-- Rows that all have one key are at most one row. -/
theorem countP_le_one {t : Table α} {p : α → Bool} (k : κ)
    (h : ∀ a ∈ t.rows, p a = true → key a = k) : t.rows.countP p ≤ 1 := by
  have hcount : (t.rows.map key).count k ≤ 1 := List.nodup_iff_count_le_one.mp t.nodup k
  rw [List.count_eq_countP, List.countP_map] at hcount
  refine le_trans (List.countP_mono_left fun a ha hp => ?_) hcount
  simpa using h a ha hp

/-! ## Rows that are kept -/

/-- Every row of `t` is still in `u`, with the same key, changed as `r` allows. -/
def Kept (r : α → α → Prop) (t u : Table α) : Prop :=
  ∀ a ∈ t.rows, ∃ b, u.get? (key a) = some b ∧ r a b

variable {r : α → α → Prop}

instance Kept.decidable [DecidableRel r] (t u : Table α) : Decidable (Kept r t u) :=
  inferInstanceAs (Decidable (∀ a ∈ t.rows, ∃ b ∈ u.get? (key a), r a b))

theorem Kept.of_eq {t u : Table α} (h : u = t) (hrefl : ∀ a, r a a) : Kept r t u :=
  fun a ha => ⟨a, h ▸ get?_key ha, hrefl a⟩

theorem Kept.trans {t u v : Table α} (h : Kept r t u) (h' : Kept r u v)
    (htrans : ∀ a b c, r a b → r b c → r a c) : Kept r t v := by
  intro a ha
  obtain ⟨b, hb, hab⟩ := h a ha
  obtain ⟨c, hc, hbc⟩ := h' b (mem_of_get? hb)
  exact ⟨c, key_of_get? hb ▸ hc, htrans a b c hab hbc⟩

theorem Kept.insert {t u : Table α} {a : α} (h : t.insert? a = some u) (hrefl : ∀ a, r a a) :
    Kept r t u :=
  fun b hb => ⟨b, get?_insert_of_some h (get?_key hb), hrefl b⟩

theorem Kept.put {t : Table α} {a c : α} (hc : t.get? (key a) = some c) (h : r c a)
    (hrefl : ∀ a, r a a) : Kept r t (t.put a) := by
  intro b hb
  by_cases hk : key a = key b
  · have hbc : b = c := eq_of_key hb (mem_of_get? hc) (hk.symm.trans (key_of_get? hc).symm)
    exact ⟨a, get?_put_self (hk ▸ hc) hk, hbc ▸ h⟩
  · exact ⟨b, by rw [get?_put_ne hk]; exact get?_key hb, hrefl b⟩

/-- Every row is rewritten as `r` allows. -/
theorem Kept.update {t : Table α} {f : α → α} (hf : ∀ a, key (f a) = key a) (h : ∀ a, r a (f a)) :
    Kept r t (t.update f hf) := by
  intro a ha
  refine ⟨f a, ?_, h a⟩
  rw [get?_update, get?_key ha]
  rfl

/-- A row that was found is put back changed. -/
theorem Kept.put_found {t : Table α} {k : κ} {a c : α} (hc : t.get? k = some c)
    (hk : key a = key c) (h : r c a) (hrefl : ∀ a, r a a) : Kept r t (t.put a) :=
  Kept.put (hk ▸ get?_found hc) h hrefl

theorem Kept.get? {t u : Table α} (h : Kept r t u) {k : κ} {a : α} (ha : t.get? k = some a) :
    ∃ b, u.get? k = some b ∧ r a b := by
  obtain ⟨b, hb, hab⟩ := h a (mem_of_get? ha)
  exact ⟨b, key_of_get? ha ▸ hb, hab⟩

/-- The same row through a reference that may be null. -/
theorem Kept.bind {t u : Table α} (h : Kept r t u) {o : Option κ} {a : α}
    (ha : o.bind t.get? = some a) : ∃ b, o.bind u.get? = some b ∧ r a b := by
  obtain ⟨k, rfl, hk⟩ := Option.bind_eq_some_iff.mp ha
  exact h.get? hk

/-- A kept row is the row of `u` with its key. -/
theorem Kept.rel {t u : Table α} (h : Kept r t u) {a b : α} (ha : a ∈ t.rows) (hb : b ∈ u.rows)
    (hk : key b = key a) : r a b := by
  obtain ⟨c, hc, hac⟩ := h a ha
  have hcb : c = b := eq_of_key (mem_of_get? hc) hb ((key_of_get? hc).trans hk.symm)
  exact hcb ▸ hac

end Table

end KeyedTable
