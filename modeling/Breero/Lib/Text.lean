import Mathlib.Algebra.GroupWithZero.Nat
import Mathlib.Data.List.TakeWhile
import Mathlib.Tactic.Common

/-!
Texts that are joined from parts, and the numbers in them.

* `append_unique`: a text is cut in one way only where its first part ends with a property that
  what follows does not begin with;
* `toString_inj` and `isDigit_of_mem`: a number is read back from its digits;
* `numbered_inj` reads the parts of a text like `name:3:7` back;
* `splitOnce_eq_iff`: a text is cut at the first separator in it, if there is one;
* `exists_fresh`: some text is not in a list.
-/

namespace Text

theorem append_unique {p : Char → Prop} : ∀ {xs ys rest rest' : List Char},
    (∀ c ∈ xs, p c) → (∀ c ∈ ys, p c) → (∀ c ∈ rest.head?, ¬ p c) → (∀ c ∈ rest'.head?, ¬ p c) →
      xs ++ rest = ys ++ rest' → xs = ys ∧ rest = rest' := by
  intro xs
  induction xs with
  | nil =>
    intro ys rest rest' _ hys hrest _ h
    cases ys with
    | nil => exact ⟨rfl, h⟩
    | cons c ys =>
      rw [List.nil_append] at h
      subst h
      exact absurd (hys c List.mem_cons_self) (hrest c rfl)
  | cons c xs ih =>
    intro ys rest rest' hxs hys hrest hrest' h
    cases ys with
    | nil =>
      rw [List.nil_append] at h
      subst h
      exact absurd (hxs c List.mem_cons_self) (hrest' c rfl)
    | cons d ys =>
      rw [List.cons_append, List.cons_append, List.cons.injEq] at h
      obtain ⟨rfl, h⟩ := h
      obtain ⟨rfl, rfl⟩ := ih (fun b hb => hxs b (List.mem_cons_of_mem _ hb))
        (fun b hb => hys b (List.mem_cons_of_mem _ hb)) hrest hrest' h
      exact ⟨rfl, rfl⟩

theorem toList_toString (n : Nat) : (toString n).toList = Nat.toDigits 10 n := by
  rw [Nat.toString_eq_ofList_toDigits, String.toList_ofList]

theorem toString_inj {a b : Nat} (h : toString a = toString b) : a = b := by
  have hdigits := congrArg String.toList h
  rw [toList_toString, toList_toString] at hdigits
  have hvalue := congrArg (fun digits => Nat.ofDigitChars 10 digits 0) hdigits
  simpa only [Nat.ofDigitChars_ten_toDigits] using hvalue

theorem isDigit_of_mem {n : Nat} {c : Char} (h : c ∈ (toString n).toList) : c.isDigit := by
  rw [toList_toString] at h
  exact Nat.isDigit_of_mem_toDigits (by decide) (by decide) h

/-- Texts of a name, two numbers and a tail that does not begin with a digit. -/
theorem numbered_inj {name name' tail tail' : String} {a b a' b' : Nat}
    (hname : ':' ∉ name.toList) (hname' : ':' ∉ name'.toList)
    (htail : ∀ c ∈ tail.toList.head?, ¬ c.isDigit) (htail' : ∀ c ∈ tail'.toList.head?, ¬ c.isDigit)
    (h : name ++ ":" ++ toString a ++ ":" ++ toString b ++ tail =
      name' ++ ":" ++ toString a' ++ ":" ++ toString b' ++ tail') :
    name = name' ∧ a = a' ∧ b = b' := by
  have hcolon : ∀ rest, ∀ c ∈ (":".toList ++ rest).head?, ¬ c ≠ ':' := by
    rintro rest c ⟨⟩ hne
    exact hne rfl
  have hdigit : ∀ rest, ∀ c ∈ (":".toList ++ rest).head?, ¬ c.isDigit := by
    rintro rest c ⟨⟩
    decide
  have hlist := congrArg String.toList h
  simp only [String.toList_append, List.append_assoc] at hlist
  obtain ⟨hnames, hlist⟩ := append_unique (p := (· ≠ ':')) (fun c hc => fun heq => hname (heq ▸ hc))
    (fun c hc => fun heq => hname' (heq ▸ hc)) (hcolon _) (hcolon _) hlist
  obtain ⟨hfirst, hlist⟩ := append_unique (p := (·.isDigit)) (fun _ => isDigit_of_mem)
    (fun _ => isDigit_of_mem) (hdigit _) (hdigit _) (List.append_cancel_left hlist)
  obtain ⟨hsecond, _⟩ := append_unique (p := (·.isDigit)) (fun _ => isDigit_of_mem)
    (fun _ => isDigit_of_mem) htail htail' (List.append_cancel_left hlist)
  exact ⟨String.toList_inj.mp hnames, toString_inj (String.toList_inj.mp hfirst),
    toString_inj (String.toList_inj.mp hsecond)⟩

/-! ## The first separator -/

/-- What stands before the first `sep`, and what stands after it. -/
def splitOnce (sep : Char) : List Char → List Char × Option (List Char)
  | [] => ([], none)
  | c :: cs =>
    if c = sep then ([], some cs)
    else (c :: (splitOnce sep cs).1, (splitOnce sep cs).2)

/-- The text that is cut into these parts. -/
def joinOnce (sep : Char) (before : List Char) : Option (List Char) → List Char
  | none => before
  | some after => before ++ sep :: after

theorem joinOnce_cons (sep c : Char) (before : List Char) (after : Option (List Char)) :
    joinOnce sep (c :: before) after = c :: joinOnce sep before after := by
  cases after <;> rfl

theorem splitOnce_eq_iff {sep : Char} {cs before : List Char} {after : Option (List Char)} :
    splitOnce sep cs = (before, after) ↔ cs = joinOnce sep before after ∧ sep ∉ before := by
  induction cs generalizing before with
  | nil =>
    constructor
    · rintro ⟨⟩
      exact ⟨rfl, List.not_mem_nil⟩
    · rintro ⟨h, -⟩
      cases after with
      | none => rw [show before = [] from h.symm, splitOnce]
      | some after => simp [joinOnce] at h
  | cons c cs ih =>
    rw [splitOnce]
    split
    · next hsep =>
      subst hsep
      constructor
      · rintro ⟨⟩
        exact ⟨rfl, List.not_mem_nil⟩
      · rintro ⟨h, hfree⟩
        cases before with
        | nil =>
          cases after with
          | none => simp [joinOnce] at h
          | some after =>
            rw [joinOnce, List.nil_append, List.cons.injEq] at h
            rw [h.2]
        | cons d before =>
          rw [joinOnce_cons, List.cons.injEq] at h
          exact absurd (h.1 ▸ List.mem_cons_self) hfree
    · next hsep =>
      constructor
      · rintro ⟨⟩
        obtain ⟨hcs, hfree⟩ := ih.mp rfl
        refine ⟨?_, ?_⟩
        · rw [joinOnce_cons, ← hcs]
        · rw [List.mem_cons, not_or]
          exact ⟨Ne.symm hsep, hfree⟩
      · rintro ⟨h, hfree⟩
        cases before with
        | nil =>
          cases after with
          | none => simp [joinOnce] at h
          | some after =>
            rw [joinOnce, List.nil_append, List.cons.injEq] at h
            exact absurd h.1 hsep
        | cons d before =>
          rw [joinOnce_cons, List.cons.injEq] at h
          rw [List.mem_cons, not_or] at hfree
          rw [ih.mpr ⟨h.2, hfree.2⟩, h.1]

theorem takeWhile_joinOnce {sep : Char} {before : List Char} (h : sep ∉ before)
    (after : Option (List Char)) : (joinOnce sep before after).takeWhile (· ≠ sep) = before := by
  have hbefore : ∀ c ∈ before, decide (c ≠ sep) = true :=
    fun c hc => decide_eq_true fun heq => h (heq ▸ hc)
  cases after with
  | none => exact List.takeWhile_eq_self_iff.mpr hbefore
  | some after =>
    rw [joinOnce, List.takeWhile_append_of_pos hbefore, List.takeWhile_cons_of_neg (by simp),
      List.append_nil]

/-! ## A fresh text -/

theorem length_le_sum {used : List String} {s : String} (h : s ∈ used) :
    s.length ≤ (used.map String.length).sum := by
  induction used with
  | nil => cases h
  | cons t used ih =>
    rw [List.map_cons, List.sum_cons]
    rcases List.mem_cons.mp h with rfl | h
    · omega
    · have hle := ih h
      omega

/-- A text that is longer than all of them together. -/
theorem exists_fresh (used : List String) : ∃ s, s ∉ used := by
  refine ⟨String.ofList (List.replicate ((used.map String.length).sum + 1) 'x'), fun hmem => ?_⟩
  have hle := length_le_sum hmem
  simp only [String.length_ofList, List.length_replicate] at hle
  omega

end Text
