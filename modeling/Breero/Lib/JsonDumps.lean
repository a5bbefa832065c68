import Breero.Lib.JsonText
import Mathlib.Data.List.Sort
import Mathlib.Tactic.IntervalCases

/-!
JSON as Python's `json` writes it, with `separators=(",", ":")` and `ensure_ascii=False`.

* `dumps` is the text of a value, and `sorted` the value as `sort_keys=True` has it written;
* `scan_dumps`: the machine of `JsonText` reads the text of a value as that value;
* `loads_canonical`: with sorted keys, and in UTF-8, a value is read as `sorted`, so two values
  have the same bytes only if they are the same up to the order of their members.
-/

namespace JsonText
open Encodings

/-! ## Texts -/

def hexText (d : Nat) : Nat := if d < 10 then 48 + d else 87 + d

/-- A code point as it stands between the quotes. -/
def escaped (c : Nat) : Text :=
  if c = '"'.toNat then ['\\'.toNat, '"'.toNat]
  else if c = '\\'.toNat then ['\\'.toNat, '\\'.toNat]
  else if c = 10 then ['\\'.toNat, 'n'.toNat]
  else if c = 13 then ['\\'.toNat, 'r'.toNat]
  else if c = 9 then ['\\'.toNat, 't'.toNat]
  else if c = 12 then ['\\'.toNat, 'f'.toNat]
  else if c = 8 then ['\\'.toNat, 'b'.toNat]
  else if c ≤ 0x1F then
    ['\\'.toNat, 'u'.toNat, '0'.toNat, '0'.toNat, hexText (c / 16), hexText (c % 16)]
  else [c]

def quote (s : Text) : Text := '"'.toNat :: s.flatMap escaped ++ ['"'.toNat]

def natText (n : Nat) : Text := (Nat.toDigits 10 n).map Char.toNat

def intText : Int → Text
  | .ofNat n => natText n
  | .negSucc n => '-'.toNat :: natText (n + 1)

/-- The parts, with commas between them. -/
def commas : List Text → Text
  | [] => []
  | [part] => part
  | part :: parts => part ++ ','.toNat :: commas parts

variable (floatText : Double → Text)

mutual
/-- `json.dumps`; `floatText` is how it writes a float. -/
def dumps : Value → Text
  | .null => ofString "null"
  | .bool b => ofString (if b then "true" else "false")
  | .int n => intText n
  | .float x => floatText x
  | .str s => quote s
  | .arr items => '['.toNat :: commas (itemTexts items) ++ [']'.toNat]
  | .obj members => 123 :: commas (memberTexts members) ++ [125]

def itemTexts : List Value → List Text
  | [] => []
  | value :: rest => dumps value :: itemTexts rest

def memberTexts : List (Text × Value) → List Text
  | [] => []
  | (key, value) :: rest => (quote key ++ ':'.toNat :: dumps value) :: memberTexts rest
end

/-- Code point by code point, as Python orders strings. -/
def NotAfter (a b : Text) : Prop := List.le a b

instance : DecidableRel NotAfter := fun a b => List.decidableLE a b

mutual
/-- The members of every object in the order of their keys. -/
def Value.sorted : Value → Value
  | .arr items => .arr (sortedItems items)
  | .obj members => .obj ((sortedMembers members).insertionSort fun a b => NotAfter a.1 b.1)
  | value => value

def sortedItems : List Value → List Value
  | [] => []
  | value :: rest => value.sorted :: sortedItems rest

def sortedMembers : List (Text × Value) → List (Text × Value)
  | [] => []
  | (key, value) :: rest => (key, value.sorted) :: sortedMembers rest
end

mutual
/-- No floats, and no surrogates in the texts. -/
def Value.Plain : Value → Prop
  | .float _ => False
  | .str s => ∀ c ∈ s, IsScalar c
  | .arr items => PlainItems items
  | .obj members => PlainMembers members
  | .null | .bool _ | .int _ => True

def PlainItems : List Value → Prop
  | [] => True
  | value :: rest => value.Plain ∧ PlainItems rest

def PlainMembers : List (Text × Value) → Prop
  | [] => True
  | (key, value) :: rest => (∀ c ∈ key, IsScalar c) ∧ value.Plain ∧ PlainMembers rest
end

/-! ## Strings -/

theorem ofString_inj {s t : String} : ofString s = ofString t ↔ s = t := by
  constructor
  · intro h
    exact String.toList_inj.mp (List.map_injective_iff.mpr (fun _ _ => Char.toNat_inj.mp) h)
  · exact congrArg ofString

theorem ofString_scalar (s : String) : ∀ c ∈ ofString s, IsScalar c := by
  intro c hc
  obtain ⟨d, _, rfl⟩ := List.mem_map.mp hc
  exact d.valid

/-! ## Reading strings -/

theorem scan_cons {s t : State} {c : Nat} (h : step {} s c = .ok t) (rest : Text) :
    scan {} s (c :: rest) = scan {} t rest := by
  simp only [scan, h]
  rfl

theorem hexDigit?_hexText {d : Nat} (h : d < 16) : hexDigit? (hexText d) = some d := by
  revert d
  decide

/-- What is read of a string between two of its code points. -/
def between (isKey : Bool) (chars : Text) (stack : List Frame) : State :=
  { mode := .text { isKey, chars }, stack }

theorem scan_escaped (isKey : Bool) (chars : Text) (stack : List Frame) (c : Nat) (rest : Text) :
    scan {} (between isKey chars stack) (escaped c ++ rest) =
      scan {} (between isKey (c :: chars) stack) rest := by
  have hsimple : ∀ e, e ≠ 'u'.toNat → simpleEscape? e = some c →
      scan {} (between isKey chars stack) ('\\'.toNat :: e :: rest) =
        scan {} (between isKey (c :: chars) stack) rest := by
    intro e hu he
    rw [scan_cons (t := { mode := .text { isKey, chars, escape := .start }, stack }) rfl,
      scan_cons (t := between isKey (c :: chars) stack)]
    simp only [step, stepText, if_neg hu, he]
    rfl
  unfold escaped
  split
  · next h => exact hsimple _ (by decide) (by rw [h]; decide)
  split
  · next h => exact hsimple _ (by decide) (by rw [h]; decide)
  split
  · next h => exact hsimple _ (by decide) (by rw [h]; decide)
  split
  · next h => exact hsimple _ (by decide) (by rw [h]; decide)
  split
  · next h => exact hsimple _ (by decide) (by rw [h]; decide)
  split
  · next h => exact hsimple _ (by decide) (by rw [h]; decide)
  split
  · next h => exact hsimple _ (by decide) (by rw [h]; decide)
  split
  · next h =>
    have hhigh := hexDigit?_hexText (d := c / 16) (by omega)
    have hlow := hexDigit?_hexText (d := c % 16) (by omega)
    have hcode : c / 16 * 16 + c % 16 = c := by omega
    have hsurrogate : isHighSurrogate c = false := by
      simp only [isHighSurrogate, Bool.and_eq_false_imp, decide_eq_true_eq, decide_eq_false_iff_not]
      omega
    simp only [List.cons_append, List.nil_append]
    rw [scan_cons (t := { mode := .text { isKey, chars, escape := .start }, stack }) rfl,
      scan_cons (t := { mode := .text { isKey, chars, escape := .hex 0 0 }, stack }) rfl,
      scan_cons (t := { mode := .text { isKey, chars, escape := .hex 1 0 }, stack }) rfl,
      scan_cons (t := { mode := .text { isKey, chars, escape := .hex 2 0 }, stack }) rfl,
      scan_cons (t := { mode := .text { isKey, chars, escape := .hex 3 (c / 16) }, stack }),
      scan_cons (t := between isKey (c :: chars) stack)]
    · simp only [step, stepText, hlow, if_true, hcode]
      cases chars <;> simp [Quoted.putEscaped, Quoted.put, between, hsurrogate]
    · simp [step, stepText, hhigh]
  · next hquote hslash _ _ _ _ _ hcontrol =>
    rw [List.cons_append, List.nil_append, scan_cons (t := between isKey (c :: chars) stack)]
    simp only [step, between, stepText, if_neg hquote, if_neg hslash, if_neg hcontrol]
    rfl

theorem scan_flatMap_escaped (isKey : Bool) (stack : List Frame) (s rest : Text) :
    ∀ chars, scan {} (between isKey chars stack) (s.flatMap escaped ++ rest) =
      scan {} (between isKey (s.reverse ++ chars) stack) rest := by
  induction s with
  | nil => exact fun _ => rfl
  | cons c s ih =>
    intro chars
    rw [List.flatMap_cons, List.append_assoc, scan_escaped, ih]
    simp

theorem scan_quote (isKey : Bool) (stack : List Frame) (s rest : Text) :
    scan {} (between isKey [] stack) (s.flatMap escaped ++ '"'.toNat :: rest) =
      scan {} (endText { isKey, chars := s.reverse } stack) rest := by
  rw [scan_flatMap_escaped, List.append_nil, scan_cons]
  rfl

/-! ## Reading numbers -/

/-- What may stand after a value: nothing, a comma or the end of a container. -/
def Closed : Text → Prop
  | [] => True
  | c :: _ => c = ','.toNat ∨ c = ']'.toNat ∨ c = 125

/-- A number of which its sign is read. -/
def signed (negative : Bool) (stack : List Frame) : State :=
  if negative then { mode := .number .sign { negative }, stack } else { stack }

/-- A number of which `n` is read, in so many digits. -/
def numbered (negative : Bool) (n count : Nat) (stack : List Frame) : State :=
  { mode := .number (if n = 0 then .zero else .int) { negative, digits := n, intDigits := count }
    stack }

theorem digit?_digitChar {d : Nat} (h : d < 10) : digit? (Nat.digitChar d).toNat = some d := by
  revert d
  decide

theorem step_first (negative : Bool) (stack : List Frame) {d : Nat} (h : d < 10) :
    step {} (signed negative stack) (Nat.digitChar d).toNat =
      .ok (numbered negative d 1 stack) := by
  cases negative with
  | false => interval_cases d <;> rfl
  | true => interval_cases d <;> rfl

theorem scan_natText (negative : Bool) (stack : List Frame) (n : Nat) :
    ∃ count, ∀ rest, scan {} (signed negative stack) (natText n ++ rest) =
      scan {} (numbered negative n count stack) rest := by
  induction n using Nat.strongRecOn with
  | _ n ih =>
    by_cases h : n < 10
    · refine ⟨1, fun rest => ?_⟩
      rw [natText, Nat.toDigits_of_lt_base h]
      exact scan_cons (step_first negative stack h) rest
    · obtain ⟨count, hcount⟩ := ih (n / 10) (by omega)
      refine ⟨count + 1, fun rest => ?_⟩
      have hdigit := digit?_digitChar (d := n % 10) (by omega)
      have hzero : ¬ n / 10 = 0 := by omega
      rw [natText, Nat.toDigits_of_base_le (by decide) (by omega), List.map_append,
        List.append_assoc]
      refine (hcount _).trans (scan_cons ?_ rest)
      simp only [step, numbered, if_neg hzero, stepNumber, Numeral.push, hdigit]
      rw [if_neg (show ¬ n = 0 by omega), show n / 10 * 10 + n % 10 = n by omega]

theorem endNumber_numbered (negative : Bool) (n count : Nat) :
    endNumber {} (if n = 0 then .zero else .int) { negative, digits := n, intDigits := count } =
      .ok (.int (if negative then -n else n)) := by
  split <;> rfl

theorem push_closed {c : Nat} {rest : Text} (hclosed : Closed (c :: rest)) (n : Nat)
    (numeral : Numeral) : numeral.push (if n = 0 then .zero else .int) c = none := by
  rcases hclosed with rfl | rfl | rfl
  · split <;> rfl
  · split <;> rfl
  · split <;> rfl

theorem step_complete (value : Value) (stack : List Frame) (c : Nat) :
    step {} (complete value stack) c = proceed (complete value stack) c := by
  cases stack with
  | nil => rfl
  | cons frame stack => cases frame <;> rfl

/-- A number ends where nothing of a number follows. -/
theorem scan_numbered (negative : Bool) (n count : Nat) (stack : List Frame) {rest : Text}
    (hclosed : Closed rest) :
    scan {} (numbered negative n count stack) rest =
      scan {} (complete (.int (if negative then -n else n)) stack) rest := by
  have hend := endNumber_numbered negative n count
  cases rest with
  | nil =>
    simp only [scan, finish, numbered, hend]
    cases stack with
    | nil => rfl
    | cons frame stack => cases frame <;> rfl
  | cons c rest =>
    have hsign : ¬ ((if n = 0 then Phase.zero else .int) = .sign ∧ c = 'I'.toNat) := by
      rintro ⟨hphase, _⟩
      split at hphase <;> cases hphase
    have hstep : step {} (numbered negative n count stack) c =
        step {} (complete (.int (if negative then -n else n)) stack) c := by
      rw [step_complete]
      simp only [step, numbered, stepNumber, push_closed hclosed, if_neg hsign, hend]
      rfl
    simp only [scan, hstep]

/-! ## Reading values -/

theorem scan_intText (n : Int) (stack : List Frame) {rest : Text} (hclosed : Closed rest) :
    scan {} { stack } (intText n ++ rest) = scan {} (complete (.int n) stack) rest := by
  cases n with
  | ofNat n =>
    obtain ⟨count, hcount⟩ := scan_natText false stack n
    exact (hcount rest).trans (scan_numbered false n count stack hclosed)
  | negSucc n =>
    obtain ⟨count, hcount⟩ := scan_natText true stack (n + 1)
    rw [intText, List.cons_append, scan_cons (t := signed true stack) rfl]
    exact (hcount rest).trans (scan_numbered true (n + 1) count stack hclosed)

theorem natText_head (n : Nat) : ∃ d < 10, ∃ rest, natText n = (Nat.digitChar d).toNat :: rest := by
  induction n using Nat.strongRecOn with
  | _ n ih =>
    by_cases h : n < 10
    · exact ⟨n, h, [], by rw [natText, Nat.toDigits_of_lt_base h]; rfl⟩
    · obtain ⟨d, hd, rest, hrest⟩ := ih (n / 10) (by omega)
      refine ⟨d, hd, rest ++ [(Nat.digitChar (n % 10)).toNat], ?_⟩
      rw [natText, Nat.toDigits_of_base_le (by decide) (by omega), List.map_append]
      exact congrArg (· ++ _) hrest

/-- The text of a value begins with ASCII, and not with white space or the end of an array. -/
theorem dumps_head (value : Value) (hplain : value.Plain) : ∃ c rest,
    dumps floatText value = c :: rest ∧ c < 0x80 ∧ isWhitespace c = false ∧ c ≠ ']'.toNat := by
  cases value with
  | null => exact ⟨_, _, rfl, by decide, by decide, by decide⟩
  | bool b => cases b <;> exact ⟨_, _, rfl, by decide, by decide, by decide⟩
  | int n =>
    cases n with
    | ofNat n =>
      obtain ⟨d, hd, rest, hrest⟩ := natText_head n
      refine ⟨_, rest, hrest, ?_⟩
      clear hrest
      revert d
      decide
    | negSucc n => exact ⟨_, _, rfl, by decide, by decide, by decide⟩
  | float x => exact hplain.elim
  | str s => exact ⟨_, _, rfl, by decide, by decide, by decide⟩
  | arr items => exact ⟨_, _, rfl, by decide, by decide, by decide⟩
  | obj members => exact ⟨_, _, rfl, by decide, by decide, by decide⟩

/-- The first value of an array is read as any other. -/
theorem scan_first {value : Value} (hplain : value.Plain) (stack : List Frame) (rest : Text) :
    scan {} { mode := .valueOrEnd, stack } (dumps floatText value ++ rest) =
      scan {} { stack } (dumps floatText value ++ rest) := by
  obtain ⟨c, tail, htext, _, hspace, hend⟩ := dumps_head floatText value hplain
  rw [htext]
  simp only [List.cons_append, scan, step, hspace, if_neg hend, Bool.false_eq_true, if_false]

theorem commas_cons (part : Text) {parts : List Text} (h : parts ≠ []) :
    commas (part :: parts) = part ++ ','.toNat :: commas parts := by
  cases parts with
  | nil => exact absurd rfl h
  | cons next parts => rfl

theorem closed_comma (rest : Text) : Closed (','.toNat :: rest) := .inl rfl

theorem closed_bracket (rest : Text) : Closed (']'.toNat :: rest) := .inr (.inl rfl)

theorem closed_brace (rest : Text) : Closed (125 :: rest) := .inr (.inr rfl)

mutual
/-- The machine reads the text of a value as the value. -/
theorem scan_dumps : ∀ (value : Value) (stack : List Frame) {rest : Text}, value.Plain →
    Closed rest → scan {} { stack } (dumps floatText value ++ rest) =
      scan {} (complete value stack) rest
  | .null, stack, rest, _, _ => rfl
  | .bool true, stack, rest, _, _ => rfl
  | .bool false, stack, rest, _, _ => rfl
  | .int n, stack, rest, _, hclosed => scan_intText n stack hclosed
  | .float _, _, _, hplain, _ => hplain.elim
  | .str s, stack, rest, _, _ => by
    simp only [dumps, quote, List.cons_append, List.append_assoc, List.nil_append]
    rw [scan_cons (t := between false [] stack) rfl, scan_quote]
    cases stack with
    | nil => simp [endText]
    | cons frame stack => cases frame <;> simp [endText]
  | .arr [], stack, rest, _, _ => rfl
  | .arr (value :: items), stack, rest, hplain, _ => by
    have hitems := scan_items (value :: items) [] stack rest (by simp) hplain
    simp only [dumps, List.cons_append, List.append_assoc, List.nil_append]
    rw [scan_cons (t := { mode := .valueOrEnd, stack := .arr [] :: stack }) rfl]
    refine Eq.trans ?_ hitems
    cases items with
    | nil => exact scan_first floatText hplain.1 _ _
    | cons next items =>
      rw [itemTexts, itemTexts, commas_cons _ (by simp), List.append_assoc]
      exact scan_first floatText hplain.1 _ _
  | .obj [], stack, rest, _, _ => rfl
  | .obj ((key, value) :: members), stack, rest, hplain, _ => by
    have hmembers := scan_members ((key, value) :: members) [] [] stack rest (by simp) hplain
    simp only [dumps, List.cons_append, List.append_assoc, List.nil_append]
    rw [scan_cons (t := { mode := .keyOrEnd, stack := .obj [] [] :: stack }) rfl]
    refine Eq.trans ?_ hmembers
    cases members with
    | nil => rfl
    | cons next members => rfl

theorem scan_items : ∀ (items read : List Value) (stack : List Frame) (rest : Text),
    items ≠ [] → PlainItems items →
    scan {} { stack := .arr read :: stack }
        (commas (itemTexts floatText items) ++ ']'.toNat :: rest) =
      scan {} (complete (.arr (read.reverse ++ items)) stack) rest
  | [], _, _, _, hne, _ => absurd rfl hne
  | [value], read, stack, rest, _, hplain => by
    rw [itemTexts, itemTexts, commas, scan_dumps value _ hplain.1 (closed_bracket rest),
      scan_cons (t := complete (.arr (value :: read).reverse) stack) rfl]
    simp
  | value :: next :: items, read, stack, rest, _, hplain => by
    have hrest := scan_items (next :: items) (value :: read) stack rest (by simp) hplain.2
    rw [itemTexts, commas_cons _ (by simp [itemTexts]), List.append_assoc, List.cons_append,
      scan_dumps value _ hplain.1 (closed_comma _),
      scan_cons (t := { stack := .arr (value :: read) :: stack }) rfl, hrest]
    simp

theorem scan_members : ∀ (members read : List (Text × Value)) (last : Text)
    (stack : List Frame) (rest : Text), members ≠ [] → PlainMembers members →
    scan {} { mode := .key, stack := .obj read last :: stack }
        (commas (memberTexts floatText members) ++ 125 :: rest) =
      scan {} (complete (.obj (read.reverse ++ members)) stack) rest
  | [], _, _, _, _, hne, _ => absurd rfl hne
  | [(key, value)], read, last, stack, rest, _, hplain => by
    simp only [memberTexts, commas, quote, List.cons_append, List.append_assoc, List.nil_append]
    rw [scan_cons (t := between true [] (.obj read last :: stack)) rfl, scan_quote,
      scan_cons (t := { stack := .obj read key :: stack }) (by simp [endText]; rfl),
      scan_dumps value _ hplain.2.1 (closed_brace rest),
      scan_cons (t := complete (.obj ((key, value) :: read).reverse) stack) rfl]
    simp
  | (key, value) :: next :: members, read, last, stack, rest, _, hplain => by
    have hrest := scan_members (next :: members) ((key, value) :: read) key stack rest
      (by simp) hplain.2.2
    rw [memberTexts, commas_cons _ (by simp [memberTexts])]
    simp only [quote, List.cons_append, List.append_assoc, List.nil_append]
    rw [scan_cons (t := between true [] (.obj read last :: stack)) rfl, scan_quote,
      scan_cons (t := { stack := .obj read key :: stack }) (by simp [endText]; rfl),
      scan_dumps value _ hplain.2.1 (closed_comma _),
      scan_cons (t := { mode := .key, stack := .obj ((key, value) :: read) key :: stack }) rfl]
    refine hrest.trans ?_
    simp
end

/-- **The round trip**: reading the text of a value gives the value. -/
theorem scan_text {value : Value} (hplain : value.Plain) :
    scan {} {} (dumps floatText value) = .ok value := by
  have hscan : scan {} { stack := [] } (dumps floatText value ++ []) = _ :=
    scan_dumps floatText value [] hplain trivial
  rw [List.append_nil] at hscan
  exact hscan

/-! ## Bytes -/

/-- A code point that `dumps` may write. -/
def Written (c : Nat) : Prop := IsScalar c ∧ c ≠ 0

instance : DecidablePred Written := fun _ => inferInstanceAs (Decidable (_ ∧ _))

theorem escaped_written {c : Nat} (h : IsScalar c) : ∀ d ∈ escaped c, Written d := by
  unfold escaped
  split
  · decide
  split
  · decide
  split
  · decide
  split
  · decide
  split
  · decide
  split
  · decide
  split
  · decide
  split
  · next hcontrol =>
    have hhex : ∀ d < 16, Written (hexText d) := by decide
    have hhigh := hhex (c / 16) (by omega)
    have hlow := hhex (c % 16) (by omega)
    simp only [List.forall_mem_cons, List.not_mem_nil, false_implies, implies_true, and_true]
    exact ⟨by decide, by decide, by decide, by decide, hhigh, hlow⟩
  · next hcontrol =>
    rw [List.forall_mem_singleton]
    exact ⟨h, by omega⟩

theorem quote_written {s : Text} (h : ∀ c ∈ s, IsScalar c) : ∀ d ∈ quote s, Written d := by
  intro d hd
  simp only [quote, List.cons_append, List.mem_cons, List.mem_append, List.mem_flatMap,
    List.not_mem_nil, or_false] at hd
  rcases hd with rfl | ⟨c, hc, hd⟩ | rfl
  · decide
  · exact escaped_written (h c hc) d hd
  · decide

theorem natText_written (n : Nat) : ∀ d ∈ natText n, Written d := by
  induction n using Nat.strongRecOn with
  | _ n ih =>
    have hdigit : ∀ d < 10, Written (Nat.digitChar d).toNat := by decide
    rw [natText, Nat.toDigits_eq_if (by decide)]
    split
    · next h => simpa using hdigit n h
    · next h =>
      rw [List.map_append, List.forall_mem_append]
      exact ⟨ih (n / 10) (by omega), by simpa using hdigit (n % 10) (by omega)⟩

theorem commas_written {parts : List Text} (h : ∀ part ∈ parts, ∀ d ∈ part, Written d) :
    ∀ d ∈ commas parts, Written d := by
  induction parts with
  | nil => exact List.forall_mem_nil _
  | cons part parts ih =>
    rw [List.forall_mem_cons] at h
    by_cases hparts : parts = []
    · rw [hparts, commas]
      exact h.1
    · rw [commas_cons _ hparts, List.forall_mem_append, List.forall_mem_cons]
      exact ⟨h.1, by decide, ih h.2⟩

mutual
theorem dumps_written : ∀ value : Value, value.Plain → ∀ d ∈ dumps floatText value, Written d
  | .null, _ => by
    rw [dumps]
    decide
  | .bool b, _ => by
    rw [dumps]
    cases b <;> decide
  | .int (.ofNat n), _ => natText_written n
  | .int (.negSucc n), _ => by
    rw [dumps, intText, List.forall_mem_cons]
    exact ⟨by decide, natText_written _⟩
  | .float _, hplain => hplain.elim
  | .str _, hplain => quote_written hplain
  | .arr items, hplain => by
    rw [dumps, List.cons_append, List.forall_mem_cons, List.forall_mem_append]
    exact ⟨by decide, commas_written (itemTexts_written items hplain), by decide⟩
  | .obj members, hplain => by
    rw [dumps, List.cons_append, List.forall_mem_cons, List.forall_mem_append]
    exact ⟨by decide, commas_written (memberTexts_written members hplain), by decide⟩

theorem itemTexts_written : ∀ items : List Value, PlainItems items →
    ∀ part ∈ itemTexts floatText items, ∀ d ∈ part, Written d
  | [], _ => List.forall_mem_nil _
  | value :: items, hplain => by
    rw [itemTexts, List.forall_mem_cons]
    exact ⟨dumps_written value hplain.1, itemTexts_written items hplain.2⟩

theorem memberTexts_written : ∀ members : List (Text × Value), PlainMembers members →
    ∀ part ∈ memberTexts floatText members, ∀ d ∈ part, Written d
  | [], _ => List.forall_mem_nil _
  | (key, value) :: members, hplain => by
    rw [memberTexts, List.forall_mem_cons, List.forall_mem_append, List.forall_mem_cons]
    exact ⟨⟨quote_written hplain.1, by decide, dumps_written value hplain.2.1⟩,
      memberTexts_written members hplain.2.2⟩
end

theorem plainMembers_iff {members : List (Text × Value)} : PlainMembers members ↔
    ∀ member ∈ members, (∀ c ∈ member.1, IsScalar c) ∧ member.2.Plain := by
  induction members with
  | nil => simp [PlainMembers]
  | cons member members ih =>
    rw [PlainMembers, List.forall_mem_cons, ih, and_assoc]

mutual
theorem sorted_plain : ∀ value : Value, value.Plain → value.sorted.Plain
  | .null, hplain | .bool _, hplain | .int _, hplain | .float _, hplain | .str _, hplain => hplain
  | .arr items, hplain => sortedItems_plain items hplain
  | .obj members, hplain => by
    have hsorted := sortedMembers_plain members hplain
    rw [plainMembers_iff] at hsorted
    refine plainMembers_iff.mpr fun member hmember => hsorted member ?_
    exact (List.mem_insertionSort _).mp hmember

theorem sortedItems_plain : ∀ items : List Value, PlainItems items → PlainItems (sortedItems items)
  | [], _ => trivial
  | value :: items, hplain => ⟨sorted_plain value hplain.1, sortedItems_plain items hplain.2⟩

theorem sortedMembers_plain : ∀ members : List (Text × Value), PlainMembers members →
    PlainMembers (sortedMembers members)
  | [], _ => trivial
  | (_, value) :: members, hplain =>
    ⟨hplain.1, sorted_plain value hplain.2.1, sortedMembers_plain members hplain.2.2⟩
end

/-- The bytes of a value are read as the value. -/
theorem loads_dumps {value : Value} (hplain : value.Plain) :
    loads {} (encodeUtf8 (dumps floatText value)) = .ok value := by
  obtain ⟨c, rest, htext, hascii, _⟩ := dumps_head floatText value hplain
  have hwritten := dumps_written floatText value hplain
  rw [htext] at hwritten
  have hbytes : decodeBytes (encodeUtf8 (dumps floatText value)) =
      some (dumps floatText value) := by
    rw [htext]
    exact decodeBytes_encodeUtf8 hascii (fun d hd => (hwritten d hd).1)
      fun hzero => (hwritten 0 hzero).2 rfl
  simp only [loads, hbytes]
  exact scan_text floatText hplain

/-- `json.dumps(value, sort_keys=True, …).encode()` -/
def canonicalBytes (value : Value) : List UInt8 := encodeUtf8 (dumps floatText value.sorted)

/-- **The bytes of a value are read as the value**, with its members in order. -/
theorem loads_canonical {value : Value} (hplain : value.Plain) :
    loads {} (canonicalBytes floatText value) = .ok value.sorted :=
  loads_dumps floatText (sorted_plain value hplain)

theorem canonicalBytes_inj {value other : Value} (hplain : value.Plain) (hother : other.Plain) :
    canonicalBytes floatText value = canonicalBytes floatText other ↔
      value.sorted = other.sorted := by
  constructor
  · intro hsame
    have hread := loads_canonical floatText hplain
    rw [hsame, loads_canonical floatText hother] at hread
    exact (Except.ok.inj hread).symm
  · intro hsame
    rw [canonicalBytes, canonicalBytes, hsame]

end JsonText
