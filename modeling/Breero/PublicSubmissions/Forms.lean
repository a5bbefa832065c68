import Breero.Lib.JsonOrders

/-!
The form of the website as it is sent: `stableSerialize` of `public-submissions.ts`.

* `Unknown` is a value of the script, and `toValue` what `JSON.stringify` makes of it;
* `canonicalize` sorts the keys of every object by their UTF-16 code units; an object has its array
  indices first all the same;
* `stableSerialize_iff`: two payloads have one text exactly if Python's `sort_keys=True` gives them
  one, so both ends tell payloads apart alike;
* `stableSerialize_read`: what is sent is read as the payload.
-/

namespace Breero.PublicSubmissions
open JsonText Encodings

/-- A value of the script. Its numbers are integers, and its strings have no lone surrogates. -/
inductive Unknown
  | undefined
  | null
  | boolean (b : Bool)
  | number (n : Int)
  | string (s : String)
  | array (items : List Unknown)
  | object (members : List (String × Unknown))

def Unknown.isUndefined : Unknown → Bool
  | .undefined => true
  | _ => false

/-! ## `JSON.stringify` -/

mutual
/-- What is undefined is left out of an object, and null in an array. -/
def Unknown.toValue : Unknown → JsonText.Value
  | .undefined | .null => .null
  | .boolean b => .bool b
  | .number n => .int n
  | .string s => .str (ofString s)
  | .array items => .arr (toValues items)
  | .object members => .obj (toMembers members)

def toValues : List Unknown → List JsonText.Value
  | [] => []
  | value :: rest => value.toValue :: toValues rest

def toMembers : List (String × Unknown) → List (Text × JsonText.Value)
  | [] => []
  | (key, value) :: rest =>
    if value.isUndefined then toMembers rest
    else (ofString key, value.toValue) :: toMembers rest
end

/-- There are no floats to write. -/
def noFloat : Double → Text := fun _ => []

def stringify (value : Unknown) : Option Text :=
  if value.isUndefined then none else some (dumps noFloat value.toValue)

/-! ## The order of the keys -/

/-- The code units of a string. -/
def utf16 (text : Text) : List Nat :=
  text.flatMap fun c =>
    if c < 0x10000 then [c]
    else [0xD800 + (c - 0x10000) / 0x400, 0xDC00 + (c - 0x10000) % 0x400]

/-- The number that a key of digits stands for. -/
def indexOf (key : Text) : Nat := key.foldl (fun n c => n * 10 + (c - '0'.toNat)) 0

/-- An array index is a number below `2 ^ 32 - 1` as it is written. -/
def isIndex (key : Text) : Bool := key = natText (indexOf key) && indexOf key < 2 ^ 32 - 1

section
variable {α β : Type}

/-- `Object.keys(…).sort()` -/
def sortKeys (key : α → Text) (rows : List α) : List α :=
  rows.insertionSort fun a b => NotAfter (utf16 (key a)) (utf16 (key b))

/-- The own keys of an object that was given the rows one after another. -/
def ownKeys (key : α → Text) (rows : List α) : List α :=
  ((rows.filter fun row => isIndex (key row)).insertionSort
      fun a b => indexOf (key a) ≤ indexOf (key b)) ++
    rows.filter fun row => !isIndex (key row)

theorem ownKeys_perm (key : α → Text) (rows : List α) : (ownKeys key rows).Perm rows :=
  ((List.perm_insertionSort _ _).append_right _).trans (List.filter_append_perm _ rows)

theorem map_sortKeys (f : α → β) {key : α → Text} (key' : β → Text)
    (h : ∀ row, key' (f row) = key row) (rows : List α) :
    (sortKeys key rows).map f = sortKeys key' (rows.map f) :=
  List.map_insertionSort _ _ f rows fun a _ b _ => by rw [h, h]

theorem map_ownKeys (f : α → β) {key : α → Text} (key' : β → Text)
    (h : ∀ row, key' (f row) = key row) (rows : List α) :
    (ownKeys key rows).map f = ownKeys key' (rows.map f) := by
  have hsort := List.map_insertionSort (fun a b => indexOf (key a) ≤ indexOf (key b))
    (fun a b => indexOf (key' a) ≤ indexOf (key' b)) f (rows.filter fun row => isIndex (key row))
    fun a _ b _ => by rw [h, h]
  simp only [ownKeys, List.map_append, hsort, List.filter_map, Function.comp_def, h]

end

mutual
def canonicalize : Unknown → Unknown
  | .array items => .array (canonicalizeItems items)
  | .object members =>
    let keyOf : String × Unknown → Text := fun member => ofString member.1
    .object (ownKeys keyOf (sortKeys keyOf (canonicalizeMembers members)))
  | value => value

def canonicalizeItems : List Unknown → List Unknown
  | [] => []
  | value :: rest => canonicalize value :: canonicalizeItems rest

def canonicalizeMembers : List (String × Unknown) → List (String × Unknown)
  | [] => []
  | (key, value) :: rest =>
    if value.isUndefined then canonicalizeMembers rest
    else (key, canonicalize value) :: canonicalizeMembers rest
end

/-- Nothing if it throws. -/
def stableSerialize (value : Unknown) : Option Text := stringify (canonicalize value)

/-! ## The order as an arrangement -/

def Scalars (key : Text) : Prop := ∀ c ∈ key, IsScalar c

/-- The code units tell code points apart. -/
theorem utf16_inj : ∀ {a b : Text}, Scalars a → Scalars b → utf16 a = utf16 b → a = b
  | [], [], _, _, _ => rfl
  | [], c :: rest, _, _, h => by
    simp only [utf16, List.flatMap_nil, List.flatMap_cons] at h
    split at h <;> simp at h
  | c :: rest, [], _, _, h => by
    simp only [utf16, List.flatMap_nil, List.flatMap_cons] at h
    split at h <;> simp at h
  | c :: a, d :: b, ha, hb, h => by
    have hc := ha c List.mem_cons_self
    have hd := hb d List.mem_cons_self
    have hrest : utf16 a = utf16 b → a = b :=
      utf16_inj (fun e he => ha e (List.mem_cons_of_mem _ he))
        fun e he => hb e (List.mem_cons_of_mem _ he)
    unfold IsScalar at hc hd
    simp only [utf16, List.flatMap_cons] at h hrest
    split at h <;> split at h <;>
      simp only [List.cons_append, List.nil_append, List.cons.injEq] at h
    · rw [h.1, hrest h.2]
    · omega
    · omega
    · obtain ⟨hhigh, hlow, htail⟩ := h
      rw [hrest htail, show c = d by omega]

/-- The keys of `canonicalize`, and of `JSON.stringify` behind it. -/
def scriptOrder : Arrangement Scalars :=
  (Arrangement.sortBy (fun a b => NotAfter (utf16 a) (utf16 b)) (fun _ _ => notAfter_total _ _)
    (fun _ _ _ => notAfter_trans) fun _ _ ha hb hle hge =>
      utf16_inj ha hb (notAfter_antisymm hle hge)).andThen
    (ownKeys Prod.fst) (ownKeys_perm Prod.fst)

/-! ## What `canonicalize` makes of a value -/

theorem canonicalize_undefined (value : Unknown) :
    (canonicalize value).isUndefined = value.isUndefined := by
  cases value <;> simp only [canonicalize, Unknown.isUndefined]

theorem toMembers_map {members : List (String × Unknown)}
    (h : ∀ member ∈ members, member.2.isUndefined = false) :
    toMembers members = members.map fun member => (ofString member.1, member.2.toValue) := by
  induction members with
  | nil => rfl
  | cons member members ih =>
    obtain ⟨key, value⟩ := member
    have hvalue : value.isUndefined = false := h (key, value) List.mem_cons_self
    rw [toMembers, hvalue, if_neg Bool.false_ne_true,
      ih fun other hother => h other (List.mem_cons_of_mem _ hother), List.map_cons]

theorem canonicalizeMembers_defined (members : List (String × Unknown)) :
    ∀ member ∈ canonicalizeMembers members, member.2.isUndefined = false := by
  induction members with
  | nil => exact List.forall_mem_nil _
  | cons member members ih =>
    obtain ⟨key, value⟩ := member
    rw [canonicalizeMembers]
    split
    · exact ih
    · next hvalue =>
      rw [List.forall_mem_cons]
      exact ⟨(canonicalize_undefined value).trans (Bool.eq_false_iff.mpr hvalue), ih⟩

theorem toMembers_canonical (members : List (String × Unknown)) :
    toMembers (ownKeys (fun member => ofString member.1)
        (sortKeys (fun member => ofString member.1) (canonicalizeMembers members))) =
      scriptOrder.order ((canonicalizeMembers members).map fun member =>
        (ofString member.1, member.2.toValue)) := by
  rw [toMembers_map, map_ownKeys _ Prod.fst fun _ => rfl, map_sortKeys _ Prod.fst fun _ => rfl]
  · rfl
  · intro member hmember
    have hsorted := (ownKeys_perm _ _).subset hmember
    exact canonicalizeMembers_defined members member ((List.mem_insertionSort _).mp hsorted)

mutual
theorem toValue_canonicalize : ∀ value : Unknown,
    (canonicalize value).toValue = value.toValue.arranged scriptOrder
  | .undefined | .null | .boolean _ | .number _ | .string _ => rfl
  | .array items => by
    rw [canonicalize, Unknown.toValue, toValues_canonicalize items]
    rfl
  | .object members => by
    simp only [canonicalize, Unknown.toValue, Value.arranged]
    rw [toMembers_canonical, toMembers_canonicalize members]

theorem toValues_canonicalize : ∀ items : List Unknown,
    toValues (canonicalizeItems items) = arrangedItems scriptOrder (toValues items)
  | [] => rfl
  | value :: rest =>
    congrArg₂ List.cons (toValue_canonicalize value) (toValues_canonicalize rest)

theorem toMembers_canonicalize : ∀ members : List (String × Unknown),
    ((canonicalizeMembers members).map fun member => (ofString member.1, member.2.toValue)) =
      arrangedMembers scriptOrder (toMembers members)
  | [] => rfl
  | (key, value) :: rest => by
    rw [canonicalizeMembers, toMembers]
    split
    · exact toMembers_canonicalize rest
    · rw [List.map_cons, arrangedMembers, toValue_canonicalize value,
        toMembers_canonicalize rest]
end

mutual
theorem toValue_plain : ∀ value : Unknown, value.toValue.Plain
  | .undefined | .null | .boolean _ | .number _ => trivial
  | .string s => ofString_scalar s
  | .array items => toValues_plain items
  | .object members => toMembers_plain members

theorem toValues_plain : ∀ items : List Unknown, PlainItems (toValues items)
  | [] => trivial
  | value :: rest => ⟨toValue_plain value, toValues_plain rest⟩

theorem toMembers_plain : ∀ members : List (String × Unknown), PlainMembers (toMembers members)
  | [] => trivial
  | (key, value) :: rest => by
    rw [toMembers]
    split
    · exact toMembers_plain rest
    · exact ⟨ofString_scalar key, toValue_plain value, toMembers_plain rest⟩
end

/-! ## The text -/

theorem dumps_inj {value other : JsonText.Value} (h : value.Plain) (hother : other.Plain) :
    dumps noFloat value = dumps noFloat other ↔ value = other := by
  constructor
  · intro heq
    have hread := scan_text noFloat h
    rw [heq, scan_text noFloat hother] at hread
    exact (Except.ok.inj hread).symm
  · exact congrArg _

theorem stableSerialize_eq (value : Unknown) : stableSerialize value =
    if value.isUndefined then none
    else some (dumps noFloat (value.toValue.arranged scriptOrder)) := by
  rw [stableSerialize, stringify, canonicalize_undefined, toValue_canonicalize]

/-- The text is that of the canonical value, and says which it is. -/
theorem stableSerialize_inj {value other : Unknown} :
    stableSerialize value = stableSerialize other ↔
      value.isUndefined = other.isUndefined ∧
        value.toValue.arranged scriptOrder = other.toValue.arranged scriptOrder := by
  have hplain (value : Unknown) : (value.toValue.arranged scriptOrder).Plain := by
    rw [← toValue_canonicalize]
    exact toValue_plain _
  rw [stableSerialize_eq, stableSerialize_eq]
  cases hvalue : value.isUndefined with
  | true =>
    cases hother : other.isUndefined with
    | true =>
      cases value <;> cases other <;> simp_all [Unknown.isUndefined]
    | false => simp
  | false =>
    cases hother : other.isUndefined with
    | true => simp
    | false => simp [dumps_inj (hplain value) (hplain other)]

/-- **Both ends tell payloads apart alike**: two payloads have one text in the browser exactly if
they have one with the sorted keys of Python. -/
theorem stableSerialize_iff {value other : Unknown} (h : value.toValue.Distinct Scalars)
    (hother : other.toValue.Distinct Scalars) :
    stableSerialize value = stableSerialize other ↔
      value.isUndefined = other.isUndefined ∧ value.toValue.sorted = other.toValue.sorted := by
  have hsorted (value : JsonText.Value) :
      value.sorted = value.arranged (Arrangement.byKey : Arrangement Scalars) := sorted_eq value
  rw [stableSerialize_inj, hsorted, hsorted, arranged_eq_iff scriptOrder .byKey h hother]

def nestedForm : Unknown :=
  .object [("b", .number 2), ("a", .object [("d", .number 4), ("c", .string "é")]),
    ("e", .undefined)]

/-- The same members, in another order. -/
def turnedForm : Unknown :=
  .object [("a", .object [("c", .string "é"), ("d", .number 4)]), ("b", .number 2)]

theorem nestedForm_distinct : nestedForm.toValue.Distinct Scalars :=
  .intro (by decide) (.intro (ofString_scalar _) (.intro trivial (.intro (ofString_scalar _)
    (.intro (.intro (by decide) (.intro (ofString_scalar _) (.intro trivial
      (.intro (ofString_scalar _) (.intro trivial trivial))))) trivial))))

theorem turnedForm_distinct : turnedForm.toValue.Distinct Scalars :=
  .intro (by decide) (.intro (ofString_scalar _)
    (.intro (.intro (by decide) (.intro (ofString_scalar _) (.intro trivial
      (.intro (ofString_scalar _) (.intro trivial trivial)))))
      (.intro (ofString_scalar _) (.intro trivial trivial))))

theorem nestedForm_serialized :
    stableSerialize nestedForm = stableSerialize turnedForm ↔
      nestedForm.isUndefined = turnedForm.isUndefined ∧
        nestedForm.toValue.sorted = turnedForm.toValue.sorted :=
  stableSerialize_iff nestedForm_distinct turnedForm_distinct

/-- What is sent is read as the payload, up to the order of its members. -/
theorem stableSerialize_read {value : Unknown} {text : Text}
    (h : value.toValue.Distinct Scalars) (htext : stableSerialize value = some text) :
    (loads {} (encodeUtf8 text)).map JsonText.Value.sorted = .ok value.toValue.sorted := by
  have hsorted (value : JsonText.Value) :
      value.sorted = value.arranged (Arrangement.byKey : Arrangement Scalars) := sorted_eq value
  rw [stableSerialize_eq] at htext
  split at htext
  · cases htext
  · have hplain : (value.toValue.arranged scriptOrder).Plain := by
      rw [← toValue_canonicalize]
      exact toValue_plain _
    rw [← Option.some.inj htext, loads_dumps noFloat hplain, Except.map, hsorted, hsorted,
      arranged_arranged _ _ _ h]

def nestedText : Text := dumps noFloat (nestedForm.toValue.arranged scriptOrder)

theorem nestedForm_read :
    (loads {} (encodeUtf8 nestedText)).map JsonText.Value.sorted = .ok nestedForm.toValue.sorted :=
  stableSerialize_read nestedForm_distinct (stableSerialize_eq nestedForm)

/-! ## One more member -/

/-- `{ ...members, key: value }` -/
def assign (key : String) (value : Unknown) : List (String × Unknown) → List (String × Unknown)
  | [] => [(key, value)]
  | (k, v) :: rest => if k = key then (key, value) :: rest else (k, v) :: assign key value rest

variable {members members' : List (String × Unknown)} {key : String} {value : Unknown}

theorem assign_keys (members : List (String × Unknown)) :
    (assign key value members).map Prod.fst =
      if key ∈ members.map Prod.fst then members.map Prod.fst
      else members.map Prod.fst ++ [key] := by
  induction members with
  | nil => rfl
  | cons member members ih =>
    obtain ⟨k, v⟩ := member
    rw [assign]
    by_cases hk : k = key
    · simp [hk]
    · rw [if_neg hk, List.map_cons, ih]
      simp only [List.map_cons, List.mem_cons, Ne.symm hk, false_or]
      split <;> rfl

theorem assign_nodup (h : (members.map Prod.fst).Nodup) :
    ((assign key value members).map Prod.fst).Nodup := by
  rw [assign_keys]
  split
  · exact h
  · next hnew => simpa using List.Nodup.concat hnew h

theorem assign_perm (h : (members.map Prod.fst).Nodup) :
    (assign key value members).Perm
      ((key, value) :: members.filter fun member => member.1 ≠ key) := by
  induction members with
  | nil => exact .refl _
  | cons member members ih =>
    obtain ⟨k, v⟩ := member
    rw [List.map_cons, List.nodup_cons] at h
    rw [assign]
    by_cases hk : k = key
    · subst hk
      have hrest : members.filter (fun member => member.1 ≠ k) = members := by
        refine List.filter_eq_self.mpr fun member hmember => decide_eq_true fun heq => h.1 ?_
        rw [← heq]
        exact List.mem_map.mpr ⟨member, hmember, rfl⟩
      rw [if_pos rfl, List.filter_cons_of_neg (by simp), hrest]
    · rw [if_neg hk, List.filter_cons_of_pos (by simpa using hk)]
      exact ((ih h.2).cons (k, v)).trans (.swap _ _ _)

/-- The members of an object in a canonical value, before they are put in order. -/
def sentMember (member : String × Unknown) : Option (Text × JsonText.Value) :=
  if member.2.isUndefined then none
  else some (ofString member.1, member.2.toValue.arranged scriptOrder)

theorem sentMembers_eq (members : List (String × Unknown)) :
    arrangedMembers scriptOrder (toMembers members) = members.filterMap sentMember := by
  induction members with
  | nil => rfl
  | cons member members ih =>
    obtain ⟨k, v⟩ := member
    rw [toMembers, List.filterMap_cons, sentMember]
    split
    · exact ih
    · rw [arrangedMembers, ih]

theorem sentMembers_filter (members : List (String × Unknown)) :
    (members.filter fun member => member.1 ≠ key).filterMap sentMember =
      (members.filterMap sentMember).filter fun sent => sent.1 ≠ ofString key := by
  rw [List.filterMap_filter, List.filter_filterMap]
  refine List.filterMap_congr fun member _ => ?_
  by_cases hk : member.1 = key
  · cases hundefined : member.2.isUndefined <;>
      simp [sentMember, hundefined, hk, Option.filter]
  · cases hundefined : member.2.isUndefined <;>
      simp [sentMember, hundefined, hk, Option.filter, ofString_inj]

theorem sentMembers_assign (h : (members.map Prod.fst).Nodup) :
    ((assign key value members).filterMap sentMember).Perm
      ((sentMember (key, value)).toList ++
        (members.filterMap sentMember).filter fun sent => sent.1 ≠ ofString key) := by
  refine ((assign_perm h).filterMap sentMember).trans ?_
  rw [← sentMembers_filter, List.filterMap_cons]
  cases sentMember (key, value) with
  | none => exact .refl _
  | some sent => exact .refl _

theorem sentMembers_keys (h : (members.map Prod.fst).Nodup) :
    ((members.filterMap sentMember).map Prod.fst).Nodup := by
  have hkeys : (members.filterMap sentMember).map Prod.fst =
      ((members.filter fun member => !member.2.isUndefined).map Prod.fst).map ofString := by
    induction members with
    | nil => rfl
    | cons member members ih =>
      have hrest := ih (List.nodup_cons.mp h).2
      cases hundefined : member.2.isUndefined <;> simp [sentMember, hundefined, hrest]
  rw [hkeys]
  exact (((List.filter_sublist).map _).nodup h).map fun _ _ => ofString_inj.mp

theorem stableSerialize_object (members : List (String × Unknown)) :
    stableSerialize (.object members) =
      some (dumps noFloat (.obj (scriptOrder.order (members.filterMap sentMember)))) := by
  rw [stableSerialize_eq, ← sentMembers_eq]
  rfl

/-- Objects with one text have one text with a member assigned, too. -/
theorem stableSerialize_assign (h : (members.map Prod.fst).Nodup)
    (h' : (members'.map Prod.fst).Nodup)
    (hsame : stableSerialize (.object members) = stableSerialize (.object members')) :
    stableSerialize (.object (assign key value members)) =
      stableSerialize (.object (assign key value members')) := by
  have hperm : (members.filterMap sentMember).Perm (members'.filterMap sentMember) := by
    have hvalues := (stableSerialize_inj.mp hsame).2
    simp only [Unknown.toValue, Value.arranged, sentMembers_eq, JsonText.Value.obj.injEq] at hvalues
    refine (scriptOrder.perm _).symm.trans ?_
    rw [hvalues]
    exact scriptOrder.perm _
  have hassigned : ((assign key value members).filterMap sentMember).Perm
      ((assign key value members').filterMap sentMember) :=
    (sentMembers_assign h).trans
      (((hperm.filter _).append_left _).trans (sentMembers_assign h').symm)
  have hscalars : ∀ sent ∈ (assign key value members).filterMap sentMember, Scalars sent.1 := by
    intro sent hsent
    obtain ⟨member, _, hmember⟩ := List.mem_filterMap.mp hsent
    simp only [sentMember, Option.ite_none_left_eq_some, Option.some.injEq] at hmember
    rw [← hmember.2]
    exact ofString_scalar member.1
  rw [stableSerialize_object, stableSerialize_object,
    scriptOrder.canonical _ _ (sentMembers_keys (assign_nodup h)) hscalars hassigned]

end Breero.PublicSubmissions
