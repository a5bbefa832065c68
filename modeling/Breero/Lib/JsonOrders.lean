import Breero.Lib.JsonDumps

/-!
Canonical forms of JSON values, for any order that members are put in.

Writers differ in the order of the keys. An `Arrangement` is such an order: it depends on nothing
but which members there are.

* `Value.arranged` is a value with the members of every object arranged;
* `arranged_arranged`: what is arranged again has its last order;
* `arranged_eq_iff`: two values are one in one order exactly if they are one in another.
-/

namespace JsonText

/-- An order of members whose keys are of a kind. -/
structure Arrangement (Key : Text → Prop) where
  order : List (Text × Value) → List (Text × Value)
  perm : ∀ members, (order members).Perm members
  canonical : ∀ members members', (members.map Prod.fst).Nodup → (∀ m ∈ members, Key m.1) →
    members.Perm members' → order members = order members'

variable {Key : Text → Prop}

mutual
def Value.arranged (a : Arrangement Key) : Value → Value
  | .arr items => .arr (arrangedItems a items)
  | .obj members => .obj (a.order (arrangedMembers a members))
  | value => value

def arrangedItems (a : Arrangement Key) : List Value → List Value
  | [] => []
  | value :: rest => value.arranged a :: arrangedItems a rest

def arrangedMembers (a : Arrangement Key) : List (Text × Value) → List (Text × Value)
  | [] => []
  | (key, value) :: rest => (key, value.arranged a) :: arrangedMembers a rest
end

mutual
/-- The keys are of the kind, and no object has a key twice. -/
def Value.Distinct (Key : Text → Prop) : Value → Prop
  | .arr items => DistinctItems Key items
  | .obj members => (members.map Prod.fst).Nodup ∧ DistinctMembers Key members
  | .null | .bool _ | .int _ | .float _ | .str _ => True

def DistinctItems (Key : Text → Prop) : List Value → Prop
  | [] => True
  | value :: rest => value.Distinct Key ∧ DistinctItems Key rest

def DistinctMembers (Key : Text → Prop) : List (Text × Value) → Prop
  | [] => True
  | (key, value) :: rest => Key key ∧ value.Distinct Key ∧ DistinctMembers Key rest
end

theorem DistinctMembers.key : ∀ {members : List (Text × Value)}, DistinctMembers Key members →
    ∀ member ∈ members, Key member.1
  | [], _ => List.forall_mem_nil _
  | _ :: _, h => List.forall_mem_cons.mpr ⟨h.1, h.2.2.key⟩

/-! ## Arrangements -/

theorem notAfter_total (a b : Text) : NotAfter a b ∨ NotAfter b a := List.le_total a b

theorem notAfter_trans {a b c : Text} : NotAfter a b → NotAfter b c → NotAfter a c :=
  List.le_trans

theorem notAfter_antisymm {a b : Text} : NotAfter a b → NotAfter b a → a = b :=
  List.le_antisymm

namespace Arrangement

/-- The members in the order of their keys. -/
def sortBy (le : Text → Text → Prop) [DecidableRel le] (total : ∀ a b, le a b ∨ le b a)
    (trans : ∀ a b c, le a b → le b c → le a c)
    (antisymm : ∀ a b, Key a → Key b → le a b → le b a → a = b) : Arrangement Key where
  order members := members.insertionSort fun a b => le a.1 b.1
  perm members := List.perm_insertionSort _ members
  canonical members members' hkeys hkind hperm := by
    have : Std.Total fun a b : Text × Value => le a.1 b.1 := ⟨fun a b => total a.1 b.1⟩
    have : IsTrans (Text × Value) fun a b => le a.1 b.1 := ⟨fun a b c => trans a.1 b.1 c.1⟩
    refine List.Perm.eq_of_pairwise ?_ (List.pairwise_insertionSort _ _)
      (List.pairwise_insertionSort _ _) ?_
    · intro a b ha hb hle hge
      have hmem := (List.mem_insertionSort _).mp ha
      have hmem' := hperm.symm.subset ((List.mem_insertionSort _).mp hb)
      have hsame := antisymm _ _ (hkind a hmem) (hkind b hmem') hle hge
      exact List.inj_on_of_nodup_map hkeys hmem hmem' hsame
    · exact (List.perm_insertionSort _ _).trans
        (hperm.trans (List.perm_insertionSort _ _).symm)

/-- An order that is put on members that are in another one. -/
def andThen (a : Arrangement Key) (f : List (Text × Value) → List (Text × Value))
    (perm : ∀ members, (f members).Perm members) : Arrangement Key where
  order members := f (a.order members)
  perm members := (perm _).trans (a.perm members)
  canonical members members' hkeys hkind hperm := by
    rw [a.canonical members members' hkeys hkind hperm]

/-- The order of `sort_keys=True`. -/
def byKey : Arrangement Key :=
  sortBy NotAfter notAfter_total (fun _ _ _ => notAfter_trans) fun _ _ _ _ => notAfter_antisymm

end Arrangement

variable (a b : Arrangement Key)

theorem arrangedMembers_eq (members : List (Text × Value)) :
    arrangedMembers a members = members.map fun member => (member.1, member.2.arranged a) := by
  induction members with
  | nil => rfl
  | cons member members ih => rw [List.map_cons, ← ih, arrangedMembers]

theorem arrangedMembers_keys (members : List (Text × Value)) :
    (arrangedMembers a members).map Prod.fst = members.map Prod.fst := by
  rw [arrangedMembers_eq, List.map_map]
  rfl

theorem arrangedMembers_kind {members : List (Text × Value)}
    (h : ∀ member ∈ members, Key member.1) :
    ∀ member ∈ arrangedMembers a members, Key member.1 := by
  rw [arrangedMembers_eq, List.forall_mem_map]
  exact h

theorem arrangedMembers_perm {members members' : List (Text × Value)}
    (h : members.Perm members') :
    (arrangedMembers a members).Perm (arrangedMembers a members') := by
  rw [arrangedMembers_eq, arrangedMembers_eq]
  exact h.map _

mutual
theorem arranged_arranged : ∀ value : Value, value.Distinct Key →
    (value.arranged b).arranged a = value.arranged a
  | .null, _ | .bool _, _ | .int _, _ | .float _, _ | .str _, _ => rfl
  | .arr items, h => congrArg Value.arr (arrangedItems_arranged items h)
  | .obj members, h => by
    have hmembers := arrangedMembers_arranged members h.2
    have hperm := arrangedMembers_perm a (b.perm (arrangedMembers b members))
    rw [hmembers] at hperm
    simp only [Value.arranged]
    refine congrArg Value.obj (a.canonical _ _ ?_ ?_ hperm)
    · refine (hperm.map Prod.fst).nodup_iff.mpr ?_
      rw [arrangedMembers_keys]
      exact h.1
    · exact fun member hmember =>
        arrangedMembers_kind a h.2.key member (hperm.subset hmember)

theorem arrangedItems_arranged : ∀ items : List Value, DistinctItems Key items →
    arrangedItems a (arrangedItems b items) = arrangedItems a items
  | [], _ => rfl
  | value :: rest, h =>
    congrArg₂ List.cons (arranged_arranged value h.1) (arrangedItems_arranged rest h.2)

theorem arrangedMembers_arranged : ∀ members : List (Text × Value), DistinctMembers Key members →
    arrangedMembers a (arrangedMembers b members) = arrangedMembers a members
  | [], _ => rfl
  | (key, value) :: rest, h =>
    congrArg₂ List.cons (congrArg (Prod.mk key) (arranged_arranged value h.2.1))
      (arrangedMembers_arranged rest h.2.2)
end

/-- **Canonical forms agree**: values are told apart by one order as by any other. -/
theorem arranged_eq_iff {value other : Value} (h : value.Distinct Key)
    (hother : other.Distinct Key) :
    value.arranged a = other.arranged a ↔ value.arranged b = other.arranged b := by
  constructor
  · intro heq
    rw [← arranged_arranged b a value h, heq, arranged_arranged b a other hother]
  · intro heq
    rw [← arranged_arranged a b value h, heq, arranged_arranged a b other hother]

/-! ## The order of Python -/

mutual
theorem sorted_eq : ∀ value : Value,
    value.sorted = value.arranged (Arrangement.byKey : Arrangement Key)
  | .null | .bool _ | .int _ | .float _ | .str _ => rfl
  | .arr items => congrArg Value.arr (sortedItems_eq items)
  | .obj members => by
    rw [Value.sorted, sortedMembers_eq members]
    rfl

theorem sortedItems_eq : ∀ items : List Value,
    sortedItems items = arrangedItems (Arrangement.byKey : Arrangement Key) items
  | [] => rfl
  | value :: rest => congrArg₂ List.cons (sorted_eq value) (sortedItems_eq rest)

theorem sortedMembers_eq : ∀ members : List (Text × Value),
    sortedMembers members = arrangedMembers (Arrangement.byKey : Arrangement Key) members
  | [] => rfl
  | (key, value) :: rest =>
    congrArg₂ List.cons (congrArg (Prod.mk key) (sorted_eq value)) (sortedMembers_eq rest)
end

end JsonText
