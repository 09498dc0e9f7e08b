import Mathlib.Data.List.Nodup

namespace TrainingDemos
set_option autoImplicit true

/-- A JSON value with numbers in `N`; the members of an object are in the order of the text. -/
inductive JsonTree (N : Type u) where
  | null
  | bool (b : Bool)
  | number (n : N)
  | string (s : String)
  | array (elements : List (JsonTree N))
  | object (members : List (String × JsonTree N))

namespace JsonTree
variable {N : Type u}

def asObject : JsonTree N → Option (List (String × JsonTree N))
  | .object members => some members
  | _ => none

def asString : JsonTree N → Option String
  | .string s => some s
  | _ => none

def asNumber : JsonTree N → Option N
  | .number n => some n
  | _ => none

/-- The values that text may hold at its top level where fragments are not allowed. -/
def isContainer : JsonTree N → Bool
  | .array _ | .object _ => true
  | _ => false

/-- No object of the tree has two members of one name. -/
inductive DuplicateFree : JsonTree N → Prop where
  | null : DuplicateFree .null
  | bool : DuplicateFree (.bool b)
  | number : DuplicateFree (.number n)
  | string : DuplicateFree (.string s)
  | array : (∀ e ∈ elements, DuplicateFree e) → DuplicateFree (.array elements)
  | object : (members.map Prod.fst).Nodup → (∀ m ∈ members, DuplicateFree m.2) →
      DuplicateFree (.object members)

theorem duplicateFree_object (h : (object members).DuplicateFree) :
    (members.map Prod.fst).Nodup ∧ ∀ m ∈ members, DuplicateFree (N := N) m.2 := by
  cases h with
  | object hnodup hall => exact ⟨hnodup, hall⟩

end JsonTree

/-- How a library takes a member out of an object, of which several may have the name. -/
structure MemberReading (N : Type u) where
  member : List (String × JsonTree N) → String → Option (JsonTree N)
  sound : ∀ members name value, member members name = some value → (name, value) ∈ members
  complete : ∀ members name, member members name = none → name ∉ members.map Prod.fst

namespace MemberReading
variable {N : Type u} {R R' : MemberReading N}

theorem member_eq_some_iff (R : MemberReading N) (h : (members.map Prod.fst).Nodup) :
    R.member members name = some value ↔ (name, value) ∈ members := by
  constructor
  · exact R.sound members name value
  · intro hm
    cases hv : R.member members name with
    | none =>
      exact absurd (List.mem_map_of_mem (f := Prod.fst) hm) (R.complete members name hv)
    | some value' =>
      have hm' := R.sound members name value' hv
      rw [(Prod.mk.inj (List.inj_on_of_nodup_map h hm hm' rfl)).2]

/-- Without duplicates all libraries read the same members. -/
theorem member_congr (R R' : MemberReading N) (h : (members.map Prod.fst).Nodup) (name : String) :
    R.member members name = R'.member members name := by
  apply Option.ext
  intro value
  rw [R.member_eq_some_iff h, R'.member_eq_some_iff h]

theorem duplicateFree_member (h : (JsonTree.object members).DuplicateFree)
    (hv : R.member members name = some value) : value.DuplicateFree :=
  (JsonTree.duplicateFree_object h).2 _ (R.sound members name value hv)

def first : MemberReading N where
  member members name := members.lookup name
  sound members name value h := by
    obtain ⟨before, after, hm, -⟩ := List.lookup_eq_some_iff.1 h
    rw [hm]
    exact List.mem_append_right _ List.mem_cons_self
  complete members name h := by
    intro hm
    obtain ⟨m, hmem, hname⟩ := List.mem_map.1 hm
    have hne := List.lookup_eq_none_iff.1 h m hmem
    rw [hname, bne_self_eq_false] at hne
    cases hne

def last : MemberReading N where
  member members name := first.member members.reverse name
  sound members name value h := List.mem_reverse.1 (first.sound _ _ _ h)
  complete members name h := by
    have hm := first.complete _ _ h
    rw [List.map_reverse, List.mem_reverse] at hm
    exact hm

end MemberReading

end TrainingDemos
