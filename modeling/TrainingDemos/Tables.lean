import Mathlib.Data.List.Nodup
import Mathlib.Data.List.Range
import Mathlib.Logic.Function.Basic

namespace TrainingDemos
set_option autoImplicit true

/-- Rows under identities drawn from a counter: an identity is never used twice. -/
structure Table (α : Type) where
  next : Nat
  row : Nat → Option α
  unallocated : ∀ i, next ≤ i → row i = none

namespace Table
variable {t : Table α}

def empty : Table α := ⟨0, fun _ => none, fun _ _ => rfl⟩

def insert (t : Table α) (a : α) : Table α where
  next := t.next + 1
  row i := if i = t.next then some a else t.row i
  unallocated i hi := by
    rw [if_neg (by omega)]
    exact t.unallocated i (by omega)

def mapRows (t : Table α) (f : Nat → α → α) : Table α where
  next := t.next
  row i := (t.row i).map (f i)
  unallocated i hi := by rw [t.unallocated i hi, Option.map_none]

def modify (t : Table α) (i : Nat) (f : α → α) : Table α :=
  t.mapRows fun j a => if j = i then f a else a

def filter (t : Table α) (keep : Nat → Bool) : Table α where
  next := t.next
  row i := if keep i then t.row i else none
  unallocated i hi := by rw [t.unallocated i hi, ite_self]

/-- The identities of the rows that satisfy a predicate, in the order of insertion. -/
def select (t : Table α) (p : α → Bool) : List Nat :=
  (List.range t.next).filter fun i => (t.row i).any p

@[simp] theorem next_insert (t : Table α) (a : α) : (t.insert a).next = t.next + 1 := rfl

theorem row_insert (t : Table α) (a : α) (i : Nat) :
    (t.insert a).row i = if i = t.next then some a else t.row i := rfl

@[simp] theorem row_mapRows (t : Table α) (f : Nat → α → α) (i : Nat) :
    (t.mapRows f).row i = (t.row i).map (f i) := rfl

theorem row_modify (t : Table α) (i : Nat) (f : α → α) (j : Nat) :
    (t.modify i f).row j = if j = i then (t.row j).map f else t.row j := by
  by_cases h : j = i
  · simp only [modify, row_mapRows, if_pos h]
  · simp only [modify, row_mapRows, if_neg h, Option.map_id']

theorem row_filter (t : Table α) (keep : Nat → Bool) (i : Nat) :
    (t.filter keep).row i = if keep i then t.row i else none := rfl

theorem lt_next (h : t.row i = some a) : i < t.next := by
  by_contra hi
  rw [t.unallocated i (by omega)] at h
  cases h

theorem row_next (t : Table α) : t.row t.next = none := t.unallocated _ (Nat.le_refl _)

theorem mem_select {p : α → Bool} : i ∈ t.select p ↔ ∃ a, t.row i = some a ∧ p a = true := by
  simp only [select, List.mem_filter, List.mem_range, Option.any_eq_true]
  exact ⟨fun h => h.2, fun ⟨a, ha, hp⟩ => ⟨lt_next ha, a, ha, hp⟩⟩

theorem nodup_select (t : Table α) (p : α → Bool) : (t.select p).Nodup :=
  List.nodup_range.filter _

theorem select_eq_singleton {p : α → Bool} (h : t.row i = some a) (hp : p a = true)
    (hu : ∀ j b, t.row j = some b → p b = true → j = i) : t.select p = [i] := by
  apply List.perm_singleton.1
  rw [List.perm_ext_iff_of_nodup (nodup_select t p) (List.nodup_singleton i)]
  intro j
  rw [mem_select, List.mem_singleton]
  constructor
  · intro h₀
    obtain ⟨b, hb, hpb⟩ := h₀
    exact hu j b hb hpb
  · intro he
    subst he
    exact ⟨a, h, hp⟩

theorem select_congr {t u : Table α} {p : α → Bool} (hn : u.next = t.next)
    (h : ∀ i, (u.row i).any p = (t.row i).any p) : u.select p = t.select p := by
  simp only [select, hn, h]

theorem select_insert (t : Table α) (a : α) (p : α → Bool) :
    (t.insert a).select p = t.select p ++ if p a then [t.next] else [] := by
  have hold : (List.range t.next).filter (fun i => ((t.insert a).row i).any p) = t.select p := by
    apply List.filter_congr
    intro i hi
    rw [row_insert, if_neg (Nat.ne_of_lt (List.mem_range.1 hi))]
  rw [select, next_insert, List.range_succ, List.filter_append, hold, List.filter_singleton]
  simp only [row_insert, if_true, Option.any_some, Bool.cond_eq_ite]

@[ext] theorem ext {t u : Table α} (hn : t.next = u.next) (hr : ∀ i, t.row i = u.row i) :
    t = u := by
  cases t
  cases u
  cases hn
  cases (funext hr : _ = _)
  rfl

end Table

end TrainingDemos
