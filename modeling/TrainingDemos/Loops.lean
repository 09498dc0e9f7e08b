import Mathlib.Data.List.Nodup
import Mathlib.Data.List.Perm.Basic

namespace TrainingDemos
set_option autoImplicit true

/-- `for (i, obj) in xs.enumerated() { body(obj); if i == xs.count - 1 { last() } }`, where `last`
may trap. -/
def forEnumerated (xs : List α) (body : σ → α → σ) (last : σ → Option σ) (s : σ) : Option σ :=
  xs.zipIdx.foldlM (fun s p =>
    if p.2 = xs.length - 1 then last (body s p.1) else some (body s p.1)) s

theorem foldlM_zipIdx_last (body : σ → α → σ) (last : σ → Option σ) (x : α) (xs : List α)
    (s : σ) (k n : Nat) (hn : n = k + xs.length) :
    ((x :: xs).zipIdx k).foldlM (fun s p =>
      if p.2 = n then last (body s p.1) else some (body s p.1)) s =
        last ((x :: xs).foldl body s) := by
  induction xs generalizing x s k with
  | nil =>
    have hk : k = n := by simpa using hn.symm
    cases h : last (body s x) <;> simp [hk, h]
  | cons y ys ih =>
    have hk : ¬ k = n := by
      rw [List.length_cons] at hn
      omega
    rw [List.zipIdx_cons, List.foldlM_cons]
    simp only [hk, if_false]
    exact ih y (body s x) (k + 1) (by rw [hn, List.length_cons]; omega)

theorem forEnumerated_of_ne_nil {xs : List α} (hx : xs ≠ []) (body : σ → α → σ)
    (last : σ → Option σ) (s : σ) :
    forEnumerated xs body last s = last (xs.foldl body s) := by
  cases xs with
  | nil => exact absurd rfl hx
  | cons x xs =>
    apply foldlM_zipIdx_last
    rw [List.length_cons]
    omega

/-- A loop whose body never traps where `P` holds, and keeps `P`, ends and keeps `P`. -/
theorem foldlM_keeps {P : σ → Prop} {f : σ → α → Option σ} {xs : List α}
    (hf : ∀ s, P s → ∀ x ∈ xs, ∃ t, f s x = some t ∧ P t) (hs : P s) :
    ∃ t, xs.foldlM f s = some t ∧ P t := by
  induction xs generalizing s with
  | nil => exact ⟨s, rfl, hs⟩
  | cons x xs ih =>
    obtain ⟨t, ht, hPt⟩ := hf s hs x List.mem_cons_self
    obtain ⟨u, hu, hPu⟩ := ih (fun s hs x hx => hf s hs x (List.mem_cons_of_mem _ hx)) hPt
    exact ⟨u, by rw [List.foldlM_cons, ht]; exact hu, hPu⟩

theorem mapM_eq_some_iff {f : α → Option β} {l : List α} {l' : List β} :
    l.mapM f = some l' ↔ l.map f = l'.map some := by
  induction l generalizing l' with
  | nil =>
    cases l' with
    | nil => exact ⟨fun _ => rfl, fun _ => rfl⟩
    | cons b bs =>
      constructor
      · intro h
        cases h
      · intro h
        cases h
  | cons a l ih =>
    simp only [List.mapM_cons, Option.pure_def, Option.bind_eq_bind, Option.bind_eq_some_iff]
    constructor
    · intro h
      obtain ⟨b, hb, bs, hbs, h⟩ := h
      cases h
      rw [List.map_cons, List.map_cons, hb, ih.1 hbs]
    · intro h
      cases l' with
      | nil => cases h
      | cons b bs =>
        rw [List.map_cons, List.map_cons, List.cons.injEq] at h
        exact ⟨b, h.1, bs, ih.2 h.2, rfl⟩

theorem exists_mapM {f : α → Option β} {l : List α} (h : ∀ a ∈ l, ∃ b, f a = some b) :
    ∃ l', l.mapM f = some l' := by
  induction l with
  | nil => exact ⟨[], rfl⟩
  | cons a l ih =>
    obtain ⟨b, hb⟩ := h a List.mem_cons_self
    obtain ⟨l', hl'⟩ := ih fun a ha => h a (List.mem_cons_of_mem _ ha)
    exact ⟨b :: l', by rw [List.mapM_cons, hb, hl']; rfl⟩

theorem mapM_getElem?_range (xs : List α) :
    (List.range xs.length).mapM (fun i => xs[i]?) = some xs := by
  rw [mapM_eq_some_iff]
  apply List.ext_getElem
  · rw [List.length_map, List.length_range, List.length_map]
  · intro i hi hi'
    rw [List.length_map] at hi'
    rw [List.getElem_map, List.getElem_map, List.getElem_range, List.getElem?_eq_getElem hi']

theorem map_mapIdx_of {f : Nat → α → β} {g : β → γ} {h : α → γ} (hf : ∀ i x, g (f i x) = h x)
    (xs : List α) : (xs.mapIdx f).map g = xs.map h := by
  apply List.ext_getElem
  · rw [List.length_map, List.length_mapIdx, List.length_map]
  · intro i hi hi'
    rw [List.getElem_map, List.getElem_mapIdx, List.getElem_map, hf]

/-- `remove(at:)`: traps unless the index is that of an element. -/
def removeAt (xs : List α) (i : Nat) : Option (List α) :=
  if i < xs.length then some (xs.eraseIdx i) else none

/-- `insert(_:at:)`: traps unless the index is that of an element or the end. -/
def insertAt (xs : List α) (x : α) (i : Nat) : Option (List α) :=
  if i ≤ xs.length then some (xs.insertIdx i x) else none

theorem perm_cons_eraseIdx {xs : List α} (h : xs[i]? = some x) :
    xs.Perm (x :: xs.eraseIdx i) := by
  obtain ⟨hi, hx⟩ := List.getElem?_eq_some_iff.1 h
  rw [← hx]
  exact (List.getElem_cons_eraseIdx_perm hi).symm

theorem filterMap_eraseIdx {f : α → Option β} {xs : List α} (h : xs[i]? = some x)
    (hf : f x = none) : (xs.eraseIdx i).filterMap f = xs.filterMap f := by
  induction xs generalizing i with
  | nil => cases h
  | cons y xs ih =>
    cases i with
    | zero =>
      cases h
      rw [List.eraseIdx_cons_zero, List.filterMap_cons, hf]
    | succ i => rw [List.eraseIdx_cons_succ, List.filterMap_cons, List.filterMap_cons, ih h]

theorem forall_mem_concat {P : α → Prop} (h : ∀ a ∈ xs, P a) (hb : P b) :
    ∀ a ∈ xs ++ [b], P a :=
  List.forall_mem_append.2 ⟨h, List.forall_mem_singleton.2 hb⟩

/-- In an array without repetitions, `remove(at:)` removes the value and nothing else. -/
theorem eraseIdx_eq_erase [DecidableEq α] {xs : List α} (h : xs.Nodup) (hi : xs[i]? = some x) :
    xs.eraseIdx i = xs.erase x := by
  obtain ⟨hlt, hx⟩ := List.getElem?_eq_some_iff.1 hi
  rw [← hx, h.erase_getElem]

end TrainingDemos
