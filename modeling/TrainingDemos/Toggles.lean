import Mathlib.Algebra.Ring.Parity
import Mathlib.Data.List.Nodup

namespace TrainingDemos
set_option autoImplicit true

variable {α : Type u} [DecidableEq α] {xs ys : List α} {x y : α}

/-- Take an element out of a list that has it, or else append it. -/
def toggle (xs : List α) (x : α) : List α := if x ∈ xs then xs.erase x else xs ++ [x]

theorem nodup_toggle (h : xs.Nodup) (x : α) : (toggle xs x).Nodup := by
  unfold toggle
  split
  · exact h.erase x
  · rename_i hx
    exact List.nodup_append_comm.1 (List.nodup_cons.2 ⟨hx, h⟩)

theorem mem_toggle_self (h : xs.Nodup) : x ∈ toggle xs x ↔ x ∉ xs := by
  unfold toggle
  split
  · rename_i hx
    exact ⟨fun he => absurd he h.not_mem_erase, fun hn => absurd hx hn⟩
  · rename_i hx
    exact ⟨fun _ => hx, fun _ => List.mem_append_right _ List.mem_cons_self⟩

theorem mem_toggle_of_ne (h : y ≠ x) : y ∈ toggle xs x ↔ y ∈ xs := by
  unfold toggle
  split
  · exact List.mem_erase_of_ne h
  · rw [List.mem_append, List.mem_singleton, or_iff_left h]

theorem nodup_foldl_toggle (h : xs.Nodup) (ys : List α) : (ys.foldl toggle xs).Nodup := by
  induction ys generalizing xs with
  | nil => exact h
  | cons y ys ih => exact ih (nodup_toggle h y)

theorem mem_foldl_toggle (h : xs.Nodup) (ys : List α) :
    y ∈ ys.foldl toggle xs ↔ (y ∈ xs ↔ Even (ys.count y)) := by
  induction ys generalizing xs with
  | nil =>
    rw [List.foldl_nil, List.count_nil]
    exact (iff_true_right Even.zero).symm
  | cons z ys ih =>
    rw [List.foldl_cons, ih (nodup_toggle h z)]
    by_cases hz : y = z
    · subst hz
      rw [mem_toggle_self h, List.count_cons_self, Nat.even_add_one]
      tauto
    · rw [mem_toggle_of_ne hz, List.count_cons_of_ne fun he => hz he.symm]

theorem mem_foldl_toggle_nil (ys : List α) : y ∈ ys.foldl toggle [] ↔ Odd (ys.count y) := by
  rw [mem_foldl_toggle List.nodup_nil, iff_false_left List.not_mem_nil, Nat.not_even_iff_odd]

theorem toggle_eq_match (xs : List α) (x : α) : toggle xs x = match xs.idxOf? x with
    | some i => xs.eraseIdx i
    | none => xs ++ [x] := by
  unfold toggle
  split
  · rename_i hx
    obtain ⟨i, hi⟩ := Option.isSome_iff_exists.1 (List.isSome_idxOf?.2 hx)
    rw [List.erase_eq_eraseIdx, hi]
  · rename_i hx
    rw [List.idxOf?_eq_none_iff.2 hx]

end TrainingDemos
