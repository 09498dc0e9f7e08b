import Mathlib.Data.List.Basic

namespace TrainingDemos
set_option autoImplicit true

/-- `UnicodeScalar(v)`, which fails for surrogates and beyond the last plane. -/
def unicodeScalar (v : Nat) : Option Char := if v.isValidChar then some (Char.ofNat v) else none

theorem isValidChar_toNat (c : Char) : c.toNat.isValidChar := c.valid

theorem toNat_ofNat_of_valid (h : v.isValidChar) : (Char.ofNat v).toNat = v := by
  rw [Char.ofNat, dif_pos h]
  rfl

theorem unicodeScalar_eq_some : unicodeScalar v = some c ↔ v = c.toNat := by
  rw [unicodeScalar]
  apply Iff.intro
  · intro h
    split at h
    · rename_i hv
      rw [← Option.some.inj h, toNat_ofNat_of_valid hv]
    · cases h
  · intro h
    rw [h, if_pos (isValidChar_toNat c), Char.ofNat_toNat]

/-- A scalar is kept by a shift that takes it to a scalar. -/
def shiftable (k : Nat) (c : Char) : Bool := decide (k + c.toNat).isValidChar

def shiftScalars (k : Nat) (cs : List Char) : List Char :=
  cs.filterMap fun c => unicodeScalar (k + c.toNat)

def unshiftScalars (k : Nat) (cs : List Char) : List Char :=
  cs.filterMap fun c => if k ≤ c.toNat then unicodeScalar (c.toNat - k) else none

theorem shiftScalars_cons (k : Nat) (c : Char) (cs : List Char) : shiftScalars k (c :: cs) =
    if shiftable k c then Char.ofNat (k + c.toNat) :: shiftScalars k cs
    else shiftScalars k cs := by
  simp only [shiftScalars, shiftable, List.filterMap_cons, unicodeScalar, decide_eq_true_iff]
  split
  · rename_i h
    split at h
    · cases h
    · rename_i hv
      rw [if_neg hv]
  · rename_i h
    split at h
    · rename_i hv
      rw [if_pos hv, Option.some.inj h]
    · cases h

theorem unshiftScalars_cons (h : shiftable k c = true) (cs : List Char) :
    unshiftScalars k (Char.ofNat (k + c.toNat) :: cs) = c :: unshiftScalars k cs := by
  have hv : (Char.ofNat (k + c.toNat)).toNat = k + c.toNat :=
    toNat_ofNat_of_valid (of_decide_eq_true h)
  have hback : unicodeScalar (k + c.toNat - k) = some c :=
    unicodeScalar_eq_some.2 (Nat.add_sub_cancel_left ..)
  rw [unshiftScalars, List.filterMap_cons, hv, if_pos (Nat.le_add_right _ _), hback]
  rfl

theorem unshift_shift (k : Nat) (cs : List Char) :
    unshiftScalars k (shiftScalars k cs) = cs.filter (shiftable k) := by
  induction cs with
  | nil => rfl
  | cons c cs ih =>
    rw [shiftScalars_cons, List.filter_cons]
    split
    · rename_i h
      rw [unshiftScalars_cons h, ih]
    · exact ih

theorem shift_filter (k : Nat) (cs : List Char) :
    shiftScalars k (cs.filter (shiftable k)) = shiftScalars k cs := by
  induction cs with
  | nil => rfl
  | cons c cs ih =>
    rw [List.filter_cons, shiftScalars_cons]
    split
    · rename_i h
      rw [shiftScalars_cons, if_pos h, ih]
    · exact ih

theorem shift_eq_shift_iff : shiftScalars k cs = shiftScalars k cs' ↔
    cs.filter (shiftable k) = cs'.filter (shiftable k) := by
  apply Iff.intro
  · intro h
    rw [← unshift_shift, h, unshift_shift]
  · intro h
    rw [← shift_filter k cs, h, shift_filter]

theorem shift_eq_map (h : ∀ c ∈ cs, shiftable k c = true) :
    shiftScalars k cs = cs.map fun c => Char.ofNat (k + c.toNat) := by
  induction cs with
  | nil => rfl
  | cons c cs ih =>
    rw [shiftScalars_cons, if_pos (h c List.mem_cons_self), List.map_cons,
      ih fun c hc => h c (List.mem_cons_of_mem _ hc)]

theorem shiftable_of_length (h : (shiftScalars k cs).length = cs.length) :
    ∀ c ∈ cs, shiftable k c = true := by
  rw [← List.filter_eq_self]
  apply List.filter_sublist.eq_of_length_le
  rw [← h, ← shift_filter]
  exact List.length_filterMap_le _ _

end TrainingDemos
