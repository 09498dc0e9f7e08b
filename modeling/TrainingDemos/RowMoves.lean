import TrainingDemos.Loops

namespace TrainingDemos
set_option autoImplicit true

/-- The position that the element at position `i` had before the one at `src` moved to `dst`. -/
def moveOrigin (src dst i : Nat) : Nat :=
  if i = dst then src
  else if src ≤ i ∧ i < dst then i + 1
  else if dst < i ∧ i ≤ src then i - 1
  else i

/-- The rows as they are shown after the row at `src` has moved to `dst`. -/
def moveRow (src dst : Nat) (xs : List α) : List α :=
  xs.mapIdx fun i x => xs.getD (moveOrigin src dst i) x

/-- One element has left `src` and ended at `dst`; the others have kept their order. -/
structure Moved (src dst : Nat) (xs ys : List α) : Prop where
  final : ys[dst]? = xs[src]?
  others : ys.eraseIdx dst = xs.eraseIdx src

theorem moved_insertIdx (hx : xs[src]? = some x) (hdst : dst < xs.length) :
    Moved src dst xs ((xs.eraseIdx src).insertIdx dst x) where
  final := by
    obtain ⟨hsrc, -⟩ := List.getElem?_eq_some_iff.1 hx
    have hle : dst ≤ (xs.eraseIdx src).length := by
      rw [List.length_eraseIdx_of_lt hsrc]
      omega
    rw [List.getElem?_insertIdx_self, if_pos hle, hx]
  others := List.eraseIdx_insertIdx_self x

theorem Moved.perm (h : Moved src dst xs ys) (hx : xs[src]? = some x) : ys.Perm xs := by
  have hy : ys[dst]? = some x := h.final.trans hx
  have hys := perm_cons_eraseIdx hy
  rw [h.others] at hys
  exact hys.trans (perm_cons_eraseIdx hx).symm

theorem Moved.unique (h : Moved src dst xs ys) (h' : Moved src dst xs zs)
    (hx : xs[src]? = some x) : ys = zs := by
  obtain ⟨hy, hyx⟩ := List.getElem?_eq_some_iff.1 (h.final.trans hx)
  obtain ⟨hz, hzx⟩ := List.getElem?_eq_some_iff.1 (h'.final.trans hx)
  rw [← List.insertIdx_eraseIdx_getElem hy, ← List.insertIdx_eraseIdx_getElem hz, h.others,
    h'.others, hyx, hzx]

theorem moveOrigin_lt (hsrc : src < n) (hdst : dst < n) (hi : i < n) :
    moveOrigin src dst i < n := by
  unfold moveOrigin
  split
  · exact hsrc
  · split
    · omega
    · split <;> omega

theorem getElem?_moveRow (hsrc : src < xs.length) (hdst : dst < xs.length) (hi : i < xs.length) :
    (moveRow src dst xs)[i]? = xs[moveOrigin src dst i]? := by
  have ho := moveOrigin_lt hsrc hdst hi
  rw [moveRow, List.getElem?_mapIdx, List.getElem?_eq_getElem hi, Option.map_some,
    List.getD_eq_getElem?_getD, List.getElem?_eq_getElem ho, Option.getD_some]

theorem moveRow_eq (hx : xs[src]? = some x) (hdst : dst < xs.length) :
    moveRow src dst xs = (xs.eraseIdx src).insertIdx dst x := by
  obtain ⟨hsrc, -⟩ := List.getElem?_eq_some_iff.1 hx
  have hlen := List.length_eraseIdx_of_lt hsrc
  have hins : ((xs.eraseIdx src).insertIdx dst x).length = xs.length := by
    rw [List.length_insertIdx_of_le_length (by omega), hlen]
    omega
  apply List.ext_getElem?
  intro i
  by_cases hi : i < xs.length
  · rw [getElem?_moveRow hsrc hdst hi, List.getElem?_insertIdx, List.getElem?_eraseIdx,
      List.getElem?_eraseIdx, moveOrigin]
    -- before, at and behind the final index
    obtain hlt | heq | hgt := Nat.lt_trichotomy i dst
    · rw [if_neg (by omega), if_pos hlt]
      by_cases hs : i < src
      · rw [if_neg (by omega), if_neg (by omega), if_pos hs]
      · rw [if_pos (by omega), if_neg hs]
    · subst heq
      rw [if_pos rfl, if_neg (Nat.lt_irrefl i), if_pos rfl, if_pos (by omega), hx]
    · rw [if_neg (by omega), if_neg (by omega)]
      by_cases hs : i ≤ src
      · rw [if_pos ⟨hgt, hs⟩, if_neg (by omega), if_neg (by omega), if_pos (by omega)]
      · rw [if_neg (by omega), if_neg (by omega), if_neg (by omega), if_neg (by omega),
          Nat.sub_add_cancel (by omega)]
  · rw [List.getElem?_eq_none (by rw [moveRow, List.length_mapIdx]; omega),
      List.getElem?_eq_none (by omega)]

theorem moved_moveRow (hx : xs[src]? = some x) (hdst : dst < xs.length) :
    Moved src dst xs (moveRow src dst xs) := by
  rw [moveRow_eq hx hdst]
  exact moved_insertIdx hx hdst

example : moveRow 0 2 [10, 11, 12, 13] = [11, 12, 10, 13] ∧
    moveRow 3 1 [10, 11, 12, 13] = [10, 13, 11, 12] := by
  decide

end TrainingDemos
