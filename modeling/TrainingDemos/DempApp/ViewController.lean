import TrainingDemos.Loops
import TrainingDemos.Toggles

namespace TrainingDemos.DempApp
set_option autoImplicit true

/-- `sect` is the index path's section. -/
structure IndexPath where
  sect : Nat
  row : Nat
  deriving DecidableEq

inductive AccessoryType where
  | none
  | checkmark
  deriving DecidableEq

/-- `imageView` is the name of the cell's system image. -/
structure UITableViewCell where
  textLabel : String
  imageView : String
  accessoryType : AccessoryType
  deriving DecidableEq

structure ViewController where
  arrFruits : List String
  arrSelectedItems : List Nat
  deriving DecidableEq

namespace ViewController

def start (arrFruits : List String) : ViewController := ⟨arrFruits, []⟩

def fruits : List String := ["Mango", "Apple", "Graps", "Bananas", "Pineapple", "Strawberry"]

def numberOfSections : Nat := 4

def numberOfRowsInSection (vc : ViewController) : Nat := vc.arrFruits.length

def cellForRowAt (vc : ViewController) (indexPath : IndexPath) : Option UITableViewCell := do
  let text ← vc.arrFruits[indexPath.row]?
  some (if vc.arrSelectedItems.contains indexPath.row then ⟨text, "circle.fill", .checkmark⟩
    else ⟨text, "circle", .none⟩)

/-- `firstIndex(of:)` and `remove(at:)`, or `append`. -/
def didSelectRowAt (vc : ViewController) (indexPath : IndexPath) : Option ViewController :=
  match vc.arrSelectedItems.idxOf? indexPath.row with
  | some index => do
    let arrSelectedItems ← removeAt vc.arrSelectedItems index
    some { vc with arrSelectedItems := arrSelectedItems }
  | none => some { vc with arrSelectedItems := vc.arrSelectedItems ++ [indexPath.row] }

def HasCell (vc : ViewController) (sections : Nat) (indexPath : IndexPath) : Prop :=
  indexPath.sect < sections ∧ indexPath.row < vc.numberOfRowsInSection

/-- No item is selected twice, and cells tapped an odd number of times have a checkmark. -/
def ShowsTaps (vc : ViewController) (sections : Nat) (taps : List IndexPath) : Prop :=
  vc.arrSelectedItems.Nodup ∧ ∀ indexPath, vc.HasCell sections indexPath →
    ∃ cell, vc.cellForRowAt indexPath = some cell ∧
      (cell.accessoryType = .checkmark ↔ Odd (taps.count indexPath))

end ViewController

open ViewController

/-- How often the row was tapped in the sections other than the given cell's. -/
def tapsElsewhere (taps : List IndexPath) (indexPath : IndexPath) : Nat :=
  taps.countP fun tap => tap.row = indexPath.row ∧ tap.sect ≠ indexPath.sect

section
variable {vc : ViewController} {arrFruits : List String}

theorem didSelectRowAt_eq (vc : ViewController) (indexPath : IndexPath) :
    vc.didSelectRowAt indexPath =
      some { vc with arrSelectedItems := toggle vc.arrSelectedItems indexPath.row } := by
  rw [toggle_eq_match, didSelectRowAt]
  cases hi : vc.arrSelectedItems.idxOf? indexPath.row with
  | none => rfl
  | some index =>
    obtain ⟨hlt, -⟩ := List.idxOf?_eq_some_iff.1 hi
    simp only [removeAt, if_pos hlt, Option.bind_eq_bind, Option.bind_some]

theorem didSelectRows_eq (vc : ViewController) (taps : List IndexPath) :
    taps.foldlM didSelectRowAt vc = some { vc with
      arrSelectedItems := (taps.map IndexPath.row).foldl toggle vc.arrSelectedItems } := by
  induction taps generalizing vc with
  | nil => rfl
  | cons tap taps ih =>
    rw [List.foldlM_cons, didSelectRowAt_eq, Option.bind_eq_bind, Option.bind_some, ih]
    rfl

theorem count_row (taps : List IndexPath) (indexPath : IndexPath) :
    (taps.map IndexPath.row).count indexPath.row =
      taps.count indexPath + tapsElsewhere taps indexPath := by
  induction taps with
  | nil => rfl
  | cons tap taps ih =>
    rw [List.map_cons, List.count_cons, List.count_cons, ih, tapsElsewhere, tapsElsewhere,
      List.countP_cons]
    obtain ⟨sect, row⟩ := tap
    obtain ⟨sect', row'⟩ := indexPath
    by_cases hr : row = row'
    · by_cases hs : sect = sect' <;> simp [hr, hs] <;> omega
    · simp [hr]

theorem cellForRowAt_checkmark (vc : ViewController)
    (hrow : indexPath.row < vc.arrFruits.length) : ∃ cell,
      vc.cellForRowAt indexPath = some cell ∧
      (cell.accessoryType = .checkmark ↔ indexPath.row ∈ vc.arrSelectedItems) := by
  have htext := List.getElem?_eq_getElem hrow
  simp only [cellForRowAt, htext, Option.bind_eq_bind, Option.bind_some]
  refine ⟨_, rfl, ?_⟩
  by_cases hm : indexPath.row ∈ vc.arrSelectedItems
  · rw [if_pos (List.contains_iff_mem.2 hm)]
    exact ⟨fun _ => hm, fun _ => rfl⟩
  · rw [if_neg fun hc => hm (List.contains_iff_mem.1 hc)]
    constructor
    · intro h
      cases h
    · exact fun h => absurd h hm

theorem checkmark_iff (taps : List IndexPath) (hrow : indexPath.row < arrFruits.length) :
    ∃ cell, cellForRowAt ⟨arrFruits, (taps.map IndexPath.row).foldl toggle []⟩ indexPath =
        some cell ∧
      (cell.accessoryType = .checkmark ↔
        (Odd (taps.count indexPath) ↔ Even (tapsElsewhere taps indexPath))) := by
  obtain ⟨cell, hc, hmark⟩ := cellForRowAt_checkmark
    ⟨arrFruits, (taps.map IndexPath.row).foldl toggle []⟩ hrow
  refine ⟨cell, hc, hmark.trans ?_⟩
  rw [mem_foldl_toggle_nil, count_row, Nat.odd_add]

end

/-- The screen shows the taps exactly if each row has an even number of them in other sections. -/
theorem shows_taps_iff (arrFruits : List String) (sections : Nat) (taps : List IndexPath) :
    (∃ vc, taps.foldlM didSelectRowAt (start arrFruits) = some vc ∧
      vc.ShowsTaps sections taps) ↔
    ∀ indexPath, (start arrFruits).HasCell sections indexPath →
      Even (tapsElsewhere taps indexPath) := by
  rw [didSelectRows_eq]
  constructor
  · intro h indexPath hp
    obtain ⟨vc, hvc, -, hshow⟩ := h
    cases hvc
    obtain ⟨cell, hc, hmark⟩ := hshow indexPath hp
    obtain ⟨cell', hc', hmark'⟩ := checkmark_iff taps hp.2
    have he : cell = cell' := Option.some.inj (hc.symm.trans hc')
    subst he
    have hodd := hmark.symm.trans hmark'
    tauto
  · intro h
    refine ⟨_, rfl, nodup_foldl_toggle List.nodup_nil _, ?_⟩
    intro indexPath hp
    obtain ⟨cell, hc, hmark⟩ := checkmark_iff taps hp.2
    exact ⟨cell, hc, hmark.trans (iff_true_right (h indexPath hp))⟩

theorem tap_marks_other_section :
    ∃ vc, [IndexPath.mk 0 2].foldlM didSelectRowAt (start fruits) = some vc ∧
      vc.cellForRowAt ⟨1, 2⟩ = some ⟨"Graps", "circle.fill", .checkmark⟩ ∧
      ¬ vc.ShowsTaps numberOfSections [⟨0, 2⟩] := by
  refine ⟨⟨fruits, [2]⟩, by decide, by decide, ?_⟩
  intro h
  obtain ⟨cell, hc, hmark⟩ := h.2 ⟨1, 2⟩ ⟨by decide, by decide⟩
  cases hc
  exact absurd (hmark.1 rfl) (by decide)

end TrainingDemos.DempApp
