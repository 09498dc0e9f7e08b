import TrainingDemos.FirebasePractise.ForcedUnwraps

namespace TrainingDemos.FirebasePractise
set_option autoImplicit true

/-- `data` is the detail it is bound to, and `image` the url of the picture it shows. -/
structure TableViewCell (URL : Type) where
  data : Option Detail
  content : Option (CellContent URL)
  image : Option URL

/-- The details table, and the downloads on their way, each with the cell that it holds. -/
structure DetailTable (κ URL : Type) where
  arrDetail : List Detail
  cells : κ → TableViewCell URL
  downloads : List (κ × URL)

inductive DetailTable.Event (κ : Type) where
  | cellForRowAt (cell : κ) (row : Nat)
  | didEndDisplaying (cell : κ)
  | reloadData (arrDetail : List Detail)
  /-- A download that fails does not call back. -/
  | downloaded (i : Nat) (succeeds : Bool)

namespace DetailTable
variable {κ URL : Type} [DecidableEq κ]

def start (arrDetail : List Detail) : DetailTable κ URL :=
  ⟨arrDetail, fun _ => ⟨none, none, none⟩, []⟩

def Enabled (s : DetailTable κ URL) : Event κ → Prop
  | .cellForRowAt _ row => row < s.arrDetail.length
  | .didEndDisplaying _ | .reloadData _ => True
  | .downloaded i _ => i < s.downloads.length

instance (s : DetailTable κ URL) : (e : Event κ) → Decidable (s.Enabled e)
  | .cellForRowAt _ _ | .downloaded _ _ => inferInstanceAs (Decidable (_ < _))
  | .didEndDisplaying _ | .reloadData _ => inferInstanceAs (Decidable True)

def setCell (s : DetailTable κ URL) (cell : κ) (content : TableViewCell URL) :
    DetailTable κ URL :=
  { s with cells := Function.update s.cells cell content }

/-- A cell keeps the picture in its image view when it is bound to another row. -/
def step (C : Cloud Image URL) (s : DetailTable κ URL) : Event κ → Option (DetailTable κ URL)
  | .cellForRowAt cell row => do
    let data ← s.arrDetail[row]?
    let content ← ViewController.cellForRowAt C data
    let s := s.setCell cell { s.cells cell with data := some data, content := some content }
    some { s with downloads := s.downloads ++ content.download.toList.map fun url => (cell, url) }
  | .didEndDisplaying cell => some (s.setCell cell { s.cells cell with data := none })
  | .reloadData arrDetail =>
    some { s with
      arrDetail := arrDetail
      cells := fun cell => { s.cells cell with data := none } }
  | .downloaded i succeeds => s.downloads[i]?.map fun download =>
    let s := { s with downloads := s.downloads.eraseIdx i }
    if succeeds then
      s.setCell download.1 { s.cells download.1 with image := some download.2 }
    else s

def machine (κ : Type) [DecidableEq κ] (C : Cloud Image URL) :
    Machine (DetailTable κ URL) (Event κ) where
  enabled := Enabled
  step := step C

instance (C : Cloud Image URL) (s : DetailTable κ URL) (e : Event κ) :
    Decidable ((machine κ C).enabled s e) :=
  inferInstanceAs (Decidable (s.Enabled e))

/-- Each bound cell shows no picture or its own row's. -/
def OwnPictures (C : Cloud Image URL) (s : DetailTable κ URL) : Prop :=
  ∀ cell, ∀ data ∈ (s.cells cell).data, ∀ url ∈ (s.cells cell).image, C.url data.url = some url

/-- A cell is bound to a row only if the last picture downloaded for the cell, if any, is the row's,
and a download succeeds only while its cell is not bound to a row with another url. -/
def Fitting (C : Cloud Image URL) (s : DetailTable κ URL) : Event κ → Prop
  | .cellForRowAt cell row =>
    ∀ data ∈ s.arrDetail[row]?, ∀ url ∈ (s.cells cell).image, C.url data.url = some url
  | .downloaded i true => ∀ download ∈ s.downloads[i]?, ∀ data ∈ (s.cells download.1).data,
    C.url data.url = some download.2
  | _ => True

instance [DecidableEq URL] (C : Cloud Image URL) (s : DetailTable κ URL) :
    (e : Event κ) → Decidable (s.Fitting C e)
  | .cellForRowAt cell row => inferInstanceAs (Decidable
    (∀ data ∈ s.arrDetail[row]?, ∀ url ∈ (s.cells cell).image, C.url data.url = some url))
  | .downloaded i true => inferInstanceAs (Decidable (∀ download ∈ s.downloads[i]?,
    ∀ data ∈ (s.cells download.1).data, C.url data.url = some download.2))
  | .didEndDisplaying _ | .reloadData _ | .downloaded _ false => inferInstanceAs (Decidable True)

section
variable {C : Cloud Image URL} {s t : DetailTable κ URL}

theorem cells_setCell_self (s : DetailTable κ URL) (cell : κ) (content : TableViewCell URL) :
    (s.setCell cell content).cells cell = content :=
  Function.update_self _ _ _

theorem cells_setCell_of_ne (s : DetailTable κ URL) (content : TableViewCell URL)
    (h : cell' ≠ cell) : (s.setCell cell content).cells cell' = s.cells cell' :=
  Function.update_of_ne h _ _

theorem OwnPictures.setCell_iff (h : OwnPictures C s) (cell : κ) (content : TableViewCell URL) :
    OwnPictures C (s.setCell cell content) ↔
      ∀ data ∈ content.data, ∀ url ∈ content.image, C.url data.url = some url := by
  constructor
  · intro ho
    have hcell := ho cell
    rw [cells_setCell_self] at hcell
    exact hcell
  · intro hc cell'
    by_cases hcell : cell' = cell
    · rw [hcell, cells_setCell_self]
      exact hc
    · rw [cells_setCell_of_ne _ _ hcell]
      exact h cell'

theorem OwnPictures.step_iff (h : OwnPictures C s) (hs : step C s e = some t) :
    OwnPictures C t ↔ s.Fitting C e := by
  cases e with
  | cellForRowAt cell row =>
    obtain ⟨data, hrow, hs⟩ := Option.bind_eq_some_iff.1 hs
    obtain ⟨content, -, ht⟩ := Option.bind_eq_some_iff.1 hs
    cases ht
    have hiff := h.setCell_iff cell { s.cells cell with data := some data, content := some content }
    refine hiff.trans ?_
    rw [Fitting, hrow]
  | didEndDisplaying cell =>
    cases hs
    exact (h.setCell_iff cell _).trans ⟨fun _ => trivial, fun _ => nofun⟩
  | reloadData arrDetail =>
    cases hs
    exact ⟨fun _ => trivial, fun _ => nofun⟩
  | downloaded i succeeds =>
    obtain ⟨⟨cell, url⟩, hdown, ht⟩ := Option.map_eq_some_iff.1 hs
    cases succeeds with
    | false =>
      cases ht
      exact ⟨fun _ => trivial, fun _ => h⟩
    | true =>
      cases ht
      have hiff := h.setCell_iff cell { s.cells cell with image := some url }
      refine hiff.trans ?_
      rw [Fitting, hdown]
      constructor
      · intro hc download hd data hdata
        cases hd
        exact hc data hdata url rfl
      · intro hf data hdata url' hu
        cases hu
        exact hf _ rfl data hdata

end

/-- The cells show their own rows' pictures at every moment exactly if every step fits. -/
theorem own_pictures_iff (C : Cloud Image URL) (arrDetail : List Detail) {s : DetailTable κ URL}
    (h : (machine κ C).Run (fun _ _ => True) (start arrDetail) es s) :
    (machine κ C).Throughout (fun _ _ => True) (OwnPictures C) (start arrDetail) es ↔
      (machine κ C).Run (fun s e => True ∧ s.Fitting C e) (start arrDetail) es s := by
  apply h.throughout_iff (I := fun _ => True)
  · intro s e t _ hP hen hb hst
    exact hP.step_iff hst
  · intro s e t _ hP hen hb hc hst
    trivial
  · trivial
  · exact fun cell => nofun

def markedDetail (url : String) : Detail :=
  ⟨"Ann", "7", "female", url, 0, url,
    [("guj", .string ""), ("eng", .string ""), ("sce", .string ""), ("hindi", .string "")]⟩

def twoPictures : List (Event Bool) := [
  .cellForRowAt false 0, .cellForRowAt true 1, .downloaded 1 true, .downloaded 0 true,
  .didEndDisplaying true, .cellForRowAt true 1]

theorem own_pictures_two : ∃ s, (machine Bool Cloud.device).Run (fun _ _ => True)
    (start [markedDetail "a.jpg", markedDetail "b.jpg"]) twoPictures s ∧
      (s.cells true).image.isSome = true ∧
      (machine Bool Cloud.device).Throughout (fun _ _ => True) (OwnPictures Cloud.device)
        (start [markedDetail "a.jpg", markedDetail "b.jpg"]) twoPictures := by
  obtain ⟨s, hr, hs⟩ := Machine.run_of_exec (machine Bool Cloud.device)
    (fun s e => True ∧ s.Fitting Cloud.device e)
    (start [markedDetail "a.jpg", markedDetail "b.jpg"]) twoPictures
    (fun s => (s.cells true).image.isSome) (by decide +kernel)
  have hrun := hr.mono fun _ _ _ => trivial
  exact ⟨s, hrun, hs, (own_pictures_iff Cloud.device _ hrun).2 hr⟩

def reusedCell : List (Event Unit) := [
  .cellForRowAt () 0, .downloaded 0 true, .didEndDisplaying (), .cellForRowAt () 1]

theorem reused_cell_keeps_picture : ∃ s, (machine Unit Cloud.device).Run (fun _ _ => True)
    (start [markedDetail "a.jpg", markedDetail ""]) reusedCell s ∧
      ¬ OwnPictures Cloud.device s := by
  obtain ⟨s, hr, hs⟩ := Machine.run_of_exec (machine Unit Cloud.device) (fun _ _ => True)
    (start [markedDetail "a.jpg", markedDetail ""]) reusedCell
    (fun s => decide (¬ ∀ data ∈ (s.cells ()).data, ∀ url ∈ (s.cells ()).image,
      Cloud.device.url data.url = some url)) (by decide +kernel)
  refine ⟨s, hr, ?_⟩
  intro h
  exact of_decide_eq_true hs (h ())

end DetailTable

end TrainingDemos.FirebasePractise
