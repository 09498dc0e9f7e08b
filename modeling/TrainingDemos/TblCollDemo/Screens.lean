import TrainingDemos.Refinements
import TrainingDemos.TblCollDemo.RowTracking

namespace TrainingDemos.TblCollDemo
set_option autoImplicit true

/-- `tbl_list` holds the data of the items that the collection view displays. -/
abbrev CollectionListVC := ViewController

namespace CollectionListVC

def setDataToList : CollectionListVC → Option CollectionListVC := ViewController.setDataToList

def viewDidLoad : Option CollectionListVC := setDataToList ⟨[], []⟩

def contextMenuDelete : Nat → CollectionListVC → Option CollectionListVC :=
  ViewController.removeRow

def click_onRefreshBtn : CollectionListVC → Option CollectionListVC := setDataToList

end CollectionListVC

structure DetailVC where
  lbl_title : String
  deriving DecidableEq

/-- `viewDidLoad` unwraps the data it was given. -/
def DetailVC.viewDidLoad (listData : Option ListData) : Option DetailVC := do
  let listData ← listData
  some ⟨listData.title⟩

/-- `didSelectRowAt` and `didSelectItemAt`: the detail screen is presented for the data at a row. -/
def ViewController.didSelect (row : Nat) (vc : ViewController) : Option DetailVC := do
  let listData ← vc.arrList[row]?
  DetailVC.viewDidLoad (some listData)

/-- The list, the collection pushed on it, and the detail screen presented over either. -/
structure Screens where
  list : App
  isEditing : Bool
  btn_edit : String
  collection : Option CollectionListVC
  detail : Option DetailVC
  deriving DecidableEq

namespace Screens

inductive Event where
  | list (e : TblCollDemo.Event)
  | click_onEditTableBtn
  | didSelectRowAt (row : Nat)
  | click_onCollectionList
  | contextMenuDelete (item : Nat)
  | click_onRefreshBtn
  | didSelectItemAt (item : Nat)
  | back
  | dismiss
  deriving DecidableEq

def Event.list? : Event → Option TblCollDemo.Event
  | .list e => some e
  | _ => none

def Event.isMove : TblCollDemo.Event → Bool
  | .moveRow _ _ => true
  | _ => false

def launch (list : List ListData) : Screens := ⟨.start list, false, "Edit", none, none⟩

def OnList (s : Screens) : Prop := s.collection = none ∧ s.detail = none

def OnItem (s : Screens) (item : Nat) : Prop :=
  (∃ vc ∈ s.collection, item < vc.tbl_list.length) ∧ s.detail = none

/-- A swipe is one event: the table does not stay swiped open, which would set `isEditing`. -/
def Enabled (s : Screens) : Event → Prop
  | .list e => s.OnList ∧ s.list.Enabled e ∧ (Event.isMove e = true → s.isEditing = true)
  | .click_onEditTableBtn | .click_onCollectionList => s.OnList
  | .didSelectRowAt row =>
    s.OnList ∧ s.isEditing = false ∧ row < s.list.screen.tbl_list.length
  | .contextMenuDelete item | .didSelectItemAt item => s.OnItem item
  | .click_onRefreshBtn | .back => s.collection.isSome = true ∧ s.detail = none
  | .dismiss => s.detail.isSome = true

instance (s : Screens) : Decidable s.OnList := inferInstanceAs (Decidable (_ ∧ _))

instance (s : Screens) (item : Nat) : Decidable (s.OnItem item) :=
  inferInstanceAs (Decidable (_ ∧ _))

instance (s : Screens) : (e : Event) → Decidable (s.Enabled e)
  | .list _ | .didSelectRowAt _ | .click_onRefreshBtn | .back =>
    inferInstanceAs (Decidable (_ ∧ _))
  | .click_onEditTableBtn | .click_onCollectionList => inferInstanceAs (Decidable s.OnList)
  | .contextMenuDelete item | .didSelectItemAt item => inferInstanceAs (Decidable (s.OnItem item))
  | .dismiss => inferInstanceAs (Decidable (_ = _))

def step (s : Screens) : Event → Option Screens
  | .list e => do
    let list ← s.list.step e
    some { s with list := list }
  | .click_onEditTableBtn =>
    let isEditing := !s.isEditing
    some { s with isEditing := isEditing, btn_edit := if isEditing then "Done" else "Edit" }
  | .didSelectRowAt row => do
    let detail ← s.list.screen.didSelect row
    some { s with detail := some detail }
  | .click_onCollectionList => do
    let collection ← CollectionListVC.viewDidLoad
    some { s with collection := some collection }
  | .contextMenuDelete item => do
    let collection ← s.collection
    let collection ← CollectionListVC.contextMenuDelete item collection
    some { s with collection := some collection }
  | .click_onRefreshBtn => do
    let collection ← s.collection
    let collection ← CollectionListVC.click_onRefreshBtn collection
    some { s with collection := some collection }
  | .didSelectItemAt item => do
    let collection ← s.collection
    let detail ← collection.didSelect item
    some { s with detail := some detail }
  | .back => some { s with collection := none }
  | .dismiss => some { s with detail := none }

end Screens

def screens : Machine Screens Screens.Event where
  enabled := Screens.Enabled
  step := Screens.step

instance (s : Screens) (e : Screens.Event) : Decidable (screens.enabled s e) :=
  inferInstanceAs (Decidable (s.Enabled e))

namespace CollectionListVC

structure Shows (vc : CollectionListVC) : Prop where
  shown : vc.tbl_list = vc.arrList
  sublist : vc.arrList.Sublist ViewController.companies

theorem setDataToList_eq (vc : CollectionListVC) :
    vc.setDataToList = some ⟨ViewController.companies, ViewController.companies⟩ :=
  ViewController.reloadData_eq { vc with arrList := ViewController.companies }

theorem shows_companies : Shows ⟨ViewController.companies, ViewController.companies⟩ :=
  ⟨rfl, List.Sublist.refl _⟩

theorem Shows.contextMenuDelete {vc : CollectionListVC} (h : vc.Shows)
    (hitem : item < vc.tbl_list.length) : ∃ vc', vc.contextMenuDelete item = some vc' ∧
      vc'.Shows ∧ vc'.tbl_list = vc.tbl_list.eraseIdx item := by
  rw [h.shown] at hitem
  refine ⟨_, ViewController.removeRow_eq h.shown hitem, ⟨rfl, ?_⟩, ?_⟩
  · exact (List.eraseIdx_sublist _ _).trans h.sublist
  · rw [h.shown]

end CollectionListVC

theorem ViewController.didSelect_eq {vc : ViewController} (h : vc.tbl_list = vc.arrList)
    (hrow : row < vc.tbl_list.length) : ∃ data, vc.tbl_list[row]? = some data ∧
      vc.didSelect row = some ⟨data.title⟩ := by
  rw [h] at hrow ⊢
  refine ⟨_, List.getElem?_eq_getElem hrow, ?_⟩
  rw [didSelect, List.getElem?_eq_getElem hrow]
  rfl

namespace Screens
variable {s t : Screens}

/-- What the user sees after an event. -/
def Presents (s t : Screens) : Event → Prop
  | .didSelectRowAt row => ∃ data, s.list.screen.tbl_list[row]? = some data ∧
      t.detail = some ⟨data.title⟩
  | .didSelectItemAt item => ∃ vc ∈ s.collection, ∃ data, vc.tbl_list[item]? = some data ∧
      t.detail = some ⟨data.title⟩
  | .contextMenuDelete item => ∃ vc ∈ s.collection, ∃ vc' ∈ t.collection,
      vc'.tbl_list = vc.tbl_list.eraseIdx item
  | .click_onCollectionList | .click_onRefreshBtn => ∃ vc' ∈ t.collection,
      vc'.tbl_list = ViewController.companies
  | .list e => s.list.Displays t.list e
  | .click_onEditTableBtn | .back | .dismiss => True

structure Sound (s : Screens) : Prop where
  list : s.list.Tracked
  collection : ∀ vc ∈ s.collection, CollectionListVC.Shows vc
  button : s.btn_edit = if s.isEditing then "Done" else "Edit"

theorem sound_launch (list : List ListData) : (launch list).Sound where
  list := App.tracked_start list
  collection := nofun
  button := rfl

theorem Sound.collection_step (hs : s.Sound) (hvc : CollectionListVC.Shows vc) :
    Sound { s with collection := some vc } where
  list := hs.list
  collection vc' hmem := by
    cases hmem
    exact hvc
  button := hs.button

theorem Sound.step (hs : s.Sound) (hen : s.Enabled e) :
    ∃ t, s.step e = some t ∧ t.Sound ∧ s.Presents t e := by
  cases e with
  | list e =>
    obtain ⟨list, hl, ht, hd⟩ := hs.list.step hen.2.1
    refine ⟨{ s with list := list }, ?_, ⟨ht, hs.collection, hs.button⟩, hd⟩
    rw [Screens.step, hl]
    rfl
  | click_onEditTableBtn => exact ⟨_, rfl, ⟨hs.list, hs.collection, rfl⟩, trivial⟩
  | didSelectRowAt row =>
    obtain ⟨data, hdata, hselect⟩ := ViewController.didSelect_eq hs.list.shown hen.2.2
    refine ⟨{ s with detail := some ⟨data.title⟩ }, ?_, ⟨hs.list, hs.collection, hs.button⟩,
      data, hdata, rfl⟩
    rw [Screens.step, hselect]
    rfl
  | click_onCollectionList =>
    refine ⟨_, ?_, hs.collection_step CollectionListVC.shows_companies, _, rfl, rfl⟩
    rw [Screens.step, CollectionListVC.viewDidLoad, CollectionListVC.setDataToList_eq]
    rfl
  | contextMenuDelete item =>
    obtain ⟨⟨vc, hvc, hitem⟩, -⟩ := hen
    obtain ⟨vc', hdelete, hvc', hshown⟩ := (hs.collection vc hvc).contextMenuDelete hitem
    refine ⟨{ s with collection := some vc' }, ?_, hs.collection_step hvc', vc, hvc, vc', rfl,
      hshown⟩
    rw [Screens.step, show s.collection = some vc from hvc, Option.bind_eq_bind, Option.bind_some,
      hdelete]
    rfl
  | click_onRefreshBtn =>
    obtain ⟨vc, hvc⟩ := Option.isSome_iff_exists.1 hen.1
    refine ⟨_, ?_, hs.collection_step CollectionListVC.shows_companies, _, rfl, rfl⟩
    rw [Screens.step, hvc, Option.bind_eq_bind, Option.bind_some,
      CollectionListVC.click_onRefreshBtn, CollectionListVC.setDataToList_eq]
    rfl
  | didSelectItemAt item =>
    obtain ⟨⟨vc, hvc, hitem⟩, -⟩ := hen
    obtain ⟨data, hdata, hselect⟩ := ViewController.didSelect_eq (hs.collection vc hvc).shown hitem
    refine ⟨{ s with detail := some ⟨data.title⟩ }, ?_, ⟨hs.list, hs.collection, hs.button⟩,
      vc, hvc, data, hdata, rfl⟩
    rw [Screens.step, show s.collection = some vc from hvc, Option.bind_eq_bind, Option.bind_some,
      hselect]
    rfl
  | back => exact ⟨_, rfl, ⟨hs.list, nofun, hs.button⟩, trivial⟩
  | dismiss => exact ⟨_, rfl, ⟨hs.list, hs.collection, hs.button⟩, trivial⟩

theorem list_step (hst : s.step (.list e) = some t) : s.list.step e = some t.list := by
  obtain ⟨list, hl, ht⟩ := Option.bind_eq_some_iff.1 hst
  cases ht
  exact hl

theorem list_unchanged (hst : s.step e = some t) (he : e.list? = none) : t.list = s.list := by
  cases e with
  | list e => cases he
  | click_onEditTableBtn | back | dismiss =>
    cases hst
    rfl
  | didSelectRowAt row =>
    obtain ⟨detail, -, ht⟩ := Option.bind_eq_some_iff.1 hst
    cases ht
    rfl
  | click_onCollectionList =>
    rw [step, CollectionListVC.viewDidLoad, CollectionListVC.setDataToList_eq] at hst
    cases hst
    rfl
  | contextMenuDelete item | click_onRefreshBtn | didSelectItemAt item =>
    obtain ⟨collection, -, hst⟩ := Option.bind_eq_some_iff.1 hst
    obtain ⟨_, -, ht⟩ := Option.bind_eq_some_iff.1 hst
    cases ht
    rfl

end Screens

/-- From any list, in every run of the app: the list screen is where its own events lead, whatever
is done on the collection and detail screens; the collection view displays its array, a sublist
of the companies; and whatever comes next is handled without a trap and shown as it should be, a
tap with the title that is displayed where the user taps. -/
theorem screens_apart (list : List ListData)
    (h : screens.Run (fun _ _ => True) (.launch list) es s) :
    listScreen.Run (fun _ _ => True) (.start list) (es.filterMap Screens.Event.list?) s.list ∧
    (∀ vc ∈ s.collection, CollectionListVC.Shows vc) ∧
    s.btn_edit = (if s.isEditing then "Done" else "Edit") ∧
    ∀ e, s.Enabled e → ∃ t, s.step e = some t ∧ s.Presents t e := by
  have hs : s.Sound := by
    apply h.invariant _ (Screens.sound_launch list)
    intro s e t hs hen _ hst
    obtain ⟨t', ht, hsound, -⟩ := hs.step hen
    cases Option.some.inj (ht.symm.trans hst)
    exact hsound
  obtain ⟨u, hrun, hu⟩ := h.projects (N := listScreen) (R := fun s u => s.list = u)
    (C := fun _ _ => True) Screens.Event.list? (u := .start list) (by
      intro s e t u hu _ hst he
      exact (Screens.list_unchanged hst he).trans hu) (by
      intro s e t u a hu hen hst he
      subst hu
      cases e with
      | list e =>
        cases he
        exact ⟨hen.2.1, trivial, _, Screens.list_step hst, rfl⟩
      | _ => cases he) rfl
  subst hu
  refine ⟨hrun, hs.collection, hs.button, fun e hen => ?_⟩
  obtain ⟨t, ht, -, hp⟩ := hs.step hen
  exact ⟨t, ht, hp⟩

def browsed : List Screens.Event := [
  .list .click_onRefreshBtn, .list (.trailingSwipeDelete 0), .didSelectRowAt 0, .dismiss,
  .click_onEditTableBtn, .list (.moveRow 6 0), .click_onCollectionList, .contextMenuDelete 1,
  .contextMenuDelete 5, .didSelectItemAt 5]

theorem screens_apart_browsed : ∃ s, screens.Run (fun _ _ => True) (.launch []) browsed s ∧
    s.detail = some ⟨"Prakshal"⟩ ∧
    s.list.screen.tbl_list.map ListData.title =
      ["Prakshal", "Riseup", "Infosys", "TCS", "Switchcase", "Origin", "Grewon"] ∧
    listScreen.Run (fun _ _ => True) (.start []) (browsed.filterMap Screens.Event.list?)
      s.list := by
  obtain ⟨s, hr, hs⟩ := Machine.run_of_exec screens (fun _ _ => True) (.launch []) browsed
    (fun s => decide (s.detail = some ⟨"Prakshal"⟩ ∧ s.list.screen.tbl_list.map ListData.title =
      ["Prakshal", "Riseup", "Infosys", "TCS", "Switchcase", "Origin", "Grewon"]))
    (by decide +kernel)
  obtain ⟨hdetail, htitles⟩ := of_decide_eq_true hs
  exact ⟨s, hr, hdetail, htitles, (screens_apart [] hr).1⟩

end TrainingDemos.TblCollDemo
