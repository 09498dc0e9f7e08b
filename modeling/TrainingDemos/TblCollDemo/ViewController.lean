import TrainingDemos.Transitions
import TrainingDemos.RowMoves

namespace TrainingDemos.TblCollDemo
set_option autoImplicit true

structure ListData where
  title : String
  address : String
  deriving DecidableEq

/-- `tbl_list` holds, for each row the table view displays, the data its cell was given. -/
structure ViewController where
  arrList : List ListData
  tbl_list : List ListData
  deriving DecidableEq

inductive EditingStyle where
  | none
  | delete
  | insert
  deriving DecidableEq

namespace ViewController

def numberOfRowsInSection (vc : ViewController) : Nat := vc.arrList.length

def cellForRowAt (vc : ViewController) (row : Nat) : Option ListData := vc.arrList[row]?

/-- The table view asks for the number of rows, and for the cell of each. -/
def reloadData (vc : ViewController) : Option ViewController := do
  let cells ← (List.range vc.numberOfRowsInSection).mapM vc.cellForRowAt
  some { vc with tbl_list := cells }

/-- The table view raises an exception unless the number of rows has gone down by one. -/
def deleteRows (row : Nat) (vc : ViewController) : Option ViewController :=
  if row < vc.tbl_list.length ∧ vc.numberOfRowsInSection + 1 = vc.tbl_list.length then
    some { vc with tbl_list := vc.tbl_list.eraseIdx row }
  else none

def companies : List ListData := [
  ⟨"Scc Infotech", "sarthana"⟩, ⟨"Riseup", "Jakatnaka"⟩, ⟨"Infosys", "Surat"⟩,
  ⟨"TCS", "Bangalore"⟩, ⟨"Switchcase", "Katargam"⟩, ⟨"Origin", "Amroli"⟩,
  ⟨"Grewon", "Adajan"⟩, ⟨"Prakshal", "Adajan"⟩]

def setDataToList (vc : ViewController) : Option ViewController :=
  reloadData { vc with arrList := companies }

def moveRowAt (source destination : Nat) (vc : ViewController) : Option ViewController := do
  let itemToMove ← vc.arrList[source]?
  let arrList ← removeAt vc.arrList source
  let arrList ← insertAt arrList itemToMove destination
  some { vc with arrList := arrList }

/-- `arrList.remove(at: indexPath.row)`, then `deleteRows(at: [indexPath])`. -/
def removeRow (row : Nat) (vc : ViewController) : Option ViewController := do
  let arrList ← removeAt vc.arrList row
  deleteRows row { vc with arrList := arrList }

def commit (editingStyle : EditingStyle) (row : Nat) (vc : ViewController) :
    Option ViewController :=
  if editingStyle = .delete then vc.removeRow row else some vc

def trailingSwipeDelete (row : Nat) (vc : ViewController) : Option ViewController :=
  vc.removeRow row

def contextMenuDelete (row : Nat) (vc : ViewController) : Option ViewController :=
  vc.removeRow row

def click_onRefreshBtn (vc : ViewController) : Option ViewController := vc.setDataToList

end ViewController

inductive Event where
  | moveRow (source destination : Nat)
  | commit (editingStyle : EditingStyle) (row : Nat)
  | trailingSwipeDelete (row : Nat)
  | contextMenuDelete (row : Nat)
  | click_onRefreshBtn
  deriving DecidableEq

def Event.deletes : Event → Option Nat
  | .commit .delete row | .trailingSwipeDelete row | .contextMenuDelete row => some row
  | _ => none

/-- The last two components record the list of the last refresh and the rows deleted since. -/
structure App where
  screen : ViewController
  refreshed : List ListData
  deleted : List ListData
  deriving DecidableEq

namespace App

def start (list : List ListData) : App := ⟨⟨list, list⟩, list, []⟩

/-- Events come from rows that the table view displays. -/
def Enabled (s : App) : Event → Prop
  | .moveRow source destination =>
    source < s.screen.tbl_list.length ∧ destination < s.screen.tbl_list.length
  | .commit _ row | .trailingSwipeDelete row | .contextMenuDelete row =>
    row < s.screen.tbl_list.length
  | .click_onRefreshBtn => True

instance (s : App) : (e : Event) → Decidable (s.Enabled e)
  | .moveRow _ _ => inferInstanceAs (Decidable (_ ∧ _))
  | .commit _ _ | .trailingSwipeDelete _ | .contextMenuDelete _ =>
    inferInstanceAs (Decidable (_ < _))
  | .click_onRefreshBtn => inferInstanceAs (Decidable True)

/-- The table view shows a drag itself and then tells its data source. -/
def handle (vc : ViewController) : Event → Option ViewController
  | .moveRow source destination => do
    let vc ← vc.moveRowAt source destination
    some { vc with tbl_list := TrainingDemos.moveRow source destination vc.tbl_list }
  | .commit editingStyle row => vc.commit editingStyle row
  | .trailingSwipeDelete row => vc.trailingSwipeDelete row
  | .contextMenuDelete row => vc.contextMenuDelete row
  | .click_onRefreshBtn => vc.click_onRefreshBtn

def step (s : App) (e : Event) : Option App := do
  let vc ← handle s.screen e
  some (if e = .click_onRefreshBtn then ⟨vc, vc.arrList, []⟩ else
    ⟨vc, s.refreshed, s.deleted ++ (e.deletes.bind fun row => s.screen.tbl_list[row]?).toList⟩)

end App

def listScreen : Machine App Event where
  enabled := App.Enabled
  step := App.step

instance (s : App) (e : Event) : Decidable (listScreen.enabled s e) :=
  inferInstanceAs (Decidable (s.Enabled e))

end TrainingDemos.TblCollDemo
