import TrainingDemos.Transitions
import TrainingDemos.IntegerText

namespace TrainingDemos.PickerViewDemo
set_option autoImplicit true

inductive TextField where
  | txt_pickerView
  | txt_date
  | txt_progressValue
  deriving DecidableEq

def TextField.tag : TextField → Nat
  | .txt_pickerView => 1
  | .txt_date => 2
  | .txt_progressValue => 3

def arrmark : List String := ["1", "2", "3", "4", "5", "6", "7", "8", "9", "10"]

/-- `progressView` is what `setProgress` was last given: the view itself pins it to 0 and 1. -/
structure ViewController (Date : Type) where
  txt_pickerView : String
  txt_date : String
  txt_progressValue : String
  progressView : Int
  fieldPickerview : Nat
  selectedRow : Int
  oldselectedRow : Int
  datePickerView : Date
  selectedDate : Option Date
  oldSelectedDate : Option Date
  selectedTag : Nat
  firstResponder : Option TextField
  deriving DecidableEq

namespace ViewController
variable {Date : Type}

/-- The screen once it has loaded. A date wheel shows the current date at first. -/
def viewDidLoad (now : Date) : ViewController Date where
  txt_pickerView := ""
  txt_date := ""
  txt_progressValue := "10"
  progressView := 0
  fieldPickerview := 0
  selectedRow := -1
  oldselectedRow := -1
  datePickerView := now
  selectedDate := none
  oldSelectedDate := none
  selectedTag := 0
  firstResponder := none

def setProgressValue (vc : ViewController Date) : ViewController Date :=
  { vc with progressView := (IntegerText.parse vc.txt_progressValue).getD 0 }

/-- `selectRow` and `setDate` move a wheel without a callback. -/
def textFieldDidBeginEditing (vc : ViewController Date) (textField : TextField) (now : Date) :
    ViewController Date :=
  let vc := { vc with selectedTag := textField.tag }
  if textField.tag = 1 then
    { vc with fieldPickerview := if vc.selectedRow ≠ -1 then vc.selectedRow.toNat else 0 }
  else if textField.tag = 2 then
    { vc with datePickerView := vc.selectedDate.getD now }
  else vc

def textFieldDidEndEditing (vc : ViewController Date) (textField : TextField) :
    ViewController Date :=
  if textField.tag = 3 then vc.setProgressValue else vc

def resignFirstResponder (vc : ViewController Date) (textField : TextField) :
    ViewController Date :=
  if vc.firstResponder = some textField then
    { vc.textFieldDidEndEditing textField with firstResponder := none }
  else vc

/-- A tap on a field: the one that was edited ends first. -/
def becomeFirstResponder (vc : ViewController Date) (textField : TextField) (now : Date) :
    ViewController Date :=
  let vc := match vc.firstResponder with
    | some edited => vc.resignFirstResponder edited
    | none => vc
  textFieldDidBeginEditing { vc with firstResponder := some textField } textField now

/-- `arrmark[row]`, which traps outside the array. -/
def mark (row : Int) : Option String := if 0 ≤ row then arrmark[row.toNat]? else none

/-- `row != -1 ? arrmark[row] : ""`. -/
def entry (row : Int) : Option String := if row ≠ -1 then mark row else some ""

/-- `dateFormater.string(from:)` unwraps the date. -/
def doneClick (format : Date → String) (vc : ViewController Date) : Option (ViewController Date) :=
  match vc.selectedTag with
  | 1 => do
    let text ← entry vc.selectedRow
    let vc := { vc with txt_pickerView := text, oldselectedRow := vc.selectedRow }
    some (vc.resignFirstResponder .txt_pickerView)
  | 2 => do
    let date ← vc.selectedDate
    let vc := { vc with txt_date := format date, oldSelectedDate := vc.selectedDate }
    some (vc.resignFirstResponder .txt_date)
  | _ => some vc

def cancelClick (vc : ViewController Date) : ViewController Date :=
  match vc.selectedTag with
  | 1 => { vc with selectedRow := vc.oldselectedRow }.resignFirstResponder .txt_pickerView
  | 2 => { vc with selectedDate := vc.oldSelectedDate }.resignFirstResponder .txt_date
  | _ => vc

def textFieldShouldReturn (vc : ViewController Date) (textField : TextField) :
    ViewController Date :=
  vc.resignFirstResponder textField

end ViewController

inductive Event (Date : Type) where
  | focus (textField : TextField) (now : Date)
  /-- The user turns the number wheel, which calls `didSelectRow`. -/
  | didSelectRow (row : Nat)
  | onSelectDate (date : Date)
  | doneClick
  | cancelClick
  | textFieldShouldReturn
  | editProgressValue (text : String)
  | onSetProgressValue

namespace ViewController
variable {Date : Type}

/-- The first two fields are not edited by hand here: `UserEvent` adds such edits. -/
def Enabled (vc : ViewController Date) : Event Date → Prop
  | .focus textField _ => vc.firstResponder ≠ some textField
  | .didSelectRow row => vc.firstResponder = some .txt_pickerView ∧ row < arrmark.length
  | .onSelectDate _ => vc.firstResponder = some .txt_date
  | .doneClick | .cancelClick =>
    vc.firstResponder = some .txt_pickerView ∨ vc.firstResponder = some .txt_date
  | .textFieldShouldReturn => vc.firstResponder.isSome
  | .editProgressValue _ => vc.firstResponder = some .txt_progressValue
  | .onSetProgressValue => True

instance (vc : ViewController Date) : (e : Event Date) → Decidable (vc.Enabled e)
  | .focus _ _ => inferInstanceAs (Decidable (_ ≠ _))
  | .didSelectRow _ => inferInstanceAs (Decidable (_ ∧ _))
  | .doneClick | .cancelClick => inferInstanceAs (Decidable (_ ∨ _))
  | .onSelectDate _ | .editProgressValue _ => inferInstanceAs (Decidable (_ = _))
  | .textFieldShouldReturn => inferInstanceAs (Decidable (_ = true))
  | .onSetProgressValue => inferInstanceAs (Decidable True)

def step (format : Date → String) (vc : ViewController Date) :
    Event Date → Option (ViewController Date)
  | .focus textField now => some (vc.becomeFirstResponder textField now)
  | .didSelectRow row => some { vc with fieldPickerview := row, selectedRow := row }
  | .onSelectDate date => some { vc with datePickerView := date, selectedDate := some date }
  | .doneClick => vc.doneClick format
  | .cancelClick => some vc.cancelClick
  | .textFieldShouldReturn => vc.firstResponder.map vc.textFieldShouldReturn
  | .editProgressValue text => some { vc with txt_progressValue := text }
  | .onSetProgressValue => some vc.setProgressValue

end ViewController

def pickerForm (format : Date → String) : Machine (ViewController Date) (Event Date) where
  enabled := ViewController.Enabled
  step := ViewController.step format

instance (format : Date → String) (vc : ViewController Date) (e : Event Date) :
    Decidable ((pickerForm format).enabled vc e) :=
  inferInstanceAs (Decidable (vc.Enabled e))

end TrainingDemos.PickerViewDemo
