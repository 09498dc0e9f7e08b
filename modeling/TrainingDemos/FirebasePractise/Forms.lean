import TrainingDemos.FirebasePractise.DataManager

namespace TrainingDemos.FirebasePractise
set_option autoImplicit true

structure GetDataVc (Image : Type) where
  data : Student
  board : String
  img : Image
  txtfdid : String
  txtfdname : String

inductive GetDataVc.Input (Image : Type) where
  | editName (text : String)
  | editId (text : String)
  | std12btnclick
  | std10click
  | imagePickerController (image : Image)
  | viewWillAppear

namespace GetDataVc

def instantiate (C : Cloud Image URL) (data : Student) : GetDataVc Image :=
  ⟨data, "", C.emptyImage, "", ""⟩

def viewWillAppear (vc : GetDataVc Image) : GetDataVc Image :=
  if vc.data.name ≠ "" then
    { vc with txtfdname := vc.data.name, txtfdid := IntegerText.print vc.data.stdid }
  else vc

def input (vc : GetDataVc Image) : Input Image → GetDataVc Image
  | .editName text => { vc with txtfdname := text }
  | .editId text => { vc with txtfdid := text }
  | .std12btnclick => { vc with board := "h.s.c" }
  | .std10click => { vc with board := "s.s.c" }
  | .imagePickerController image => { vc with img := image }
  | .viewWillAppear => vc.viewWillAppear

def addbtnclick (C : Cloud Image URL) (press : Press URL) (vc : GetDataVc Image) : Write :=
  if vc.data.name ≠ "" then
    .updateData vc.data.key [
      ("name", .string vc.txtfdname),
      ("stdid", .ofOption .integer (IntegerText.parse vc.txtfdid)),
      ("board", .string vc.board),
      ("time", .timestamp press.now),
      ("key", .string vc.data.key)]
  else
    let url := uploadImage C vc.img press.upload
    .setData press.documentID [
      ("key", .string press.documentID),
      ("name", .string vc.txtfdname),
      ("stdid", .ofOption .integer (IntegerText.parse vc.txtfdid)),
      ("board", .string vc.board),
      ("time", .timestamp press.now),
      ("image", .ofOption .string (url.map C.absoluteString))]

/-- The document field whose value the user sets with an input. -/
def Input.field : Input Image → Option String
  | .editName _ => some "name"
  | .editId _ => some "stdid"
  | .std12btnclick | .std10click => some "board"
  | .imagePickerController _ => some "image"
  | .viewWillAppear => none

@[simp] theorem viewWillAppear_data (vc : GetDataVc Image) : vc.viewWillAppear.data = vc.data := by
  rw [viewWillAppear]
  split <;> rfl

@[simp] theorem viewWillAppear_board (vc : GetDataVc Image) :
    vc.viewWillAppear.board = vc.board := by
  rw [viewWillAppear]
  split <;> rfl

theorem viewWillAppear_named {vc : GetDataVc Image} (h : vc.data.name ≠ "") : vc.viewWillAppear =
    { vc with txtfdname := vc.data.name, txtfdid := IntegerText.print vc.data.stdid } :=
  if_pos h

@[simp] theorem input_data (vc : GetDataVc Image) (i : Input Image) :
    (vc.input i).data = vc.data := by
  cases i with
  | viewWillAppear => exact viewWillAppear_data vc
  | _ => rfl

end GetDataVc

inductive TextField where
  | nameTxtfd
  | ageTxtfd
  | txtfdguj
  | txtfdEng
  | txtfdSce
  | txtfdHindi
  deriving DecidableEq

def TextField.field : TextField → String
  | .nameTxtfd => "name"
  | .ageTxtfd => "age"
  | .txtfdguj => "guj"
  | .txtfdEng => "eng"
  | .txtfdSce => "sce"
  | .txtfdHindi => "hindi"

structure PassDataVC (Image : Type) where
  flag : Int
  data : Detail
  gender : String
  image : Image
  text : TextField → String

inductive PassDataVC.Input (Image : Type) where
  | editText (field : TextField) (text : String)
  | malebtnclick
  | femalebtnclick
  /-- A picture is chosen in the picker with the tag. -/
  | imagePickerController (tag : Int) (image : Image)
  | viewWillAppear

namespace PassDataVC

def instantiate (C : Cloud Image URL) (data : Detail) : PassDataVC Image :=
  ⟨0, data, "", C.emptyImage, fun _ => ""⟩

def viewDidLoad (vc : PassDataVC Image) : PassDataVC Image := { vc with gender := vc.data.gender }

def seeded (data : Detail) (guj sce eng hindi : String) : TextField → String
  | .nameTxtfd => data.name
  | .ageTxtfd => data.age
  | .txtfdguj => guj
  | .txtfdSce => sce
  | .txtfdEng => eng
  | .txtfdHindi => hindi

/-- Traps where a mark is missing or the url is none. -/
def viewWillAppear (C : Cloud Image URL) (vc : PassDataVC Image) : Option (PassDataVC Image) :=
  if vc.data.name ≠ "" then do
    let guj ← vc.data.marks.lookup "guj"
    let sce ← vc.data.marks.lookup "sce"
    let eng ← vc.data.marks.lookup "eng"
    let hindi ← vc.data.marks.lookup "hindi"
    let _ ← C.url vc.data.url
    some { vc with
      text := seeded vc.data (C.description guj) (C.description sce) (C.description eng)
        (C.description hindi) }
  else some vc

def imagePickerController (tag : Int) (image : Image) (vc : PassDataVC Image) : PassDataVC Image :=
  if tag = 0 then { vc with image := image, flag := 1 } else vc

def input (C : Cloud Image URL) (vc : PassDataVC Image) : Input Image → Option (PassDataVC Image)
  | .editText field text => some { vc with text := Function.update vc.text field text }
  | .malebtnclick => some { vc with gender := "male" }
  | .femalebtnclick => some { vc with gender := "female" }
  | .imagePickerController tag image => some (vc.imagePickerController tag image)
  | .viewWillAppear => vc.viewWillAppear C

def marks (vc : PassDataVC Image) : Value :=
  .map [
    ("guj", .string (vc.text .txtfdguj)),
    ("eng", .string (vc.text .txtfdEng)),
    ("sce", .string (vc.text .txtfdSce)),
    ("hindi", .string (vc.text .txtfdHindi))]

def updatedata (C : Cloud Image URL) (data1 : URL) (vc : PassDataVC Image) : Write :=
  .updateData vc.data.key [
    ("name", .string (vc.text .nameTxtfd)),
    ("age", .string (vc.text .ageTxtfd)),
    ("gender", .string vc.gender),
    ("url", .string (C.absoluteString data1)),
    ("marks", vc.marks)]

/-- Traps where the upload of a new picture gives no url, or the old url is none. -/
def addbtnclick (C : Cloud Image URL) (press : Press URL) (vc : PassDataVC Image) :
    Option Write :=
  if vc.data.name ≠ "" then
    if vc.flag = 1 then do
      let url ← uploadImage C vc.image press.upload
      some (vc.updatedata C url)
    else do
      let url ← C.url vc.data.url
      some (vc.updatedata C url)
  else
    let url := uploadImage C vc.image press.upload
    some (.setData press.documentID [
      ("key", .string press.documentID),
      ("name", .string (vc.text .nameTxtfd)),
      ("age", .string (vc.text .ageTxtfd)),
      ("gender", .string vc.gender),
      ("time", .timestamp press.now),
      ("url", .ofOption .string (url.map C.absoluteString)),
      ("marks", vc.marks)])

def Input.picture : Input Image → Option Image
  | .imagePickerController tag image => if tag = 0 then some image else none
  | _ => none

def chosen (vc : PassDataVC Image) : Option Image := if vc.flag = 1 then some vc.image else none

def Input.field : Input Image → Option String
  | .editText field _ => some field.field
  | .malebtnclick | .femalebtnclick => some "gender"
  | .imagePickerController tag _ => if tag = 0 then some "url" else none
  | .viewWillAppear => none

end PassDataVC

end TrainingDemos.FirebasePractise
