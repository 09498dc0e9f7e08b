import TrainingDemos.Transitions
import TrainingDemos.BookStore.AddBookVC

namespace TrainingDemos.BookStore
set_option autoImplicit true

structure ViewController where
  arrTblBooks : List Nat
  /-- Rows the table view holds: set by `reloadData`, lowered by `deleteRows`. -/
  tableRows : Nat
  lbl_notFound_isHidden : Bool

structure BookTblCell (Image : Type) where
  lbl_bookNme : Option String
  lbl_authorName : Option String
  lbl_description : Option String
  img_book : Option Image
  deriving DecidableEq

namespace ViewController

def getBookRecords (g : Graph) (fetch : Fetch) (vc : ViewController) : ViewController :=
  match fetch.answer g.fetchBooks with
  | some array => ⟨array, array.length, decide (array.length > 0)⟩
  | none => { vc with arrTblBooks := [] }

def viewDidLoad (g : Graph) (fetch : Fetch) : ViewController :=
  getBookRecords g fetch ⟨[], 0, false⟩

/-- `arrTblBooks[row]`, `arrImg[0]` and `img_url!` trap. -/
def cellForRowAt (P : Platform Image Data Time) (g : Graph) (docs : Documents Data)
    (vc : ViewController) (allObjects : Arrangement) (row : Nat) : Option (BookTblCell Image) := do
  let b ← vc.arrTblBooks[row]?
  let data ← g.books.row b
  let img ← (allObjects.arrange data.book_images)[0]?
  let image ← g.images.row img
  let img_url ← image.img_url
  some ⟨data.book_name, data.author_name, data.book_desc, fetchImage P docs img_url⟩

def deleteAction (fetch : Fetch) (save : Bool) (row : Nat) (s : Context × ViewController) :
    Option (Context × ViewController) := do
  let b ← s.2.arrTblBooks[row]?
  let data ← s.1.view.books.row b
  let book_id ← data.book_id
  let getdata ← fetch.answer (s.1.view.booksWithID book_id)
  let book ← getdata[0]?
  let ctx := { s.1 with view := s.1.view.deleteBook book }
  some (ctx.save save, { s.2 with
    arrTblBooks := s.2.arrTblBooks.eraseIdx row, tableRows := s.2.tableRows - 1 })

end ViewController

/-- The running app. The last two components record its history and are read by no handler. -/
structure App (Image Data : Type) where
  context : Context
  list : ViewController
  form : Option AddBookVC
  documents : Documents Data
  /-- The names `saveImage` has returned, each with the image it was called on. -/
  picked : List (String × Image)
  /-- The Saves of the open form that passed validation: `arrImages` then, and their success. -/
  saveLog : List (List String × Bool)

inductive Event (Image Time : Type) where
  | pullToRefresh (fetch : Fetch)
  | clickAdd
  | swipeEdit (row : Nat) (allObjects : Arrangement)
  | swipeDelete (row : Nat) (fetch : Fetch) (save : Bool)
  | pickImage (image : Image) (timestamp : Time) (encodes writes : Bool)
  | clickDelete (index : Nat)
  | editTexts (txts0 txts1 txt_desc : String)
  | clickSave (answers : SaveAnswers)
  | clickBack
  | popTimer

namespace App

def launch (store : Graph) (fetch : Fetch) : App Image Data where
  context := Context.launch store
  list := ViewController.viewDidLoad store fetch
  form := none
  documents := fun _ => none
  picked := []
  saveLog := []

/-- The list screen is covered while a form is open; a form is left by Back or by its timer. -/
def Enabled (s : App Image Data) : Event Image Time → Prop
  | .pullToRefresh _ | .clickAdd => s.form = none
  | .swipeEdit row _ | .swipeDelete row _ _ => s.form = none ∧ row < s.list.tableRows
  | .pickImage _ _ _ _ | .editTexts _ _ _ | .clickSave _ | .clickBack => s.form.isSome
  | .clickDelete index => ∃ vc ∈ s.form, index < vc.arrImages.length
  | .popTimer => ∃ vc ∈ s.form, 0 < vc.scheduledPops

instance (s : App Image Data) : (e : Event Image Time) → Decidable (s.Enabled e)
  | .pullToRefresh _ | .clickAdd => inferInstanceAs (Decidable (s.form = none))
  | .swipeEdit row _ | .swipeDelete row _ _ =>
    inferInstanceAs (Decidable (s.form = none ∧ row < s.list.tableRows))
  | .pickImage _ _ _ _ | .editTexts _ _ _ | .clickSave _ | .clickBack =>
    inferInstanceAs (Decidable (s.form.isSome = true))
  | .clickDelete index =>
    inferInstanceAs (Decidable (∃ vc ∈ s.form, index < vc.arrImages.length))
  | .popTimer => inferInstanceAs (Decidable (∃ vc ∈ s.form, 0 < vc.scheduledPops))

variable (P : Platform Image Data Time)

def clickSave (answers : SaveAnswers) (vc : AddBookVC) (s : App Image Data) :
    Option (App Image Data) := do
  let (ctx, vc') ← clickOnSaveBtn P answers (s.context, vc)
  some { s with
    context := ctx
    form := some vc'
    saveLog := if vc.Accepted then s.saveLog ++ [(vc.arrImages, answers.save)] else s.saveLog }

def step (s : App Image Data) : Event Image Time → Option (App Image Data)
  | .pullToRefresh fetch => some { s with list := s.list.getBookRecords s.context.view fetch }
  | .clickAdd => some { s with form := some AddBookVC.blank, saveLog := [] }
  | .swipeEdit row allObjects => do
    let b ← s.list.arrTblBooks[row]?
    let vc ← AddBookVC.setUpdatedData s.context.view allObjects b
    some { s with form := some vc, saveLog := [] }
  | .swipeDelete row fetch save => do
    let (ctx, list) ← ViewController.deleteAction fetch save row (s.context, s.list)
    some { s with context := ctx, list := list }
  | .pickImage image timestamp encodes writes => do
    let vc ← s.form
    let (docs, imgName) := saveImage P s.documents image timestamp encodes writes
    some { s with
      form := some (vc.imagePickerController imgName)
      documents := docs
      picked := s.picked ++ [(imgName, image)] }
  | .clickDelete index => do
    let vc ← s.form
    let vc ← vc.clickOnDeleteBtn index
    some { s with form := some vc }
  | .editTexts txts0 txts1 txt_desc => do
    let vc ← s.form
    some { s with form := some { vc with txts0 := txts0, txts1 := txts1, txt_desc := txt_desc } }
  | .clickSave answers => do
    let vc ← s.form
    s.clickSave P answers vc
  | .clickBack | .popTimer => some { s with form := none }

end App

def bookStore (P : Platform Image Data Time) : Machine (App Image Data) (Event Image Time) where
  enabled := App.Enabled
  step := App.step P

instance (P : Platform Image Data Time) (s : App Image Data) (e : Event Image Time) :
    Decidable ((bookStore P).enabled s e) :=
  inferInstanceAs (Decidable (s.Enabled e))

end TrainingDemos.BookStore
