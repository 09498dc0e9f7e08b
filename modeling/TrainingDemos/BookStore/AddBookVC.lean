import TrainingDemos.Loops
import TrainingDemos.BookStore.ObjectGraph

namespace TrainingDemos.BookStore
set_option autoImplicit true

/-- What the app takes from UIKit, Foundation and Core Data. -/
structure Platform (Image Data Time : Type) where
  absoluteString : ObjectID → String
  absoluteString_injective : Function.Injective absoluteString
  jpeg : Image → Data
  decode : Data → Option Image
  description : Time → String

/-- URI strings in the form Core Data gives them. -/
def coreDataURI (o : ObjectID) : String :=
  (match o.entity, o.isTemporaryID with
    | .tblBooks, true => "x-coredata:///Tbl_Books/t"
    | .tblBooks, false => "x-coredata://store/Tbl_Books/p"
    | .tblImages, true => "x-coredata:///Tbl_Images/t"
    | .tblImages, false => "x-coredata://store/Tbl_Images/p") ++ o.object.repr

theorem coreDataURI_injective : Function.Injective coreDataURI := by
  intro h₀ h₁ h
  obtain ⟨e, n, t⟩ := h₀
  obtain ⟨e', n', t'⟩ := h₁
  have hl := congrArg String.toList h
  cases e <;> cases e' <;> cases t <;> cases t' <;> simp [coreDataURI] at hl ⊢
  all_goals simpa only [Nat.ofDigitChars_ten_toDigits] using congrArg (Nat.ofDigitChars 10 · 0) hl

/-- Images are numbers, encoded as themselves, and the clock reads whole seconds. -/
def Platform.device : Platform Nat Nat Nat where
  absoluteString := coreDataURI
  absoluteString_injective := coreDataURI_injective
  jpeg := id
  decode := some
  description time := time.repr ++ ".0"

abbrev Documents (Data : Type) := String → Option Data

structure AddBookVC where
  txts0 : String
  txts1 : String
  txt_desc : String
  arrImages : List String
  arrUpdatedImages : List String
  arrRemoveImages : List String
  bookData : Option Nat
  alert : Option String
  /-- Calls of `popViewController` that `asyncAfter` still has to make. -/
  scheduledPops : Nat
  deriving DecidableEq

/-- How Core Data answers the fetches and saves of one press of Save. -/
structure SaveAnswers where
  bookFetch : Fetch
  imageFetch : Nat → Fetch
  imageSave : Nat → Bool
  save : Bool

def SaveAnswers.succeed : SaveAnswers :=
  ⟨some .asStored, fun _ => some .asStored, fun _ => true, true⟩

abbrev Screen := Context × AddBookVC

namespace AddBookVC

def blank : AddBookVC := ⟨"", "", "", [], [], [], none, none, 0⟩

def showAlertWithMsg (vc : AddBookVC) (msg : String) : AddBookVC := { vc with alert := some msg }

/-- `viewDidLoad` of a form opened on a book; reading a nil attribute traps. -/
def setUpdatedData (g : Graph) (allObjects : Arrangement) (b : Nat) : Option AddBookVC := do
  let book ← g.books.row b
  let name ← book.book_name
  let author ← book.author_name
  let desc ← book.book_desc
  let urls ← (allObjects.arrange book.book_images).mapM fun i =>
    (g.images.row i).bind TblImages.img_url
  some { blank with
    txts0 := name, txts1 := author, txt_desc := desc, arrImages := urls, bookData := some b }

/-- `firstIndex(of:)` and `remove(at:)` on the picked images are `erase`. -/
def clickOnDeleteBtn (vc : AddBookVC) (index : Nat) : Option AddBookVC := do
  let image ← vc.arrImages[index]?
  some { vc with
    arrUpdatedImages := vc.arrUpdatedImages.erase image
    arrRemoveImages := vc.arrRemoveImages ++ [image]
    arrImages := vc.arrImages.eraseIdx index }

def imagePickerController (vc : AddBookVC) (imgName : String) : AddBookVC :=
  { vc with
    arrImages := vc.arrImages ++ [imgName]
    arrUpdatedImages :=
      if vc.bookData.isSome then vc.arrUpdatedImages ++ [imgName] else vc.arrUpdatedImages }

end AddBookVC

section Handlers
variable (P : Platform Image Data Time)

def fileName (timestamp : Time) : String := P.description timestamp ++ ".jpg"

/-- The name is returned also where no file has been written. -/
def saveImage (docs : Documents Data) (image : Image) (timestamp : Time) (encodes writes : Bool) :
    Documents Data × String :=
  let name := fileName P timestamp
  if encodes = true ∧ docs name = none then
    if writes then (Function.update docs name (some (P.jpeg image)), name) else (docs, name)
  else (docs, name)

def fetchImage (docs : Documents Data) (imageName : String) : Option Image :=
  (docs imageName).bind P.decode

/-- Body of the loops that insert one `Tbl_Images` object for a file name. -/
def addImage (b : Nat) (s : Screen) (obj : String) : Screen :=
  ({ s.1 with
      view := s.1.view.insertImage b {
        b_id := some (P.absoluteString (s.1.bookID b))
        image_id := some (P.absoluteString (s.1.imageID s.1.view.images.next))
        img_url := some obj } }, s.2)

/-- The alert of a successful save, and the pop scheduled one second later. -/
def saveAndPop (msg : String) (save : Bool) (s : Screen) : Screen :=
  (s.1.save save,
    if save then
      { s.2.showAlertWithMsg msg with scheduledPops := s.2.scheduledPops + 1 }
    else s.2)

def addBookRecord (save : Bool) (s : Screen) : Option Screen :=
  let bookData := s.1.view.books.next
  let inserted := s.1.view.insertBook {
    book_name := some s.2.txts0
    author_name := some s.2.txts1
    book_desc := some s.2.txt_desc
    book_id := some (P.absoluteString (s.1.bookID bookData))
    book_images := [] }
  forEnumerated s.2.arrImages (addImage P bookData)
    (fun s => some (saveAndPop "Book Added SuccessFully!" save s))
    ({ s.1 with view := inserted }, s.2)

/-- A fetch that throws leaves `getData` nil, which is not `0` objects, so `getData![0]` traps. -/
def removeImages (answers : SaveAnswers) (bookData : Nat) :
    Nat → List String → Context → Option Context
  | _, [], ctx => some ctx
  | k, obj :: rest, ctx => do
    let getData ← Fetch.answer (answers.imageFetch k) (ctx.view.imagesWithURL obj)
    match getData with
    | [] => removeImages answers bookData (k + 1) rest ctx
    | imgData :: _ =>
      let view := (ctx.view.deleteImage imgData).removeFromBookImages bookData imgData
      let ctx := { ctx with view := view }
      removeImages answers bookData (k + 1) rest (ctx.save (answers.imageSave k))

def saveAndGoBack (answers : SaveAnswers) (s : Screen) : Option Screen := do
  let bookData ← s.2.bookData
  let ctx ← removeImages answers bookData 0 s.2.arrRemoveImages s.1
  some (saveAndPop "Book Updated SuccessFully!" answers.save (ctx, s.2))

def updateBookRecord (answers : SaveAnswers) (s : Screen) : Option Screen := do
  let current ← s.2.bookData
  let row ← s.1.view.books.row current
  let book_id ← row.book_id
  let getData ← Fetch.answer answers.bookFetch (s.1.view.booksWithID book_id)
  let bookData ← getData[0]?
  let view := s.1.view.modifyBook bookData fun book => { book with
    book_name := some s.2.txts0
    author_name := some s.2.txts1
    book_desc := some s.2.txt_desc
    book_id := some (P.absoluteString (s.1.bookID bookData)) }
  let s : Screen := ({ s.1 with view := view }, s.2)
  if s.2.arrUpdatedImages.length > 0 then
    forEnumerated s.2.arrUpdatedImages (addImage P bookData) (saveAndGoBack answers) s
  else saveAndGoBack answers s

def validationTextField (txt msg : String) : Option String := if txt = "" then some msg else none

def clickOnSaveBtn (answers : SaveAnswers) (s : Screen) : Option Screen :=
  if s.2.arrImages.length ≠ 0 then
    match validationTextField s.2.txts0 "Please add book name" with
    | some msg => some (s.1, s.2.showAlertWithMsg msg)
    | none =>
      match validationTextField s.2.txts1 "Please add author name" with
      | some msg => some (s.1, s.2.showAlertWithMsg msg)
      | none =>
        if s.2.txt_desc ≠ "" then
          if s.2.bookData.isSome then updateBookRecord P answers s
          else addBookRecord P answers.save s
        else some (s.1, s.2.showAlertWithMsg "Please add book description")
  else some (s.1, s.2.showAlertWithMsg "Please enter at leat one image of book")

def AddBookVC.Accepted (vc : AddBookVC) : Prop :=
  vc.arrImages ≠ [] ∧ vc.txts0 ≠ "" ∧ vc.txts1 ≠ "" ∧ vc.txt_desc ≠ ""

instance (vc : AddBookVC) : Decidable vc.Accepted := inferInstanceAs (Decidable (_ ∧ _ ∧ _ ∧ _))

theorem clickOnSaveBtn_accepted (h : s.2.Accepted) (answers : SaveAnswers) :
    clickOnSaveBtn P answers s =
      if s.2.bookData.isSome then updateBookRecord P answers s
      else addBookRecord P answers.save s := by
  obtain ⟨hi, h0, h1, hd⟩ := h
  simp only [clickOnSaveBtn, validationTextField, ne_eq, List.length_eq_zero_iff, hi, h0, h1, hd,
    not_false_eq_true, if_true, if_false]

theorem clickOnSaveBtn_refused (h : ¬ s.2.Accepted) (answers : SaveAnswers) :
    ∃ msg, clickOnSaveBtn P answers s = some (s.1, s.2.showAlertWithMsg msg) := by
  by_cases hi : s.2.arrImages = []
  · exact ⟨_, by rw [clickOnSaveBtn, if_neg (by simp [hi])]⟩
  rw [clickOnSaveBtn, if_pos (by simpa using hi)]
  by_cases h0 : s.2.txts0 = ""
  · exact ⟨_, by simp only [validationTextField, if_pos h0]; rfl⟩
  by_cases h1 : s.2.txts1 = ""
  · exact ⟨_, by simp only [validationTextField, if_neg h0, if_pos h1]; rfl⟩
  by_cases hd : s.2.txt_desc = ""
  · refine ⟨"Please add book description", ?_⟩
    simp only [validationTextField, if_neg h0, if_neg h1, hd, ne_eq, not_true_eq_false, if_false]
  · exact absurd ⟨hi, h0, h1, hd⟩ h

end Handlers

end TrainingDemos.BookStore
