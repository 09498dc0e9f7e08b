import TrainingDemos.DocumentStore
import TrainingDemos.IntegerText

namespace TrainingDemos.FirebasePractise
set_option autoImplicit true

structure Student where
  name : String
  stdid : Int
  key : String
  time : Int
  board : String

structure Detail where
  name : String
  age : String
  gender : String
  key : String
  time : Int
  url : String
  marks : Fields

def Student.init (now : Int) : Student := ⟨"", 0, "", now, ""⟩

def Detail.init (now : Int) : Detail := ⟨"", "", "", "", now, "", []⟩

/-- The loop body of `getstudentLimitedData`. -/
def studentOfDocument (now : Int) (document : String × Document) : Student :=
  let user := Student.init now
  let data := document.2
  { key := document.1
    name := ((data "name").bind Value.asString).getD user.name
    stdid := ((data "stdid").bind Value.asInt).getD user.stdid
    board := ((data "board").bind Value.asString).getD user.board
    time := ((data "time").bind Value.asDate).getD user.time }

/-- The loop body of `getdetailLimitedData`. -/
def detailOfDocument (now : Int) (document : String × Document) : Detail :=
  let user := Detail.init now
  let data := document.2
  { key := document.1
    name := ((data "name").bind Value.asString).getD user.name
    age := ((data "age").bind Value.asString).getD user.age
    gender := ((data "gender").bind Value.asString).getD user.gender
    time := ((data "time").bind Value.asDate).getD user.time
    url := ((data "url").bind Value.asString).getD user.url
    marks := ((data "marks").bind Value.asMap).getD user.marks }

/-- `now i` is the reading of the clock in round `i` of the loop. -/
def getstudentLimitedData (now : Nat → Int) (arrData : List (String × Document)) : List Student :=
  arrData.mapIdx fun i document => studentOfDocument (now i) document

def getdetailLimitedData (now : Nat → Int) (arrData : List (String × Document)) : List Detail :=
  arrData.mapIdx fun i document => detailOfDocument (now i) document

def retrivealldata (now : Nat → Int) (documents : Collection) : List Student :=
  getstudentLimitedData now (documents.orderBy "time")

def getAlldetail (now : Nat → Int) (documents : Collection) : List Detail :=
  (getdetailLimitedData now (documents.orderBy "time")).insertionSort fun a b => a.time ≤ b.time

/-- What the forms take from UIKit, Foundation and Firebase Storage. -/
structure Cloud (Image URL : Type) where
  emptyImage : Image
  encodes : Image → Bool
  encodes_emptyImage : encodes emptyImage = false
  url : String → Option URL
  absoluteString : URL → String
  url_absoluteString : ∀ u, url (absoluteString u) = some u
  url_empty : url "" = none
  description : Value → String
  description_string : ∀ s, description (.string s) = s

/-- Nonempty strings as URLs; an image is given by whether it holds pixels. -/
def Cloud.device : Cloud Bool { s : String // s ≠ "" } where
  emptyImage := false
  encodes := id
  encodes_emptyImage := rfl
  url s := if h : s ≠ "" then some ⟨s, h⟩ else none
  absoluteString u := u.1
  url_absoluteString u := dif_pos u.2
  url_empty := dif_neg fun h => h rfl
  description
    | .string s => s
    | .integer n => IntegerText.print n
    | .timestamp t => IntegerText.print t
    | .null => "<null>"
    | .map _ => "{}"
  description_string _ := rfl

/-- `upload` is the url that storing the data and `downloadURL` end with, nil where one fails. -/
def uploadImage (C : Cloud Image URL) (image : Image) (upload : Option URL) : Option URL :=
  if C.encodes image then upload else none

/-- What the surroundings answer to one press of a form's button. -/
structure Press (URL : Type) where
  documentID : String
  upload : Option URL
  now : Int
  succeeds : Bool

end TrainingDemos.FirebasePractise
