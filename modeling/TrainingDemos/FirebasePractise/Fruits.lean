import TrainingDemos.DocumentStore

namespace TrainingDemos.FirebasePractise
set_option autoImplicit true

structure Fruits where
  key : String
  name : String
  created_by : String
  created_date : Option Int

def Fruits.init : Fruits := ⟨"", "", "", none⟩

/-- The loop body of `getfruitLimitedData`: a stored key replaces the id of the document. -/
def fruitOfDocument (document : String × Document) : Fruits :=
  let user := { Fruits.init with key := document.1 }
  let data := document.2
  { key := ((data "key").bind Value.asString).getD user.key
    name := ((data "name").bind Value.asString).getD user.name
    created_by := ((data "created_by").bind Value.asString).getD user.created_by
    created_date := ((data "created_date").bind Value.asDate).or user.created_date }

def getfruitLimitedData (arrData : List (String × Document)) : List Fruits :=
  arrData.map fruitOfDocument

def getfruit (id : String) (documents : Collection) : List Fruits :=
  getfruitLimitedData (documents.whereField "created_by" id)

structure SignPassdataVC where
  data : Option Fruits
  txtfrt : String

inductive SignPassdataVC.Input where
  | editText (text : String)
  | viewWillAppear

/-- A `setData(merge: true)` request. -/
structure Merge where
  key : String
  fields : Fields

namespace SignPassdataVC

def instantiate (data : Option Fruits) : SignPassdataVC := ⟨data, ""⟩

def viewWillAppear (vc : SignPassdataVC) : SignPassdataVC :=
  match vc.data with
  | some data => { vc with txtfrt := data.name }
  | none => vc

def input (vc : SignPassdataVC) : Input → SignPassdataVC
  | .editText text => { vc with txtfrt := text }
  | .viewWillAppear => vc.viewWillAppear

/-- `documentID` is the id that `document()` makes up, `userID` the global variable. -/
def addbtnclick (documentID userID : String) (vc : SignPassdataVC) : Merge where
  key :=
    match vc.data with
    | some data => data.key
    | none => documentID
  fields := [("name", .string vc.txtfrt), ("created_by", .string userID)]

@[simp] theorem viewWillAppear_data (vc : SignPassdataVC) : vc.viewWillAppear.data = vc.data := by
  rw [viewWillAppear]
  split <;> rfl

@[simp] theorem input_data (vc : SignPassdataVC) (i : Input) : (vc.input i).data = vc.data := by
  cases i with
  | editText text => rfl
  | viewWillAppear => exact viewWillAppear_data vc

end SignPassdataVC

/-- What the fruit form stores: neither the key nor a date. -/
structure FruitDocument (creator : String) (d : Document) : Prop where
  name : d.IsString "name"
  created_by : d "created_by" = some (.string creator)
  key : d "key" = none
  created_date : d "created_date" = none

theorem SignPassdataVC.addbtnclick_merges (documentID userID : String) (vc : SignPassdataVC)
    {d : Option Document} (hd : ∀ d', d = some d' → ∃ creator, FruitDocument creator d') :
    FruitDocument userID
      ((d.getD fun _ => none).merge (vc.addbtnclick documentID userID).fields) := by
  have hkey : (d.getD fun _ => none) "key" = none ∧
      (d.getD fun _ => none) "created_date" = none := by
    cases d with
    | none => exact ⟨rfl, rfl⟩
    | some d =>
      obtain ⟨creator, h⟩ := hd d rfl
      exact ⟨h.key, h.created_date⟩
  constructor
  · exact ⟨vc.txtfrt, rfl⟩
  · rfl
  · exact hkey.1
  · exact hkey.2

theorem FruitDocument.key_ofDocument (h : FruitDocument creator d) (key : String) :
    (fruitOfDocument (key, d)).key = key := by
  show ((d "key").bind Value.asString).getD key = key
  rw [h.key]
  rfl

def FruitCollection (c : Collection) : Prop := c.All fun _ d => ∃ creator, FruitDocument creator d

theorem FruitCollection.addbtnclick (h : FruitCollection c) (documentID userID : String)
    (vc : SignPassdataVC) :
    FruitCollection (c.mergeData (vc.addbtnclick documentID userID).key
      (vc.addbtnclick documentID userID).fields) := by
  apply Collection.All.setData h
  refine ⟨userID, vc.addbtnclick_merges documentID userID ?_⟩
  intro d hd
  exact h _ d hd

theorem FruitCollection.keys_getfruit (h : FruitCollection c) (id : String) :
    (getfruit id c).map Fruits.key = (c.whereField "created_by" id).map Prod.fst := by
  rw [getfruit, getfruitLimitedData, List.map_map]
  apply List.map_congr_left
  intro document hm
  obtain ⟨creator, hd⟩ := h _ _ (Collection.mem_whereField.1 hm).1
  exact hd.key_ofDocument document.1

end TrainingDemos.FirebasePractise
