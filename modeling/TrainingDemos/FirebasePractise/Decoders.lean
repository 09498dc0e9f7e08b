import TrainingDemos.FirebasePractise.Fruits
import TrainingDemos.FirebasePractise.RowTargeting

namespace TrainingDemos.FirebasePractise
set_option autoImplicit true

def getDetaildata (now : Int) (data : Document) : Detail :=
  let user := Detail.init now
  { name := ((data "name").bind Value.asString).getD user.name
    age := ((data "age").bind Value.asString).getD user.age
    gender := ((data "gender").bind Value.asString).getD user.gender
    key := ((data "key").bind Value.asString).getD user.key
    url := ((data "url").bind Value.asString).getD user.url
    time := ((data "time").bind Value.asDate).getD user.time
    marks := ((data "marks").bind Value.asMap).getD user.marks }

/-- Reads no time, unlike the decoder of the list. -/
def getstudentdata (now : Int) (data : Document) : Student :=
  let user := Student.init now
  { user with
    name := ((data "name").bind Value.asString).getD user.name
    stdid := ((data "stdid").bind Value.asInt).getD user.stdid
    board := ((data "board").bind Value.asString).getD user.board
    key := ((data "key").bind Value.asString).getD user.key }

def getfruitdata (data : Document) : Fruits :=
  let user := Fruits.init
  { name := ((data "name").bind Value.asString).getD user.name
    key := ((data "key").bind Value.asString).getD user.key
    created_date := ((data "created_date").bind Value.asDate).or user.created_date
    created_by := ((data "created_by").bind Value.asString).getD user.created_by }

/-- Nothing without an id, and the initial model where there is no document. -/
def getone (user : Model) (decode : Document → Model) (documents : Collection)
    (uid : Option String) : Option Model :=
  uid.map fun u_id => ((documents.doc u_id).map decode).getD user

/-- `start` and `now` are the readings of the clock before the request and in its completion. -/
def getoneDetail (start now : Int) (documents : Collection) (uid : Option String) : Option Detail :=
  getone (Detail.init start) (getDetaildata now) documents uid

def getonestudent (start now : Int) (documents : Collection) (uid : Option String) :
    Option Student :=
  getone (Student.init start) (getstudentdata now) documents uid

def getonefruit (documents : Collection) (uid : Option String) : Option Fruits :=
  getone Fruits.init getfruitdata documents uid

/-- The collections that fruit forms and Delete actions of any users leave behind. -/
inductive FruitStored : Collection → Prop where
  | empty : FruitStored .empty
  | addbtnclick (vc : SignPassdataVC) (documentID userID : String) : FruitStored c →
      FruitStored (c.mergeData (vc.addbtnclick documentID userID).key
        (vc.addbtnclick documentID userID).fields)
  | delete (key : String) : FruitStored c → FruitStored (c.delete key)

theorem FruitStored.fruitCollection (h : FruitStored c) : FruitCollection c := by
  induction h with
  | empty => exact .empty
  | addbtnclick vc documentID userID hc ih => exact ih.addbtnclick documentID userID vc
  | delete key hc ih => exact Collection.All.delete ih key

theorem getone_of_doc {documents : Collection} (h : documents.doc key = some d) (user : Model)
    (decode : Document → Model) : getone user decode documents (some key) = some (decode d) := by
  rw [getone, Option.map_some, h]
  rfl

theorem bind_asDate (v : Option Value) : v.bind Value.asDate = none :=
  Option.bind_fun_none v

section
variable {C : Cloud Image URL}

theorem DetailDocument.decodings_agree (h : DetailDocument C source d) (now now' : Int) :
    detailOfDocument now (source, d) = getDetaildata now' d ↔ now = now' := by
  have hkey : ((d "key").bind Value.asString).getD "" = source := getD_asString h.key
  rw [detailOfDocument, getDetaildata, bind_asDate]
  simp only [Detail.init, hkey, Detail.mk.injEq, Option.getD_none, true_and, and_true]

theorem StudentDocument.decodings_agree (h : StudentDocument C source d) (now now' : Int) :
    studentOfDocument now (source, d) = getstudentdata now' d ↔ now = now' := by
  have hkey : ((d "key").bind Value.asString).getD "" = source := getD_asString h.key
  rw [studentOfDocument, getstudentdata, bind_asDate]
  simp only [Student.init, hkey, Student.mk.injEq, Option.getD_none, true_and, and_true]

end

theorem FruitDocument.decodings_agree (h : FruitDocument creator d) (source : String) :
    fruitOfDocument (source, d) = getfruitdata d ↔ source = "" := by
  have hsingle : (getfruitdata d).key = "" := by
    show ((d "key").bind Value.asString).getD "" = ""
    rw [h.key]
    rfl
  constructor
  · intro he
    rw [← h.key_ofDocument source, he, hsingle]
  · intro he
    subst he
    rfl

/-- Both paths give one model, whose key is the id of the document. -/
def Agree (keyOf : Model → String) (key : String) (listed single : Option Model) : Prop :=
  ∃ m, listed = some m ∧ single = some m ∧ keyOf m = key

theorem agree_iff {keyOf : Model → String} (hkey : keyOf listed = key) :
    Agree keyOf key (some listed) (some single) ↔ listed = single := by
  constructor
  · intro h
    obtain ⟨m, hl, hs, -⟩ := h
    rw [Option.some.inj hl, Option.some.inj hs]
  · intro h
    exact ⟨listed, rfl, by rw [h], hkey⟩

/-- Which documents a list and a single read decode alike. -/
theorem decoders_agree (C : Cloud Image URL) :
    (∀ es s key d arrData i start now now', (detailScreens C).Runs App.launch es s →
      s.documents.doc key = some d → arrData[i]? = some (key, d) →
      (Agree Detail.key key (getdetailLimitedData now arrData)[i]?
        (getoneDetail start now' s.documents (some key)) ↔ now i = now')) ∧
    (∀ es s key d arrData i start now now', (studentScreens C).Runs App.launch es s →
      s.documents.doc key = some d → arrData[i]? = some (key, d) →
      (Agree Student.key key (getstudentLimitedData now arrData)[i]?
        (getonestudent start now' s.documents (some key)) ↔ now i = now')) ∧
    (∀ documents key d arrData (i : Nat), FruitStored documents →
      documents.doc key = some d → arrData[i]? = some (key, d) →
      (Agree Fruits.key key (getfruitLimitedData arrData)[i]?
        (getonefruit documents (some key)) ↔ key = "")) := by
  constructor
  · intro es s key d arrData i start now now' hr hd hi
    have hdoc := (sound_of_run (detailScreens_lawful C) hr).documents key d hd
    have hkey : (detailOfDocument (now i) (key, d)).key = key := rfl
    rw [getdetailLimitedData, List.getElem?_mapIdx, hi, Option.map_some, getoneDetail,
      getone_of_doc hd, agree_iff hkey, hdoc.decodings_agree]
  constructor
  · intro es s key d arrData i start now now' hr hd hi
    have hdoc := (sound_of_run (studentScreens_lawful C) hr).documents key d hd
    have hkey : (studentOfDocument (now i) (key, d)).key = key := rfl
    rw [getstudentLimitedData, List.getElem?_mapIdx, hi, Option.map_some, getonestudent,
      getone_of_doc hd, agree_iff hkey, hdoc.decodings_agree]
  · intro documents key d arrData i hc hd hi
    obtain ⟨creator, hdoc⟩ := hc.fruitCollection key d hd
    rw [getfruitLimitedData, List.getElem?_map, hi, Option.map_some, getonefruit,
      getone_of_doc hd, agree_iff (hdoc.key_ofDocument key),
        hdoc.decodings_agree]

def apple : Collection :=
  Collection.empty.mergeData "f1" (SignPassdataVC.addbtnclick "f1" "u1" ⟨none, "apple"⟩).fields

theorem fruitStored_apple : FruitStored apple := .addbtnclick ⟨none, "apple"⟩ "f1" "u1" .empty

theorem decoders_agree_at_once :
    (∃ s d, (detailScreens Cloud.device).Runs App.launch
        [.clickAdd 0, .press (.device "d1")] s ∧ s.documents.doc "d1" = some d ∧
      Agree Detail.key "d1" (getdetailLimitedData (fun _ => 3) [("d1", d)])[0]?
        (getoneDetail 2 3 s.documents (some "d1"))) ∧
    (∃ s d, (studentScreens Cloud.device).Runs App.launch
        [.clickAdd 0, .press (.device "s1")] s ∧ s.documents.doc "s1" = some d ∧
      Agree Student.key "s1" (getstudentLimitedData (fun _ => 3) [("s1", d)])[0]?
        (getonestudent 2 3 s.documents (some "s1"))) ∧
    ∃ d, apple.doc "f1" = some d ∧
      ¬ Agree Fruits.key "f1" (getfruitLimitedData [("f1", d)])[0]?
        (getonefruit apple (some "f1")) := by
  constructor
  · obtain ⟨s, hr, hp⟩ := Screens.runs_of_exec (detailScreens Cloud.device)
      [.clickAdd 0, .press (.device "d1")] (fun s => (s.documents.doc "d1").isSome)
      (by decide +kernel)
    obtain ⟨d, hd⟩ := Option.isSome_iff_exists.1 hp
    refine ⟨s, d, hr, hd, ?_⟩
    exact ((decoders_agree Cloud.device).1 _ s "d1" d [("d1", d)] 0 2 (fun _ => 3) 3 hr hd
      rfl).2 rfl
  constructor
  · obtain ⟨s, hr, hp⟩ := Screens.runs_of_exec (studentScreens Cloud.device)
      [.clickAdd 0, .press (.device "s1")] (fun s => (s.documents.doc "s1").isSome)
      (by decide +kernel)
    obtain ⟨d, hd⟩ := Option.isSome_iff_exists.1 hp
    refine ⟨s, d, hr, hd, ?_⟩
    exact ((decoders_agree Cloud.device).2.1 _ s "s1" d [("s1", d)] 0 2 (fun _ => 3) 3 hr hd
      rfl).2 rfl
  · refine ⟨_, rfl, ?_⟩
    intro h
    have hkey := ((decoders_agree Cloud.device).2.2 apple "f1" _ [("f1", _)] 0 fruitStored_apple
      rfl rfl).1 h
    exact absurd hkey (by decide)

theorem fruit_key_dropped : FruitStored apple ∧
    ∃ d, apple.doc "f1" = some d ∧
      (getfruitLimitedData [("f1", d)])[0]?.map Fruits.key = some "f1" ∧
      (getonefruit apple (some "f1")).map Fruits.key = some "" :=
  ⟨fruitStored_apple, _, rfl, rfl, rfl⟩

end TrainingDemos.FirebasePractise
