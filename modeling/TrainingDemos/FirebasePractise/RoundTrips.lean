import TrainingDemos.FirebasePractise.RowTargeting

namespace TrainingDemos.FirebasePractise
set_option autoImplicit true

/-- The detail that a press of a blank form stores once its picture has the url. -/
def PassDataVC.entered (C : Cloud Image URL) (answers : Press URL) (url : URL)
    (vc : PassDataVC Image) : Detail where
  name := vc.text .nameTxtfd
  age := vc.text .ageTxtfd
  gender := vc.gender
  key := answers.documentID
  time := answers.now
  url := C.absoluteString url
  marks := [
    ("guj", .string (vc.text .txtfdguj)),
    ("eng", .string (vc.text .txtfdEng)),
    ("sce", .string (vc.text .txtfdSce)),
    ("hindi", .string (vc.text .txtfdHindi))]

/-- The student that a press of a blank form stores, if the text entered as its id is a number. -/
def GetDataVc.entered (answers : Press URL) (vc : GetDataVc Image) : Option Student :=
  (IntegerText.parse vc.txtfdid).map fun stdid =>
    { name := vc.txtfdname, stdid := stdid, key := answers.documentID, time := answers.now,
      board := vc.board }

section
variable {C : Cloud Image URL} {answers : Press URL} {c : Collection}

theorem PassDataVC.decoded {vc : PassDataVC Image} (hn : vc.data.name = "")
    (hu : uploadImage C vc.image answers.upload = some url)
    (hw : vc.addbtnclick C answers = some write)
    (hd : (c.perform write).doc answers.documentID = some d) (now : Int) :
    detailOfDocument now (answers.documentID, d) =
      { vc.entered C answers url with time := now } := by
  rw [addbtnclick, if_neg (not_not_intro hn), hu] at hw
  cases hw
  rw [Collection.perform, Collection.doc_setData_self] at hd
  cases hd
  rfl

theorem GetDataVc.decoded {vc : GetDataVc Image} (hn : vc.data.name = "")
    (hd : (c.perform (vc.addbtnclick C answers)).doc answers.documentID = some d) (now : Int) :
    studentOfDocument now (answers.documentID, d) =
      { name := vc.txtfdname, stdid := (IntegerText.parse vc.txtfdid).getD 0,
        key := answers.documentID, time := now, board := vc.board } := by
  rw [addbtnclick, if_neg (not_not_intro hn), Collection.perform,
    Collection.doc_setData_self] at hd
  cases hd
  rw [studentOfDocument]
  cases IntegerText.parse vc.txtfdid with
  | none => rfl
  | some stdid => rfl

/-- Models come back as entered at one reading of the clock, a student only with a number as id. -/
theorem entered_returned (C : Cloud Image URL) :
    (∀ (vc : PassDataVC Image) answers url (c : Collection) write d arrData i now,
      vc.data.name = "" → uploadImage C vc.image answers.upload = some url →
      vc.addbtnclick C answers = some write →
      (c.perform write).doc answers.documentID = some d →
      arrData[i]? = some (answers.documentID, d) →
      ((getdetailLimitedData now arrData)[i]? = some (vc.entered C answers url) ↔
        now i = answers.now)) ∧
    (∀ (vc : GetDataVc Image) answers (c : Collection) d arrData i now,
      vc.data.name = "" →
      (c.perform (vc.addbtnclick C answers)).doc answers.documentID = some d →
      arrData[i]? = some (answers.documentID, d) →
      ((∃ m, vc.entered answers = some m ∧ (getstudentLimitedData now arrData)[i]? = some m) ↔
        (IntegerText.parse vc.txtfdid).isSome ∧ now i = answers.now)) := by
  constructor
  · intro vc answers url c write d arrData i now hn hu hw hd hi
    rw [getdetailLimitedData, List.getElem?_mapIdx, hi, Option.map_some,
      PassDataVC.decoded hn hu hw hd, Option.some.injEq]
    constructor
    · intro h
      exact congrArg Detail.time h
    · intro h
      rw [h]
      rfl
  · intro vc answers c d arrData i now hn hd hi
    rw [getstudentLimitedData, List.getElem?_mapIdx, hi, Option.map_some,
      GetDataVc.decoded hn hd, GetDataVc.entered]
    constructor
    · intro h
      obtain ⟨m, hm, he⟩ := h
      obtain ⟨stdid, hp, hm⟩ := Option.map_eq_some_iff.1 hm
      have htime := congrArg Student.time (Option.some.inj he)
      rw [← hm] at htime
      exact ⟨by rw [hp]; rfl, htime⟩
    · intro h
      obtain ⟨hp, ht⟩ := h
      obtain ⟨stdid, hp⟩ := Option.isSome_iff_exists.1 hp
      rw [hp, ht]
      exact ⟨_, rfl, rfl⟩

end

def PassDataVC.filled : PassDataVC Bool := ⟨1, .init 0, "male", true, fun _ => "Ann"⟩

def GetDataVc.filled (txtfdid : String) : GetDataVc Bool := ⟨.init 0, "h.s.c", true, txtfdid, "Ann"⟩

theorem entered_returned_at_once :
    (∃ url write d, uploadImage Cloud.device PassDataVC.filled.image
        (Press.device "d1").upload = some url ∧
      PassDataVC.filled.addbtnclick Cloud.device (.device "d1") = some write ∧
      (Collection.empty.perform write).doc "d1" = some d ∧
      (getdetailLimitedData (fun _ => 0) [("d1", d)])[0]? =
        some (PassDataVC.filled.entered Cloud.device (.device "d1") url)) ∧
    ∃ d m, (Collection.empty.perform
        ((GetDataVc.filled "-7").addbtnclick Cloud.device (.device "s1"))).doc "s1" = some d ∧
      (GetDataVc.filled "-7").entered (.device "s1") = some m ∧ m.stdid = -7 ∧
      (getstudentLimitedData (fun _ => 0) [("s1", d)])[0]? = some m := by
  constructor
  · refine ⟨_, _, _, rfl, rfl, rfl, ?_⟩
    exact ((entered_returned Cloud.device).1 PassDataVC.filled (.device "d1") _ .empty _ _ _ 0 _
      rfl rfl rfl rfl rfl).2 rfl
  · have hparse : IntegerText.parse "-7" = some (-7) := by decide +kernel
    have hsome : (IntegerText.parse (GetDataVc.filled "-7").txtfdid).isSome := by
      rw [GetDataVc.filled, hparse]
      rfl
    obtain ⟨m, hm, hrow⟩ := ((entered_returned Cloud.device).2 (GetDataVc.filled "-7")
      (.device "s1") .empty _ [("s1", _)] 0 (fun _ => 0) rfl rfl rfl).2 ⟨hsome, rfl⟩
    refine ⟨_, m, rfl, hm, ?_, hrow⟩
    rw [GetDataVc.entered, GetDataVc.filled, hparse] at hm
    cases hm
    rfl

/-- A detail fetched a second later, and a student whose id was entered as a word. -/
theorem entered_time_lost :
    (∃ url write d, uploadImage Cloud.device PassDataVC.filled.image
        (Press.device "d1").upload = some url ∧
      PassDataVC.filled.addbtnclick Cloud.device (.device "d1") = some write ∧
      (Collection.empty.perform write).doc "d1" = some d ∧
      (getdetailLimitedData (fun _ => 1) [("d1", d)])[0]? ≠
        some (PassDataVC.filled.entered Cloud.device (.device "d1") url)) ∧
    ∃ d m, (Collection.empty.perform
        ((GetDataVc.filled "ten").addbtnclick Cloud.device (.device "s1"))).doc "s1" = some d ∧
      (getstudentLimitedData (fun _ => 0) [("s1", d)])[0]? = some m ∧ m.stdid = 0 ∧
      (GetDataVc.filled "ten").entered (.device "s1") ≠ some m := by
  constructor
  · refine ⟨_, _, _, rfl, rfl, rfl, ?_⟩
    intro h
    have htime := congrArg Detail.time (Option.some.inj h)
    cases htime
  · have hparse : IntegerText.parse "ten" = none := by decide +kernel
    refine ⟨_, _, rfl, rfl, ?_, ?_⟩
    · show ((Value.ofOption .integer (IntegerText.parse "ten")).asInt).getD 0 = 0
      rw [hparse]
      rfl
    · rw [GetDataVc.entered, GetDataVc.filled, hparse]
      intro h
      cases h

end TrainingDemos.FirebasePractise
