import TrainingDemos.FirebasePractise.StoredDocuments

namespace TrainingDemos.FirebasePractise
set_option autoImplicit true

namespace PassDataVC

/-- The completion of `uploadImage`, in the form as it is by then. -/
def uploaded (C : Cloud Image URL) (documentID : String) (now : Int) (url : Option URL)
    (vc : PassDataVC Image) : Option Write :=
  if vc.data.name ≠ "" then url.map fun url => vc.updatedata C url
  else
    some (.setData documentID [
      ("key", .string documentID),
      ("name", .string (vc.text .nameTxtfd)),
      ("age", .string (vc.text .ageTxtfd)),
      ("gender", .string vc.gender),
      ("time", .timestamp now),
      ("url", .ofOption .string (url.map C.absoluteString)),
      ("marks", vc.marks)])

/-- A press calls `uploadImage`, which is not done at once if the picture can be encoded. -/
def uploading (C : Cloud Image URL) (vc : PassDataVC Image) : Bool :=
  (vc.data.name == "" || vc.flag == 1) && C.encodes vc.image

def direct (C : Cloud Image URL) (vc : PassDataVC Image) : Option URL :=
  if vc.data.name = "" ∨ vc.flag = 1 then none else C.url vc.data.url

theorem addbtnclick_eq_uploaded (C : Cloud Image URL) (answers : Press URL)
    (vc : PassDataVC Image) : vc.addbtnclick C answers =
      vc.uploaded C answers.documentID answers.now
        (if vc.uploading C then answers.upload else vc.direct C) := by
  by_cases hn : vc.data.name = ""
  · simp only [addbtnclick, uploaded, uploadImage, uploading, direct, hn, ne_eq, not_true_eq_false,
      if_false, if_true, beq_self_eq_true, Bool.true_or, Bool.true_and, true_or]
  · by_cases hf : vc.flag = 1
    · simp only [addbtnclick, uploaded, uploadImage, uploading, direct, hn, hf, ne_eq,
        not_false_eq_true, if_true, or_true, beq_self_eq_true, Bool.or_true, Bool.true_and,
        Option.map_eq_bind]
      rfl
    · have hup : vc.uploading C = false := by
        simp only [uploading, beq_eq_false_iff_ne.2 hn, beq_eq_false_iff_ne.2 hf, Bool.or_self,
          Bool.false_and]
      have hdirect : vc.direct C = C.url vc.data.url := if_neg fun h => h.elim hn hf
      rw [hup, hdirect, addbtnclick, uploaded, if_pos hn, if_pos hn, if_neg hf]
      exact Option.map_eq_bind.symm

end PassDataVC

namespace GetDataVc

/-- The completion of `uploadImage`, or the update, which has no picture. -/
def uploaded (C : Cloud Image URL) (documentID : String) (now : Int) (url : Option URL)
    (vc : GetDataVc Image) : Write :=
  if vc.data.name ≠ "" then
    .updateData vc.data.key [
      ("name", .string vc.txtfdname),
      ("stdid", .ofOption .integer (IntegerText.parse vc.txtfdid)),
      ("board", .string vc.board),
      ("time", .timestamp now),
      ("key", .string vc.data.key)]
  else
    .setData documentID [
      ("key", .string documentID),
      ("name", .string vc.txtfdname),
      ("stdid", .ofOption .integer (IntegerText.parse vc.txtfdid)),
      ("board", .string vc.board),
      ("time", .timestamp now),
      ("image", .ofOption .string (url.map C.absoluteString))]

def uploading (C : Cloud Image URL) (vc : GetDataVc Image) : Bool :=
  vc.data.name == "" && C.encodes vc.img

theorem addbtnclick_eq_uploaded (C : Cloud Image URL) (answers : Press URL)
    (vc : GetDataVc Image) : vc.addbtnclick C answers =
      vc.uploaded C answers.documentID answers.now
        (if vc.uploading C then answers.upload else none) := by
  by_cases hn : vc.data.name = ""
  · simp only [addbtnclick, uploaded, uploadImage, uploading, hn, ne_eq, not_true_eq_false,
      if_false, beq_self_eq_true, Bool.true_and]
  · rw [addbtnclick, uploaded, if_pos hn, if_pos hn]

end GetDataVc

/-- A list screen and its form, and how they deal with pictures in Storage. -/
structure PictureScreens (Model Form Input URL : Type) extends
    Screens Model Form Input URL where
  field : String
  link : URL → String
  data : Form → Model
  /-- A form on the model adds a document, else it updates one. -/
  adds : Model → Bool
  uploading : Form → Bool
  direct : Form → Option URL
  uploaded : String → Int → Option URL → Form → Option Write
  /-- Delete removes the picture of a row from Storage, and which. -/
  cleans : Bool
  erases : Model → Option String

def detailPictures (C : Cloud Image URL) :
    PictureScreens Detail (PassDataVC Image) (PassDataVC.Input Image) URL where
  toScreens := detailScreens C
  field := "url"
  link := C.absoluteString
  data := PassDataVC.data
  adds data := data.name == ""
  uploading := PassDataVC.uploading C
  direct := PassDataVC.direct C
  uploaded := PassDataVC.uploaded C
  cleans := true
  erases data := if data.url ≠ "" then some data.url else none

def studentPictures (C : Cloud Image URL) :
    PictureScreens Student (GetDataVc Image) (GetDataVc.Input Image) URL where
  toScreens := studentScreens C
  field := "image"
  link := C.absoluteString
  data := GetDataVc.data
  adds data := data.name == ""
  uploading := GetDataVc.uploading C
  direct _ := none
  uploaded documentID now url vc := some (vc.uploaded C documentID now url)
  cleans := false
  erases _ := none

structure PictureScreens.Lawful (P : PictureScreens Model Form Input URL)
    (W : String → Document → Prop) : Prop where
  screens : P.toScreens.Lawful W
  addbtnclick : ∀ answers vc, P.addbtnclick answers vc = P.uploaded answers.documentID answers.now
    (if P.uploading vc then answers.upload else P.direct vc) vc
  init : ∀ now, P.adds (P.init now) = true
  appear : ∀ m vc, P.appear m = some vc → P.data vc = m
  input : ∀ vc i vc', P.input vc i = some vc' → P.data vc' = P.data vc
  created : ∀ documentID now url vc, P.adds (P.data vc) = true →
    ∃ fields, P.uploaded documentID now url vc = some (.setData documentID fields) ∧
      W documentID (.ofFields fields) ∧
      fields.lookup P.field = some (.ofOption .string (url.map P.link))
  updated : ∀ documentID now url vc write, P.adds (P.data vc) = false →
    P.uploaded documentID now url vc = some write →
    ∃ fields, write = .updateData (P.key (P.data vc)) fields ∧ write.Keeps W ∧
      ∀ v, fields.lookup P.field = some v → ∃ u, url = some u ∧ v = .string (P.link u)
  direct_adds : ∀ vc, P.adds (P.data vc) = true → P.direct vc = none
  direct : ∀ source d now vc u, W source d → P.data vc = P.ofDocument now (source, d) →
    P.direct vc = some u → d P.field = some (.string (P.link u))
  erases : ∀ source d now s, W source d → P.erases (P.ofDocument now (source, d)) = some s →
    d P.field = some (.string s)
  cleans : P.cleans = true → ∀ source d now s, W source d → d P.field = some (.string s) →
    P.erases (P.ofDocument now (source, d)) = some s

theorem DetailDocument.url_eq {C : Cloud Image URL} (h : DetailDocument C source d) (now : Int)
    (hu : (detailOfDocument now (source, d)).url ≠ "") :
    d "url" = some (.string (detailOfDocument now (source, d)).url) := by
  have hurl : (detailOfDocument now (source, d)).url =
      ((d "url").bind Value.asString).getD "" := rfl
  rcases h.url with hnull | ⟨u, hlink⟩
  · rw [hurl, hnull] at hu
    exact absurd rfl hu
  · rw [hurl, hlink]
    rfl

theorem Cloud.absoluteString_ne (C : Cloud Image URL) (u : URL) : C.absoluteString u ≠ "" := by
  intro h
  have hparse := C.url_absoluteString u
  rw [h, C.url_empty] at hparse
  cases hparse

theorem PassDataVC.appear_data {C : Cloud Image URL} {vc : PassDataVC Image}
    (h : vc.viewWillAppear C = some vc') : vc'.data = vc.data := by
  rw [viewWillAppear] at h
  split at h
  · simp only [Option.bind_eq_bind, Option.bind_eq_some_iff] at h
    obtain ⟨guj, -, sce, -, eng, -, hindi, -, u, -, h⟩ := h
    cases h
    rfl
  · cases h
    rfl

theorem PassDataVC.input_data {C : Cloud Image URL} {vc : PassDataVC Image} {i : Input Image}
    (h : vc.input C i = some vc') : vc'.data = vc.data := by
  cases i with
  | viewWillAppear => exact appear_data h
  | imagePickerController tag image =>
    cases h
    rw [imagePickerController]
    split <;> rfl
  | _ =>
    cases h
    rfl

theorem PassDataVC.uploaded_created {vc : PassDataVC Image} (h : vc.data.name = "")
    (C : Cloud Image URL) (documentID : String) (now : Int) (url : Option URL) :
    ∃ fields, vc.uploaded C documentID now url = some (.setData documentID fields) ∧
      DetailDocument C documentID (.ofFields fields) ∧
      fields.lookup "url" = some (.ofOption .string (url.map C.absoluteString)) := by
  refine ⟨_, if_neg (not_not_intro h), ?_, rfl⟩
  constructor
  · rfl
  · exact ⟨_, rfl⟩
  · exact ⟨_, rfl⟩
  · exact ⟨_, rfl⟩
  · exact ⟨_, rfl⟩
  · exact isLink_of_optional rfl
  · intro subject hs
    exact vc.mark_of_marks rfl hs

theorem PassDataVC.direct_linked {C : Cloud Image URL} {vc : PassDataVC Image}
    (hd : DetailDocument C source d) (hdata : vc.data = detailOfDocument now (source, d))
    (h : vc.direct C = some u) : d "url" = some (.string (C.absoluteString u)) := by
  rw [direct] at h
  split at h
  · cases h
  rw [hdata] at h
  by_cases hu : (detailOfDocument now (source, d)).url = ""
  · rw [hu, C.url_empty] at h
    cases h
  have hurl := hd.url_eq now hu
  rcases hd.url with hnull | ⟨u', hlink⟩
  · rw [hnull] at hurl
    cases hurl
  · rw [hlink] at hurl
    have hsame := Value.string.inj (Option.some.inj hurl)
    rw [← hsame, C.url_absoluteString] at h
    cases h
    exact hlink

theorem DetailDocument.erases_iff {C : Cloud Image URL} (h : DetailDocument C source d)
    (now : Int) (link : String) :
    (detailPictures C).erases (detailOfDocument now (source, d)) = some link ↔
      d "url" = some (.string link) := by
  show (if (detailOfDocument now (source, d)).url ≠ "" then
    some (detailOfDocument now (source, d)).url else none) = some link ↔ _
  constructor
  · intro he
    split at he
    · rename_i hu
      cases he
      exact h.url_eq now hu
    · cases he
  · intro hlink
    have hurl : (detailOfDocument now (source, d)).url = link := by
      show ((d "url").bind Value.asString).getD "" = link
      rw [hlink]
      rfl
    have hne : link ≠ "" := by
      rcases h.url with hnull | ⟨u, hu⟩
      · rw [hlink] at hnull
        cases hnull
      · rw [hlink] at hu
        cases hu
        exact C.absoluteString_ne u
    rw [hurl, if_pos hne]

theorem detailPictures_lawful (C : Cloud Image URL) :
    (detailPictures C).Lawful (DetailDocument C) where
  screens := detailScreens_lawful C
  addbtnclick answers vc := vc.addbtnclick_eq_uploaded C answers
  init _ := rfl
  appear _ _ h := PassDataVC.appear_data h
  input _ _ _ h := PassDataVC.input_data h
  created documentID now url _ h :=
    PassDataVC.uploaded_created (beq_iff_eq.1 h) C documentID now url
  updated documentID now url vc write h hw := by
    have hn : vc.data.name ≠ "" := beq_eq_false_iff_ne.1 h
    have hw : vc.uploaded C documentID now url = some write := hw
    rw [PassDataVC.uploaded, if_pos hn] at hw
    obtain ⟨u, hu, hw⟩ := Option.map_eq_some_iff.1 hw
    subst hw
    refine ⟨_, rfl, vc.updatedata_keeps C u, ?_⟩
    intro v hv
    cases hv
    exact ⟨u, hu, rfl⟩
  direct_adds _ h := if_pos (.inl (beq_iff_eq.1 h))
  direct _ _ _ _ _ hd hdata h := PassDataVC.direct_linked hd hdata h
  erases _ _ now link hd h := (hd.erases_iff now link).1 h
  cleans _ _ _ now link hd h := (hd.erases_iff now link).2 h

theorem studentPictures_lawful (C : Cloud Image URL) :
    (studentPictures C).Lawful (StudentDocument C) where
  screens := studentScreens_lawful C
  addbtnclick answers vc := congrArg some (vc.addbtnclick_eq_uploaded C answers)
  init now := rfl
  appear m vc h := by
    cases h
    exact GetDataVc.viewWillAppear_data _
  input vc i vc' h := by
    cases h
    exact vc.input_data i
  created documentID now url vc h := by
    have hn : ¬ vc.data.name ≠ "" := not_not_intro (beq_iff_eq.1 h)
    refine ⟨_, congrArg some (if_neg hn), ?_, rfl⟩
    constructor
    · rfl
    · exact ⟨_, rfl⟩
    · exact isStdid_of_parse rfl
    · exact ⟨_, rfl⟩
    · exact ⟨_, rfl⟩
    · exact isLink_of_optional rfl
  updated documentID now url vc write h hw := by
    have hn : vc.data.name ≠ "" := beq_eq_false_iff_ne.1 h
    have hw : some (vc.uploaded C documentID now url) = some write := hw
    rw [GetDataVc.uploaded, if_pos hn] at hw
    cases hw
    refine ⟨_, rfl, ?_, ?_⟩
    · intro d hd
      constructor
      · rfl
      · exact ⟨_, rfl⟩
      · exact isStdid_of_parse rfl
      · exact ⟨_, rfl⟩
      · exact ⟨_, rfl⟩
      · exact hd.image
    · intro v hv
      cases hv
  direct_adds vc h := rfl
  direct source d now vc u hd hdata h := nomatch h
  erases source d now s hd h := nomatch h
  cleans h := nomatch h

end TrainingDemos.FirebasePractise
