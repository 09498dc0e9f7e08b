import TrainingDemos.FirebasePractise.StoredDocuments

namespace TrainingDemos.FirebasePractise
set_option autoImplicit true

namespace GetDataVc

theorem sent_eq (C : Cloud Image URL) (data : Student) (inputs : List (Input Image))
    (answers : Press URL) : (studentScreens C).sent data inputs answers =
      some ((inputs.foldl input (instantiate C data).viewWillAppear).addbtnclick C answers) := by
  have hfold : inputs.foldlM (studentScreens C).input (instantiate C data).viewWillAppear =
      some (inputs.foldl input (instantiate C data).viewWillAppear) := List.foldlM_pure
  exact Screens.sent_of_inputs rfl hfold answers

theorem inputs_data (inputs : List (Input Image)) (vc : GetDataVc Image) :
    (inputs.foldl input vc).data = vc.data := by
  induction inputs generalizing vc with
  | nil => rfl
  | cons i inputs ih => rw [List.foldl_cons, ih, input_data]

end GetDataVc

namespace PassDataVC
variable {C : Cloud Image URL}

/-- The texts that the form shows for a detail that it can be opened on. -/
structure Shows (C : Cloud Image URL) (data : Detail) (shown : TextField → String) : Prop where
  named : data.name ≠ ""
  name : shown .nameTxtfd = data.name
  age : shown .ageTxtfd = data.age
  guj : data.marks.lookup "guj" = some (.string (shown .txtfdguj))
  eng : data.marks.lookup "eng" = some (.string (shown .txtfdEng))
  sce : data.marks.lookup "sce" = some (.string (shown .txtfdSce))
  hindi : data.marks.lookup "hindi" = some (.string (shown .txtfdHindi))
  url : (C.url data.url).isSome

theorem viewWillAppear_shows (vc : PassDataVC Image) {shown : TextField → String}
    (h : Shows C vc.data shown) :
    vc.viewWillAppear C = some { vc with text := shown } := by
  obtain ⟨u, hu⟩ := Option.isSome_iff_exists.1 h.url
  have htext : seeded vc.data (shown .txtfdguj) (shown .txtfdSce) (shown .txtfdEng)
      (shown .txtfdHindi) = shown := by
    funext f
    cases f with
    | nameTxtfd => exact h.name.symm
    | ageTxtfd => exact h.age.symm
    | _ => rfl
  simp only [viewWillAppear, if_pos h.named, h.guj, h.sce, h.eng, h.hindi, hu,
    C.description_string, Option.bind_eq_bind, Option.bind_some, htext]

theorem viewWillAppear_without_url (vc : PassDataVC Image) (hn : vc.data.name ≠ "")
    (hu : C.url vc.data.url = none) : vc.viewWillAppear C = none := by
  rw [viewWillAppear, if_pos hn, hu]
  simp only [Option.bind_eq_bind, Option.bind_none, Option.bind_fun_none]

theorem input_total {vc : PassDataVC Image} (h : vc.data.name = "" ∨ ∃ shown, Shows C vc.data shown)
    (i : Input Image) : ∃ vc', vc.input C i = some vc' ∧ vc'.data = vc.data ∧
      vc'.chosen = i.picture.or vc.chosen := by
  cases i with
  | editText field text => exact ⟨_, rfl, rfl, rfl⟩
  | malebtnclick => exact ⟨_, rfl, rfl, rfl⟩
  | femalebtnclick => exact ⟨_, rfl, rfl, rfl⟩
  | imagePickerController tag image =>
    refine ⟨_, rfl, ?_, ?_⟩
    · rw [imagePickerController]
      split <;> rfl
    · simp only [imagePickerController, Input.picture]
      split
      · rfl
      · rfl
  | viewWillAppear =>
    rcases h with hn | ⟨shown, ht⟩
    · refine ⟨vc, ?_, rfl, rfl⟩
      rw [input, viewWillAppear, if_neg (not_not_intro hn)]
    · exact ⟨_, viewWillAppear_shows vc ht, rfl, rfl⟩

def lastPicture (inputs : List (Input Image)) : Option Image :=
  (inputs.filterMap Input.picture).getLast?

theorem lastPicture_cons (i : Input Image) (inputs : List (Input Image)) :
    lastPicture (i :: inputs) = (lastPicture inputs).or i.picture := by
  rw [lastPicture, lastPicture, List.filterMap_cons]
  cases hp : i.picture with
  | none => rw [Option.or_none]
  | some image =>
    rw [List.getLast?_cons]
    cases (inputs.filterMap Input.picture).getLast? <;> rfl

theorem inputs_total (vc : PassDataVC Image)
    (h : vc.data.name = "" ∨ ∃ shown, Shows C vc.data shown) (inputs : List (Input Image)) :
    ∃ vc', inputs.foldlM (input C) vc = some vc' ∧ vc'.data = vc.data ∧
      vc'.chosen = (lastPicture inputs).or vc.chosen := by
  induction inputs generalizing vc with
  | nil => exact ⟨vc, rfl, rfl, rfl⟩
  | cons i inputs ih =>
    obtain ⟨vc₁, hi, hd, hc⟩ := input_total h i
    obtain ⟨vc', hr, hd', hc'⟩ := ih vc₁ (hd ▸ h)
    refine ⟨vc', ?_, hd'.trans hd, ?_⟩
    · rw [List.foldlM_cons, hi]
      exact hr
    · rw [hc', hc, lastPicture_cons, Option.or_assoc]

/-- The url that an update stores. -/
def newUrl (C : Cloud Image URL) (data : Detail) (answers : Press URL) : Option Image → Option URL
  | some image => uploadImage C image answers.upload
  | none => C.url data.url

theorem addbtnclick_named {vc : PassDataVC Image} (h : vc.data.name ≠ "") (answers : Press URL) :
    vc.addbtnclick C answers =
      (newUrl C vc.data answers vc.chosen).map fun url => vc.updatedata C url := by
  rw [addbtnclick, if_pos h, chosen]
  split
  · exact Option.map_eq_bind.symm
  · exact Option.map_eq_bind.symm

def opened (C : Cloud Image URL) (data : Detail) : PassDataVC Image :=
  (instantiate C data).viewDidLoad

theorem sent_shown {data : Detail} (h : Shows C data shown) (inputs : List (Input Image))
    (answers : Press URL) : ∃ vc, vc.data = data ∧
      inputs.foldlM (input C) { opened C data with text := shown } = some vc ∧
      (detailScreens C).sent data inputs answers =
        (newUrl C data answers (lastPicture inputs)).map fun url => vc.updatedata C url := by
  obtain ⟨vc, hvc, hd, hc⟩ := inputs_total { opened C data with text := shown }
    (.inr ⟨shown, h⟩) inputs
  have hd : vc.data = data := hd
  have happear : (detailScreens C).appear data = some { opened C data with text := shown } :=
    viewWillAppear_shows (opened C data) h
  have hnone : chosen { opened C data with text := shown } = none := rfl
  refine ⟨vc, hd, hvc, ?_⟩
  rw [hnone, Option.or_none] at hc
  have hpress : vc.addbtnclick C answers = _ := addbtnclick_named (hd ▸ h.named) answers
  rw [hd, hc] at hpress
  rw [← hpress]
  exact Screens.sent_of_inputs happear hvc answers

theorem sent_unnamed {data : Detail} (h : data.name = "") (inputs : List (Input Image))
    (answers : Press URL) : ∃ fields,
      (detailScreens C).sent data inputs answers = some (.setData answers.documentID fields) := by
  have happear : (detailScreens C).appear data = some (opened C data) := by
    show (opened C data).viewWillAppear C = some (opened C data)
    exact if_neg (not_not_intro h)
  obtain ⟨vc, hvc, hd, -⟩ := inputs_total (C := C) (opened C data) (.inl h) inputs
  have hname : ¬ vc.data.name ≠ "" := by
    rw [hd]
    exact not_not_intro h
  rw [Screens.sent_of_inputs happear hvc]
  exact ⟨_, if_neg hname⟩

theorem sent_without_url {data : Detail} (hn : data.name ≠ "") (hu : C.url data.url = none)
    (inputs : List (Input Image)) (answers : Press URL) :
    (detailScreens C).sent data inputs answers = none := by
  have happear : (detailScreens C).appear data = none :=
    viewWillAppear_without_url (opened C data) hn hu
  rw [Screens.sent, happear]
  rfl

end PassDataVC

def TextField.read (d : Document) : TextField → Option Value
  | .nameTxtfd => d "name"
  | .ageTxtfd => d "age"
  | .txtfdguj => mark d "guj"
  | .txtfdEng => mark d "eng"
  | .txtfdSce => mark d "sce"
  | .txtfdHindi => mark d "hindi"

theorem getD_asString {v : Option Value} (h : v = some (.string s)) :
    (v.bind Value.asString).getD "" = s := by
  rw [h]
  rfl

theorem DetailDocument.shows {C : Cloud Image URL} (h : DetailDocument C source d) (now : Int)
    (hn : (detailOfDocument now (source, d)).name ≠ "")
    (hu : (C.url (detailOfDocument now (source, d)).url).isSome) :
    ∃ shown, PassDataVC.Shows C (detailOfDocument now (source, d)) shown ∧
      ∀ f : TextField, f.read d = some (.string (shown f)) := by
  have hread : ∀ f : TextField, ∃ s, f.read d = some (.string s) := by
    intro f
    cases f with
    | nameTxtfd => exact h.name
    | ageTxtfd => exact h.age
    | txtfdguj => exact h.marks "guj" (by decide)
    | txtfdEng => exact h.marks "eng" (by decide)
    | txtfdSce => exact h.marks "sce" (by decide)
    | txtfdHindi => exact h.marks "hindi" (by decide)
  choose shown hshown using hread
  have hmark : ∀ subject v, mark d subject = some v →
      (detailOfDocument now (source, d)).marks.lookup subject = some v := by
    intro subject v hv
    obtain ⟨marks, hm, hl⟩ := Option.bind_eq_some_iff.1 hv
    rw [detailOfDocument, hm]
    exact hl
  refine ⟨shown, ?_, hshown⟩
  constructor
  · exact hn
  · exact (getD_asString (hshown .nameTxtfd)).symm
  · exact (getD_asString (hshown .ageTxtfd)).symm
  · exact hmark _ _ (hshown .txtfdguj)
  · exact hmark _ _ (hshown .txtfdEng)
  · exact hmark _ _ (hshown .txtfdSce)
  · exact hmark _ _ (hshown .txtfdHindi)
  · exact hu

end TrainingDemos.FirebasePractise
