import TrainingDemos.FirebasePractise.Visits

namespace TrainingDemos.FirebasePractise
set_option autoImplicit true

/-- A row on the list after a run, and a press with a new id whose request succeeds. -/
structure Screens.AtRow (S : Screens Model Form Input URL) (s : App Model Form) (row : Nat)
    (data : Model) (answers : Press URL) : Prop where
  reached : ∃ es, S.Runs App.launch es s
  list : s.form = none
  shown : s.rows[row]? = some data
  unused : answers.documentID ∉ s.documents.ids
  succeeds : answers.succeeds = true

section
variable (S : Screens Model Form Input URL)

/-- A visit to the form of the row updates the document, and nothing else happens. -/
def Screens.EditHits (s : App Model Form) (row : Nat) (inputs : List Input) (answers : Press URL)
    (source : String) : Prop :=
  ∃ t, S.Runs s (visit row inputs answers) t ∧
    ∃ fields, Updates s.documents source fields t.documents

def Screens.DeleteHits (s : App Model Form) (row : Nat) (source : String) : Prop :=
  ∃ t, S.Runs s [.swipeDelete row true] t ∧ Removes s.documents source t.documents

variable {S} {W : String → Document → Prop} {s : App Model Form} {inputs : List Input}

theorem Screens.AtRow.sound (h : S.AtRow s row data answers) (hS : S.Lawful W) : Sound S W s := by
  obtain ⟨es, hr⟩ := h.reached
  exact sound_of_run hS hr

theorem Screens.AtRow.mem (h : S.AtRow s row data answers) : data ∈ s.rows :=
  List.mem_of_getElem? h.shown

theorem Screens.AtRow.editHits_iff (h : S.AtRow s row data answers) :
    S.EditHits s row inputs answers source ↔ ∃ write, S.sent data inputs answers = some write ∧
      ∃ fields, Updates s.documents source fields (s.documents.perform write) := by
  constructor
  · intro he
    obtain ⟨t, hr, fields, hu⟩ := he
    obtain ⟨write, hw, hd⟩ :=
      (runs_visit h.list h.shown h.unused h.succeeds).1 ⟨t, hr, rfl⟩
    exact ⟨write, hw, fields, hd ▸ hu⟩
  · intro he
    obtain ⟨write, hw, fields, hu⟩ := he
    obtain ⟨t, hr, hd⟩ :=
      (runs_visit h.list h.shown h.unused h.succeeds).2 ⟨write, hw, rfl⟩
    exact ⟨t, hr, fields, hd.symm ▸ hu⟩

theorem Screens.AtRow.hits_of_update (h : S.AtRow s row data answers) (hS : S.Lawful W)
    (hw : S.sent data inputs answers = some (.updateData (S.key data) fields)) :
    S.EditHits s row inputs answers (S.key data) := by
  have hpresent := (h.sound hS).present data h.mem
  apply h.editHits_iff.2
  exact ⟨_, hw, fields, Collection.updates_perform hpresent fields⟩

theorem Screens.AtRow.misses_of_add (h : S.AtRow s row data answers)
    (hw : S.sent data inputs answers = some (.setData answers.documentID fields)) :
    ¬ S.EditHits s row inputs answers source := by
  intro he
  obtain ⟨write, hw', fields', hu⟩ := h.editHits_iff.1 he
  rw [hw] at hw'
  cases hw'
  exact Collection.not_updates_setData h.unused fields fields' source hu

theorem Screens.AtRow.misses_of_trap (h : S.AtRow s row data answers)
    (hw : S.sent data inputs answers = none) : ¬ S.EditHits s row inputs answers source := by
  intro he
  obtain ⟨write, hw', -⟩ := h.editHits_iff.1 he
  rw [hw] at hw'
  cases hw'

theorem Screens.AtRow.deleteHits (h : S.AtRow s row data answers) (hS : S.Lawful W) :
    S.DeleteHits s row (S.key data) := by
  have hpresent := (h.sound hS).present data h.mem
  exact ⟨_, runs_delete h.list h.shown, Collection.removes_delete hpresent⟩

theorem Screens.atRow_of_exec (S : Screens Model Form Input URL) (es : List (Event Input URL))
    (row : Nat) (answers : Press URL) (p : Model → Bool)
    (h : (S.machine.exec (fun _ _ => True) App.launch es).any (fun s => s.form.isNone &&
      (decide (answers.documentID ∉ s.documents.ids) && s.rows[row]?.any p)) = true)
    (hsucc : answers.succeeds = true) :
    ∃ s data, S.AtRow s row data answers ∧ S.Runs App.launch es s ∧ p data = true := by
  obtain ⟨s, hr, hp⟩ := Machine.exec_any h
  obtain ⟨hlist, hp⟩ := Bool.and_eq_true_iff.1 hp
  obtain ⟨hunused, hp⟩ := Bool.and_eq_true_iff.1 hp
  obtain ⟨data, hrow, hp⟩ := (Option.any_eq_true _ _).1 hp
  exact ⟨s, data, ⟨⟨es, hr⟩, Option.isNone_iff_eq_none.1 hlist, hrow, of_decide_eq_true hunused,
    hsucc⟩, hr, hp⟩

theorem Screens.AtRow.decoded (h : S.AtRow s row data answers) (hS : S.Lawful W) :
    ∃ now d, data = S.ofDocument now (S.key data, d) := by
  obtain ⟨now, key, d, -, hd⟩ := (h.sound hS).decoded data h.mem
  refine ⟨now, d, ?_⟩
  rw [hd, hS.key_ofDocument]

end

section
variable {C : Cloud Image URL}

theorem student_editHits {s : App Student (GetDataVc Image)}
    (h : (studentScreens C).AtRow s row data answers) (inputs : List (GetDataVc.Input Image)) :
    (studentScreens C).EditHits s row inputs answers data.key ↔ data.name ≠ "" := by
  have hsent := GetDataVc.sent_eq C data inputs answers
  have hdata : (inputs.foldl GetDataVc.input
      (GetDataVc.instantiate C data).viewWillAppear).data = data := by
    rw [GetDataVc.inputs_data, GetDataVc.viewWillAppear_data]
    rfl
  constructor
  · intro he hn
    rw [GetDataVc.addbtnclick, hdata, if_neg (not_not_intro hn)] at hsent
    exact h.misses_of_add hsent he
  · intro hn
    rw [GetDataVc.addbtnclick, hdata, if_pos hn] at hsent
    exact h.hits_of_update (studentScreens_lawful C) hsent

theorem DetailDocument.url_row (h : DetailDocument C source d) (now : Int) :
    (C.url (detailOfDocument now (source, d)).url).isSome ↔
      (detailOfDocument now (source, d)).url ≠ "" := by
  rcases h.url with hu | ⟨u, hu⟩
  · have hrow : (detailOfDocument now (source, d)).url = "" := by
      show ((d "url").bind Value.asString).getD "" = ""
      rw [hu]
      rfl
    rw [hrow, C.url_empty]
    exact ⟨fun h => (by cases h), fun h => absurd rfl h⟩
  · have hrow : (detailOfDocument now (source, d)).url = C.absoluteString u := getD_asString hu
    rw [hrow, C.url_absoluteString]
    refine ⟨?_, fun _ => rfl⟩
    intro _ he
    have hparse := C.url_absoluteString u
    rw [he, C.url_empty] at hparse
    cases hparse

theorem detail_editHits {s : App Detail (PassDataVC Image)}
    (h : (detailScreens C).AtRow s row data answers) (hup : answers.upload.isSome)
    (inputs : List (PassDataVC.Input Image)) :
    (detailScreens C).EditHits s row inputs answers data.key ↔
      data.name ≠ "" ∧ data.url ≠ "" ∧
        ∀ image, PassDataVC.lastPicture inputs = some image → C.encodes image = true := by
  obtain ⟨now, source, d, hd, hdata⟩ :=
    (h.sound (detailScreens_lawful C)).decoded data h.mem
  have hdata : data = detailOfDocument now (source, d) := hdata
  have hurl := hd.url_row now
  rw [← hdata] at hurl
  by_cases hn : data.name = ""
  · obtain ⟨fields, hsent⟩ := PassDataVC.sent_unnamed (C := C) hn inputs answers
    exact ⟨fun he => absurd he (h.misses_of_add hsent), fun hc => absurd hn hc.1⟩
  by_cases hu : data.url = ""
  · have hnone : C.url data.url = none := by rw [hu, C.url_empty]
    have hsent := PassDataVC.sent_without_url hn hnone inputs answers
    exact ⟨fun he => absurd he (h.misses_of_trap hsent), fun hc => absurd hu hc.2.1⟩
  obtain ⟨shown, hshows, -⟩ := hd.shows now (hdata ▸ hn) (hdata ▸ hurl.2 hu)
  rw [← hdata] at hshows
  obtain ⟨vc, hvc, -, hsent⟩ := PassDataVC.sent_shown hshows inputs answers
  constructor
  · intro he
    refine ⟨hn, hu, ?_⟩
    intro image himage
    by_contra henc
    rw [himage, PassDataVC.newUrl, uploadImage, if_neg henc] at hsent
    exact h.misses_of_trap hsent he
  · intro hc
    obtain ⟨url, hnew⟩ : ∃ url, PassDataVC.newUrl C data answers
        (PassDataVC.lastPicture inputs) = some url := by
      apply Option.isSome_iff_exists.1
      cases hp : PassDataVC.lastPicture inputs with
      | none => exact hurl.2 hu
      | some image =>
        rw [PassDataVC.newUrl, uploadImage, if_pos (hc.2.2 image hp)]
        exact hup
    rw [hnew, Option.map_some, PassDataVC.updatedata, hvc] at hsent
    exact h.hits_of_update (detailScreens_lawful C) hsent

/-- Delete always finds the document of its row, an edit exactly if the row can be edited. -/
theorem rows_targeted (C : Cloud Image URL) :
    (∀ s row data inputs answers, (studentScreens C).AtRow s row data answers →
      ∃ source, (∃ now d, data = studentOfDocument now (source, d)) ∧
        (studentScreens C).DeleteHits s row source ∧
        ((studentScreens C).EditHits s row inputs answers source ↔ data.name ≠ "")) ∧
    (∀ s row data inputs answers, (detailScreens C).AtRow s row data answers →
      answers.upload.isSome →
      ∃ source, (∃ now d, data = detailOfDocument now (source, d)) ∧
        (detailScreens C).DeleteHits s row source ∧
        ((detailScreens C).EditHits s row inputs answers source ↔
          data.name ≠ "" ∧ data.url ≠ "" ∧
            ∀ image, PassDataVC.lastPicture inputs = some image → C.encodes image = true)) := by
  constructor
  · intro s row data inputs answers h
    refine ⟨data.key, h.decoded (studentScreens_lawful C), ?_, student_editHits h inputs⟩
    exact h.deleteHits (studentScreens_lawful C)
  · intro s row data inputs answers h hup
    refine ⟨data.key, h.decoded (detailScreens_lawful C), ?_, detail_editHits h hup inputs⟩
    exact h.deleteHits (detailScreens_lawful C)

end

/-- A press whose upload and request succeed. -/
def Press.device (documentID : String) : Press { s : String // s ≠ "" } :=
  ⟨documentID, some ⟨"https://storage/1.jpg", by decide⟩, 0, true⟩

theorem rows_targeted_named :
    (∃ s data, (studentScreens Cloud.device).AtRow s 0 data (.device "s2") ∧
      (studentScreens Cloud.device).DeleteHits s 0 "s1" ∧
      (studentScreens Cloud.device).EditHits s 0 [.std12btnclick] (.device "s2") "s1") ∧
    (∃ s data, (detailScreens Cloud.device).AtRow s 0 data (.device "d2") ∧
      (detailScreens Cloud.device).DeleteHits s 0 "d1" ∧
      (detailScreens Cloud.device).EditHits s 0 [.imagePickerController 0 true]
        (.device "d2") "d1") := by
  constructor
  · obtain ⟨s, data, h, -, hp⟩ := Screens.atRow_of_exec (studentScreens Cloud.device)
      [.clickAdd 0, .input (.editName "Ann"), .press (.device "s1"), .pop, .fetched fun _ => 1]
      0 (.device "s2") (fun data => data.name == "Ann" && data.key == "s1") (by decide +kernel) rfl
    simp only [Bool.and_eq_true, beq_iff_eq] at hp
    obtain ⟨source, ⟨now, d, hd⟩, hdel, hedit⟩ :=
      (rows_targeted Cloud.device).1 s 0 data [.std12btnclick] _ h
    have hsource : source = "s1" := by rw [← hp.2, hd]; rfl
    subst hsource
    exact ⟨s, data, h, hdel, hedit.2 (by rw [hp.1]; decide)⟩
  · obtain ⟨s, data, h, -, hp⟩ := Screens.atRow_of_exec (detailScreens Cloud.device)
      [.clickAdd 0, .input (.editText .nameTxtfd "Ann"), .input (.imagePickerController 0 true),
        .press (.device "d1"), .pop, .fetched fun _ => 1]
      0 (.device "d2") (fun data => data.name == "Ann" && data.key == "d1" && data.url != "")
      (by decide +kernel) rfl
    simp only [Bool.and_eq_true, beq_iff_eq, bne_iff_ne] at hp
    obtain ⟨source, ⟨now, d, hd⟩, hdel, hedit⟩ := (rows_targeted Cloud.device).2 s 0 data
      [.imagePickerController 0 true] _ h rfl
    have hsource : source = "d1" := by rw [← hp.1.2, hd]; rfl
    subst hsource
    refine ⟨s, data, h, hdel, hedit.2 ⟨by rw [hp.1.1]; decide, hp.2, ?_⟩⟩
    intro image himage
    cases himage
    rfl

theorem unnamed_row_missed : ∃ s data, (studentScreens Cloud.device).AtRow s 0 data (.device "s2") ∧
    data.key = "s1" ∧ ¬ (studentScreens Cloud.device).EditHits s 0 [] (.device "s2") "s1" := by
  obtain ⟨s, data, h, -, hp⟩ := Screens.atRow_of_exec (studentScreens Cloud.device)
    [.clickAdd 0, .press (.device "s1"), .pop, .fetched fun _ => 1] 0 (.device "s2")
    (fun data => data.name == "" && data.key == "s1") (by decide +kernel) rfl
  simp only [Bool.and_eq_true, beq_iff_eq] at hp
  refine ⟨s, data, h, hp.2, ?_⟩
  intro he
  rw [← hp.2, student_editHits h] at he
  exact he hp.1

end TrainingDemos.FirebasePractise
