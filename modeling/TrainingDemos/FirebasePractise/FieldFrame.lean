import TrainingDemos.FirebasePractise.RowTargeting

namespace TrainingDemos.FirebasePractise
set_option autoImplicit true

def Untouched (field : Input → Option String) (inputs : List Input) (f : String) : Prop :=
  ∀ i ∈ inputs, field i ≠ some f

namespace GetDataVc
variable {C : Cloud Image URL} {data : Student} {inputs : List (Input Image)}

theorem inputs_keep {P : GetDataVc Image → Prop}
    (hP : ∀ vc i, vc.data = data → P vc → Input.field i ≠ some f → P (vc.input i))
    (hu : Untouched Input.field inputs f) (hd : vc.data = data) (h : P vc) :
    P (inputs.foldl input vc) := by
  induction inputs generalizing vc with
  | nil => exact h
  | cons i inputs ih =>
    have hi : P (vc.input i) := hP vc i hd h (hu i List.mem_cons_self)
    have hd' : (vc.input i).data = data := (input_data vc i).trans hd
    exact ih (fun j hj => hu j (List.mem_cons_of_mem i hj)) hd' hi

theorem appeared_data (C : Cloud Image URL) (data : Student) :
    (instantiate C data).viewWillAppear.data = data :=
  viewWillAppear_data _

theorem name_kept (hn : data.name ≠ "") (hu : Untouched Input.field inputs "name") :
    (inputs.foldl input (instantiate C data).viewWillAppear).txtfdname = data.name := by
  apply inputs_keep (P := fun vc => vc.txtfdname = data.name) _ hu (appeared_data C data)
  · rw [viewWillAppear_named hn]
    rfl
  · intro vc i hd h hi
    cases i with
    | editName text => exact absurd rfl hi
    | viewWillAppear =>
      have hv : vc.data.name ≠ "" := by rwa [hd]
      rw [input, viewWillAppear_named hv, hd]
    | _ => exact h

theorem id_kept (hn : data.name ≠ "") (hu : Untouched Input.field inputs "stdid") :
    (inputs.foldl input (instantiate C data).viewWillAppear).txtfdid =
      IntegerText.print data.stdid := by
  apply inputs_keep (P := fun vc => vc.txtfdid = IntegerText.print data.stdid) _ hu
    (appeared_data C data)
  · rw [viewWillAppear_named hn]
    rfl
  · intro vc i hd h hi
    cases i with
    | editId text => exact absurd rfl hi
    | viewWillAppear =>
      have hv : vc.data.name ≠ "" := by rwa [hd]
      rw [input, viewWillAppear_named hv, hd]
    | _ => exact h

theorem board_kept (hu : Untouched Input.field inputs "board") :
    (inputs.foldl input (instantiate C data).viewWillAppear).board = "" := by
  apply inputs_keep (P := fun vc => vc.board = "") _ hu (appeared_data C data)
  · rw [viewWillAppear_board]
    rfl
  · intro vc i hd h hi
    cases i with
    | std12btnclick => exact absurd rfl hi
    | std10click => exact absurd rfl hi
    | viewWillAppear => exact (viewWillAppear_board vc).trans h
    | _ => exact h

end GetDataVc

namespace PassDataVC
variable {C : Cloud Image URL} {data : Detail} {inputs : List (Input Image)}
  {vc vc' : PassDataVC Image}

theorem text_kept (h : Shows C data shown) (hd : vc.data = data)
    (ht : vc.text f = shown f) (hu : Untouched Input.field inputs f.field)
    (hr : inputs.foldlM (input C) vc = some vc') : vc'.text f = shown f := by
  have hkept : ∀ vc : PassDataVC Image, vc.data = data ∧ vc.text f = shown f → ∀ i ∈ inputs,
      ∃ vc', vc.input C i = some vc' ∧ vc'.data = data ∧ vc'.text f = shown f := by
    intro vc hvc i hi
    cases i with
    | editText field text =>
      have hne : f ≠ field := by
        intro hf
        rw [hf] at hu
        exact hu _ hi rfl
      refine ⟨_, rfl, hvc.1, ?_⟩
      exact (Function.update_of_ne hne _ _).trans hvc.2
    | malebtnclick => exact ⟨_, rfl, hvc⟩
    | femalebtnclick => exact ⟨_, rfl, hvc⟩
    | imagePickerController tag image =>
      refine ⟨_, rfl, ?_⟩
      rw [imagePickerController]
      split
      · exact hvc
      · exact hvc
    | viewWillAppear =>
      have hs : Shows C vc.data shown := by rwa [hvc.1]
      exact ⟨_, viewWillAppear_shows vc hs, hvc.1, rfl⟩
  obtain ⟨v, hr', -, ht'⟩ := foldlM_keeps hkept ⟨hd, ht⟩
  rw [hr] at hr'
  cases hr'
  exact ht'

theorem gender_kept (h : Shows C data shown) (hd : vc.data = data)
    (hg : vc.gender = data.gender) (hu : Untouched Input.field inputs "gender")
    (hr : inputs.foldlM (input C) vc = some vc') : vc'.gender = data.gender := by
  have hkept : ∀ vc : PassDataVC Image, vc.data = data ∧ vc.gender = data.gender → ∀ i ∈ inputs,
      ∃ vc', vc.input C i = some vc' ∧ vc'.data = data ∧ vc'.gender = data.gender := by
    intro vc hvc i hi
    cases i with
    | editText field text => exact ⟨_, rfl, hvc⟩
    | malebtnclick => exact absurd rfl (hu _ hi)
    | femalebtnclick => exact absurd rfl (hu _ hi)
    | imagePickerController tag image =>
      refine ⟨_, rfl, ?_⟩
      rw [imagePickerController]
      split
      · exact hvc
      · exact hvc
    | viewWillAppear =>
      have hs : Shows C vc.data shown := by rwa [hvc.1]
      exact ⟨_, viewWillAppear_shows vc hs, hvc⟩
  obtain ⟨v, hr', -, hg'⟩ := foldlM_keeps hkept ⟨hd, hg⟩
  rw [hr] at hr'
  cases hr'
  exact hg'

theorem no_picture (hu : Untouched Input.field inputs "url") :
    lastPicture inputs = none := by
  have hnil : inputs.filterMap Input.picture = [] := by
    apply List.filterMap_eq_nil_iff.2
    intro i hi
    cases i with
    | imagePickerController tag image =>
      by_cases ht : tag = 0
      · exact absurd (if_pos ht) (hu _ hi)
      · exact if_neg ht
    | _ => rfl
  rw [lastPicture, hnil]
  rfl

end PassDataVC

/-- The fields keep their values unless an input sets them. -/
def Preserves (field : Input → Option String) (inputs : List Input) (fields : List String)
    (get get' : String → Option Value) : Prop :=
  ∀ f ∈ fields, Untouched field inputs f → get' f = get f

theorem kept_iff {P : Prop} {a b v : Option Value} (h : P → b = v) : (P → b = a) ↔ (P → a = v) :=
  forall_congr' fun hp => by rw [h hp, eq_comm]

theorem Screens.AtRow.updated {S : Screens Model Form Input URL} {s : App Model Form}
    (h : S.AtRow s row data answers) (hd : s.documents.doc source = some d)
    (hw : S.sent data inputs answers = some (.updateData source fields)) :
    ∃ t, S.Runs s (visit row inputs answers) t ∧
      t.documents.doc source = some (d.merge fields) := by
  obtain ⟨t, hr, ht⟩ :=
    (runs_visit h.list h.shown h.unused h.succeeds).2 ⟨_, hw, rfl⟩
  refine ⟨t, hr, ?_⟩
  rw [ht, Collection.perform, Collection.updateData_of_some hd, Collection.doc_setData_self]

namespace GetDataVc
variable {C : Cloud Image URL} {data : Student} {inputs : List (Input Image)} {d : Document}

def updated (vc : GetDataVc Image) (now : Int) : Fields := [
  ("name", .string vc.txtfdname),
  ("stdid", .ofOption .integer (IntegerText.parse vc.txtfdid)),
  ("board", .string vc.board),
  ("time", .timestamp now),
  ("key", .string vc.data.key)]

theorem addbtnclick_named {vc : GetDataVc Image} (h : vc.data.name ≠ "") (answers : Press URL) :
    vc.addbtnclick C answers = .updateData vc.data.key (vc.updated answers.now) :=
  if_pos h

def visited (C : Cloud Image URL) (data : Student) (inputs : List (Input Image)) :
    GetDataVc Image :=
  inputs.foldl input (instantiate C data).viewWillAppear

theorem visited_data (C : Cloud Image URL) (data : Student) (inputs : List (Input Image)) :
    (visited C data inputs).data = data := by
  rw [visited, inputs_data, appeared_data]

def edited (C : Cloud Image URL) (data : Student) (d : Document) (time : Int)
    (inputs : List (Input Image)) : Document :=
  d.merge ((visited C data inputs).updated time)

theorem edited_name (hn : data.name ≠ "") (hu : Untouched Input.field inputs "name") :
    edited C data d time inputs "name" = some (.string data.name) := by
  have hkept : (visited C data inputs).txtfdname = data.name := name_kept hn hu
  rw [← hkept]
  rfl

theorem edited_stdid (hn : data.name ≠ "") (hr : Int64Range data.stdid)
    (hu : Untouched Input.field inputs "stdid") :
    edited C data d time inputs "stdid" = some (.integer data.stdid) := by
  have hkept : (visited C data inputs).txtfdid = IntegerText.print data.stdid := id_kept hn hu
  have hnew : edited C data d time inputs "stdid" =
    some (.ofOption .integer (IntegerText.parse (visited C data inputs).txtfdid)) := rfl
  rw [hnew, hkept, IntegerText.parse_print hr]
  rfl

theorem edited_board (hu : Untouched Input.field inputs "board") :
    edited C data d time inputs "board" = some (.string "") := by
  have hkept : (visited C data inputs).board = "" := board_kept hu
  rw [← hkept]
  rfl

theorem edited_key : edited C data d time inputs "key" = some (.string data.key) := by
  have hnew : edited C data d time inputs "key" =
    some (.string (visited C data inputs).data.key) := rfl
  rw [hnew, visited_data]

theorem edited_preserves (hkey : d "key" = some (.string data.key)) (hn : data.name ≠ "")
    (hr : Int64Range data.stdid) :
    Preserves Input.field inputs ["name", "stdid", "board", "key", "image"] d
        (edited C data d time inputs) ↔
      (Untouched Input.field inputs "name" → d "name" = some (.string data.name)) ∧
        (Untouched Input.field inputs "stdid" → d "stdid" = some (.integer data.stdid)) ∧
        (Untouched Input.field inputs "board" → d "board" = some (.string "")) := by
  have hkept : Untouched Input.field inputs "key" → edited C data d time inputs "key" = d "key" :=
    fun _ => edited_key.trans hkey.symm
  have himage : Untouched Input.field inputs "image" →
    edited C data d time inputs "image" = d "image" := fun _ => rfl
  simp only [Preserves, List.forall_mem_cons, kept_iff (edited_name hn), kept_iff edited_board,
    kept_iff (edited_stdid hn hr), eq_true hkept, eq_true himage, true_and]
  constructor
  · intro h
    exact ⟨h.1, h.2.1, h.2.2.1⟩
  · intro h
    refine ⟨h.1, h.2.1, h.2.2, ?_⟩
    intro f hf
    cases hf

end GetDataVc

def TextField.row (data : Detail) : TextField → Option Value
  | .nameTxtfd => some (.string data.name)
  | .ageTxtfd => some (.string data.age)
  | .txtfdguj => data.marks.lookup "guj"
  | .txtfdEng => data.marks.lookup "eng"
  | .txtfdSce => data.marks.lookup "sce"
  | .txtfdHindi => data.marks.lookup "hindi"

namespace PassDataVC
variable {C : Cloud Image URL} {inputs : List (Input Image)} {d : Document}

def updated (C : Cloud Image URL) (vc : PassDataVC Image) (data1 : URL) : Fields := [
  ("name", .string (vc.text .nameTxtfd)),
  ("age", .string (vc.text .ageTxtfd)),
  ("gender", .string vc.gender),
  ("url", .string (C.absoluteString data1)),
  ("marks", vc.marks)]

theorem read_updated (C : Cloud Image URL) (d : Document) (vc : PassDataVC Image) (data1 : URL)
    (f : TextField) : f.read (d.merge (vc.updated C data1)) = some (.string (vc.text f)) := by
  cases f <;> rfl

theorem Shows.row {data : Detail} (h : Shows C data shown) (f : TextField) :
    f.row data = some (.string (shown f)) := by
  cases f with
  | nameTxtfd => exact congrArg (some ∘ Value.string) h.name.symm
  | ageTxtfd => exact congrArg (some ∘ Value.string) h.age.symm
  | txtfdguj => exact h.guj
  | txtfdEng => exact h.eng
  | txtfdSce => exact h.sce
  | txtfdHindi => exact h.hindi

theorem updated_preserves {data : Detail} (hs : Shows C data shown)
    (hr : inputs.foldlM (input C) { opened C data with text := shown } = some vc)
    (hnew : newUrl C data answers (lastPicture inputs) = some url)
    (hurl : data.url = C.absoluteString u) :
    Preserves Input.field inputs ["name", "age", "gender", "url", "key", "time"] d
          (d.merge (vc.updated C url)) ∧
        Preserves Input.field inputs subjects (mark d) (mark (d.merge (vc.updated C url))) ↔
      (∀ f : TextField, Untouched Input.field inputs f.field → f.read d = f.row data) ∧
        (Untouched Input.field inputs "gender" → d "gender" = some (.string data.gender)) ∧
        (Untouched Input.field inputs "url" → d "url" = some (.string data.url)) := by
  have htext (f : TextField) (hu : Untouched Input.field inputs f.field) :
      f.read (d.merge (vc.updated C url)) = f.row data := by
    rw [read_updated, text_kept hs rfl rfl hu hr, hs.row]
  have hgender (hu : Untouched Input.field inputs "gender") :
      d.merge (vc.updated C url) "gender" = some (.string data.gender) := by
    rw [← gender_kept hs rfl rfl hu hr]
    rfl
  have hlink (hu : Untouched Input.field inputs "url") :
      d.merge (vc.updated C url) "url" = some (.string data.url) := by
    rw [no_picture hu, newUrl, hurl, C.url_absoluteString] at hnew
    cases hnew
    rw [hurl]
    rfl
  constructor
  · intro h
    obtain ⟨hfields, hmarks⟩ := h
    refine ⟨?_, (kept_iff hgender).1 (hfields "gender" (by decide)),
      (kept_iff hlink).1 (hfields "url" (by decide))⟩
    intro f
    apply (kept_iff (htext f)).1
    cases f with
    | nameTxtfd => exact hfields "name" (by decide)
    | ageTxtfd => exact hfields "age" (by decide)
    | txtfdguj => exact hmarks "guj" (by decide)
    | txtfdEng => exact hmarks "eng" (by decide)
    | txtfdSce => exact hmarks "sce" (by decide)
    | txtfdHindi => exact hmarks "hindi" (by decide)
  · intro h
    obtain ⟨hread, hg, hl⟩ := h
    have hkept (f : TextField) := (kept_iff (htext f)).2 (hread f)
    constructor
    · intro f hf hu
      simp only [List.mem_cons, List.not_mem_nil, or_false] at hf
      rcases hf with hf | hf | hf | hf | hf | hf
      · subst hf
        exact hkept .nameTxtfd hu
      · subst hf
        exact hkept .ageTxtfd hu
      · subst hf
        exact (kept_iff hgender).2 hg hu
      · subst hf
        exact (kept_iff hlink).2 hl hu
      · subst hf
        rfl
      · subst hf
        rfl
    · intro subject hsub hu
      simp only [subjects, List.mem_cons, List.not_mem_nil, or_false] at hsub
      rcases hsub with hsub | hsub | hsub | hsub
      · subst hsub
        exact hkept .txtfdguj hu
      · subst hsub
        exact hkept .txtfdEng hu
      · subst hsub
        exact hkept .txtfdSce hu
      · subst hsub
        exact hkept .txtfdHindi hu

end PassDataVC

theorem StudentDocument.stdid_row {C : Cloud Image URL} (h : StudentDocument C source d)
    (now : Int) : Int64Range (studentOfDocument now (source, d)).stdid := by
  show Int64Range (((d "stdid").bind Value.asInt).getD 0)
  rcases h.stdid with hnull | ⟨n, hrange, hint⟩
  · rw [hnull]
    decide
  · rw [hint]
    exact hrange

theorem DetailDocument.url_shown {C : Cloud Image URL} (h : DetailDocument C source d) (now : Int)
    (hurl : (detailOfDocument now (source, d)).url ≠ "") :
    ∃ u, d "url" = some (.string (C.absoluteString u)) ∧
      (detailOfDocument now (source, d)).url = C.absoluteString u := by
  rcases h.url with hnull | ⟨u, hu⟩
  · have hempty : (detailOfDocument now (source, d)).url = "" := by
      show ((d "url").bind Value.asString).getD "" = ""
      rw [hnull]
      rfl
    exact absurd hempty hurl
  · exact ⟨u, hu, getD_asString hu⟩

section
variable {C : Cloud Image URL}

theorem student_visit {s : App Student (GetDataVc Image)}
    (h : (studentScreens C).AtRow s row data answers)
    (hd : s.documents.doc data.key = some d) (hn : data.name ≠ "")
    (inputs : List (GetDataVc.Input Image)) :
    ∃ t d', (studentScreens C).Runs s (Screens.visit row inputs answers) t ∧
      t.documents.doc data.key = some d' ∧
      (Preserves GetDataVc.Input.field inputs ["name", "stdid", "board", "key", "image"] d d' ↔
        (Untouched GetDataVc.Input.field inputs "name" → d "name" = some (.string data.name)) ∧
        (Untouched GetDataVc.Input.field inputs "stdid" →
          d "stdid" = some (.integer data.stdid)) ∧
        (Untouched GetDataVc.Input.field inputs "board" → d "board" = some (.string ""))) := by
  have hsound := h.sound (studentScreens_lawful C)
  obtain ⟨now, source, d₀, hwf, hrow⟩ := hsound.decoded data h.mem
  have hrange : Int64Range data.stdid := by
    rw [hrow]
    exact hwf.stdid_row now
  have hdata := GetDataVc.visited_data C data inputs
  have hsent : (studentScreens C).sent data inputs answers = some (.updateData data.key
      ((GetDataVc.visited C data inputs).updated answers.now)) := by
    rw [GetDataVc.sent_eq, ← GetDataVc.visited, GetDataVc.addbtnclick_named (by rwa [hdata]), hdata]
  obtain ⟨t, hr, ht⟩ := h.updated hd hsent
  exact ⟨t, _, hr, ht, GetDataVc.edited_preserves (hsound.documents _ _ hd).key hn hrange⟩

theorem detail_visit {s : App Detail (PassDataVC Image)}
    (h : (detailScreens C).AtRow s row data answers)
    (hd : s.documents.doc data.key = some d) (hn : data.name ≠ "") (hurl : data.url ≠ "")
    (inputs : List (PassDataVC.Input Image)) :
    ((∀ image, PassDataVC.lastPicture inputs = some image →
        (uploadImage C image answers.upload).isSome) →
      ∃ t, (detailScreens C).Runs s (Screens.visit row inputs answers) t) ∧
    ∀ t, (detailScreens C).Runs s (Screens.visit row inputs answers) t →
      ∃ d', t.documents.doc data.key = some d' ∧
        (Preserves PassDataVC.Input.field inputs ["name", "age", "gender", "url", "key", "time"]
            d d' ∧
          Preserves PassDataVC.Input.field inputs subjects (mark d) (mark d') ↔
          (∀ f : TextField, Untouched PassDataVC.Input.field inputs f.field →
            f.read d = f.row data) ∧
          (Untouched PassDataVC.Input.field inputs "gender" →
            d "gender" = some (.string data.gender)) ∧
          (Untouched PassDataVC.Input.field inputs "url" →
            d "url" = some (.string data.url))) := by
  obtain ⟨now, source, d₀, hwf, hrow⟩ :=
    (h.sound (detailScreens_lawful C)).decoded data h.mem
  have hrow : data = detailOfDocument now (source, d₀) := hrow
  obtain ⟨u, hu⟩ : ∃ u, data.url = C.absoluteString u := by
    rw [hrow] at hurl ⊢
    obtain ⟨u, -, hu⟩ := hwf.url_shown now hurl
    exact ⟨u, hu⟩
  have hsome : (C.url data.url).isSome := by
    rw [hu, C.url_absoluteString]
    rfl
  obtain ⟨shown, hs, -⟩ := hwf.shows now (hrow ▸ hn) (hrow ▸ hsome)
  rw [← hrow] at hs
  obtain ⟨vc, hvc, hr, hsent⟩ := PassDataVC.sent_shown hs inputs answers
  constructor
  · intro hup
    obtain ⟨url, hnew⟩ : ∃ url, PassDataVC.newUrl C data answers
        (PassDataVC.lastPicture inputs) = some url := by
      apply Option.isSome_iff_exists.1
      cases hp : PassDataVC.lastPicture inputs with
      | none => exact hsome
      | some image => exact hup image hp
    rw [hnew, Option.map_some] at hsent
    obtain ⟨t, ht, -⟩ := (Screens.runs_visit h.list h.shown h.unused h.succeeds).2 ⟨_, hsent, rfl⟩
    exact ⟨t, ht⟩
  · intro t ht
    obtain ⟨write, hw, hdoc⟩ :=
      (Screens.runs_visit h.list h.shown h.unused h.succeeds).1 ⟨t, ht, rfl⟩
    rw [hsent] at hw
    obtain ⟨url, hnew, hw⟩ := Option.map_eq_some_iff.1 hw
    refine ⟨d.merge (vc.updated C url), ?_, PassDataVC.updated_preserves hs hr hnew hu⟩
    rw [hdoc, ← hw, PassDataVC.updatedata, hvc, Collection.perform,
      Collection.updateData_of_some hd, Collection.doc_setData_self]
    rfl

/-- Which fields an edit leaves alone, whether or not the row was fetched after the last change of
its document. A visit to the form of a row with a name keeps the fields that it does not set exactly
if they are stored as the row shows them and the board is set or was empty; in the form of a detail
that shows a url exactly if they are stored as the row shows them. -/
theorem unedited_fields (C : Cloud Image URL) :
    (∀ s row data d inputs answers, (studentScreens C).AtRow s row data answers →
      s.documents.doc data.key = some d → data.name ≠ "" →
      ∃ t d', (studentScreens C).Runs s (Screens.visit row inputs answers) t ∧
        t.documents.doc data.key = some d' ∧
        (Preserves GetDataVc.Input.field inputs ["name", "stdid", "board", "key", "image"] d d' ↔
          (Untouched GetDataVc.Input.field inputs "name" → d "name" = some (.string data.name)) ∧
          (Untouched GetDataVc.Input.field inputs "stdid" →
            d "stdid" = some (.integer data.stdid)) ∧
          (Untouched GetDataVc.Input.field inputs "board" → d "board" = some (.string "")))) ∧
    (∀ s row data d inputs answers, (detailScreens C).AtRow s row data answers →
      s.documents.doc data.key = some d → data.name ≠ "" → data.url ≠ "" →
      ((∀ image, PassDataVC.lastPicture inputs = some image →
          (uploadImage C image answers.upload).isSome) →
        ∃ t, (detailScreens C).Runs s (Screens.visit row inputs answers) t) ∧
      ∀ t, (detailScreens C).Runs s (Screens.visit row inputs answers) t →
        ∃ d', t.documents.doc data.key = some d' ∧
          (Preserves PassDataVC.Input.field inputs ["name", "age", "gender", "url", "key", "time"]
              d d' ∧
            Preserves PassDataVC.Input.field inputs subjects (mark d) (mark d') ↔
            (∀ f : TextField, Untouched PassDataVC.Input.field inputs f.field →
              f.read d = f.row data) ∧
            (Untouched PassDataVC.Input.field inputs "gender" →
              d "gender" = some (.string data.gender)) ∧
            (Untouched PassDataVC.Input.field inputs "url" →
              d "url" = some (.string data.url)))) := by
  constructor
  · intro s row data d inputs answers h hd hn
    exact student_visit h hd hn inputs
  · intro s row data d inputs answers h hd hn hurl
    exact detail_visit h hd hn hurl inputs

end

theorem DetailDocument.row_fresh {C : Cloud Image URL} (h : DetailDocument C source d) (now : Int)
    (hn : (detailOfDocument now (source, d)).name ≠ "")
    (hurl : (detailOfDocument now (source, d)).url ≠ "") :
    (∀ f : TextField, f.read d = f.row (detailOfDocument now (source, d))) ∧
      d "gender" = some (.string (detailOfDocument now (source, d)).gender) ∧
      d "url" = some (.string (detailOfDocument now (source, d)).url) := by
  obtain ⟨shown, hs, hread⟩ := h.shows now hn ((h.url_row now).2 hurl)
  obtain ⟨gender, hg⟩ := h.gender
  have hgender : (detailOfDocument now (source, d)).gender = gender := getD_asString hg
  obtain ⟨u, hu, hlink⟩ := h.url_shown now hurl
  refine ⟨?_, by rw [hgender, hg], by rw [hlink, hu]⟩
  intro f
  rw [hread, hs.row]

theorem Screens.fetched_of_exec {S : Screens Model Form Input URL}
    {W : String → Document → Prop} (hS : S.Lawful W) (es : List (Event Input URL))
    (now : Nat → Int) (row : Nat) (answers : Press URL) (p : Model → Bool)
    (h : (S.machine.exec (fun _ _ => True) App.launch (es ++ [.fetched now])).any (fun s =>
      s.form.isNone &&
        (decide (answers.documentID ∉ s.documents.ids) && s.rows[row]?.any p)) = true)
    (hsucc : answers.succeeds = true) :
    ∃ s i source d, S.AtRow s row (S.ofDocument i (source, d)) answers ∧
      s.documents.doc source = some d ∧ p (S.ofDocument i (source, d)) = true := by
  obtain ⟨s, data, ha, hr, hp⟩ := Screens.atRow_of_exec S _ row answers p h hsucc
  obtain ⟨i, d, hd, hdata⟩ := fetched_rows hS hr ha.mem
  rw [hdata] at ha hp
  exact ⟨s, i, S.key data, d, ha, hd, hp⟩

theorem stored_of_shown {d : Document} (h : ((d field).bind Value.asString).getD "" = text)
    (hne : text ≠ other) : d field ≠ some (.string other) := by
  intro hd
  rw [getD_asString hd] at h
  exact hne h.symm

theorem unedited_fields_kept :
    (∃ s source d now t d', (studentScreens Cloud.device).AtRow s 0
        (studentOfDocument now (source, d)) (.device "s2") ∧
      (studentScreens Cloud.device).Runs s
        (Screens.visit 0 [.std12btnclick, .editId "8"] (.device "s2")) t ∧
      t.documents.doc source = some d' ∧
      Preserves GetDataVc.Input.field
        ([.std12btnclick, .editId "8"] : List (GetDataVc.Input Bool))
        ["name", "stdid", "board", "key", "image"] d d') ∧
    (∃ s source d now t d', (detailScreens Cloud.device).AtRow s 0
        (detailOfDocument now (source, d)) (.device "d2") ∧
      (detailScreens Cloud.device).Runs s
        (Screens.visit 0 [.editText .ageTxtfd "20"] (.device "d2")) t ∧
      t.documents.doc source = some d' ∧
      Preserves PassDataVC.Input.field ([.editText .ageTxtfd "20"] : List (PassDataVC.Input Bool))
        ["name", "age", "gender", "url", "key", "time"] d d') := by
  constructor
  · obtain ⟨s, now, source, d, h, hd, hp⟩ := Screens.fetched_of_exec
      (studentScreens_lawful Cloud.device)
      [.clickAdd 0, .input (.editName "Ann"), .press (.device "s1"), .pop] (fun _ => 1) 0
      (.device "s2") (fun data => data.name == "Ann") (by decide +kernel) rfl
    have hname : (studentOfDocument now (source, d)).name = "Ann" := beq_iff_eq.1 hp
    have hwf := (h.sound (studentScreens_lawful Cloud.device)).documents source d hd
    have hrow : (studentOfDocument now (source, d)).name ≠ "" := by
      rw [hname]
      decide
    obtain ⟨t, d', hr, hd', hiff⟩ := (unedited_fields Cloud.device).1 s 0 _ d
      [.std12btnclick, .editId "8"] _ h hd hrow
    refine ⟨s, source, d, now, t, d', h, hr, hd', hiff.2 ⟨?_, ?_, ?_⟩⟩
    · intro hu
      obtain ⟨name, hstored⟩ := hwf.name
      have hshown : (studentOfDocument now (source, d)).name = name := getD_asString hstored
      exact hstored.trans (congrArg (some ∘ Value.string) hshown.symm)
    · intro hu
      exact absurd rfl (hu (.editId "8") (by simp))
    · intro hu
      exact absurd rfl (hu .std12btnclick (by simp))
  · obtain ⟨s, now, source, d, h, hd, hp⟩ := Screens.fetched_of_exec
      (detailScreens_lawful Cloud.device)
      [.clickAdd 0, .input (.editText .nameTxtfd "Ann"), .input (.imagePickerController 0 true),
        .press (.device "d1"), .pop] (fun _ => 1) 0
      (.device "d2") (fun data => data.name == "Ann" && data.url != "") (by decide +kernel) rfl
    simp only [Bool.and_eq_true, beq_iff_eq, bne_iff_ne] at hp
    have hwf := (h.sound (detailScreens_lawful Cloud.device)).documents source d hd
    have hname : (detailOfDocument now (source, d)).name = "Ann" := hp.1
    have hrow : (detailOfDocument now (source, d)).name ≠ "" := by
      rw [hname]
      decide
    obtain ⟨hex, hall⟩ := (unedited_fields Cloud.device).2 s 0 _ d
      [.editText .ageTxtfd "20"] _ h hd hrow hp.2
    obtain ⟨t, hr⟩ := hex fun image himage => by cases himage
    obtain ⟨d', hd', hiff⟩ := hall t hr
    obtain ⟨hread, hgender, hurl⟩ := hwf.row_fresh now hrow hp.2
    exact ⟨s, source, d, now, t, d', h, hr, hd',
      (hiff.2 ⟨fun f _ => hread f, fun _ => hgender, fun _ => hurl⟩).1⟩

theorem untouched_board_lost : ∃ s source d now t d', (studentScreens Cloud.device).AtRow s 0
      (studentOfDocument now (source, d)) (.device "s2") ∧
    s.documents.doc source = some d ∧ d "name" ≠ some (.string "") ∧
    (studentScreens Cloud.device).Runs s (Screens.visit 0 [] (.device "s2")) t ∧
    t.documents.doc source = some d' ∧
    ¬ Preserves GetDataVc.Input.field ([] : List (GetDataVc.Input Bool))
      ["name", "stdid", "board", "key", "image"] d d' := by
  obtain ⟨s, now, source, d, h, hd, hp⟩ := Screens.fetched_of_exec
    (studentScreens_lawful Cloud.device)
    [.clickAdd 0, .input (.editName "Ann"), .input (.editId "7"), .input .std10click,
      .press (.device "s1"), .pop] (fun _ => 1) 0
    (.device "s2") (fun data => data.name == "Ann" && data.board == "s.s.c") (by decide +kernel) rfl
  simp only [Bool.and_eq_true, beq_iff_eq] at hp
  have hname : d "name" ≠ some (.string "") := stored_of_shown hp.1 (by decide)
  have hboard : d "board" ≠ some (.string "") := stored_of_shown hp.2 (by decide)
  have hann : (studentOfDocument now (source, d)).name = "Ann" := hp.1
  have hrow : (studentOfDocument now (source, d)).name ≠ "" := by
    rw [hann]
    decide
  obtain ⟨t, d', hr, hd', hiff⟩ := student_visit h hd hrow []
  refine ⟨s, source, d, now, t, d', h, hd, hname, hr, hd', ?_⟩
  intro hkept
  exact hboard ((hiff.1 hkept).2.2 fun i hi => by cases hi)

/-- A second edit of a row that was not fetched again puts the first name back. -/
example : ((studentScreens Cloud.device).machine.exec (fun _ _ => True) App.launch
    ([.clickAdd 0, .input (.editName "Ann"), .press (.device "s1"), .pop, .fetched fun _ => 1] ++
      Screens.visit 0 [.editName "Bob"] (.device "s2") ++ .pop ::
      Screens.visit 0 [] (.device "s3"))).any (fun s =>
        decide (((s.documents.doc "s1").bind (· "name")).bind Value.asString = some "Ann")) =
      true := by
  decide +kernel

end TrainingDemos.FirebasePractise
