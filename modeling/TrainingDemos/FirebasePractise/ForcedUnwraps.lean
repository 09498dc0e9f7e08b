import TrainingDemos.FirebasePractise.RowTargeting

namespace TrainingDemos.FirebasePractise
set_option autoImplicit true

structure CellContent (URL : Type) where
  lblName : String
  lblAge : String
  lblgender : String
  marksEnglbl : String
  marksGujlbl : String
  marksScelbl : String
  marksHindilbl : String
  download : Option URL

/-- Traps where a mark is missing or the url of a picture is none. -/
def ViewController.cellForRowAt (C : Cloud Image URL) (data : Detail) :
    Option (CellContent URL) := do
  let eng ← data.marks.lookup "eng"
  let guj ← data.marks.lookup "guj"
  let sce ← data.marks.lookup "sce"
  let hindi ← data.marks.lookup "hindi"
  let download ← if data.url ≠ "" then (C.url data.url).map some else some none
  some {
    lblName := "name :" ++ data.name
    lblAge := "age :" ++ data.age
    lblgender := data.gender
    marksEnglbl := "eng :" ++ C.description eng
    marksGujlbl := "guj :" ++ C.description guj
    marksScelbl := "sce :" ++ C.description sce
    marksHindilbl := "hindi :" ++ C.description hindi
    download := download }

/-- Forms on other devices write meanwhile, and a trap ends the process, not the collection. -/
inductive Screens.Reached (S : Screens Model Form Input URL) : App Model Form → Prop where
  | launch : Reached S App.launch
  | step : Reached S s → s.Enabled e → App.step S s e = some t → Reached S t
  | relaunch : Reached S s → Reached S ⟨s.documents, [], none⟩
  | pressElsewhere : Reached S s → S.addbtnclick answers vc = some write →
      Reached S { s with documents := s.documents.perform write }
  | deleteElsewhere (key : String) : Reached S s →
      Reached S { s with documents := s.documents.delete key }

theorem Screens.reached_of_run {S : Screens Model Form Input URL} (h : S.Runs s es t)
    (hs : S.Reached s) : S.Reached t := by
  apply h.invariant (I := S.Reached) _ hs
  intro s e t hr hen hb hst
  exact hr.step hen hst

/-- A detail that a form stored, as some fetch decoded it. -/
def Stored (C : Cloud Image URL) (data : Detail) : Prop :=
  ∃ now key d, DetailDocument C key d ∧ data = detailOfDocument now (key, d)

section
variable {C : Cloud Image URL}

theorem Stored.rendered (h : Stored C data) : (ViewController.cellForRowAt C data).isSome := by
  obtain ⟨now, source, d, hd, hdata⟩ := h
  have hmark : ∀ subject ∈ subjects, ∃ v, data.marks.lookup subject = some v := by
    intro subject hs
    obtain ⟨s, hm⟩ := hd.marks subject hs
    obtain ⟨fields, hf, hl⟩ := Option.bind_eq_some_iff.1 hm
    refine ⟨.string s, ?_⟩
    rw [hdata, detailOfDocument, hf]
    exact hl
  obtain ⟨eng, heng⟩ := hmark "eng" (by decide)
  obtain ⟨guj, hguj⟩ := hmark "guj" (by decide)
  obtain ⟨sce, hsce⟩ := hmark "sce" (by decide)
  obtain ⟨hindi, hhindi⟩ := hmark "hindi" (by decide)
  have hurl := hd.url_row now
  rw [← hdata] at hurl
  simp only [ViewController.cellForRowAt, heng, hguj, hsce, hhindi, Option.bind_eq_bind,
    Option.bind_some]
  by_cases hu : data.url = ""
  · rw [if_neg (not_not_intro hu)]
    rfl
  · obtain ⟨u, hparse⟩ := Option.isSome_iff_exists.1 (hurl.2 hu)
    rw [if_pos hu, hparse]
    rfl

def PassDataVC.Usable (C : Cloud Image URL) (data : Detail) : Prop :=
  data.name = "" ∨ ∃ shown, Shows C data shown

theorem Stored.appear (h : Stored C data) :
    (data.name = "" ∨ data.url ≠ "") ∧ PassDataVC.Usable C data ∧ (∃ vc, vc.data = data ∧
        (detailScreens C).appear data = some vc) ∨
      ¬ (data.name = "" ∨ data.url ≠ "") ∧ (detailScreens C).appear data = none := by
  obtain ⟨now, source, d, hd, hdata⟩ := h
  have hurl := hd.url_row now
  rw [← hdata] at hurl
  by_cases hn : data.name = ""
  · have happear : (detailScreens C).appear data = some (PassDataVC.opened C data) :=
      if_neg (not_not_intro hn)
    exact .inl ⟨.inl hn, .inl hn, _, rfl, happear⟩
  by_cases hu : data.url = ""
  · have hnone : C.url data.url = none := by rw [hu, C.url_empty]
    have happear : (detailScreens C).appear data = none :=
      PassDataVC.viewWillAppear_without_url (PassDataVC.opened C data) hn hnone
    refine .inr ⟨?_, happear⟩
    intro h
    exact h.elim hn (absurd hu)
  · obtain ⟨shown, hshows, -⟩ := hd.shows now (hdata ▸ hn) (hdata ▸ hurl.2 hu)
    rw [← hdata] at hshows
    have happear : (detailScreens C).appear data = _ :=
      PassDataVC.viewWillAppear_shows (PassDataVC.opened C data) hshows
    exact .inl ⟨.inr hu, .inr ⟨shown, hshows⟩, _, rfl, happear⟩

theorem Stored.appear_isSome (h : Stored C data) :
    ((detailScreens C).appear data).isSome ↔ data.name = "" ∨ data.url ≠ "" := by
  rcases h.appear with ⟨hc, -, vc, -, ha⟩ | ⟨hc, ha⟩
  · rw [ha]
    exact ⟨fun _ => hc, fun _ => rfl⟩
  · rw [ha]
    exact ⟨nofun, fun h => absurd h hc⟩

theorem Stored.usable (h : Stored C data) (ha : (detailScreens C).appear data = some vc) :
    PassDataVC.Usable C vc.data := by
  rcases h.appear with ⟨-, hu, vc', hvc, ha'⟩ | ⟨-, ha'⟩
  · rw [ha'] at ha
    cases ha
    exact hvc ▸ hu
  · rw [ha'] at ha
    cases ha

theorem PassDataVC.Usable.addbtnclick_isSome {vc : PassDataVC Image} (h : Usable C vc.data)
    (answers : Press URL) : (vc.addbtnclick C answers).isSome ↔
      (vc.data.name ≠ "" → vc.flag = 1 → C.encodes vc.image = true ∧ answers.upload.isSome) := by
  rcases h with hn | ⟨shown, hshows⟩
  · rw [addbtnclick, if_neg (not_not_intro hn)]
    exact ⟨fun _ h => absurd hn h, fun _ => rfl⟩
  rw [addbtnclick_named hshows.named, Option.isSome_map, chosen]
  by_cases hf : vc.flag = 1
  · rw [if_pos hf, newUrl, uploadImage]
    by_cases he : C.encodes vc.image = true
    · rw [if_pos he]
      exact ⟨fun hu _ _ => ⟨he, hu⟩, fun h => (h hshows.named hf).2⟩
    · rw [if_neg he]
      constructor
      · intro hu
        cases hu
      · intro h
        exact absurd (h hshows.named hf).1 he
  · rw [if_neg hf, newUrl]
    exact ⟨fun _ _ h => absurd h hf, fun _ => hshows.url⟩

structure Unwrappable (C : Cloud Image URL) (s : App Detail (PassDataVC Image)) : Prop where
  documents : s.documents.All (DetailDocument C)
  rows : ∀ data ∈ s.rows, Stored C data
  form : ∀ vc, s.form = some vc → PassDataVC.Usable C vc.data

theorem Unwrappable.step {s t : App Detail (PassDataVC Image)} (h : Unwrappable C s)
    (hs : App.step (detailScreens C) s e = some t) : Unwrappable C t := by
  cases e with
  | fetched now =>
    cases hs
    refine ⟨h.documents, ?_, h.form⟩
    intro data hm
    obtain ⟨i, ⟨key, d⟩, hd, hm⟩ := (detailScreens_lawful C).fetch now s.documents data hm
    exact ⟨i, key, d, h.documents key d (Collection.mem_orderBy.1 hd).1, hm⟩
  | clickAdd now =>
    have ha : (detailScreens C).appear (Detail.init now) =
        some (PassDataVC.opened C (Detail.init now)) := rfl
    have hs : ((detailScreens C).appear (Detail.init now)).bind
        (fun vc => some { s with form := some vc }) = some t := hs
    rw [ha] at hs
    cases hs
    refine ⟨h.documents, h.rows, ?_⟩
    intro vc hvc
    cases hvc
    exact .inl rfl
  | swipeEdit row =>
    obtain ⟨data, hrow, hs⟩ := Option.bind_eq_some_iff.1 hs
    obtain ⟨vc, ha, ht⟩ := Option.bind_eq_some_iff.1 hs
    cases ht
    refine ⟨h.documents, h.rows, ?_⟩
    intro vc' hvc
    cases hvc
    exact (h.rows data (List.mem_of_getElem? hrow)).usable ha
  | swipeDelete row succeeds =>
    obtain ⟨data, hrow, ht⟩ := Option.bind_eq_some_iff.1 hs
    cases ht
    refine ⟨?_, ?_, h.form⟩
    · cases succeeds with
      | false => exact h.documents
      | true => exact h.documents.delete _
    · intro data' hm
      exact h.rows data' (List.mem_of_mem_eraseIdx hm)
  | input i =>
    obtain ⟨vc, hf, hs⟩ := Option.bind_eq_some_iff.1 hs
    obtain ⟨vc', hi, ht⟩ := Option.bind_eq_some_iff.1 hs
    cases ht
    refine ⟨h.documents, h.rows, ?_⟩
    intro vc'' hvc
    cases hvc
    obtain ⟨vc₁, hi', hd, -⟩ := PassDataVC.input_total (h.form vc hf) i
    rw [show (detailScreens C).input vc i = some vc₁ from hi'] at hi
    cases hi
    exact hd ▸ h.form vc hf
  | press answers =>
    obtain ⟨vc, hf, hs⟩ := Option.bind_eq_some_iff.1 hs
    obtain ⟨write, hw, ht⟩ := Option.bind_eq_some_iff.1 hs
    cases ht
    refine ⟨?_, h.rows, h.form⟩
    cases answers.succeeds with
    | false => exact h.documents
    | true => exact h.documents.perform (vc.addbtnclick_keeps hw)
  | pop =>
    cases hs
    exact ⟨h.documents, h.rows, nofun⟩

theorem Screens.Reached.unwrappable {s : App Detail (PassDataVC Image)}
    (h : (detailScreens C).Reached s) : Unwrappable C s := by
  induction h with
  | launch => exact ⟨.empty, nofun, nofun⟩
  | step hr hen hs ih => exact ih.step hs
  | relaunch hr ih => exact ⟨ih.documents, nofun, nofun⟩
  | pressElsewhere hr hw ih =>
    exact ⟨ih.documents.perform ((detailScreens_lawful C).keeps _ _ _ hw), ih.rows, ih.form⟩
  | deleteElsewhere key hr ih => exact ⟨ih.documents.delete key, ih.rows, ih.form⟩

/-- A row that is edited can be opened, and a picture chosen for an update is uploaded. -/
def PictureAtHand (C : Cloud Image URL) (s : App Detail (PassDataVC Image)) :
    Event (PassDataVC.Input Image) URL → Prop
  | .swipeEdit row => ∀ data, s.rows[row]? = some data → data.name = "" ∨ data.url ≠ ""
  | .press answers => ∀ vc, s.form = some vc → vc.data.name ≠ "" → vc.flag = 1 →
      C.encodes vc.image = true ∧ answers.upload.isSome
  | _ => True

/-- Rendering a row never traps, and a step does exactly if it needs a picture not at hand. -/
theorem trap_iff_no_picture {s : App Detail (PassDataVC Image)} (h : (detailScreens C).Reached s) :
    (∀ data ∈ s.rows, (ViewController.cellForRowAt C data).isSome) ∧
      ∀ e, s.Enabled e →
        ((App.step (detailScreens C) s e).isSome ↔ PictureAtHand C s e) := by
  have hu := h.unwrappable
  constructor
  · intro data hm
    exact (hu.rows data hm).rendered
  · intro e hen
    cases e with
    | fetched now => exact ⟨fun _ => trivial, fun _ => rfl⟩
    | clickAdd now => exact ⟨fun _ => trivial, fun _ => rfl⟩
    | swipeEdit row =>
      obtain ⟨-, hrow⟩ := hen
      have hrow := List.getElem?_eq_getElem hrow
      have hstored := hu.rows _ (List.mem_of_getElem? hrow)
      rw [Screens.step_edit hrow, Option.isSome_map, hstored.appear_isSome, PictureAtHand, hrow]
      constructor
      · intro h data hd
        cases hd
        exact h
      · intro h
        exact h _ rfl
    | swipeDelete row succeeds =>
      obtain ⟨-, hrow⟩ := hen
      have hrow := List.getElem?_eq_getElem hrow
      refine ⟨fun _ => trivial, fun _ => ?_⟩
      rw [App.step, hrow]
      rfl
    | input i =>
      obtain ⟨vc, hf⟩ := Option.isSome_iff_exists.1 hen
      obtain ⟨vc', hi, -⟩ := PassDataVC.input_total (hu.form vc hf) i
      have hi : (detailScreens C).input vc i = some vc' := hi
      refine ⟨fun _ => trivial, fun _ => ?_⟩
      rw [Screens.step_input hf, hi]
      rfl
    | press answers =>
      obtain ⟨vc, hf⟩ := Option.isSome_iff_exists.1 hen.1
      have hpress := (hu.form vc hf).addbtnclick_isSome answers
      have hstep : (App.step (detailScreens C) s (.press answers)).isSome =
          (vc.addbtnclick C answers).isSome := by
        rw [App.step, hf]
        show ((vc.addbtnclick C answers).bind _).isSome = _
        cases vc.addbtnclick C answers <;> rfl
      rw [hstep, hpress, PictureAtHand, hf]
      constructor
      · intro h vc' hvc
        cases hvc
        exact h
      · intro h
        exact h vc rfl
    | pop => exact ⟨fun _ => trivial, fun _ => rfl⟩

end

theorem trap_free_with_picture : ∃ s, (detailScreens Cloud.device).Reached s ∧
    (∃ vc, s.form = some vc ∧ vc.data.name = "Ann" ∧ vc.flag = 1) ∧
    (App.step (detailScreens Cloud.device) s (.press (.device "d2"))).isSome := by
  obtain ⟨s, hr, hp⟩ := Screens.runs_of_exec (detailScreens Cloud.device)
    [.clickAdd 0, .input (.editText .nameTxtfd "Ann"), .input (.imagePickerController 0 true),
      .press (.device "d1"), .pop, .fetched fun _ => 1, .swipeEdit 0,
      .input (.imagePickerController 0 true)]
    (fun s => s.form.any (fun vc : PassDataVC Bool =>
      vc.data.name == "Ann" && decide (vc.flag = 1) && vc.image) &&
        decide ("d2" ∉ s.documents.ids)) (by decide +kernel)
  obtain ⟨hform, hunused⟩ := Bool.and_eq_true_iff.1 hp
  obtain ⟨vc, hf, hvc⟩ := (Option.any_eq_true _ _).1 hform
  simp only [Bool.and_eq_true, beq_iff_eq, decide_eq_true_eq] at hvc
  have hreached := Screens.reached_of_run hr .launch
  have hshown : s.form.isSome := by rw [hf]; rfl
  have hen : (detailScreens Cloud.device).machine.enabled s (.press (.device "d2")) :=
    And.intro hshown (of_decide_eq_true hunused)
  refine ⟨s, hreached, ⟨vc, hf, hvc.1⟩, ?_⟩
  apply ((trap_iff_no_picture hreached).2 (.press (.device "d2")) hen).2
  intro vc' hvc' hn hflag
  rw [hf] at hvc'
  cases hvc'
  exact ⟨hvc.2, rfl⟩

theorem edit_without_picture_traps : ∃ s, (detailScreens Cloud.device).Reached s ∧
    (∃ data ∈ s.rows, data.name = "Ann" ∧ data.url = "") ∧
    (detailScreens Cloud.device).machine.enabled s (.swipeEdit 0) ∧
    App.step (detailScreens Cloud.device) s (.swipeEdit 0) = none := by
  obtain ⟨s, hr, hp⟩ := Screens.runs_of_exec (detailScreens Cloud.device)
    [.clickAdd 0, .input (.editText .nameTxtfd "Ann"), .press (.device "d1"), .pop,
      .fetched fun _ => 1]
    (fun s => (s.form.isNone && s.rows[0]?.any fun data : Detail =>
      data.name == "Ann" && data.url == "") &&
        (App.step (detailScreens Cloud.device) s (.swipeEdit 0)).isNone) (by decide +kernel)
  obtain ⟨hlist, htrap⟩ := Bool.and_eq_true_iff.1 hp
  obtain ⟨hform, hrow⟩ := Bool.and_eq_true_iff.1 hlist
  obtain ⟨data, hrow, hdata⟩ := (Option.any_eq_true _ _).1 hrow
  simp only [Bool.and_eq_true, beq_iff_eq] at hdata
  have hlen : 0 < s.rows.length := (List.getElem?_eq_some_iff.1 hrow).1
  exact ⟨s, Screens.reached_of_run hr .launch, ⟨data, List.mem_of_getElem? hrow, hdata⟩,
    And.intro hform hlen, Option.isNone_iff_eq_none.1 htrap⟩

end TrainingDemos.FirebasePractise
