import TrainingDemos.FirebasePractise.PictureBalance

namespace TrainingDemos.FirebasePractise
set_option autoImplicit true

section
variable {P : PictureScreens Model Form Input URL} {W : String → Document → Prop}
  {home : String → Option String} {s t : PictureApp Model Form}

theorem not_creating_nil : ¬ Creating [] key := by
  intro hc
  obtain ⟨fields, hm⟩ := hc
  cases hm

theorem PictureRequest.inert_not_creating {request : PictureRequest} (h : request.inert = true)
    (key : String) : ¬ Creating [request] key := by
  intro hc
  obtain ⟨fields, hm⟩ := hc
  cases List.mem_singleton.1 hm
  cases h

theorem Balanced.launch (P : PictureScreens Model Form Input URL) (W : String → Document → Prop) :
    Balanced P W (fun _ => none) PictureApp.launch where
  homes := nofun
  documents := .empty
  rows := nofun
  forms := nofun
  requests := nofun
  distinct := .nil
  present := nofun
  kept := nofun

theorem Balanced.settled (h : Balanced P W home s) (hs : s.requests = []) (link : String) :
    link ∈ s.blobs ↔ s.Refers P link := by
  constructor
  · intro hl
    obtain ⟨key, hhome, he⟩ := h.present link hl
    rw [hs] at he
    have hsome := he.resolve_right fun he => he.elim not_creating_nil nofun
    obtain ⟨d, hd⟩ := Option.isSome_iff_exists.1 hsome
    exact ⟨key, d, hd, ((h.documents key d hd).linked link).2 hhome⟩
  · intro hr
    obtain ⟨key, d, hd, hl⟩ := hr
    have hhome := ((h.documents key d hd).linked link).1 hl
    have he := h.kept link key hhome (.inl (Option.isSome_iff_exists.2 ⟨d, hd⟩))
    rw [hs] at he
    exact he.resolve_right nofun

theorem Balanced.not_creating (h : Balanced P W home s) (hd : s.documents.doc key = some d) :
    ¬ Creating s.requests key := by
  intro hc
  obtain ⟨fields, hm⟩ := hc
  have hn := (h.requests _ hm).1
  rw [hd] at hn
  cases hn

theorem Balanced.send (h : Balanced P W home s) {request : PictureRequest}
    (hw : ∀ key, ¬ Creating [request] key) (hk : request.Kept P W home (s.send request)) :
    Balanced P W home (s.send request) := by
  apply h.append hw h.rows h.forms
  · intro i vc hvc
    exact ⟨vc, hvc, rfl⟩
  · intro request' hm
    cases List.mem_singleton.1 hm
    exact hk

theorem Balanced.screens (h : Balanced P W home s) {rows : List Model} {forms : List Form}
    {form : Option Nat} (hrows : ∀ data ∈ rows, s.Shown P W home data)
    (hforms : ∀ vc ∈ forms, P.adds (P.data vc) = true ∨ s.Shown P W home (P.data vc))
    (hext : ∀ (i : Nat) (vc : Form), s.forms[i]? = some vc →
      ∃ vc' : Form, forms[i]? = some vc' ∧ P.data vc' = P.data vc) :
    Balanced P W home { s with rows := rows, forms := forms, form := form } := by
  have hb : Balanced P W home { s with
      rows := rows, forms := forms, form := form, requests := s.requests ++ [] } :=
    h.append (fun key => not_creating_nil) hrows hforms hext nofun
  rw [List.append_nil] at hb
  exact hb

theorem Balanced.push (h : Balanced P W home s)
    (hvc : P.adds (P.data vc) = true ∨ s.Shown P W home (P.data vc)) :
    Balanced P W home (s.push vc) := by
  apply h.screens h.rows
  · exact forall_mem_concat h.forms hvc
  · intro i vc' hi
    refine ⟨vc', ?_, rfl⟩
    rw [List.getElem?_append_left (List.getElem?_eq_some_iff.1 hi).1]
    exact hi

theorem Balanced.input (hP : P.Lawful W) (h : Balanced P W home s)
    (hvc : s.forms[form]? = some vc) (hi : P.input vc i = some vc') :
    Balanced P W home { s with forms := s.forms.set form vc' } := by
  have hdata : P.data vc' = P.data vc := hP.input vc i vc' hi
  apply h.screens h.rows
  · intro vc'' hm
    rcases List.mem_or_eq_of_mem_set hm with hm | hm
    · exact h.forms vc'' hm
    · rw [hm, hdata]
      exact h.forms vc (List.mem_of_getElem? hvc)
  · intro j vc'' hj
    by_cases hjf : form = j
    · subst hjf
      rw [hvc] at hj
      cases hj
      exact ⟨vc', List.getElem?_set_self (List.getElem?_eq_some_iff.1 hvc).1, hdata⟩
    · exact ⟨vc'', by rw [List.getElem?_set_ne hjf, hj], rfl⟩

theorem Balanced.kept_update (hP : P.Lawful W) (h : s.Shown P W home (P.data vc))
    (ha : P.adds (P.data vc) = false)
    (hw : P.uploaded documentID now (P.direct vc) vc = some write) :
    ∃ key fields, write = .updateData key fields ∧
      PictureRequest.Kept P W home s (.write (.updateData key fields)) := by
  obtain ⟨fields, hupdate, hkeeps, hlink⟩ := hP.updated documentID now _ vc write ha hw
  obtain ⟨i, key, d, ⟨hd, -⟩, hdata⟩ := h
  have hkey : P.key (P.data vc) = key := by rw [hdata, hP.screens.key_ofDocument]
  rw [hkey] at hupdate
  subst hupdate
  refine ⟨key, fields, rfl, hd.known, hkeeps, ?_⟩
  intro v hv
  obtain ⟨u, hu, hval⟩ := hlink v hv
  have hfield := hP.direct key d i vc u hd.stored hdata hu
  exact ⟨P.link u, hval, (hd.linked _).1 hfield⟩

theorem Balanced.press (hP : P.Lawful W) (h : Balanced P W home s) (hid : documentID ∉ s.ids)
    (hf : s.form = some form) (hvc : s.forms[form]? = some vc)
    (hc : s.Clean P (.press documentID now))
    (hs : (if P.uploading vc then some (s.send (.upload form))
      else (P.uploaded documentID now (P.direct vc) vc).map s.sendWrite) = some t) :
    ∃ home', Balanced P W home' t := by
  have hclean : P.adds (P.data vc) = true ∨ P.uploading vc = false := by
    have hc : (s.form.bind (s.forms[·]?)).all (fun vc =>
      P.adds (P.data vc) || !P.uploading vc) = true := hc
    rw [hf, Option.bind_some, hvc, Option.all_some, Bool.or_eq_true, Bool.not_eq_true'] at hc
    exact hc
  split at hs
  · rename_i hup
    cases hs
    have ha := hclean.resolve_right (Bool.not_eq_false _ ▸ hup)
    exact ⟨home, h.send (PictureRequest.inert_not_creating rfl) ⟨vc, hvc, ha⟩⟩
  obtain ⟨write, hw, ht⟩ := Option.map_eq_some_iff.1 hs
  cases ht
  by_cases ha : P.adds (P.data vc) = true
  · rw [hP.direct_adds vc ha] at hw
    obtain ⟨fields, hw', hstored, hfield⟩ := hP.created documentID now none vc ha
    rw [hw] at hw'
    cases hw'
    have hnone : ∀ link', none.map P.link = some link' → link' ∉ s.links := nofun
    exact ⟨_, h.create hid hnone hstored hfield⟩
  · have hshown := (h.forms vc (List.mem_of_getElem? hvc)).resolve_left ha
    obtain ⟨key, fields, hupdate, hk⟩ :=
      Balanced.kept_update hP hshown (Bool.not_eq_true _ ▸ ha) hw
    subst hupdate
    exact ⟨home, h.send (PictureRequest.inert_not_creating rfl) hk⟩

theorem Balanced.uploaded (hP : P.Lawful W) (h : Balanced P W home s)
    (hr : s.requests[i]? = some (.upload form)) (hurl : P.link url ∉ s.links)
    (hid : documentID ∉ s.ids) (hvc : s.forms[form]? = some vc)
    (hw : P.uploaded documentID now (some url) vc = some write) :
    ∃ home', Balanced P W home' (PictureApp.sendWrite { s with
      blobs := P.link url :: s.blobs
      requests := s.requests.eraseIdx i
      links := P.link url :: s.links } write) := by
  obtain ⟨vc', hvc', ha⟩ := h.requests _ (List.mem_of_getElem? hr)
  rw [hvc] at hvc'
  cases hvc'
  obtain ⟨fields, hw', hstored, hfield⟩ := hP.created documentID now (some url) vc ha
  rw [hw] at hw'
  cases hw'
  have hrest : Balanced P W home { s with requests := s.requests.eraseIdx i } :=
    h.answered (perm_cons_eraseIdx hr) rfl h.documents fun key => Iff.rfl
  have hlink : ∀ link', some (P.link url) = some link' → link' ∉ s.links := by
    intro link' he
    cases he
    exact hurl
  exact ⟨_, hrest.create hid hlink hstored hfield⟩

theorem Balanced.serve (hP : P.Lawful W) (h : Balanced P W home s) {request : PictureRequest}
    (hr : s.requests[i]? = some request) (hup : request.isUpload = false) (now : Nat → Int) :
    Balanced P W home
      (PictureApp.serve P { s with requests := s.requests.eraseIdx i } now request) := by
  have hp := perm_cons_eraseIdx hr
  have hkept := h.requests request (List.mem_of_getElem? hr)
  cases request with
  | upload form => cases hup
  | write write =>
    cases write with
    | setData key fields => exact h.created hp
    | updateData key fields =>
      obtain ⟨-, hkeeps, hlink⟩ := hkept
      cases hd : s.documents.doc key with
      | none =>
        have hsame : s.documents.perform (.updateData key fields) = s.documents := by
          rw [Collection.perform, Collection.updateData, hd]
        rw [PictureApp.serve, hsame]
        exact h.answered hp rfl h.documents fun key => Iff.rfl
      | some d =>
        have hupdates := Collection.updates_perform (Option.isSome_iff_exists.2 ⟨d, hd⟩) fields
        have hset : s.documents.perform (.updateData key fields) =
            s.documents.setData key (d.merge fields) := Collection.updateData_of_some hd fields
        have hdoc := h.documents key d hd
        have hsome : ∀ key', ((s.documents.setData key (d.merge fields)).doc key').isSome ↔
            (s.documents.doc key').isSome := by
          intro key'
          rw [← Collection.listed, ← Collection.listed, ← hset, hupdates.ids]
        rw [PictureApp.serve, hset]
        refine h.answered hp rfl (h.documents.setData ?_) hsome
        refine ⟨hkeeps d hdoc.stored, hdoc.known, ?_⟩
        intro link
        rw [← hdoc.linked link, Document.merge]
        cases hl : fields.lookup P.field with
        | none => rw [Option.none_or]
        | some v =>
          obtain ⟨link', hv, hhome⟩ := hlink v hl
          rw [hv, (hdoc.linked link').2 hhome, Option.some_or]
  | delete key => exact h.deleted hp
  | deleteImage link => exact h.deletedImage hp
  | getDocuments =>
    have hrest : Balanced P W home { s with requests := s.requests.eraseIdx i } :=
      h.answered hp rfl h.documents fun key => Iff.rfl
    have hnew : ∀ key, ¬ Creating [.documents s.documents] key :=
      PictureRequest.inert_not_creating rfl
    apply hrest.send hnew
    intro key d hd
    refine ⟨h.documents key d hd, ?_⟩
    intro hc
    exact hrest.not_creating hd ((creating_append hc).resolve_right (hnew key))
  | documents arrData =>
    have hrest : Balanced P W home { s with requests := s.requests.eraseIdx i } :=
      h.answered hp rfl h.documents fun key => Iff.rfl
    apply hrest.screens _ hrest.forms fun i vc hvc => ⟨vc, hvc, rfl⟩
    intro data hm
    obtain ⟨now, ⟨key, d⟩, hd, hdata⟩ := hP.screens.fetch now arrData data hm
    have hfetched := hkept key d (Collection.mem_orderBy.1 hd).1
    exact ⟨now, key, d, ⟨hfetched.1, fun hc => hfetched.2 (creating_rest hp hc)⟩, hdata⟩

theorem Balanced.swipeDelete (hP : P.Lawful W) (h : Balanced P W home s)
    (hrow : s.rows[row]? = some data) (hc : s.Clean P (.swipeDelete row)) :
    Balanced P W home { s with
      requests := s.requests ++
        ((P.erases data).toList.map .deleteImage ++ [.delete (P.key data)])
      rows := s.rows.eraseIdx row } := by
  obtain ⟨now, key, d, ⟨hd, hcreating⟩, hdata⟩ := h.rows data (List.mem_of_getElem? hrow)
  have hkey : P.key data = key := by rw [hdata, hP.screens.key_ofDocument]
  rw [hkey]
  have hpure : ∀ key', ¬ Creating
      ((P.erases data).toList.map .deleteImage ++ [.delete key]) key' := by
    intro key' hcr
    obtain ⟨fields, hm⟩ := hcr
    rcases List.mem_append.1 hm with hm | hm
    · obtain ⟨link, -, he⟩ := List.mem_map.1 hm
      cases he
    · cases List.mem_singleton.1 hm
  have hcreating' : ¬ Creating (s.requests ++
      ((P.erases data).toList.map .deleteImage ++ [.delete key])) key :=
    fun hcr => hcreating ((creating_append hcr).resolve_right (hpure key))
  -- a picture of the document is deleted with it, or is gone already
  have herased : ∀ link, home link = some key → .deleteImage link ∈ s.requests ++
      ((P.erases data).toList.map .deleteImage ++ [.delete key]) ∨ link ∉ s.blobs := by
    intro link hl
    have hfield := (hd.linked link).2 hl
    rcases hc with hcleans | hempty
    · have he := hP.cleans hcleans key d now link hd.stored hfield
      rw [← hdata] at he
      rw [he]
      exact .inl (List.mem_append_right _ List.mem_cons_self)
    · by_cases hb : link ∈ s.blobs
      · obtain ⟨key', hl', he⟩ := h.present link hb
        rw [hl] at hl'
        cases hl'
        rcases he with he | he | he
        · obtain ⟨d', hd'⟩ := Option.isSome_iff_exists.1 he
          have hfield' := ((h.documents key d' hd').linked link).2 hl
          rw [hrow, Option.all_some, hkey, hd', Option.all_some, hfield'] at hempty
          cases hempty
        · exact absurd he hcreating
        · exact .inl (List.mem_append_left _ he)
      · exact .inr hb
  apply h.append hpure _ h.forms fun i vc hvc => ⟨vc, hvc, rfl⟩
  · intro request hm
    rcases List.mem_append.1 hm with hm | hm
    · obtain ⟨link, hl, he⟩ := List.mem_map.1 hm
      subst he
      have he := Option.mem_toList.1 hl
      rw [hdata] at he
      have hfield := hP.erases key d now link hd.stored he
      exact ⟨key, (hd.linked link).1 hfield, hd.known, hcreating',
        .inl (List.mem_append_right _ (List.mem_append_right _ List.mem_cons_self))⟩
    · cases List.mem_singleton.1 hm
      exact ⟨hd.known, hcreating', herased⟩
  · intro data' hm
    exact h.rows data' (List.mem_of_mem_eraseIdx hm)

theorem Balanced.step (hP : P.Lawful W) (h : Balanced P W home s) (hen : s.Enabled P e)
    (hc : s.Clean P e) (hs : PictureApp.step P s e = some t) : ∃ home', Balanced P W home' t := by
  cases e with
  | viewWillAppear =>
    cases hs
    exact ⟨home, h.send (PictureRequest.inert_not_creating rfl) trivial⟩
  | clickAdd now =>
    obtain ⟨vc, ha, ht⟩ := Option.map_eq_some_iff.1 hs
    cases ht
    have hdata := hP.appear _ vc ha
    exact ⟨home, h.push (.inl (hdata ▸ hP.init now))⟩
  | swipeEdit row =>
    obtain ⟨data, hrow, hs⟩ := Option.bind_eq_some_iff.1 hs
    obtain ⟨vc, ha, ht⟩ := Option.bind_eq_some_iff.1 hs
    cases ht
    have hdata := hP.appear _ vc ha
    exact ⟨home, h.push (.inr (hdata ▸ h.rows data (List.mem_of_getElem? hrow)))⟩
  | swipeDelete row =>
    obtain ⟨data, hrow, ht⟩ := Option.bind_eq_some_iff.1 hs
    have hb := h.swipeDelete hP hrow hc
    refine ⟨home, ?_⟩
    cases he : P.erases data with
    | none =>
      rw [he] at ht hb
      cases ht
      exact hb
    | some link =>
      rw [he] at ht hb
      rw [← List.append_assoc] at hb
      cases ht
      exact hb
  | input i =>
    obtain ⟨form, -, hs⟩ := Option.bind_eq_some_iff.1 hs
    obtain ⟨vc, hvc, hs⟩ := Option.bind_eq_some_iff.1 hs
    obtain ⟨vc', hi, ht⟩ := Option.bind_eq_some_iff.1 hs
    cases ht
    exact ⟨home, h.input hP hvc hi⟩
  | press documentID now =>
    obtain ⟨form, hf, hs⟩ := Option.bind_eq_some_iff.1 hs
    obtain ⟨vc, hvc, hs⟩ := Option.bind_eq_some_iff.1 hs
    exact h.press hP hen.2 hf hvc hc hs
  | pop =>
    cases hs
    exact ⟨home, h.screens h.rows h.forms fun i vc hvc => ⟨vc, hvc, rfl⟩⟩
  | uploaded i url documentID now =>
    obtain ⟨-, hurl, hid⟩ := hen
    obtain ⟨request, hr, hs⟩ := Option.bind_eq_some_iff.1 hs
    cases request with
    | upload form =>
      obtain ⟨vc, hvc, hs⟩ := Option.bind_eq_some_iff.1 hs
      obtain ⟨write, hw, ht⟩ := Option.bind_eq_some_iff.1 hs
      cases ht
      exact h.uploaded hP hr hurl hid hvc hw
    | _ => cases hs
  | served i now =>
    obtain ⟨request, hr, ht⟩ := Option.map_eq_some_iff.1 hs
    cases ht
    have hup : s.requests[i]?.any (fun request => !request.isUpload) = true := hen
    rw [hr, Option.any_some, Bool.not_eq_true'] at hup
    exact ⟨home, h.serve hP hr hup now⟩

theorem balanced_of_run (hP : P.Lawful W)
    (h : P.machine.Run (PictureApp.Clean P) PictureApp.launch es s) :
    ∃ home, Balanced P W home s := by
  apply h.invariant (I := fun s => ∃ home, Balanced P W home s) _ ⟨_, Balanced.launch P W⟩
  intro s e t hs hen hc hst
  obtain ⟨home, hs⟩ := hs
  exact hs.step hP hen hc hst

end

abbrev PictureScreens.both (C : Cloud Image URL) := (detailPictures C).machine.par
  (studentPictures C).machine

abbrev PictureApp.BothClean (C : Cloud Image URL) := Machine.Beside
  (PictureApp.Clean (detailPictures C)) (PictureApp.Clean (studentPictures C))

/-- Once no request is in flight, Storage has the pictures that documents refer to. -/
def ImagesKept (C : Cloud Image URL)
    (s : PictureApp Detail (PassDataVC Image) × PictureApp Student (GetDataVc Image)) : Prop :=
  s.1.requests = [] → s.2.requests = [] → ∀ link, link ∈ s.1.blobs ∨ link ∈ s.2.blobs ↔
    s.1.Refers (detailPictures C) link ∨ s.2.Refers (studentPictures C) link

theorem images_kept (C : Cloud Image URL)
    {s : PictureApp Detail (PassDataVC Image) × PictureApp Student (GetDataVc Image)}
    (h : (PictureScreens.both C).Run (PictureApp.BothClean C)
      (PictureApp.launch, PictureApp.launch) es s) : ImagesKept C s := by
  obtain ⟨⟨es₁, hr₁⟩, es₂, hr₂⟩ := h.of_par
  obtain ⟨home₁, hb₁⟩ := balanced_of_run (detailPictures_lawful C) hr₁
  obtain ⟨home₂, hb₂⟩ := balanced_of_run (studentPictures_lawful C) hr₂
  intro hd hs link
  exact or_congr (hb₁.settled hd link) (hb₂.settled hs link)

def keptImages : List (PictureEvent (PassDataVC.Input Bool) { s : String // s ≠ "" } ⊕
    PictureEvent (GetDataVc.Input Bool) { s : String // s ≠ "" }) := [
  .inl (.clickAdd 0), .inl (.input (.editText .nameTxtfd "A")),
  .inl (.input (.imagePickerController 0 true)), .inl (.press "d" 0), .inr (.clickAdd 0),
  .inr (.input (.imagePickerController true)), .inr (.press "s" 0),
  .inr (.uploaded 0 ⟨"Ordered/1.jpg", by decide⟩ "s" 0),
  .inl (.uploaded 0 ⟨"detailimage/2.jpg", by decide⟩ "d" 0), .inr (.served 0 fun _ => 0),
  .inl (.served 0 fun _ => 0), .inl .pop, .inl .viewWillAppear, .inl (.served 0 fun _ => 0),
  .inl (.served 0 fun _ => 0), .inl (.swipeDelete 0), .inl (.served 0 fun _ => 0),
  .inl (.served 0 fun _ => 0)]

theorem images_kept_after_delete : ∃ s, (PictureScreens.both Cloud.device).Run
    (PictureApp.BothClean Cloud.device) (PictureApp.launch, PictureApp.launch) keptImages s ∧
      (s.1.requests = [] ∧ s.2.requests = [] ∧ s.1.blobs = [] ∧ s.2.blobs = ["Ordered/1.jpg"]) ∧
      ImagesKept Cloud.device s := by
  obtain ⟨s, hr, hs⟩ := Machine.run_of_exec (PictureScreens.both Cloud.device)
    (PictureApp.BothClean Cloud.device) (PictureApp.launch, PictureApp.launch) keptImages
    (fun s => s.1.requests.isEmpty && (s.2.requests.isEmpty &&
      decide (s.1.blobs = [] ∧ s.2.blobs = ["Ordered/1.jpg"]))) (by decide +kernel)
  obtain ⟨hd, hs⟩ := Bool.and_eq_true_iff.1 hs
  obtain ⟨hs, hblobs⟩ := Bool.and_eq_true_iff.1 hs
  have hblobs := of_decide_eq_true hblobs
  exact ⟨s, hr, ⟨List.isEmpty_iff.1 hd, List.isEmpty_iff.1 hs, hblobs⟩,
    images_kept Cloud.device hr⟩

def replacedImage : List (PictureEvent (PassDataVC.Input Bool) { s : String // s ≠ "" } ⊕
    PictureEvent (GetDataVc.Input Bool) { s : String // s ≠ "" }) := [
  .inl (.clickAdd 0), .inl (.input (.editText .nameTxtfd "A")),
  .inl (.input (.imagePickerController 0 true)), .inl (.press "d" 0),
  .inl (.uploaded 0 ⟨"detailimage/1.jpg", by decide⟩ "d" 0), .inl (.served 0 fun _ => 0),
  .inl .pop, .inl .viewWillAppear, .inl (.served 0 fun _ => 0), .inl (.served 0 fun _ => 0),
  .inl (.swipeEdit 0), .inl (.input (.imagePickerController 0 true)), .inl (.press "e" 0),
  .inl (.uploaded 0 ⟨"store/2.jpg", by decide⟩ "e" 0), .inl (.served 0 fun _ => 0)]

theorem replaced_image_orphaned : ∃ s, (PictureScreens.both Cloud.device).Run (fun _ _ => True)
    (PictureApp.launch, PictureApp.launch) replacedImage s ∧ ¬ ImagesKept Cloud.device s := by
  obtain ⟨s, hr, hs⟩ := Machine.run_of_exec (PictureScreens.both Cloud.device) (fun _ _ => True)
    (PictureApp.launch, PictureApp.launch) replacedImage
    (fun s => s.1.requests.isEmpty && (s.2.requests.isEmpty &&
      decide ("detailimage/1.jpg" ∈ s.1.blobs ∧
        ¬ (s.1.Refers (detailPictures Cloud.device) "detailimage/1.jpg" ∨
          s.2.Refers (studentPictures Cloud.device) "detailimage/1.jpg")))) (by decide +kernel)
  obtain ⟨hd, hs⟩ := Bool.and_eq_true_iff.1 hs
  obtain ⟨hs, horphan⟩ := Bool.and_eq_true_iff.1 hs
  obtain ⟨hblob, hrefers⟩ := of_decide_eq_true horphan
  refine ⟨s, hr, ?_⟩
  intro h
  have hkept := h (List.isEmpty_iff.1 hd) (List.isEmpty_iff.1 hs) "detailimage/1.jpg"
  exact hrefers (hkept.1 (.inl hblob))

end TrainingDemos.FirebasePractise
