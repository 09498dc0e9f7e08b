import TrainingDemos.BookStore.Frame

namespace TrainingDemos.BookStore
set_option autoImplicit true

def AddBookVC.toInsert (vc : AddBookVC) : List String :=
  if vc.bookData.isSome then vc.arrUpdatedImages else vc.arrImages

/-- The shown names of an Edit form and its two side lists account for the images of its book. -/
structure EditSession (g : Graph) (b : Nat) (vc : AddBookVC) : Prop where
  updated_nodup : vc.arrUpdatedImages.Nodup
  updated_shown : ∀ u ∈ vc.arrUpdatedImages, u ∈ vc.arrImages
  removed : ∀ u ∈ vc.arrRemoveImages, u ∉ vc.arrImages
  shown : ∀ u ∈ vc.arrImages, u ∈ vc.arrUpdatedImages ∨ ∃ i, g.Owns b i ∧ g.Names i u
  kept : ∀ i u, g.Owns b i → g.Names i u → u ∈ vc.arrImages ∨ u ∈ vc.arrRemoveImages

namespace EditSession
variable {g : Graph} {vc : AddBookVC}

theorem of_opened (h : AddBookVC.setUpdatedData g order b = some vc) : EditSession g b vc := by
  obtain ⟨book, -, -, hupd, hrem, -⟩ := setUpdatedData_spec h
  have hmem := setUpdatedData_mem h
  refine ⟨?_, ?_, ?_, ?_, ?_⟩
  · rw [hupd]
    exact List.nodup_nil
  · rw [hupd]
    exact fun u hu => absurd hu List.not_mem_nil
  · rw [hrem]
    exact fun u hu => absurd hu List.not_mem_nil
  · exact fun u hu => .inr ((hmem u).1 hu)
  · exact fun i u ho hn => .inl ((hmem u).2 ⟨i, ho, hn⟩)

theorem pick (h : EditSession g b vc) (hb : vc.bookData = some b) (hu : ¬ vc.Mentions u) :
    EditSession g b (vc.imagePickerController u) := by
  simp only [AddBookVC.Mentions, not_or] at hu
  simp only [AddBookVC.imagePickerController, hb, Option.isSome_some, if_true]
  refine ⟨?_, ?_, ?_, ?_, ?_⟩
  · simpa only [List.concat_eq_append] using h.updated_nodup.concat hu.2.1
  · intro v hv
    rcases List.mem_append.1 hv with hv | hv
    · exact List.mem_append_left _ (h.updated_shown v hv)
    · exact List.mem_append_right _ hv
  · intro v hv hv'
    rcases List.mem_append.1 hv' with hv' | hv'
    · exact h.removed v hv hv'
    · rw [List.mem_singleton] at hv'
      exact hu.2.2 (hv' ▸ hv)
  · intro v hv
    rcases List.mem_append.1 hv with hv | hv
    · exact (h.shown v hv).imp_left (List.mem_append_left _)
    · exact .inl (List.mem_append_right _ hv)
  · intro i v ho hn
    exact (h.kept i v ho hn).imp_left (List.mem_append_left _)

theorem remove (h : EditSession g b vc) (hd : vc.arrImages.Nodup)
    (hi : vc.arrImages[index]? = some image) :
    EditSession g b { vc with
      arrUpdatedImages := vc.arrUpdatedImages.erase image
      arrRemoveImages := vc.arrRemoveImages ++ [image]
      arrImages := vc.arrImages.eraseIdx index } := by
  have hshown (u : String) : u ∈ vc.arrImages.eraseIdx index ↔ u ≠ image ∧ u ∈ vc.arrImages := by
    rw [eraseIdx_eq_erase hd hi]
    exact hd.mem_erase_iff
  refine ⟨h.updated_nodup.erase _, ?_, ?_, ?_, ?_⟩
  · intro u hu
    obtain ⟨hne, hu⟩ := h.updated_nodup.mem_erase_iff.1 hu
    exact (hshown u).2 ⟨hne, h.updated_shown u hu⟩
  · intro u hu hu'
    obtain ⟨hne, hu'⟩ := (hshown u).1 hu'
    rcases List.mem_append.1 hu with hu | hu
    · exact h.removed u hu hu'
    · exact hne (List.mem_singleton.1 hu)
  · intro u hu
    obtain ⟨hne, hu⟩ := (hshown u).1 hu
    exact (h.shown u hu).imp_left fun hu' => h.updated_nodup.mem_erase_iff.2 ⟨hne, hu'⟩
  · intro i u ho hn
    by_cases he : u = image
    · exact .inr (List.mem_append_right _ (List.mem_singleton.2 he))
    · rcases h.kept i u ho hn with hu | hu
      · exact .inl ((hshown u).2 ⟨he, hu⟩)
      · exact .inr (List.mem_append_left _ hu)

theorem congr (h : EditSession g b vc) (hi : vc'.arrImages = vc.arrImages)
    (hu : vc'.arrUpdatedImages = vc.arrUpdatedImages)
    (hr : vc'.arrRemoveImages = vc.arrRemoveImages) : EditSession g b vc' := by
  refine ⟨hu ▸ h.updated_nodup, ?_, ?_, ?_, ?_⟩
  · rw [hu, hi]
    exact h.updated_shown
  · rw [hr, hi]
    exact h.removed
  · rw [hi, hu]
    exact h.shown
  · rw [hi, hr]
    exact h.kept

theorem of_names (h : EditSession g b vc)
    (hnames : ∀ u, u ∈ vc.arrImages ↔ ∃ i, g'.Owns b i ∧ Graph.Names g' i u) :
    EditSession g' b vc where
  updated_nodup := h.updated_nodup
  updated_shown := h.updated_shown
  removed := h.removed
  shown u hu := .inr ((hnames u).1 hu)
  kept i u ho hn := .inl ((hnames u).2 ⟨i, ho, hn⟩)

end EditSession

theorem Removal.gone_iff {g : Graph} (h : Removal g us gone) (hd : g.Distinct) (i : Nat) :
    gone i = true ↔ ∃ u ∈ us, g.Names i u := by
  refine ⟨h.named i, ?_⟩
  intro h₀
  obtain ⟨u, hu, hn⟩ := h₀
  obtain ⟨j, hj, hnj⟩ := h.covers u hu i hn
  rw [hd i j u hn hnj]
  exact hj

section
variable {P : Platform Image Data Time} {ctx : Context} {vc : AddBookVC}

theorem Graph.Distinct.addedView (hd : ctx.view.Distinct) (hn : vc.arrImages.Nodup)
    (hnew : ∀ u ∈ vc.arrImages, ∀ i, ¬ ctx.view.Names i u) : (addedView P ctx vc).Distinct :=
  Graph.Distinct.attach (g := ctx.view.insertBook (newBook P ctx vc)) hd (imageRow_img_url P ctx _)
    hn hnew _

theorem Graph.Distinct.extendedView (hd : ctx.view.Distinct) (hn : vc.arrUpdatedImages.Nodup)
    (hnew : ∀ u ∈ vc.arrUpdatedImages, ∀ i, ¬ ctx.view.Names i u) (b : Nat) :
    (extendedView P ctx vc b).Distinct :=
  Graph.Distinct.attach (g := ctx.view.modifyBook b (rewriteBook P ctx vc b)) hd
    (imageRow_img_url P ctx _) hn hnew _

theorem EditSession.names_saved (h : EditSession ctx.view b vc) (hs : ctx.view.Sound)
    (hd : ctx.view.Distinct) (hbook : ctx.view.books.row b = some book)
    (hnew : ∀ u ∈ vc.arrUpdatedImages, ∀ i, ¬ ctx.view.Names i u)
    (hr : Removal (extendedView P ctx vc b) vc.arrRemoveImages gone) (u : String) :
    u ∈ vc.arrImages ↔ ∃ i, ((extendedView P ctx vc b).dropImages gone).Owns b i ∧
      ((extendedView P ctx vc b).dropImages gone).Names i u := by
  have hd' := hd.extendedView (P := P) h.updated_nodup hnew b
  have hext := names_of_extended (P := P) hs vc hbook u
  simp only [Graph.owns_dropImages, Graph.names_dropImages]
  constructor
  · intro hu
    obtain ⟨i, ho, hn⟩ := hext.2 (h.shown u hu)
    have hg : gone i = false := by
      rw [← Bool.not_eq_true, hr.gone_iff hd']
      intro h₀
      obtain ⟨v, hv, hnv⟩ := h₀
      exact h.removed v hv (hn.unique hnv ▸ hu)
    exact ⟨i, ⟨ho, hg⟩, hn, hg⟩
  · intro h₀
    obtain ⟨i, ⟨ho, hg⟩, hn, -⟩ := h₀
    have hkeep : u ∉ vc.arrRemoveImages := by
      intro hu
      rw [(hr.gone_iff hd' i).2 ⟨u, hu, hn⟩] at hg
      cases hg
    rcases hext.1 ⟨i, ho, hn⟩ with hu | ⟨j, hoj, hnj⟩
    · exact h.updated_shown u hu
    · exact (h.kept j u hoj hnj).resolve_right hkeep

namespace App

/-- A Save inserts only file names that no image has. -/
def SavesNew (s : App Image Data) : Event Image Time → Prop
  | .clickSave _ => ∀ vc ∈ s.form, vc.Accepted → ∀ u ∈ vc.toInsert, ∀ i, ¬ s.context.view.Names i u
  | _ => True

instance (s : App Image Data) : (e : Event Image Time) → Decidable (s.SavesNew e)
  | .clickSave _ => inferInstanceAs (Decidable (∀ vc ∈ s.form, vc.Accepted → ∀ u ∈ vc.toInsert,
      ∀ i, ¬ s.context.view.Names i u))
  | .pullToRefresh _ | .clickAdd | .swipeEdit _ _ | .swipeDelete _ _ _ | .pickImage _ _ _ _
  | .clickDelete _ | .editTexts _ _ _ | .clickBack | .popTimer => inferInstanceAs (Decidable True)

theorem SavesNew.addsNew {s : App Image Data} {e : Event Image Time} (h : s.SavesNew e) :
    s.AddsNew e := by
  cases e with
  | clickSave answers =>
    intro vc hvc ha hb
    have hv := h vc hvc ha
    rw [AddBookVC.toInsert, hb] at hv
    exact hv
  | _ => trivial

end App

variable {s t : App Image Data} {K : String → Prop}

structure Accounted (s : App Image Data) : Prop where
  distinct : s.context.view.Distinct
  nodup : ∀ vc, s.form = some vc → vc.arrImages.Nodup
  session : ∀ vc b, s.form = some vc → vc.bookData = some b → EditSession s.context.view b vc

theorem Accounted.sameLists (h : Accounted s) (hv : t.context.view = s.context.view)
    (hf : ∀ vc', t.form = some vc' → ∃ vc, s.form = some vc ∧ vc'.bookData = vc.bookData ∧
      vc'.arrImages = vc.arrImages ∧ vc'.arrUpdatedImages = vc.arrUpdatedImages ∧
      vc'.arrRemoveImages = vc.arrRemoveImages) : Accounted t where
  distinct := hv ▸ h.distinct
  nodup vc' hvc := by
    obtain ⟨vc, hs, -, hi, -⟩ := hf vc' hvc
    exact hi ▸ h.nodup vc hs
  session vc' b hvc hb := by
    obtain ⟨vc, hs, hd, hi, hu, hr⟩ := hf vc' hvc
    rw [hv]
    exact (h.session vc b hs (hd ▸ hb)).congr hi hu hr

theorem Accounted.of_form (hd : t.context.view.Distinct) (hf : t.form = some vc)
    (hn : vc.arrImages.Nodup)
    (hs : ∀ b, vc.bookData = some b → EditSession t.context.view b vc) : Accounted t where
  distinct := hd
  nodup vc' hvc := by
    rw [hf] at hvc
    cases hvc
    exact hn
  session vc' b hvc hb := by
    rw [hf] at hvc
    cases hvc
    exact hs b hb

theorem Accounted.of_closed (hd : t.context.view.Distinct) (hf : t.form = none) : Accounted t where
  distinct := hd
  nodup vc hvc := by
    rw [hf] at hvc
    cases hvc
  session vc b hvc hb := by
    rw [hf] at hvc
    cases hvc

theorem Accounted.effect (h : Accounted s) (hF : Framed K s) (he : Effect P s e t)
    (hpick : s.NewPick P K e) (hnew : s.SavesNew e) : Accounted t := by
  cases he with
  | refresh hf => exact h.sameLists rfl fun vc' hvc => ⟨vc', hvc, rfl, rfl, rfl, rfl⟩
  | openAdd hf =>
    refine .of_form h.distinct rfl List.nodup_nil ?_
    intro b hb
    cases hb
  | @openEdit row b allObjects vc hf hrow hvc =>
    obtain ⟨book, hbook, hdata, -, -, hp⟩ := setUpdatedData_spec hvc
    have hn := hp.nodup_iff.1 (Graph.nodup_urls hF.sound h.distinct hbook)
    refine .of_form h.distinct rfl (List.Nodup.of_map _ hn) ?_
    intro c hc
    rw [hdata] at hc
    cases hc
    exact .of_opened hvc
  | @delete row b book fetch save hf hrow hbook =>
    refine .of_closed ?_ hf
    rw [Context.view_save]
    exact h.distinct.deleteBook b
  | @pick vc image timestamp encodes writes hf =>
    have hm : ¬ vc.Mentions (fileName P timestamp) := fun hu => hpick (hF.shown vc _ hf hu)
    have hn := (h.nodup vc hf).concat fun hu => hm (.inl hu)
    rw [List.concat_eq_append] at hn
    refine .of_form h.distinct rfl hn ?_
    intro b hb
    exact (h.session vc b hf hb).pick hb hm
  | @remove vc index image hf hi =>
    refine .of_form h.distinct rfl ((h.nodup vc hf).eraseIdx _) ?_
    intro b hb
    exact (h.session vc b hf hb).remove (h.nodup vc hf) hi
  | texts hf =>
    refine h.sameLists rfl ?_
    intro vc' h₀
    cases h₀
    exact ⟨_, hf, rfl, rfl, rfl, rfl⟩
  | refused hf _ =>
    refine h.sameLists rfl ?_
    intro vc' h₀
    cases h₀
    exact ⟨_, hf, rfl, rfl, rfl, rfl⟩
  | @added vc answers a n hf ha hb =>
    have hnew' := hnew vc hf ha
    rw [AddBookVC.toInsert, hb] at hnew'
    refine .of_form ?_ rfl (h.nodup vc hf) ?_
    · rw [Context.view_save]
      exact h.distinct.addedView (h.nodup vc hf) hnew'
    · intro b hb'
      rw [hb] at hb'
      cases hb'
  | @updated vc b book gone answers a n ctx hf ha hb hbook hr hv =>
    have hnew' := hnew vc hf ha
    rw [AddBookVC.toInsert, hb] at hnew'
    have hsess := h.session vc b hf hb
    have hview : (ctx.save answers.save).view = (extendedView P s.context vc b).dropImages gone :=
      (Context.view_save _ _).trans hv
    refine .of_form ?_ rfl (h.nodup vc hf) ?_
    · rw [hview]
      exact (h.distinct.extendedView hsess.updated_nodup hnew' b).dropImages gone
    · intro c hc
      rw [hb] at hc
      cases hc
      rw [hview]
      have hnames := hsess.names_saved hF.sound h.distinct hbook hnew' hr
      exact (hsess.of_names hnames).congr rfl rfl rfl
  | leave hf _ => exact .of_closed h.distinct rfl

structure Tracked (P : Platform Image Data Time) (K : String → Prop) (s : App Image Data) :
    Prop where
  targeted : Targeted P s
  framed : Framed K s
  accounted : Accounted s

theorem Tracked.effect (h : Tracked P K s) (he : Effect P s e t) (hpick : s.NewPick P K e)
    (hnew : s.SavesNew e) : Tracked P K t where
  targeted := h.targeted.effect he
  framed := h.framed.effect he hpick hnew.addsNew
  accounted := h.accounted.effect h.framed he hpick hnew

theorem Tracked.step (h : Tracked P K s) (hen : s.Enabled e) (hpick : s.NewPick P K e)
    (hnew : s.SavesNew e) (hs : s.step P e = some t) : Tracked P K t :=
  h.effect (step_effect h.targeted.keys.keyed hen hs) hpick hnew

theorem tracked_launch (P : Platform Image Data Time) (fetch : Fetch) :
    Tracked P (fun _ => False) (App.launch Graph.empty fetch : App Image Data) where
  targeted := targeted_launch (Graph.ownKeys_empty P) fetch
  framed := framed_launch fetch
  accounted := by
    constructor
    · intro i j u hi
      obtain ⟨image, hi, -⟩ := hi
      cases hi
    · intro vc hvc
      cases hvc
    · intro vc b hvc
      cases hvc

theorem tracked_of_run (h : (bookStore P).Run (fun s e => s.FreshPick P e ∧ s.SavesNew e)
    (App.launch Graph.empty fetch) es s) : Tracked P (fun _ => False) s :=
  h.invariant (fun _ _ _ hi hen hB hs => hi.step hen hB.1.newPick hB.2 hs) (tracked_launch P fetch)

end

end TrainingDemos.BookStore
