import TrainingDemos.BookStore.SaveLaws

namespace TrainingDemos.BookStore
set_option autoImplicit true

/-- Everything one event can do to the app while the keys of the books are sound. -/
inductive Effect (P : Platform Image Data Time) (s : App Image Data) :
    Event Image Time → App Image Data → Prop where
  | refresh : s.form = none →
      Effect P s (.pullToRefresh fetch) { s with
        list := s.list.getBookRecords s.context.view fetch }
  | openAdd : s.form = none →
      Effect P s .clickAdd { s with form := some AddBookVC.blank, saveLog := [] }
  | openEdit : s.form = none → s.list.arrTblBooks[row]? = some b →
      AddBookVC.setUpdatedData s.context.view allObjects b = some vc →
      Effect P s (.swipeEdit row allObjects) { s with form := some vc, saveLog := [] }
  | delete : s.form = none → s.list.arrTblBooks[row]? = some b →
      s.context.view.books.row b = some book →
      Effect P s (.swipeDelete row fetch save) { s with
        context := Context.save { s.context with view := s.context.view.deleteBook b } save
        list := { s.list with
          arrTblBooks := s.list.arrTblBooks.eraseIdx row, tableRows := s.list.tableRows - 1 } }
  | pick : s.form = some vc →
      Effect P s (.pickImage image timestamp encodes writes) { s with
        form := some (vc.imagePickerController (fileName P timestamp))
        documents := (saveImage P s.documents image timestamp encodes writes).1
        picked := s.picked ++ [(fileName P timestamp, image)] }
  | remove : s.form = some vc → vc.arrImages[index]? = some image →
      Effect P s (.clickDelete index) { s with
        form := some { vc with
          arrUpdatedImages := vc.arrUpdatedImages.erase image
          arrRemoveImages := vc.arrRemoveImages ++ [image]
          arrImages := vc.arrImages.eraseIdx index } }
  | texts : s.form = some vc →
      Effect P s (.editTexts txts0 txts1 txt_desc) { s with
        form := some { vc with txts0 := txts0, txts1 := txts1, txt_desc := txt_desc } }
  | refused : s.form = some vc → ¬ vc.Accepted →
      Effect P s (.clickSave answers) { s with form := some (vc.showAlertWithMsg msg) }
  | added : s.form = some vc → vc.Accepted → vc.bookData = none →
      Effect P s (.clickSave answers) { s with
        context := Context.save { s.context with view := addedView P s.context vc } answers.save
        form := some { vc with alert := a, scheduledPops := n }
        saveLog := s.saveLog ++ [(vc.arrImages, answers.save)] }
  | updated {ctx : Context} : s.form = some vc → vc.Accepted → vc.bookData = some b →
      s.context.view.books.row b = some book →
      Removal (extendedView P s.context vc b) vc.arrRemoveImages gone →
      ctx.view = (extendedView P s.context vc b).dropImages gone →
      Effect P s (.clickSave answers) { s with
        context := ctx.save answers.save
        form := some { vc with alert := a, scheduledPops := n }
        saveLog := s.saveLog ++ [(vc.arrImages, answers.save)] }
  | leave : s.form = some vc → e = .clickBack ∨ e = .popTimer →
      Effect P s e { s with form := none }

inductive SaveEffect (P : Platform Image Data Time) (s : App Image Data) (vc : AddBookVC)
    (answers : SaveAnswers) : App Image Data → Prop where
  | added : vc.bookData = none →
      SaveEffect P s vc answers { s with
        context := Context.save { s.context with view := addedView P s.context vc } answers.save
        form := some { vc with alert := a, scheduledPops := n }
        saveLog := s.saveLog ++ [(vc.arrImages, answers.save)] }
  | updated {ctx : Context} : vc.bookData = some b → s.context.view.books.row b = some book →
      Removal (extendedView P s.context vc b) vc.arrRemoveImages gone →
      ctx.view = (extendedView P s.context vc b).dropImages gone →
      SaveEffect P s vc answers { s with
        context := ctx.save answers.save
        form := some { vc with alert := a, scheduledPops := n }
        saveLog := s.saveLog ++ [(vc.arrImages, answers.save)] }

section
variable {P : Platform Image Data Time} {s t : App Image Data}

theorem Effect.accepted (he : Effect P s (.clickSave answers) t) (hf : s.form = some vc)
    (ha : vc.Accepted) : SaveEffect P s vc answers t := by
  cases he with
  | refused hf' ha' =>
    rw [hf] at hf'
    cases hf'
    exact absurd ha ha'
  | added hf' _ hb =>
    rw [hf] at hf'
    cases hf'
    exact .added hb
  | updated hf' _ hb hbook hr hv =>
    rw [hf] at hf'
    cases hf'
    exact .updated hb hbook hr hv
  | leave _ he => rcases he with he | he <;> cases he

theorem saveImage_snd (P : Platform Image Data Time) (docs : Documents Data) (image : Image)
    (timestamp : Time) (encodes writes : Bool) :
    (saveImage P docs image timestamp encodes writes).2 = fileName P timestamp := by
  simp only [saveImage]
  split
  · cases writes <;> rfl
  · rfl

theorem clickSave_effect (hk : s.context.view.Keyed) (hf : s.form = some vc) (ha : vc.Accepted)
    (h : s.clickSave P answers vc = some t) : Effect P s (.clickSave answers) t := by
  simp only [App.clickSave, clickOnSaveBtn_accepted P (s := (s.context, vc)) ha,
    Option.bind_eq_bind, Option.bind_eq_some_iff, if_pos ha] at h
  obtain ⟨⟨ctx, vc'⟩, hsave, ht⟩ := h
  cases ht
  cases hb : vc.bookData with
  | none =>
    simp only [hb, Option.isSome_none, Bool.false_eq_true, if_false, addBookRecord_eq ha.1,
      Option.some.injEq] at hsave
    obtain ⟨a, n, hvc⟩ := saveAndPop_form "Book Added SuccessFully!" answers.save
      ({ s.context with view := addedView P s.context vc }, vc)
    rw [hsave] at hvc
    have hctx : Context.save { s.context with view := addedView P s.context vc } answers.save =
        ctx := congrArg Prod.fst hsave
    cases hvc
    rw [← hctx]
    exact .added hf ha hb
  | some b =>
    simp only [hb, Option.isSome_some, if_true] at hsave
    obtain ⟨⟨book, hbook⟩, hsave⟩ := updateBookRecord_eq hk hb hsave
    obtain ⟨gone, ctx', hr, hv, he⟩ := saveAndGoBack_spec hsave
    obtain ⟨a, n, hvc⟩ := saveAndPop_form "Book Updated SuccessFully!" answers.save (ctx', vc)
    rw [← he] at hvc
    have hctx : ctx = ctx'.save answers.save := congrArg Prod.fst he
    cases hvc
    rw [hctx]
    exact .updated hf ha hb hbook hr hv

theorem step_effect (hk : s.context.view.Keyed) (hen : s.Enabled e) (h : s.step P e = some t) :
    Effect P s e t := by
  cases e with
  | pullToRefresh fetch =>
    cases h
    exact .refresh hen
  | clickAdd =>
    cases h
    exact .openAdd hen
  | swipeEdit row allObjects =>
    simp only [App.step, Option.bind_eq_bind, Option.bind_eq_some_iff] at h
    obtain ⟨b, hb, vc, hvc, ht⟩ := h
    cases ht
    exact .openEdit hen.1 hb hvc
  | swipeDelete row fetch save =>
    simp only [App.step, Option.bind_eq_bind, Option.bind_eq_some_iff] at h
    obtain ⟨⟨ctx, list⟩, hd, ht⟩ := h
    obtain ⟨b, hb, ⟨book, hbook⟩, hctx, hlist⟩ :=
      deleteAction_eq (s := (s.context, s.list)) hk hd
    cases ht
    cases hctx
    cases hlist
    exact .delete hen.1 hb hbook
  | pickImage image timestamp encodes writes =>
    simp only [App.step, Option.bind_eq_bind, Option.bind_eq_some_iff] at h
    obtain ⟨vc, hvc, ht⟩ := h
    cases ht
    simp only [saveImage_snd]
    exact .pick hvc
  | clickDelete index =>
    simp only [App.step, AddBookVC.clickOnDeleteBtn, Option.bind_eq_bind,
      Option.bind_eq_some_iff] at h
    obtain ⟨vc, hvc, vc', ⟨image, himage, hvc'⟩, ht⟩ := h
    cases hvc'
    cases ht
    exact .remove hvc himage
  | editTexts txts0 txts1 txt_desc =>
    simp only [App.step, Option.bind_eq_bind, Option.bind_eq_some_iff] at h
    obtain ⟨vc, hvc, ht⟩ := h
    cases ht
    exact .texts hvc
  | clickSave answers =>
    simp only [App.step, Option.bind_eq_bind, Option.bind_eq_some_iff] at h
    obtain ⟨vc, hvc, h⟩ := h
    by_cases ha : vc.Accepted
    · exact clickSave_effect hk hvc ha h
    · obtain ⟨msg, hm⟩ := clickOnSaveBtn_refused P (s := (s.context, vc)) ha answers
      simp only [App.clickSave, hm, Option.bind_eq_bind, Option.bind_some, if_neg ha] at h
      cases h
      exact .refused hvc ha
  | clickBack =>
    cases h
    obtain ⟨vc, hvc⟩ := Option.isSome_iff_exists.1 hen
    exact .leave hvc (.inl rfl)
  | popTimer =>
    cases h
    obtain ⟨vc, hvc, -⟩ := hen
    exact .leave hvc (.inr rfl)

theorem run_cons {B : App Image Data → Event Image Time → Prop}
    (h : (bookStore P).Run B s (e :: es) u) : ∃ t, s.Enabled e ∧ B s e ∧ s.step P e = some t ∧
      (bookStore P).Run B t es u := by
  obtain ⟨hen, hb, t, hs, hr⟩ := Machine.Run.cons_iff.1 h
  exact ⟨t, hen, hb, hs, hr⟩

end

end TrainingDemos.BookStore
