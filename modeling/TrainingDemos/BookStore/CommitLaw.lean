import TrainingDemos.BookStore.Stocked

namespace TrainingDemos.BookStore
set_option autoImplicit true

def AddBookVC.record (vc : AddBookVC) : BookRecord :=
  ⟨some vc.txts0, some vc.txts1, some vc.txt_desc, bag vc.arrImages⟩

def Event.Edits : Event Image Time → Prop
  | .pickImage _ _ _ _ | .clickDelete _ | .editTexts _ _ _ => True
  | _ => False

structure SaveAnswers.AllSucceed (answers : SaveAnswers) : Prop where
  fetches : answers.bookFetch.isSome ∧ ∀ k, (answers.imageFetch k).isSome
  imageSaves : ∀ k, answers.imageSave k = true
  save : answers.save = true

theorem SaveAnswers.succeed_allSucceed : SaveAnswers.succeed.AllSucceed :=
  ⟨⟨rfl, fun _ => rfl⟩, fun _ => rfl, rfl⟩

section
variable {P : Platform Image Data Time} {s t : App Image Data} {K : String → Prop}

theorem row_extendedView {ctx : Context} (hb : ctx.view.books.row b = some book) (vc : AddBookVC)
    (gone : Nat → Bool) : ∃ images, ((extendedView P ctx vc b).dropImages gone).books.row b =
      some { rewriteBook P ctx vc b book with book_images := images } := by
  rw [Graph.book_dropImages, extendedView, Graph.book_attach, if_pos rfl, row_rewriteBook hb]
  exact ⟨_, rfl⟩

theorem row_addedView (P : Platform Image Data Time) (ctx : Context) (vc : AddBookVC) : ∃ images,
    (addedView P ctx vc).books.row ctx.view.books.next =
      some { newBook P ctx vc with book_images := images } := by
  rw [addedView, Graph.book_attach, if_pos rfl, Graph.book_insertBook, if_pos rfl]
  exact ⟨_, rfl⟩

theorem shelf_updated (hF : Framed K s) (hA : Accounted s) (hf : s.form = some vc)
    (hb : vc.bookData = some b) (hbook : s.context.view.books.row b = some book)
    (hnew : ∀ u ∈ vc.arrUpdatedImages, ∀ i, ¬ s.context.view.Names i u)
    (hr : Removal (extendedView P s.context vc b) vc.arrRemoveImages gone) :
    ((extendedView P s.context vc b).dropImages gone).shelf =
      Function.update s.context.view.shelf b (some vc.record) := by
  have hsess := hA.session vc b hf hb
  have hs := (hF.sound.extendedView (P := P) hbook vc).dropImages gone
  have hd := (hA.distinct.extendedView (P := P) hsess.updated_nodup hnew b).dropImages gone
  have hnames := hsess.names_saved hF.sound hA.distinct hbook hnew hr
  funext c
  by_cases hc : c = b
  · subst hc
    obtain ⟨images, hrow⟩ := row_extendedView (P := P) hbook vc gone
    rw [Function.update_self, Graph.shelf_eq hs hd hrow (hA.nodup vc hf) hnames]
    rfl
  · rw [Function.update_of_ne hc, (hF.keepsOthers hf hb hbook hr).shelf c hc]

theorem shelf_added (hF : Framed K s) (hA : Accounted s) (hf : s.form = some vc)
    (hnew : ∀ u ∈ vc.arrImages, ∀ i, ¬ s.context.view.Names i u) :
    (addedView P s.context vc).shelf =
      Function.update s.context.view.shelf s.context.view.books.next (some vc.record) := by
  have hs := hF.sound.addedView (P := P) vc
  have hd := hA.distinct.addedView (P := P) (hA.nodup vc hf) hnew
  funext c
  by_cases hc : c = s.context.view.books.next
  · subst hc
    obtain ⟨images, hrow⟩ := row_addedView P s.context vc
    rw [Function.update_self, Graph.shelf_eq hs hd hrow (hA.nodup vc hf) fun u =>
      (names_of_added P s.context vc u).symm]
    rfl
  · rw [Function.update_of_ne hc, shelf_addedView hF.sound vc hc]

theorem sound_of_run {B : App Image Data → Event Image Time → Prop} {store : Graph}
    (hk : store.OwnKeys P) (hs : store.Sound)
    (h : (bookStore P).Run B (App.launch store fetch) es s) :
    Targeted P s ∧ s.context.view.Sound :=
  h.invariant (I := fun s => Targeted P s ∧ s.context.view.Sound)
    (fun _ _ _ hi hen _ hst =>
      ⟨hi.1.step hen hst, hi.2.effect (step_effect hi.1.keys.keyed hen hst)⟩)
    ⟨targeted_launch hk fetch, hs⟩

/-- No name that a Save of the open form would store is stored already. -/
def App.Unsaved (s : App Image Data) : Prop :=
  ∀ vc ∈ s.form, ∀ u ∈ vc.toInsert, ∀ i, ¬ s.context.view.Names i u

structure Editing (P : Platform Image Data Time) (K : String → Prop) (s : App Image Data) : Prop
    extends Tracked P K s where
  unsaved : s.Unsaved

theorem edits_form (he : Effect P s e t) (hin : e.Edits) : t.context = s.context ∧
    ∃ vc vc', s.form = some vc ∧ t.form = some vc' ∧ vc'.bookData = vc.bookData := by
  cases he with
  | pick hf => exact ⟨rfl, _, _, hf, rfl, rfl⟩
  | remove hf _ => exact ⟨rfl, _, _, hf, rfl, rfl⟩
  | texts hf => exact ⟨rfl, _, _, hf, rfl, rfl⟩
  | leave _ he => rcases he with rfl | rfl <;> cases hin
  | _ => cases hin

theorem toInsert_pick (vc : AddBookVC) (h : u ∈ (vc.imagePickerController imgName).toInsert) :
    u ∈ vc.toInsert ∨ u = imgName := by
  simp only [AddBookVC.toInsert, AddBookVC.imagePickerController] at h ⊢
  split at h <;> rename_i hb
  · rw [if_pos hb]
    exact (List.mem_append.1 h).imp_right List.mem_singleton.1
  · rw [if_neg hb]
    exact (List.mem_append.1 h).imp_right List.mem_singleton.1

theorem App.Unsaved.edit (h : s.Unsaved) (hF : Framed K s) (he : Effect P s e t) (hin : e.Edits)
    (hpick : s.NewPick P K e) : t.Unsaved := by
  cases he with
  | @pick vc image timestamp encodes writes hf =>
    intro vc' h₀ u hu i hn
    cases h₀
    rcases toInsert_pick vc hu with hu | rfl
    · exact h vc hf u hu i hn
    · exact hpick (hF.stored i _ hn)
  | @remove vc index image hf _ =>
    intro vc' h₀ u hu
    cases h₀
    apply h vc hf u
    simp only [AddBookVC.toInsert] at hu ⊢
    split at hu <;> rename_i hb
    · rw [if_pos hb]
      exact List.mem_of_mem_erase hu
    · rw [if_neg hb]
      exact List.mem_of_mem_eraseIdx hu
  | texts hf =>
    intro vc' h₀ u hu
    cases h₀
    exact h _ hf u hu
  | leave _ he => rcases he with rfl | rfl <;> cases hin
  | _ => cases hin

theorem App.Unsaved.savesNew (h : s.Unsaved) (e : Event Image Time) : s.SavesNew e := by
  cases e with
  | clickSave => exact fun vc hvc _ => h vc hvc
  | _ => trivial

theorem Editing.effect (h : Editing P K s) (he : Effect P s e t) (hin : e.Edits)
    (hpick : s.NewPick P K e) : Editing P K t where
  toTracked := h.toTracked.effect he hpick (h.unsaved.savesNew e)
  unsaved := h.unsaved.edit h.framed he hin hpick

theorem Editing.run (hrun : (bookStore P).Run (fun s e => s.NewPick P K e ∧ e.Edits) s visit t)
    (h : Editing P K s) (hf : s.form = some vc) : Editing P K t ∧ t.context = s.context ∧
      ∃ vc', t.form = some vc' ∧ vc'.bookData = vc.bookData := by
  induction hrun generalizing vc with
  | nil => exact ⟨h, rfl, vc, hf, rfl⟩
  | cons hen hB hs hr ih =>
    have he := step_effect h.targeted.keys.keyed hen hs
    obtain ⟨hctx, vc₀, vc₁, hf₀, hf₁, hd⟩ := edits_form he hB.2
    rw [hf] at hf₀
    cases hf₀
    obtain ⟨ht, hctx', vc', hf', hd'⟩ := ih (h.effect he hB.2 hB.1) hf₁
    exact ⟨ht, hctx'.trans hctx, vc', hf', hd'.trans hd⟩

theorem framed_of_distinct (hs : s.context.view.Sound) (hd : s.context.view.Distinct)
    (hf : s.form = none) : Framed (fun u => ∃ i, s.context.view.Names i u) s ∧ Accounted s := by
  refine ⟨⟨hs, ?_, fun i u hn => .inl ⟨i, hn⟩, ?_, ?_⟩, ⟨hd, ?_, ?_⟩⟩
  · intro i j u b hi hj ho
    rw [← hd i j u hi hj]
    exact ho
  · intro vc u hvc
    rw [hf] at hvc
    cases hvc
  · intro vc b u i hvc
    rw [hf] at hvc
    cases hvc
  · intro vc hvc
    rw [hf] at hvc
    cases hvc
  · intro vc b hvc
    rw [hf] at hvc
    cases hvc

theorem Editing.of_open (h : Tracked P K s) (he : Effect P s e t)
    (hopen : e = .clickAdd ∨ ∃ row allObjects, e = .swipeEdit row allObjects) : Editing P K t := by
  have hpick : s.NewPick P K e := by
    rcases hopen with rfl | ⟨row, allObjects, rfl⟩ <;> trivial
  have hnew : s.SavesNew e := by
    rcases hopen with rfl | ⟨row, allObjects, rfl⟩ <;> trivial
  refine ⟨h.effect he hpick hnew, ?_⟩
  rcases hopen with rfl | ⟨row, allObjects, rfl⟩
  · cases he with
    | openAdd =>
      intro vc h₀ u hu
      cases h₀
      cases hu
    | leave _ he => rcases he with he | he <;> cases he
  · cases he with
    | openEdit _ _ hvc =>
      obtain ⟨book, -, hdata, hupd, -, -⟩ := setUpdatedData_spec hvc
      intro vc' h₀ u hu
      cases h₀
      rw [AddBookVC.toInsert, hdata, hupd] at hu
      cases hu
    | leave _ he => rcases he with he | he <;> cases he

theorem Targeted.clickSave_isSome (h : Targeted P s) (hf : s.form = some vc) (ha : vc.Accepted)
    {answers : SaveAnswers}
    (hfetch : answers.bookFetch.isSome ∧ ∀ k, (answers.imageFetch k).isSome) :
    ∃ t, s.step P (.clickSave answers) = some t := by
  simp only [App.step, hf, App.clickSave, clickOnSaveBtn_accepted P (s := (s.context, vc)) ha,
    Option.bind_eq_bind, Option.bind_some]
  cases hb : vc.bookData with
  | none =>
    simp only [Option.isSome_none, Bool.false_eq_true, if_false, addBookRecord_eq ha.1,
      Option.bind_some]
    exact ⟨_, rfl⟩
  | some b =>
    obtain ⟨s', hs', -⟩ := h.updateBookRecord hf hb hfetch
    simp only [Option.isSome_some, if_true, hs', Option.bind_some]
    exact ⟨_, rfl⟩

/-- A completely successful Save commits the record of its form. -/
structure Commits (s : App Image Data) (vc : AddBookVC) (b : Nat) (t : App Image Data) : Prop where
  shelf : t.context.view.shelf = Function.update s.context.view.shelf b (some vc.record)
  owned : ∀ i image, t.context.view.images.row i = some image → ∃ c, t.context.view.Owns c i
  stored : t.context.store = t.context.view

theorem Editing.commits (h : Editing P K s) (hf : s.form = some vc) (ha : vc.Accepted)
    {answers : SaveAnswers} (hans : answers.AllSucceed) :
    ∃ t, s.step P (.clickSave answers) = some t ∧
      Commits s vc (vc.bookData.getD s.context.view.books.next) t := by
  obtain ⟨t, ht⟩ := h.targeted.clickSave_isSome hf ha hans.fetches
  have hen : s.Enabled (.clickSave answers : Event Image Time) := by
    simp only [App.Enabled, hf, Option.isSome_some]
  have he := step_effect h.targeted.keys.keyed hen ht
  have hs := h.framed.sound.effect he
  have hnew := h.unsaved vc hf
  refine ⟨t, ht, ?_, hs.owned, ?_⟩
  · cases he.accepted hf ha with
    | added hb =>
      rw [AddBookVC.toInsert, hb] at hnew
      rw [Context.view_save, hb, shelf_added h.framed h.accounted hf hnew, Option.getD_none]
    | updated hb hbook hr hv =>
      rw [AddBookVC.toInsert, hb] at hnew
      rw [Context.view_save, hv, hb, shelf_updated h.framed h.accounted hf hb hbook hnew hr,
        Option.getD_some]
  · cases he.accepted hf ha with
    | added => rw [hans.save, Context.store_save_true, Context.view_save]
    | updated => rw [hans.save, Context.store_save_true, Context.view_save]

/-- Any picks and deletions, and one successful Save of a valid form, commit what it shows. -/
theorem session_commits (P : Platform Image Data Time) {store : Graph} (hk : store.OwnKeys P)
    (hsound : store.Sound)
    (hrun : (bookStore P).Run (fun _ _ => True) (App.launch store fetch) es s)
    (hd : s.context.view.Distinct) (hen : s.Enabled e) (hstep : s.step P e = some s')
    (hvisit : (bookStore P).Run (fun s' e =>
      s'.NewPick P (fun u => ∃ i, s.context.view.Names i u) e ∧ e.Edits) s' visit u)
    (hf : u.form = some vc) (ha : vc.Accepted) {answers : SaveAnswers} (hans : answers.AllSucceed) :
    (∀ row allObjects b, e = .swipeEdit row allObjects → s.list.arrTblBooks[row]? = some b →
      ∃ t, u.step P (.clickSave answers) = some t ∧ Commits s vc b t) ∧
    (e = .clickAdd → s.context.view.books.row s.context.view.books.next = none ∧
      ∃ t, u.step P (.clickSave answers) = some t ∧ Commits s vc s.context.view.books.next t) := by
  obtain ⟨hT, hS⟩ := sound_of_run hk hsound hrun
  have he := step_effect hT.keys.keyed hen hstep
  have hcommit {vc' : AddBookVC}
      (hopen : e = .clickAdd ∨ ∃ row allObjects, e = .swipeEdit row allObjects)
      (hnone : s.form = none) (hctx : s'.context = s.context) (hf' : s'.form = some vc') :
      ∃ t, u.step P (.clickSave answers) = some t ∧
        Commits s vc (vc'.bookData.getD s.context.view.books.next) t := by
    obtain ⟨hF, hA⟩ := framed_of_distinct hS hd hnone
    obtain ⟨hu, hctx', vc₁, hf₁, hb₁⟩ := Editing.run hvisit (.of_open ⟨hT, hF, hA⟩ he hopen) hf'
    rw [hf] at hf₁
    cases hf₁
    obtain ⟨t, ht, hc⟩ := hu.commits hf ha hans
    rw [hb₁] at hc
    have hsame : u.context = s.context := hctx'.trans hctx
    refine ⟨t, ht, ?_, hc.owned, hc.stored⟩
    rw [← hsame]
    exact hc.shelf
  refine ⟨?_, ?_⟩
  · intro row allObjects b h₀ hrow
    subst h₀
    cases he with
    | openEdit hnone hrow' hvc =>
      rw [hrow] at hrow'
      cases hrow'
      have hc := hcommit (.inr ⟨_, _, rfl⟩) hnone rfl rfl
      rw [(setUpdatedData_bookData hvc).1] at hc
      exact hc
    | leave _ he => rcases he with he | he <;> cases he
  · intro h₀
    subst h₀
    refine ⟨Table.row_next _, ?_⟩
    cases he with
    | openAdd hnone => exact hcommit (.inl rfl) hnone rfl rfl
    | leave _ he => rcases he with he | he <;> cases he

theorem session_commits_replaced : ∃ s s' u vc t,
    (bookStore .device).Run (fun _ _ => True) (App.launch Graph.empty (some .asStored))
      addedOnce s ∧
    s.step .device (.swipeEdit 0 .asStored) = some s' ∧
    (bookStore .device).Run
      (fun s' e => s'.NewPick .device (fun u => ∃ i, s.context.view.Names i u) e ∧ e.Edits)
      s' [.clickDelete 0, .pickImage 8 2 true true] u ∧
    u.form = some vc ∧ u.step .device (.clickSave .succeed) = some t ∧ Commits s vc 0 t := by
  have h : ((bookStore .device).exec (fun _ _ => True)
      (App.launch Graph.empty (some .asStored)) addedOnce).any (fun s =>
        decide (s.context.view.Distinct ∧ s.list.arrTblBooks[0]? = some 0 ∧
          s.Enabled (.swipeEdit 0 .asStored : Event Nat Nat)) &&
        (s.step .device (.swipeEdit 0 .asStored)).any fun s' =>
          ((bookStore .device).exec (fun s' e =>
            s'.NewPick .device (fun u => ∃ i, s.context.view.Names i u) e)
            s' [.clickDelete 0, .pickImage 8 2 true true]).any fun u =>
              u.form.any fun vc => decide vc.Accepted) = true := by
    decide +kernel
  obtain ⟨s, hs, hp⟩ := Machine.exec_any h
  obtain ⟨hstart, hp⟩ := Bool.and_eq_true_iff.1 hp
  obtain ⟨hd, hrow, hen⟩ := of_decide_eq_true hstart
  obtain ⟨s', hs', hp⟩ := (Option.any_eq_true _ _).1 hp
  obtain ⟨u, hu, hp⟩ := Machine.exec_any hp
  obtain ⟨vc, hf, ha⟩ := (Option.any_eq_true _ _).1 hp
  have hvisit := hu.with_events (C := Event.Edits) (by simp [Event.Edits])
  obtain ⟨t, ht, hc⟩ := (session_commits .device (Graph.ownKeys_empty _) Graph.sound_empty hs hd hen
    hs' hvisit hf (of_decide_eq_true ha) SaveAnswers.succeed_allSucceed).1 0 .asStored 0 rfl hrow
  exact ⟨s, s', u, vc, t, hs, hs', hvisit, hf, ht, hc⟩

end

end TrainingDemos.BookStore
