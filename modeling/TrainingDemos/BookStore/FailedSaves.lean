import TrainingDemos.BookStore.Targeting

namespace TrainingDemos.BookStore
set_option autoImplicit true

/-- The same fetches, with all saves succeeding or all of them throwing. -/
def SaveAnswers.withSaves (answers : SaveAnswers) (succeed : Bool) : SaveAnswers :=
  { answers with imageSave := fun _ => succeed, save := succeed }

namespace Event

def withSaves (succeed : Bool) : Event Image Time → Event Image Time
  | .swipeDelete row fetch _ => .swipeDelete row fetch succeed
  | .clickSave answers => .clickSave (answers.withSaves succeed)
  | e => e

def SaveSucceeds : Event Image Time → Prop
  | .swipeDelete _ _ save => save = true
  | .clickSave answers => answers.save = true
  | _ => False

end Event

def App.Mutates (s : App Image Data) : Event Image Time → Prop
  | .swipeDelete _ _ _ => True
  | .clickSave _ => ∃ vc ∈ s.form, vc.Accepted
  | _ => False

section
variable {P : Platform Image Data Time} {s t : App Image Data}

theorem removeImages_view {answers answers' : SaveAnswers}
    (hf : answers'.imageFetch = answers.imageFetch) (b k : Nat) (us : List String)
    {ctx ctx' : Context} (hv : ctx'.view = ctx.view) :
    (removeImages answers' b k us ctx').map Context.view =
      (removeImages answers b k us ctx).map Context.view := by
  induction us generalizing k ctx ctx' with
  | nil => simp only [removeImages, Option.map_some, hv]
  | cons u us ih =>
    simp only [removeImages, hf, hv, Option.bind_eq_bind]
    cases Fetch.answer (answers.imageFetch k) (ctx.view.imagesWithURL u) with
    | none => rfl
    | some getData =>
      simp only [Option.bind_some]
      cases getData with
      | nil => exact ih _ hv
      | cons img rest => exact ih _ (by simp only [Context.view_save])

theorem saveAndGoBack_view {answers answers' : SaveAnswers}
    (hf : answers'.imageFetch = answers.imageFetch) (s : Screen) :
    (saveAndGoBack answers' s).map (fun s => s.1.view) =
      (saveAndGoBack answers s).map (fun s => s.1.view) := by
  simp only [saveAndGoBack, Option.bind_eq_bind]
  cases s.2.bookData with
  | none => rfl
  | some b =>
    have hr : (removeImages answers' b 0 s.2.arrRemoveImages s.1).map Context.view =
        (removeImages answers b 0 s.2.arrRemoveImages s.1).map Context.view :=
      removeImages_view hf b 0 _ rfl
    simp only [Option.bind_some]
    cases h : removeImages answers b 0 s.2.arrRemoveImages s.1 with
    | none =>
      rw [h, Option.map_none, Option.map_eq_none_iff] at hr
      rw [hr]
      rfl
    | some ctx =>
      rw [h, Option.map_some, Option.map_eq_some_iff] at hr
      obtain ⟨ctx', hctx', hv⟩ := hr
      simp only [hctx', Option.bind_some, Option.map_some, saveAndPop, Context.view_save, hv]

theorem map_bind_congr {x : Option α} {f g : α → Option β} {m : β → γ}
    (h : ∀ a, (f a).map m = (g a).map m) : (x.bind f).map m = (x.bind g).map m := by
  cases x with
  | none => rfl
  | some a => exact h a

theorem updateBookRecord_view {answers answers' : SaveAnswers}
    (hb : answers'.bookFetch = answers.bookFetch) (hf : answers'.imageFetch = answers.imageFetch)
    (s : Screen) :
    (updateBookRecord P answers' s).map (fun s => s.1.view) =
      (updateBookRecord P answers s).map (fun s => s.1.view) := by
  simp only [updateBookRecord, hb, Option.bind_eq_bind]
  apply map_bind_congr
  intro current
  apply map_bind_congr
  intro row
  apply map_bind_congr
  intro book_id
  apply map_bind_congr
  intro getData
  apply map_bind_congr
  intro bookData
  split
  · rename_i hu
    rw [forEnumerated_of_ne_nil (List.ne_nil_of_length_pos hu),
      forEnumerated_of_ne_nil (List.ne_nil_of_length_pos hu)]
    exact saveAndGoBack_view hf _
  · exact saveAndGoBack_view hf _

theorem step_withSaves (s : App Image Data) (succeed : Bool) (e : Event Image Time) :
    (s.step P (e.withSaves succeed)).map (fun t => t.context.view) =
      (s.step P e).map (fun t => t.context.view) := by
  cases e with
  | swipeDelete row fetch save =>
    simp only [Event.withSaves, App.step, ViewController.deleteAction, Option.bind_eq_bind,
      Option.bind_assoc]
    apply map_bind_congr
    intro b
    apply map_bind_congr
    intro data
    apply map_bind_congr
    intro book_id
    apply map_bind_congr
    intro getdata
    apply map_bind_congr
    intro book
    simp only [Option.bind_some, Option.map_some, Context.view_save]
  | clickSave answers =>
    simp only [Event.withSaves, App.step, App.clickSave, Option.bind_eq_bind]
    apply map_bind_congr
    intro vc
    by_cases ha : vc.Accepted
    · have hb : (answers.withSaves succeed).bookFetch = answers.bookFetch := rfl
      have hf : (answers.withSaves succeed).imageFetch = answers.imageFetch := rfl
      generalize answers.withSaves succeed = answers' at hb hf
      have hsave : (clickOnSaveBtn P answers' (s.context, vc)).map (fun s => s.1.view) =
          (clickOnSaveBtn P answers (s.context, vc)).map (fun s => s.1.view) := by
        rw [clickOnSaveBtn_accepted P ha, clickOnSaveBtn_accepted P ha]
        split
        · exact updateBookRecord_view hb hf (s.context, vc)
        · simp only [addBookRecord_eq ha.1, Option.map_some, saveAndPop, Context.view_save]
      cases h : clickOnSaveBtn P answers (s.context, vc) with
      | none =>
        rw [h, Option.map_none, Option.map_eq_none_iff] at hsave
        rw [hsave]
        rfl
      | some r =>
        rw [h, Option.map_some, Option.map_eq_some_iff] at hsave
        obtain ⟨r', hr', hv⟩ := hsave
        simp only [hr', Option.bind_some, Option.map_some, hv]
    · obtain ⟨msg, hm⟩ := clickOnSaveBtn_refused P (s := (s.context, vc)) ha answers
      obtain ⟨msg', hm'⟩ :=
        clickOnSaveBtn_refused P (s := (s.context, vc)) ha (answers.withSaves succeed)
      simp only [hm, hm', Option.bind_some, Option.map_some]
  | _ => rfl

/-- No save between the removals succeeds: each throws, or no image of the name is found. -/
def NoneSaved (answers : SaveAnswers) (b k : Nat) (us : List String) (ctx : Context) : Prop :=
  ∀ done u ctx₁ img images, done ++ [u] <+: us → removeImages answers b k done ctx = some ctx₁ →
    Fetch.answer (answers.imageFetch (k + done.length)) (ctx₁.view.imagesWithURL u) =
      some (img :: images) → answers.imageSave (k + done.length) = false

theorem NoneSaved.cons (h : NoneSaved answers b (k + 1) us ctx₁)
    (hrun : ∀ done, removeImages answers b k (u :: done) ctx =
      removeImages answers b (k + 1) done ctx₁)
    (hhead : ∀ img images, Fetch.answer (answers.imageFetch k) (ctx.view.imagesWithURL u) =
      some (img :: images) → answers.imageSave k = false) :
    NoneSaved answers b k (u :: us) ctx := by
  intro done v ctx₂ img images hp hrem hget
  cases done with
  | nil =>
    cases (List.cons_prefix_cons.1 hp).1
    cases hrem
    exact hhead img images hget
  | cons w done =>
    obtain ⟨hw, htail⟩ := List.cons_prefix_cons.1 hp
    subst hw
    rw [hrun] at hrem
    rw [List.length_cons, Nat.add_comm done.length, ← Nat.add_assoc] at hget ⊢
    exact h done v ctx₂ img images htail hrem hget

/-- `store` has the removals made up to the last save between them that succeeds. -/
def LastSaved (answers : SaveAnswers) (b k : Nat) (us : List String) (ctx : Context)
    (store : Graph) : Prop :=
  ∃ done rest ctx₁, us = done ++ rest ∧ done ≠ [] ∧
    answers.imageSave (k + done.length - 1) = true ∧
    removeImages answers b k done ctx = some ctx₁ ∧ store = ctx₁.view ∧
    NoneSaved answers b (k + done.length) rest ctx₁

theorem LastSaved.cons (h : LastSaved answers b (k + 1) us ctx₁ store)
    (hrun : ∀ done, removeImages answers b k (u :: done) ctx =
      removeImages answers b (k + 1) done ctx₁) :
    LastSaved answers b k (u :: us) ctx store := by
  obtain ⟨done, rest, ctx₂, hus, -, hj, hrem, hst, hnone⟩ := h
  have hindex : k + (u :: done).length = k + 1 + done.length := by
    rw [List.length_cons]
    omega
  refine ⟨u :: done, rest, ctx₂, congrArg (u :: ·) hus, List.cons_ne_nil _ _, ?_, ?_, hst, ?_⟩
  · rw [hindex]
    exact hj
  · rw [hrun]
    exact hrem
  · rw [hindex]
    exact hnone

theorem removeImages_store (h : removeImages answers b k us ctx = some ctx') :
    ctx'.store = ctx.store ∧ NoneSaved answers b k us ctx ∨
      LastSaved answers b k us ctx ctx'.store := by
  induction us generalizing k ctx with
  | nil =>
    cases h
    refine .inl ⟨rfl, ?_⟩
    intro done u ctx₁ img images hp
    exact absurd (List.prefix_nil.1 hp)
      (List.append_ne_nil_of_right_ne_nil _ (List.cons_ne_nil _ _))
  | cons u us ih =>
    simp only [removeImages, Option.bind_eq_bind, Option.bind_eq_some_iff] at h
    obtain ⟨getData, hget, h⟩ := h
    cases getData with
    | nil =>
      have hrun (done : List String) : removeImages answers b k (u :: done) ctx =
          removeImages answers b (k + 1) done ctx := by
        rw [removeImages, hget]
        rfl
      rcases ih h with ⟨hst, hnone⟩ | hlast
      · refine .inl ⟨hst, hnone.cons hrun ?_⟩
        intro img images hsome
        rw [hget] at hsome
        cases hsome
      · exact .inr (hlast.cons hrun)
    | cons img rest =>
      dsimp only at h
      generalize hctx : ({ ctx with
        view := (ctx.view.deleteImage img).removeFromBookImages b img } : Context) = ctx₂ at h
      have hrun (done : List String) : removeImages answers b k (u :: done) ctx =
          removeImages answers b (k + 1) done (ctx₂.save (answers.imageSave k)) := by
        rw [removeImages, hget, ← hctx]
        rfl
      rcases ih h with ⟨hst, hnone⟩ | hlast
      · cases hs : answers.imageSave k with
        | false =>
          rw [hs, ← hctx] at hst
          exact .inl ⟨hst, hnone.cons hrun fun _ _ _ => hs⟩
        | true =>
          -- the save after this removal is the last one that succeeds
          refine .inr ⟨[u], us, _, rfl, List.cons_ne_nil _ _, hs, hrun [], ?_, hnone⟩
          rw [hst, hs, Context.store_save_true, Context.view_save]
      · exact .inr (hlast.cons hrun)

/-- The store while the last save of a Save is still to come: as it was, if no save between the
removals succeeded, else the updated objects with the removals made up to the last one that did. -/
def SavedSoFar (P : Platform Image Data Time) (answers : SaveAnswers) (ctx : Context)
    (vc : AddBookVC) (store : Graph) : Prop :=
  store = ctx.store ∧ (∀ b, vc.bookData = some b → NoneSaved answers b 0 vc.arrRemoveImages
      { ctx with view := extendedView P ctx vc b }) ∨
    ∃ b, vc.bookData = some b ∧ LastSaved answers b 0 vc.arrRemoveImages
      { ctx with view := extendedView P ctx vc b } store

theorem SavedSoFar.removal (h : SavedSoFar P answers ctx vc store) :
    store = ctx.store ∨ ∃ b done rest gone, vc.bookData = some b ∧
      vc.arrRemoveImages = done ++ rest ∧ done ≠ [] ∧
      answers.imageSave (done.length - 1) = true ∧
      Removal (extendedView P ctx vc b) done gone ∧
      store = (extendedView P ctx vc b).dropImages gone := by
  refine h.imp And.left ?_
  intro h₀
  obtain ⟨b, hb, done, rest, ctx', hdone, hne, hj, hrem, hst, -⟩ := h₀
  rw [Nat.zero_add] at hj
  obtain ⟨gone, hgone, hview⟩ := removeImages_spec hrem
  exact ⟨b, done, rest, gone, hb, hdone, hne, hj, hgone, hst.trans hview⟩

theorem clickSave_store (hk : s.context.view.Keyed) (ha : vc.Accepted)
    (h : s.clickSave P answers vc = some t) : ∃ ctx : Context, t.context = ctx.save answers.save ∧
      SavedSoFar P answers s.context vc ctx.store := by
  simp only [App.clickSave, clickOnSaveBtn_accepted P (s := (s.context, vc)) ha,
    Option.bind_eq_bind, Option.bind_eq_some_iff] at h
  obtain ⟨r, hr, ht⟩ := h
  cases ht
  cases hb : vc.bookData with
  | none =>
    simp only [hb, Option.isSome_none, Bool.false_eq_true, if_false, addBookRecord_eq ha.1,
      Option.some.injEq] at hr
    refine ⟨_, congrArg Prod.fst hr.symm, .inl ⟨rfl, ?_⟩⟩
    intro b hb'
    cases hb.symm.trans hb'
  | some b =>
    simp only [hb, Option.isSome_some, if_true] at hr
    obtain ⟨b', ctx', hb', hrem, hr'⟩ := saveAndGoBack_eq (updateBookRecord_eq hk hb hr).2
    cases hb.symm.trans hb'
    refine ⟨ctx', congrArg Prod.fst hr', ?_⟩
    rcases removeImages_store hrem with ⟨hst, hnone⟩ | hlast
    · refine .inl ⟨hst, ?_⟩
      intro b' hb'
      cases hb.symm.trans hb'
      exact hnone
    · exact .inr ⟨b, hb, hlast⟩

theorem step_saved (hk : s.context.view.Keyed) (hm : s.Mutates e) (he : e.SaveSucceeds)
    (h : s.step P e = some t) : t.context.store = t.context.view := by
  cases e with
  | swipeDelete row fetch save =>
    simp only [App.step, Option.bind_eq_bind, Option.bind_eq_some_iff] at h
    obtain ⟨r, hd, ht⟩ := h
    obtain ⟨b, -, -, hctx, -⟩ := deleteAction_eq (s := (s.context, s.list)) hk hd
    cases (he : save = true)
    cases ht
    rw [hctx, Context.store_save_true, Context.view_save]
  | clickSave answers =>
    obtain ⟨vc, hf, ha⟩ := hm
    simp only [App.step, Option.mem_def.1 hf, Option.bind_eq_bind, Option.bind_some] at h
    obtain ⟨ctx, hctx, -⟩ := clickSave_store hk ha h
    rw [hctx, (he : answers.save = true), Context.store_save_true, Context.view_save]
  | _ => cases he

theorem step_unsaved (hk : s.context.view.Keyed) (hm : s.Mutates e) (he : ¬ e.SaveSucceeds)
    (h : s.step P e = some t) :
    (∃ row fetch save, e = .swipeDelete row fetch save ∧
      t.context.store = s.context.store) ∨
      ∃ answers vc, e = .clickSave answers ∧ s.form = some vc ∧
        SavedSoFar P answers s.context vc t.context.store := by
  cases e with
  | swipeDelete row fetch save =>
    simp only [App.step, Option.bind_eq_bind, Option.bind_eq_some_iff] at h
    obtain ⟨r, hd, ht⟩ := h
    obtain ⟨b, -, -, hctx, -⟩ := deleteAction_eq (s := (s.context, s.list)) hk hd
    have hsave : save = false := eq_false_of_ne_true he
    cases ht
    rw [hctx, hsave, Context.save_false]
    exact .inl ⟨row, fetch, false, rfl, rfl⟩
  | clickSave answers =>
    obtain ⟨vc, hf, ha⟩ := hm
    simp only [App.step, Option.mem_def.1 hf, Option.bind_eq_bind, Option.bind_some] at h
    obtain ⟨ctx, hctx, hst⟩ := clickSave_store hk ha h
    have hsave : answers.save = false := eq_false_of_ne_true he
    rw [hctx, hsave, Context.save_false]
    exact .inr ⟨answers, vc, rfl, hf, hst⟩
  | _ => cases hm

theorem savedSoFar_withSaves {answers : SaveAnswers} (hans : answers.withSaves false = answers)
    (h : SavedSoFar P answers ctx vc store) : store = ctx.store := by
  rcases h with ⟨h, -⟩ | ⟨b, -, done, rest, ctx', -, -, hj, -⟩
  · exact h
  · rw [← hans] at hj
    cases hj

def fillForm (image timestamp : Nat) : List (Event Nat Nat) :=
  [.clickAdd, .pickImage image timestamp true true, .editTexts "n" "a" "d"]

end

end TrainingDemos.BookStore
