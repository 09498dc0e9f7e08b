import TrainingDemos.BookStore.CommitLaw

namespace TrainingDemos.BookStore
set_option autoImplicit true

def Graph.ForeignKeys (g : Graph) : Prop :=
  ∀ i image, g.images.row i = some image →
    ∃ b, g.Owns b i ∧ (∀ c, g.Owns c i → c = b) ∧ g.key b = some image.b_id

namespace App

def FirstSave (s : App Image Data) : Event Image Time → Prop
  | .clickSave _ => ∀ vc ∈ s.form, vc.Accepted → s.saveLog = []
  | _ => True

/-- An update finds the `book_id` of its book current, or it removes all images the book has: each
one is the only image of a name that is removed and not stored again. -/
def KeepsKeys (P : Platform Image Data Time) (s : App Image Data) : Event Image Time → Prop
  | .clickSave _ => ∀ vc ∈ s.form, vc.Accepted → ∀ b ∈ vc.bookData,
      s.context.view.key b = some (some (P.absoluteString (s.context.bookID b))) ∨
        ∀ book ∈ s.context.view.books.row b, ∀ i ∈ book.book_images, ∃ u ∈ vc.arrRemoveImages,
          u ∉ vc.arrUpdatedImages ∧ s.context.view.imagesWithURL u = [i]
  | _ => True

instance (s : App Image Data) : (e : Event Image Time) → Decidable (s.FirstSave e)
  | .clickSave _ => inferInstanceAs (Decidable (∀ vc ∈ s.form, vc.Accepted → s.saveLog = []))
  | .pullToRefresh _ | .clickAdd | .swipeEdit _ _ | .swipeDelete _ _ _ | .pickImage _ _ _ _
  | .clickDelete _ | .editTexts _ _ _ | .clickBack | .popTimer => inferInstanceAs (Decidable True)

instance (P : Platform Image Data Time) (s : App Image Data) :
    (e : Event Image Time) → Decidable (s.KeepsKeys P e)
  | .clickSave _ => inferInstanceAs (Decidable (∀ vc ∈ s.form, vc.Accepted → ∀ b ∈ vc.bookData,
      s.context.view.key b = some (some (P.absoluteString (s.context.bookID b))) ∨
        ∀ book ∈ s.context.view.books.row b, ∀ i ∈ book.book_images, ∃ u ∈ vc.arrRemoveImages,
          u ∉ vc.arrUpdatedImages ∧ s.context.view.imagesWithURL u = [i]))
  | .pullToRefresh _ | .clickAdd | .swipeEdit _ _ | .swipeDelete _ _ _ | .pickImage _ _ _ _
  | .clickDelete _ | .editTexts _ _ _ | .clickBack | .popTimer => inferInstanceAs (Decidable True)

end App

section
variable {P : Platform Image Data Time} {s t : App Image Data} {K : String → Prop}

structure FreshForm (P : Platform Image Data Time) (K : String → Prop) (s : App Image Data) : Prop
    extends Tracked P K s where
  unsaved : s.saveLog = [] → s.Unsaved

theorem FreshForm.savesNew (h : FreshForm P K s) (hfirst : s.FirstSave e) : s.SavesNew e := by
  cases e with
  | clickSave => exact fun vc hvc ha => h.unsaved (hfirst vc hvc ha) vc hvc
  | _ => trivial

theorem FreshForm.effect (h : FreshForm P K s) (he : Effect P s e t) (hpick : s.NewPick P K e)
    (hfirst : s.FirstSave e) : FreshForm P K t where
  toTracked := h.toTracked.effect he hpick (h.savesNew hfirst)
  unsaved := by
    intro hlog
    cases he with
    | refresh => exact h.unsaved hlog
    | openAdd hf =>
      exact (Editing.of_open h.toTracked (.openAdd hf) (.inl rfl)).unsaved
    | openEdit hf hrow hvc =>
      exact (Editing.of_open h.toTracked (.openEdit hf hrow hvc) (.inr ⟨_, _, rfl⟩)).unsaved
    | delete hf =>
      intro vc hvc
      rw [hf] at hvc
      cases hvc
    | pick hf => exact (h.unsaved hlog).edit h.framed (.pick hf) trivial hpick
    | remove hf hi => exact (h.unsaved hlog).edit h.framed (.remove hf hi) trivial hpick
    | texts hf => exact (h.unsaved hlog).edit h.framed (.texts hf) trivial hpick
    | @refused vc _ _ hf =>
      intro vc' hvc
      cases hvc
      exact h.unsaved hlog vc hf
    | added => exact absurd hlog (List.append_ne_nil_of_right_ne_nil _ (List.cons_ne_nil _ _))
    | updated => exact absurd hlog (List.append_ne_nil_of_right_ne_nil _ (List.cons_ne_nil _ _))
    | leave =>
      intro vc hvc
      cases hvc

theorem freshForm_launch (P : Platform Image Data Time) (fetch : Fetch) :
    FreshForm P (fun _ => False) (App.launch Graph.empty fetch : App Image Data) where
  toTracked := tracked_launch P fetch
  unsaved := by
    intro _ vc hvc
    cases hvc

theorem Graph.ForeignKeys.deleteBook {g : Graph} (h : g.ForeignKeys) (b : Nat) :
    (g.deleteBook b).ForeignKeys := by
  intro i image hi
  rw [image_deleteBook] at hi
  split at hi
  · cases hi
  · rename_i hb
    rw [owns_iff] at hb
    obtain ⟨c, ho, hu, hkey⟩ := h i image hi
    have hc : c ≠ b := fun he => hb (he ▸ ho)
    refine ⟨c, (owns_deleteBook b c i).2 ⟨hc, ho, hb⟩, ?_, ?_⟩
    · intro d hd
      exact hu d ((owns_deleteBook b d i).1 hd).2.1
    · rw [key_deleteBook, if_neg hc, hkey]

theorem Graph.ForeignKeys.addedView {ctx : Context} (h : ctx.view.ForeignKeys)
    (hs : ctx.view.Sound) (vc : AddBookVC) : (addedView P ctx vc).ForeignKeys := by
  intro i image hi
  obtain ⟨b, ho⟩ := (hs.addedView (P := P) vc).owned i image hi
  refine ⟨b, ho, fun c hc => (hs.addedView (P := P) vc).unique c b i hc ho, ?_⟩
  rw [BookStore.addedView, image_attach] at hi
  rw [owns_addedView] at ho
  split at hi
  · rename_i hlt
    have ho' := ho.resolve_right fun hnew => Nat.not_le.2 hlt hnew.2.1
    obtain ⟨c, hc, -, hkey⟩ := h i image hi
    rw [hs.unique b c i ho' hc, key_addedView, if_neg, hkey]
    obtain ⟨book, hbook, -⟩ := hc
    exact Nat.ne_of_lt (Table.lt_next hbook)
  · rename_i hge
    have hb := (ho.resolve_left fun hold => hge (hs.lt_next hold)).1
    obtain ⟨u, -, rfl⟩ := Option.map_eq_some_iff.1 hi
    rw [key_addedView, if_pos hb]
    rfl

theorem key_extendedView_self {ctx : Context} (hb : ctx.view.books.row b = some book)
    (vc : AddBookVC) : (extendedView P ctx vc b).key b =
      some (some (P.absoluteString (ctx.bookID b))) := by
  rw [extendedView, Graph.key_attach, Graph.key, row_rewriteBook hb]
  rfl

theorem foreignKeys_updated {ctx : Context} (h : ctx.view.ForeignKeys) (hs : ctx.view.Sound)
    (hbook : ctx.view.books.row b = some book) (vc : AddBookVC) (gone : Nat → Bool) :
    ((extendedView P ctx vc b).dropImages gone).ForeignKeys ↔
      ctx.view.key b = some (some (P.absoluteString (ctx.bookID b))) ∨
        ∀ i, ctx.view.Owns b i → gone i = true := by
  have hs' := (hs.extendedView (P := P) hbook vc).dropImages gone
  have hold (i : Nat) (ho : ctx.view.Owns b i) : ∃ image, ctx.view.images.row i = some image ∧
      ctx.view.key b = some image.b_id := by
    obtain ⟨image, hi⟩ := hs.resolves b i ho
    obtain ⟨c, hc, -, hkey⟩ := h i image hi
    exact ⟨image, hi, hs.unique b c i ho hc ▸ hkey⟩
  have hrow (i : Nat) (hg : gone i = false) (hlt : i < ctx.view.images.next) :
      ((extendedView P ctx vc b).dropImages gone).images.row i = ctx.view.images.row i := by
    rw [Graph.image_dropImages, hg, if_neg Bool.false_ne_true, extendedView, Graph.image_attach]
    exact if_pos hlt
  constructor
  · intro hfk
    by_cases hgone : ∀ i, ctx.view.Owns b i → gone i = true
    · exact .inr hgone
    · simp only [not_forall, Bool.not_eq_true] at hgone
      obtain ⟨i, ho, hg⟩ := hgone
      obtain ⟨image, hi, hkey⟩ := hold i ho
      obtain ⟨c, -, hu, hkey'⟩ := hfk i image ((hrow i hg (hs.lt_next ho)).trans hi)
      have ho' := (Graph.owns_dropImages gone b i).2
        ⟨(owns_extendedView (P := P) hbook vc b i).2 (.inl ho), hg⟩
      rw [← hu b ho', Graph.key_dropImages, key_extendedView_self hbook, Option.some.injEq] at hkey'
      rw [hkey, hkey']
      exact .inl rfl
  · intro hkeep i image hi
    obtain ⟨c, ho⟩ := hs'.owned i image hi
    refine ⟨c, ho, fun d hd => hs'.unique d c i hd ho, ?_⟩
    rw [Graph.owns_dropImages, owns_extendedView hbook] at ho
    obtain ⟨ho, hg⟩ := ho
    rw [Graph.key_dropImages]
    by_cases hlt : i < ctx.view.images.next
    · rw [hrow i hg hlt] at hi
      have hc := ho.resolve_right fun hnew => Nat.not_le.2 hlt hnew.2.1
      obtain ⟨d, hd, -, hkey⟩ := h i image hi
      rw [hs.unique d c i hd hc] at hkey
      by_cases he : c = b
      · subst he
        rcases hkeep with hcur | hgone
        · rw [key_extendedView_self hbook, ← hkey, hcur]
        · rw [hgone i hc] at hg
          cases hg
      · rw [key_extendedView _ _ _ _ he, hkey]
    · have hc := (ho.resolve_left fun hold => hlt (hs.lt_next hold)).1
      subst hc
      rw [Graph.image_dropImages, hg, if_neg Bool.false_ne_true, extendedView,
        Graph.image_attach] at hi
      obtain ⟨u, -, rfl⟩ := Option.map_eq_some_iff.1 ((if_neg hlt).symm.trans hi)
      rw [key_extendedView_self hbook]
      rfl

theorem Graph.ForeignKeys.effect (h : s.context.view.ForeignKeys) (hs : s.context.view.Sound)
    (he : Effect P s e t) (hc : s.KeepsKeys P e) : t.context.view.ForeignKeys := by
  cases he with
  | delete =>
    rw [Context.view_save]
    exact h.deleteBook _
  | added =>
    rw [Context.view_save]
    exact h.addedView hs _
  | @updated vc b book gone answers a n ctx hf ha hb hbook hr hv =>
    rw [Context.view_save, hv, foreignKeys_updated h hs hbook]
    apply (hc vc hf ha b hb).imp_right
    intro hall i ho
    obtain ⟨book', hbook', hi⟩ := ho
    obtain ⟨u, hu, hnew, hone⟩ := hall book' hbook' i hi
    have hn : s.context.view.Names i u :=
      Graph.mem_imagesWithURL.1 (hone ▸ List.mem_singleton.2 rfl)
    obtain ⟨j, hj, hnj⟩ := hr.covers u hu i ((names_extendedView vc b i u).2 (.inl hn))
    rw [names_extendedView] at hnj
    have hold := hnj.resolve_right fun hnj => hnew (List.mem_of_getElem? hnj.2)
    have hmem := Graph.mem_imagesWithURL.2 hold
    rw [hone, List.mem_singleton] at hmem
    exact hmem ▸ hj
  | _ => exact h

theorem FreshForm.keepsKeys (h : FreshForm P K s) (hfk : s.context.view.ForeignKeys)
    (he : Effect P s e t) (hfirst : s.FirstSave e) (ht : t.context.view.ForeignKeys) :
    s.KeepsKeys P e := by
  cases he with
  | @refused vc _ _ hf ha =>
    intro vc' hvc ha'
    rw [hf] at hvc
    cases hvc
    exact absurd ha' ha
  | @added vc _ _ _ hf ha hb =>
    intro vc' hvc _ b hb'
    rw [hf] at hvc
    cases hvc
    rw [hb] at hb'
    cases hb'
  | @updated vc b book gone answers a n ctx hf ha hb hbook hr hv =>
    intro vc' hvc _ c hc
    rw [hf] at hvc
    cases hvc
    rw [hb] at hc
    cases hc
    rw [Context.view_save, hv, foreignKeys_updated hfk h.framed.sound hbook] at ht
    apply ht.imp_right
    intro hgone book' hbook' i hi
    have ho : s.context.view.Owns b i := ⟨book', hbook', hi⟩
    obtain ⟨u, hu, hn⟩ := hr.named i (hgone i ho)
    rw [names_extendedView] at hn
    have hold := hn.resolve_right fun hn => Nat.not_le.2 (h.framed.sound.lt_next ho) hn.1
    have hnew := h.unsaved (hfirst vc hf ha) vc hf
    rw [AddBookVC.toInsert, hb] at hnew
    refine ⟨u, hu, fun hu' => hnew u hu' i hold, ?_⟩
    obtain ⟨image, hi', hurl⟩ := hold
    apply Table.select_eq_singleton hi' (decide_eq_true hurl)
    intro j image' hj hp
    exact h.accounted.distinct j i u ⟨image', hj, of_decide_eq_true hp⟩ ⟨image, hi', hurl⟩
  | leave _ he => rcases he with rfl | rfl <;> trivial
  | _ => trivial

theorem foreignKeys_empty : Graph.empty.ForeignKeys := by
  intro i image hi
  cases hi

/-- In every run each image belongs to exactly one book. If all updates meet `KeepsKeys`, it also
carries that book's `book_id` throughout; with fresh names and one Save for each form, only then. -/
theorem foreign_keys (P : Platform Image Data Time) (fetch : Fetch) :
    (∀ es s, (bookStore P).Run (fun _ _ => True) (App.launch Graph.empty fetch) es s →
      ∀ i image, s.context.view.images.row i = some image →
        ∃ b, s.context.view.Owns b i ∧ ∀ c, s.context.view.Owns c i → c = b) ∧
    (∀ es s, (bookStore P).Run (App.KeepsKeys P) (App.launch Graph.empty fetch) es s →
      s.context.view.ForeignKeys) ∧
    ∀ es s, (bookStore P).Run (fun s e => s.FreshPick P e ∧ s.FirstSave e)
        (App.launch Graph.empty fetch) es s →
      ((bookStore P).Throughout (fun s e => s.FreshPick P e ∧ s.FirstSave e)
          (fun s => s.context.view.ForeignKeys) (App.launch Graph.empty fetch) es ↔
        (bookStore P).Run (fun s e => (s.FreshPick P e ∧ s.FirstSave e) ∧ s.KeepsKeys P e)
          (App.launch Graph.empty fetch) es s) := by
  refine ⟨?_, ?_, ?_⟩
  · intro es s hrun i image hi
    have hs := (sound_of_run (Graph.ownKeys_empty P) Graph.sound_empty hrun).2
    obtain ⟨b, ho⟩ := hs.owned i image hi
    exact ⟨b, ho, fun c hc => hs.unique c b i hc ho⟩
  · intro es s hrun
    have hi : (Targeted P s ∧ s.context.view.Sound) ∧ s.context.view.ForeignKeys := by
      apply hrun.invariant (I := fun s =>
        (Targeted P s ∧ s.context.view.Sound) ∧ s.context.view.ForeignKeys)
      · intro s e t hi hen hB hs
        have he := step_effect hi.1.1.keys.keyed hen hs
        exact ⟨⟨hi.1.1.effect he, hi.1.2.effect he⟩, hi.2.effect hi.1.2 he hB⟩
      · exact ⟨⟨targeted_launch (Graph.ownKeys_empty P) fetch, Graph.sound_empty⟩,
          foreignKeys_empty⟩
    exact hi.2
  · intro es s hrun
    apply hrun.throughout_iff (I := FreshForm P fun _ => False)
    · intro s e t hi hfk hen hB hs
      have he := step_effect hi.targeted.keys.keyed hen hs
      constructor
      · exact hi.keepsKeys hfk he hB.2
      · exact hfk.effect hi.framed.sound he
    · intro s e t hi _ hen hB _ hs
      exact hi.effect (step_effect hi.targeted.keys.keyed hen hs) hB.1.newPick hB.2
    · exact freshForm_launch P fetch
    · exact foreignKeys_empty

theorem foreign_keys_replaced : ∃ s,
    (bookStore .device).Run (App.KeepsKeys .device) (App.launch Graph.empty (some .asStored))
      (addedOnce ++ .swipeEdit 0 .asStored :: replacePicture) s ∧
    s.context.view.fetchBooks = [0] ∧ s.context.view.ForeignKeys := by
  have h : ((bookStore .device).exec (App.KeepsKeys .device)
      (App.launch Graph.empty (some .asStored))
      (addedOnce ++ .swipeEdit 0 .asStored :: replacePicture)).any (fun s =>
        decide (s.context.view.fetchBooks = [0])) = true := by
    decide +kernel
  obtain ⟨s, hs, hbooks⟩ := Machine.exec_any h
  exact ⟨s, hs, of_decide_eq_true hbooks, (foreign_keys .device _).2.1 _ _ hs⟩

def Event.Succeeds : Event Image Time → Prop
  | .pullToRefresh fetch => fetch.isSome
  | .swipeDelete _ fetch save => fetch.isSome ∧ save = true
  | .clickSave answers => answers.AllSucceed
  | _ => True

/-- An edit of the texts leaves its image the temporary `book_id`. -/
theorem foreign_keys_edited : ∃ s,
    (bookStore .device).Run (fun s e => (s.FreshPick .device e ∧ s.FirstSave e) ∧ e.Succeeds)
      (App.launch Graph.empty (some .asStored)) (addedOnce ++ [.swipeEdit 0 .asStored,
        .editTexts "m" "a" "d", .clickSave .succeed, .popTimer]) s ∧
    s.context.view.Owns 0 0 ∧
    (s.context.view.images.row 0).map TblImages.b_id =
      some (some "x-coredata:///Tbl_Books/t0") ∧
    s.context.view.key 0 = some (some "x-coredata://store/Tbl_Books/p0") := by
  have h : ((bookStore .device).exec (fun s e => s.FreshPick .device e ∧ s.FirstSave e)
      (App.launch Graph.empty (some .asStored)) (addedOnce ++ [.swipeEdit 0 .asStored,
        .editTexts "m" "a" "d", .clickSave .succeed, .popTimer])).any (fun s =>
        decide (s.context.view.Owns 0 0 ∧
          (s.context.view.images.row 0).map TblImages.b_id =
            some (some "x-coredata:///Tbl_Books/t0") ∧
          s.context.view.key 0 = some (some "x-coredata://store/Tbl_Books/p0"))) = true := by
    decide +kernel
  obtain ⟨s, hs, hp⟩ := Machine.exec_any h
  have hrun := hs.with_events (C := Event.Succeeds) (by
    simp [addedOnce, Event.Succeeds, SaveAnswers.succeed_allSucceed])
  exact ⟨s, hrun, of_decide_eq_true hp⟩

end

end TrainingDemos.BookStore
