import TrainingDemos.BookStore.EditSession

namespace TrainingDemos.BookStore
set_option autoImplicit true

def Graph.Stocked (g : Graph) : Prop := ∀ b, (g.key b).isSome → ∃ i, g.Owns b i

section
variable {P : Platform Image Data Time} {s t : App Image Data} {K : String → Prop}

theorem Graph.Stocked.addedView {ctx : Context} (h : ctx.view.Stocked) {vc : AddBookVC}
    (hi : vc.arrImages ≠ []) : (addedView P ctx vc).Stocked := by
  intro c hc
  by_cases he : c = ctx.view.books.next
  · subst he
    obtain ⟨u, us, hu⟩ := List.exists_cons_of_ne_nil hi
    obtain ⟨i, ho, -⟩ := (names_of_added P ctx vc u).2 (hu ▸ List.mem_cons_self)
    exact ⟨i, ho⟩
  · rw [key_addedView, if_neg he] at hc
    obtain ⟨i, ho⟩ := h c hc
    exact ⟨i, (owns_addedView vc c i).2 (.inl ho)⟩

theorem Graph.Stocked.deleteBook {g : Graph} (h : g.Stocked) (hs : g.Sound) (b : Nat) :
    (g.deleteBook b).Stocked := by
  intro c hc
  rw [key_deleteBook] at hc
  split at hc
  · cases hc
  · rename_i hne
    obtain ⟨i, ho⟩ := h c hc
    exact ⟨i, (owns_deleteBook b c i).2 ⟨hne, ho, fun hb => hne (hs.unique c b i ho hb)⟩⟩

theorem Graph.Stocked.updated (h : s.context.view.Stocked) (hF : Framed K s) (hA : Accounted s)
    (hf : s.form = some vc) (ha : vc.Accepted) (hb : vc.bookData = some b)
    (hbook : s.context.view.books.row b = some book)
    (hnew : ∀ u ∈ vc.arrUpdatedImages, ∀ i, ¬ s.context.view.Names i u)
    (hr : Removal (extendedView P s.context vc b) vc.arrRemoveImages gone) :
    ((extendedView P s.context vc b).dropImages gone).Stocked := by
  intro c hc
  by_cases he : c = b
  · subst he
    obtain ⟨u, us, hu⟩ := List.exists_cons_of_ne_nil ha.1
    have hnames := (hA.session vc c hf hb).names_saved hF.sound hA.distinct hbook hnew hr u
    obtain ⟨i, ho, -⟩ := hnames.1 (hu ▸ List.mem_cons_self)
    exact ⟨i, ho⟩
  · rw [key_dropImages, key_extendedView _ _ _ _ he] at hc
    obtain ⟨i, ho⟩ := h c hc
    have ho' : (extendedView P s.context vc b).Owns c i :=
      (owns_extendedView hbook vc c i).2 (.inl ho)
    refine ⟨i, (owns_dropImages _ _ _).2 ⟨ho', ?_⟩⟩
    rw [← Bool.not_eq_true]
    intro hg
    have hs := hF.sound.extendedView (P := P) hbook vc
    exact he (hs.unique c b i ho' (hF.removed_owned hf hb hbook hr hg))

theorem Graph.Stocked.effect (h : s.context.view.Stocked) (hF : Framed K s) (hA : Accounted s)
    (he : Effect P s e t) (hnew : s.SavesNew e) : t.context.view.Stocked := by
  cases he with
  | delete _ _ _ =>
    rw [Context.view_save]
    exact h.deleteBook hF.sound _
  | added hf ha hb =>
    rw [Context.view_save]
    exact h.addedView ha.1
  | @updated vc b book gone answers a n ctx hf ha hb hbook hr hv =>
    have hnew' := hnew vc hf ha
    rw [AddBookVC.toInsert, hb] at hnew'
    rw [Context.view_save, hv]
    exact h.updated hF hA hf ha hb hbook hnew' hr
  | _ => exact h

theorem tableRows_effect (h : s.list.tableRows = s.list.arrTblBooks.length)
    (he : Effect P s e t) (hfetch : e.FetchesSucceed) :
    t.list.tableRows = t.list.arrTblBooks.length := by
  cases he with
  | refresh =>
    obtain ⟨l, hl⟩ := Fetch.answer_isSome hfetch s.context.view.fetchBooks
    simp only [ViewController.getBookRecords, hl]
  | delete _ hrow _ =>
    obtain ⟨hlt, -⟩ := List.getElem?_eq_some_iff.1 hrow
    simp only [List.length_eraseIdx_of_lt hlt, h]
  | _ => exact h

/-- Every row of the list can be shown. -/
structure Displayable (P : Platform Image Data Time) (K : String → Prop) (s : App Image Data) : Prop
    extends Tracked P K s where
  stocked : s.context.view.Stocked
  rows : s.list.tableRows = s.list.arrTblBooks.length

theorem Displayable.step (h : Displayable P K s) (hen : s.Enabled e) (hpick : s.NewPick P K e)
    (hfetch : e.FetchesSucceed) (hnew : s.SavesNew e) (hs : s.step P e = some t) :
    Displayable P K t := by
  have he := step_effect h.targeted.keys.keyed hen hs
  exact ⟨h.toTracked.effect he hpick hnew, h.stocked.effect h.framed h.accounted he hnew,
    tableRows_effect h.rows he hfetch⟩

theorem displayable_launch (P : Platform Image Data Time) (order : Arrangement) :
    Displayable P (fun _ => False) (App.launch Graph.empty (some order) : App Image Data) where
  toTracked := tracked_launch P _
  stocked := by
    intro b hb
    cases hb
  rows := rfl

theorem Graph.Sound.setUpdatedData {g : Graph} (h : g.Sound) (hb : g.books.row b = some book)
    (allObjects : Arrangement) : ∃ vc, AddBookVC.setUpdatedData g allObjects b = some vc := by
  obtain ⟨hname, hauthor, hdesc⟩ := h.texts b book hb
  obtain ⟨name, hname⟩ := Option.isSome_iff_exists.1 hname
  obtain ⟨author, hauthor⟩ := Option.isSome_iff_exists.1 hauthor
  obtain ⟨desc, hdesc⟩ := Option.isSome_iff_exists.1 hdesc
  have hurl (i : Nat) (hi : i ∈ allObjects.arrange book.book_images) :
      ∃ u, (g.images.row i).bind TblImages.img_url = some u :=
    h.owned_url hb ((allObjects.perm _).mem_iff.1 hi)
  obtain ⟨urls, hurls⟩ := exists_mapM hurl
  simp only [AddBookVC.setUpdatedData, hb, hname, hauthor, hdesc, hurls, Option.bind_eq_bind,
    Option.bind_some]
  exact ⟨_, rfl⟩

theorem Displayable.cellForRowAt (h : Displayable P K s) (docs : Documents Data)
    (allObjects : Arrangement) (hrow : row < s.list.tableRows) :
    ∃ cell, s.list.cellForRowAt P s.context.view docs allObjects row = some cell := by
  rw [h.rows] at hrow
  have hb := List.getElem?_eq_getElem hrow
  generalize s.list.arrTblBooks[row] = b at hb
  have hvis := h.targeted.rows b (List.mem_of_getElem? hb)
  obtain ⟨i, data, hdata, hi⟩ := h.stocked b hvis
  have hne : 0 < (allObjects.arrange data.book_images).length :=
    List.length_pos_of_mem ((allObjects.perm _).mem_iff.2 hi)
  have himg := List.getElem?_eq_getElem hne
  generalize (allObjects.arrange data.book_images)[0] = img at himg
  have hown : img ∈ data.book_images :=
    (allObjects.perm _).mem_iff.1 (List.mem_of_getElem? himg)
  obtain ⟨u, image, himage, hu⟩ := h.framed.sound.owns_names ⟨data, hdata, hown⟩
  simp only [ViewController.cellForRowAt, hb, hdata, himg, himage, hu, Option.bind_eq_bind,
    Option.bind_some]
  exact ⟨_, rfl⟩

/-- Where no name is stored twice, the list shows its rows and opens its forms without a trap. -/
theorem books_stocked (P : Platform Image Data Time) (order : Arrangement)
    (h : (bookStore P).Run (fun s e => (s.FreshPick P e ∧ s.SavesNew e) ∧ e.FetchesSucceed)
      (App.launch Graph.empty (some order)) es s) :
    (∀ b ∈ s.context.view.fetchBooks, ∃ book, s.context.view.books.row b = some book ∧
      book.book_images ≠ [] ∧ ∀ i ∈ book.book_images, ∃ u, s.context.view.Names i u) ∧
    (∀ docs allObjects row, row < s.list.tableRows →
      ∃ cell, s.list.cellForRowAt P s.context.view docs allObjects row = some cell) ∧
    ∀ b ∈ s.list.arrTblBooks, ∀ allObjects,
      ∃ vc, AddBookVC.setUpdatedData s.context.view allObjects b = some vc := by
  have hi : Displayable P (fun _ => False) s :=
    h.invariant (fun _ _ _ hi hen hB hs => hi.step hen hB.1.1.newPick hB.2 hB.1.2 hs)
      (displayable_launch P order)
  refine ⟨?_, fun docs allObjects row => hi.cellForRowAt docs allObjects, ?_⟩
  · intro b hb
    obtain ⟨book, hbook⟩ := Graph.mem_fetchBooks.1 hb
    obtain ⟨i, book', hbook', hown⟩ := hi.stocked b (Graph.visible_iff.1 ⟨book, hbook⟩)
    rw [hbook] at hbook'
    cases hbook'
    exact ⟨book, hbook, List.ne_nil_of_mem hown, fun j hj =>
      hi.framed.sound.owns_names ⟨book, hbook, hj⟩⟩
  · intro b hb allObjects
    obtain ⟨book, hbook⟩ := Graph.visible_iff.2 (hi.targeted.rows b hb)
    exact hi.framed.sound.setUpdatedData hbook allObjects

theorem books_stocked_added_once : ∃ s,
    (bookStore .device).Run (fun s e => (s.FreshPick .device e ∧ s.SavesNew e) ∧ e.FetchesSucceed)
      (App.launch Graph.empty (some .asStored)) addedOnce s ∧
    s.context.view.fetchBooks = [0] ∧ ∀ b ∈ s.context.view.fetchBooks, ∃ book,
      s.context.view.books.row b = some book ∧ book.book_images ≠ [] ∧
        ∀ i ∈ book.book_images, ∃ u, s.context.view.Names i u := by
  have h : ((bookStore .device).exec (fun s e => s.FreshPick .device e ∧ s.SavesNew e)
      (App.launch Graph.empty (some .asStored)) addedOnce).any (fun s =>
        decide (s.context.view.fetchBooks = [0])) = true := by
    decide +kernel
  obtain ⟨s, hs, hfetch⟩ := Machine.exec_any h
  have hrun := hs.with_events (C := Event.FetchesSucceed) (by
    simp [addedOnce, Event.FetchesSucceed, SaveAnswers.succeed])
  exact ⟨s, hrun, of_decide_eq_true hfetch, (books_stocked .device .asStored hrun).1⟩

theorem books_stocked_added_twice : ∃ s,
    (bookStore .device).Run (fun s e => s.FreshPick .device e ∧ e.FetchesSucceed)
      (App.launch Graph.empty (some .asStored))
      (addedTwice ++ .swipeEdit 1 .asStored :: replacePicture ++ [.popTimer]) s ∧
    s.context.view.fetchBooks = [0, 1] ∧
    s.context.view.books.row 0 = some ⟨some "a", some "d",
      some "x-coredata:///Tbl_Books/t0", some "n", []⟩ ∧
    0 < s.list.tableRows ∧
    s.list.cellForRowAt .device s.context.view s.documents .asStored 0 = none := by
  have h : ((bookStore .device).exec (App.FreshPick .device)
      (App.launch Graph.empty (some .asStored))
      (addedTwice ++ .swipeEdit 1 .asStored :: replacePicture ++ [.popTimer])).any (fun s =>
        decide (s.context.view.fetchBooks = [0, 1] ∧
          s.context.view.books.row 0 = some ⟨some "a", some "d",
            some "x-coredata:///Tbl_Books/t0", some "n", []⟩ ∧
          0 < s.list.tableRows ∧
          s.list.cellForRowAt .device s.context.view s.documents .asStored 0 = none)) = true := by
    decide +kernel
  obtain ⟨s, hs, hp⟩ := Machine.exec_any h
  have hrun := hs.with_events (C := Event.FetchesSucceed) (by
    simp [addedTwice, replacePicture, Event.FetchesSucceed, SaveAnswers.succeed])
  exact ⟨s, hrun, of_decide_eq_true hp⟩

end

end TrainingDemos.BookStore
