import TrainingDemos.BookStore.Steps

namespace TrainingDemos.BookStore
set_option autoImplicit true

namespace Graph
variable {g : Graph}

/-- The `book_id` column of a book, `none` where no such book is visible. -/
def key (g : Graph) (b : Nat) : Option (Option String) := (g.books.row b).map TblBooks.book_id

/-- Each `book_id` is the URI of its own object's temporary or permanent id. -/
def OwnKeys (P : Platform Image Data Time) (g : Graph) : Prop :=
  ∀ b k, g.key b = some k → ∃ t, k = some (P.absoluteString ⟨.tblBooks, b, t⟩)

theorem key_of_row (hb : g.books.row b = some book) : g.key b = some book.book_id := by
  rw [key, hb, Option.map_some]

theorem visible_iff : (∃ book, g.books.row b = some book) ↔ (g.key b).isSome := by
  rw [key, Option.isSome_map, Option.isSome_iff_exists]

theorem key_insertBook (book : TblBooks) (c : Nat) : (g.insertBook book).key c =
    if c = g.books.next then some book.book_id else g.key c := by
  simp only [key, book_insertBook]
  split <;> rfl

theorem key_attach (b : Nat) (mk : Nat → String → TblImages) (us : List String) (c : Nat) :
    (g.attach b mk us).key c = g.key c := by
  simp only [key, book_attach]
  split
  · rw [Option.map_map]
    rfl
  · rfl

theorem key_dropImages (gone : Nat → Bool) (c : Nat) : (g.dropImages gone).key c = g.key c := by
  simp only [key, book_dropImages, Option.map_map]
  rfl

theorem key_deleteBook (b c : Nat) :
    (g.deleteBook b).key c = if c = b then none else g.key c := by
  simp only [key, book_deleteBook]
  split
  · rfl
  · rw [Option.map_map]
    rfl

theorem ownKeys_empty (P : Platform Image Data Time) : empty.OwnKeys P := by
  intro b k hk
  cases hk

theorem OwnKeys.keyed {P : Platform Image Data Time} (h : g.OwnKeys P) : g.Keyed := by
  intro b book hb
  obtain ⟨t, ht⟩ := h b _ (key_of_row hb)
  refine ⟨_, ht, ?_⟩
  intro c book' hc hid
  obtain ⟨t', ht'⟩ := h c _ (key_of_row hc)
  rw [hid, Option.some.injEq] at ht'
  have he := P.absoluteString_injective ht'
  cases he
  rfl

theorem OwnKeys.insertBook {P : Platform Image Data Time} (h : g.OwnKeys P) {book : TblBooks}
    (hbook : book.book_id = some (P.absoluteString ⟨.tblBooks, g.books.next, t⟩)) :
    (g.insertBook book).OwnKeys P := by
  intro c k hk
  rw [key_insertBook] at hk
  split at hk
  · rename_i hc
    cases hk
    subst hc
    exact ⟨t, hbook⟩
  · exact h c k hk

theorem OwnKeys.modifyBook {P : Platform Image Data Time} (h : g.OwnKeys P)
    {f : TblBooks → TblBooks}
    (hf : ∀ book, (f book).book_id = some (P.absoluteString ⟨.tblBooks, b, t⟩)) :
    (g.modifyBook b f).OwnKeys P := by
  intro c k hk
  simp only [key, book_modifyBook] at hk
  split at hk
  · rename_i hc
    rw [Option.map_map, Option.map_eq_some_iff] at hk
    obtain ⟨book, -, rfl⟩ := hk
    subst hc
    exact ⟨t, hf book⟩
  · exact h c k hk

theorem OwnKeys.attach {P : Platform Image Data Time} (h : g.OwnKeys P) (b : Nat)
    (mk : Nat → String → TblImages) (us : List String) : (g.attach b mk us).OwnKeys P := by
  intro c k hk
  rw [key_attach] at hk
  exact h c k hk

theorem OwnKeys.dropImages {P : Platform Image Data Time} (h : g.OwnKeys P) (gone : Nat → Bool) :
    (g.dropImages gone).OwnKeys P := by
  intro c k hk
  rw [key_dropImages] at hk
  exact h c k hk

theorem OwnKeys.deleteBook {P : Platform Image Data Time} (h : g.OwnKeys P) (b : Nat) :
    (g.deleteBook b).OwnKeys P := by
  intro c k hk
  rw [key_deleteBook] at hk
  split at hk
  · cases hk
  · exact h c k hk

theorem mem_fetchBooks : b ∈ g.fetchBooks ↔ ∃ book, g.books.row b = some book := by
  simp only [fetchBooks, Table.mem_select, and_true]

end Graph

section
variable {P : Platform Image Data Time} {s t : App Image Data}

theorem Graph.OwnKeys.addedView {ctx : Context} (h : ctx.view.OwnKeys P) (vc : AddBookVC) :
    (addedView P ctx vc).OwnKeys P :=
  (h.insertBook rfl).attach _ _ _

theorem Graph.OwnKeys.extendedView {ctx : Context} (h : ctx.view.OwnKeys P) (vc : AddBookVC)
    (b : Nat) : (extendedView P ctx vc b).OwnKeys P :=
  (h.modifyBook fun _ => rfl).attach _ _ _

theorem key_addedView (ctx : Context) (vc : AddBookVC) (c : Nat) :
    (addedView P ctx vc).key c =
      if c = ctx.view.books.next then some (newBook P ctx vc).book_id else ctx.view.key c := by
  rw [addedView, Graph.key_attach, Graph.key_insertBook]

theorem key_extendedView (ctx : Context) (vc : AddBookVC) (b c : Nat) (h : c ≠ b) :
    (extendedView P ctx vc b).key c = ctx.view.key c := by
  rw [extendedView, Graph.key_attach, Graph.key, Graph.book_modifyBook, if_neg h]
  rfl

theorem visible_extendedView (ctx : Context) (vc : AddBookVC) (b c : Nat) :
    ((extendedView P ctx vc b).key c).isSome = (ctx.view.key c).isSome := by
  rw [extendedView, Graph.key_attach, Graph.key, Graph.book_modifyBook]
  split
  · rw [Option.isSome_map, Option.isSome_map, Graph.key, Option.isSome_map]
  · rfl

structure Targeted (P : Platform Image Data Time) (s : App Image Data) : Prop where
  keys : s.context.view.OwnKeys P
  rows : ∀ b ∈ s.list.arrTblBooks, (s.context.view.key b).isSome
  rows_nodup : s.list.arrTblBooks.Nodup
  form : ∀ vc b, s.form = some vc → vc.bookData = some b → (s.context.view.key b).isSome

theorem getBookRecords_visible (g : Graph) (fetch : Fetch) (list : ViewController) :
    (∀ b ∈ (list.getBookRecords g fetch).arrTblBooks, (g.key b).isSome) ∧
      (list.getBookRecords g fetch).arrTblBooks.Nodup := by
  simp only [ViewController.getBookRecords]
  cases hf : fetch.answer g.fetchBooks with
  | none => exact ⟨fun b hb => absurd hb List.not_mem_nil, List.nodup_nil⟩
  | some array =>
    have hp := Fetch.answer_perm hf
    refine ⟨?_, hp.nodup_iff.2 (Table.nodup_select _ _)⟩
    intro b hb
    exact Graph.visible_iff.1 (Graph.mem_fetchBooks.1 (hp.mem_iff.1 hb))

theorem targeted_launch {store : Graph} (h : store.OwnKeys P) (fetch : Fetch) :
    Targeted P (App.launch store fetch : App Image Data) where
  keys := h
  rows := (getBookRecords_visible _ _ _).1
  rows_nodup := (getBookRecords_visible _ _ _).2
  form := by
    intro vc b hvc
    cases hvc

theorem setUpdatedData_bookData {g : Graph} (h : AddBookVC.setUpdatedData g order b = some vc) :
    vc.bookData = some b ∧ ∃ book, g.books.row b = some book := by
  simp only [AddBookVC.setUpdatedData, Option.bind_eq_bind, Option.bind_eq_some_iff] at h
  obtain ⟨book, hbook, _, _, _, _, _, _, _, _, h⟩ := h
  cases h
  exact ⟨rfl, book, hbook⟩

theorem Targeted.sameBook (h : Targeted P s) (hc : t.context = s.context) (hl : t.list = s.list)
    (hs : s.form = some vc) (ht : t.form = some vc') (hb : vc'.bookData = vc.bookData) :
    Targeted P t where
  keys := hc ▸ h.keys
  rows := by
    rw [hc, hl]
    exact h.rows
  rows_nodup := hl ▸ h.rows_nodup
  form := by
    intro vc₁ b h₁ hb₁
    rw [ht] at h₁
    cases h₁
    rw [hb] at hb₁
    rw [hc]
    exact h.form vc b hs hb₁

theorem Targeted.effect (h : Targeted P s) (he : Effect P s e t) : Targeted P t := by
  cases he with
  | refresh hf =>
    have hg := getBookRecords_visible s.context.view ‹Fetch› s.list
    exact ⟨h.keys, hg.1, hg.2, h.form⟩
  | openAdd hf => exact ⟨h.keys, h.rows, h.rows_nodup, by rintro vc b ⟨⟩ hb; cases hb⟩
  | openEdit hf hrow hvc =>
    obtain ⟨hdata, hvis⟩ := setUpdatedData_bookData hvc
    refine ⟨h.keys, h.rows, h.rows_nodup, ?_⟩
    intro vc c h₀ hc
    cases h₀
    rw [hdata] at hc
    cases hc
    exact Graph.visible_iff.1 hvis
  | @delete row b book fetch save hf hrow hbook =>
    have hrest (c : Nat) (hc : c ∈ s.list.arrTblBooks.eraseIdx row) :
        c ≠ b ∧ c ∈ s.list.arrTblBooks := by
      rw [eraseIdx_eq_erase h.rows_nodup hrow] at hc
      exact h.rows_nodup.mem_erase_iff.1 hc
    refine ⟨?_, ?_, h.rows_nodup.eraseIdx _, ?_⟩
    · rw [Context.view_save]
      exact h.keys.deleteBook b
    · intro c hc
      obtain ⟨hne, hmem⟩ := hrest c hc
      rw [Context.view_save, Graph.key_deleteBook, if_neg hne]
      exact h.rows c hmem
    · intro vc c hvc
      rw [hf] at hvc
      cases hvc
  | pick hf => exact h.sameBook rfl rfl hf rfl rfl
  | remove hf _ => exact h.sameBook rfl rfl hf rfl rfl
  | texts hf => exact h.sameBook rfl rfl hf rfl rfl
  | refused hf _ => exact h.sameBook rfl rfl hf rfl rfl
  | @added vc answers a n hf _ hb =>
    have hkey (c : Nat) (hc : (s.context.view.key c).isSome) :
        ((addedView P s.context vc).key c).isSome := by
      rw [key_addedView]
      split
      · rfl
      · exact hc
    refine ⟨?_, ?_, h.rows_nodup, ?_⟩
    · rw [Context.view_save]
      exact h.keys.addedView vc
    · intro c hc
      rw [Context.view_save]
      exact hkey c (h.rows c hc)
    · intro vc' c h₀ hc
      cases h₀
      rw [Context.view_save]
      exact hkey c (h.form vc c hf hc)
  | @updated vc b book gone answers a n ctx hf _ hb _ hr hv =>
    have hkey (c : Nat) : (ctx.view.key c).isSome = (s.context.view.key c).isSome := by
      rw [hv, Graph.key_dropImages, visible_extendedView]
    refine ⟨?_, ?_, h.rows_nodup, ?_⟩
    · rw [Context.view_save, hv]
      exact (h.keys.extendedView vc b).dropImages gone
    · intro c hc
      rw [Context.view_save, hkey]
      exact h.rows c hc
    · intro vc' c h₀ hc
      cases h₀
      rw [Context.view_save, hkey]
      exact h.form vc c hf hc
  | leave hf _ =>
    refine ⟨h.keys, h.rows, h.rows_nodup, ?_⟩
    intro vc b hvc
    cases hvc

theorem Targeted.step (h : Targeted P s) (hen : s.Enabled e) (hs : s.step P e = some t) :
    Targeted P t :=
  h.effect (step_effect h.keys.keyed hen hs)

theorem targeted_of_run {B : App Image Data → Event Image Time → Prop} {store : Graph}
    (hk : store.OwnKeys P) (h : (bookStore P).Run B (App.launch store fetch) es s) : Targeted P s :=
  h.invariant (fun _ _ _ hi hen _ hs => hi.step hen hs) (targeted_launch hk fetch)

def Event.FetchesSucceed : Event Image Time → Prop
  | .pullToRefresh fetch => fetch.isSome
  | .swipeDelete _ fetch _ => fetch.isSome
  | .clickSave answers => answers.bookFetch.isSome ∧ ∀ k, (answers.imageFetch k).isSome
  | _ => True

theorem Fetch.answer_isSome {fetch : Fetch} (h : fetch.isSome) (found : List Nat) :
    ∃ l, fetch.answer found = some l :=
  Option.isSome_iff_exists.1 (by rw [Fetch.answer, Option.isSome_map]; exact h)

theorem removeImages_isSome {answers : SaveAnswers} (h : ∀ k, (answers.imageFetch k).isSome)
    (b k : Nat) (us : List String) (ctx : Context) :
    ∃ ctx', removeImages answers b k us ctx = some ctx' := by
  induction us generalizing k ctx with
  | nil => exact ⟨ctx, rfl⟩
  | cons u us ih =>
    obtain ⟨getData, hget⟩ := Fetch.answer_isSome (h k) (ctx.view.imagesWithURL u)
    simp only [removeImages, hget, Option.bind_eq_bind, Option.bind_some]
    cases getData with
    | nil => exact ih _ _
    | cons img rest => exact ih _ _

theorem saveAndGoBack_isSome {answers : SaveAnswers} (h : ∀ k, (answers.imageFetch k).isSome)
    (ctx : Context) {vc : AddBookVC} (hb : vc.bookData = some b) :
    ∃ s, saveAndGoBack answers (ctx, vc) = some s := by
  obtain ⟨ctx', hctx⟩ := removeImages_isSome h b 0 vc.arrRemoveImages ctx
  simp only [saveAndGoBack, hb, hctx, Option.bind_eq_bind, Option.bind_some]
  exact ⟨_, rfl⟩

theorem updateBookRecord_isSome {ctx : Context} (hk : ctx.view.OwnKeys P)
    (hv : ctx.view.books.row b = some book) {answers : SaveAnswers}
    (hf : answers.bookFetch.isSome ∧ ∀ k, (answers.imageFetch k).isSome) {vc : AddBookVC}
    (hb : vc.bookData = some b) : ∃ s, updateBookRecord P answers (ctx, vc) = some s := by
  obtain ⟨t, hid⟩ := hk b _ (Graph.key_of_row hv)
  obtain ⟨getData, hget⟩ := Fetch.answer_isSome hf.1 [b]
  have hl := Fetch.answer_singleton hget
  subst hl
  have hlookup := hk.keyed.lookup hv hid
  simp only [updateBookRecord, hb, hv, hid, hlookup, hget, Option.bind_eq_bind, Option.bind_some,
    List.getElem?_cons_zero]
  split
  · rename_i hu
    rw [forEnumerated_of_ne_nil (List.ne_nil_of_length_pos hu), foldl_addImage]
    exact saveAndGoBack_isSome hf.2 _ hb
  · exact saveAndGoBack_isSome hf.2 _ hb

theorem Targeted.lookup (h : Targeted P s) (hb : (s.context.view.key b).isSome) :
    ∃ book book_id, s.context.view.books.row b = some book ∧ book.book_id = some book_id ∧
      s.context.view.booksWithID book_id = [b] := by
  obtain ⟨book, hbook⟩ := Graph.visible_iff.2 hb
  obtain ⟨t, hid⟩ := h.keys b _ (Graph.key_of_row hbook)
  exact ⟨book, _, hbook, hid, h.keys.keyed.lookup hbook hid⟩

theorem Targeted.deleteAction (h : Targeted P s) (hrow : s.list.arrTblBooks[row]? = some b)
    (order : Arrangement) (save : Bool) :
    ∃ s', ViewController.deleteAction (some order) save row (s.context, s.list) = some s' ∧
      s'.1.view = s.context.view.deleteBook b := by
  obtain ⟨book, book_id, hbook, hid, hlookup⟩ := h.lookup (h.rows b (List.mem_of_getElem? hrow))
  obtain ⟨getData, hget⟩ := Fetch.answer_isSome (show (some order : Fetch).isSome from rfl) [b]
  have hl := Fetch.answer_singleton hget
  subst hl
  simp only [ViewController.deleteAction, hrow, hbook, hid, hlookup, hget, Option.bind_eq_bind,
    Option.bind_some, List.getElem?_cons_zero]
  exact ⟨_, rfl, by simp only [Context.view_save]⟩

def Graph.columns (g : Graph) (b : Nat) : Option (List (Option String)) :=
  (g.books.row b).map fun book => [book.book_name, book.author_name, book.book_desc, book.book_id]

theorem columns_extendedView (ctx : Context) (vc : AddBookVC) (b c : Nat) (h : c ≠ b) :
    (extendedView P ctx vc b).columns c = ctx.view.columns c := by
  simp only [Graph.columns, extendedView, Graph.book_attach, Graph.book_modifyBook, if_neg h]

theorem Graph.columns_dropImages (g : Graph) (gone : Nat → Bool) (c : Nat) :
    (g.dropImages gone).columns c = g.columns c := by
  simp only [columns, book_dropImages, Option.map_map]
  rfl

theorem Graph.columns_deleteBook (g : Graph) (b c : Nat) :
    (g.deleteBook b).columns c = if c = b then none else g.columns c := by
  simp only [columns, book_deleteBook]
  split
  · rfl
  · rw [Option.map_map]
    rfl

theorem Targeted.updateBookRecord (h : Targeted P s) (hf : s.form = some vc)
    (hb : vc.bookData = some b) {answers : SaveAnswers}
    (ha : answers.bookFetch.isSome ∧ ∀ k, (answers.imageFetch k).isSome) :
    ∃ s', updateBookRecord P answers (s.context, vc) = some s' ∧
      ∀ c, c ≠ b → s'.1.view.columns c = s.context.view.columns c := by
  obtain ⟨book, hbook⟩ := Graph.visible_iff.2 (h.form vc b hf hb)
  obtain ⟨s', hs'⟩ := updateBookRecord_isSome h.keys hbook ha hb
  obtain ⟨gone, ctx', -, hv, he⟩ := saveAndGoBack_spec (updateBookRecord_eq h.keys.keyed hb hs').2
  refine ⟨s', hs', ?_⟩
  intro c hc
  have hview : s'.1.view = (extendedView P s.context vc b).dropImages gone := by
    rw [he, ← hv]
    exact Context.view_save _ _
  rw [hview, Graph.columns_dropImages, columns_extendedView _ _ _ _ hc]

/-- Update and Delete find the book of their row and nothing else. -/
theorem books_targeted (P : Platform Image Data Time) (order : Arrangement)
    (h : (bookStore P).Run (fun _ e => e.FetchesSucceed) (App.launch Graph.empty (some order))
      es s) :
    (∀ b ∈ s.context.view.fetchBooks, ∃ book_id, s.context.view.key b = some (some book_id) ∧
      ∀ c ∈ s.context.view.fetchBooks, s.context.view.key c = some (some book_id) → c = b) ∧
    (∀ b ∈ s.list.arrTblBooks, ∃ book_id, s.context.view.key b = some (some book_id) ∧
      s.context.view.booksWithID book_id = [b]) ∧
    (∀ row b order save, s.list.arrTblBooks[row]? = some b →
      ∃ s', ViewController.deleteAction (some order) save row (s.context, s.list) = some s' ∧
        s'.1.view.key b = none ∧
        ∀ c, c ≠ b → s'.1.view.columns c = s.context.view.columns c) ∧
    ∀ vc b answers, s.form = some vc → vc.bookData = some b →
      (Event.clickSave answers : Event Image Time).FetchesSucceed →
      ∃ s', updateBookRecord P answers (s.context, vc) = some s' ∧
        ∀ c, c ≠ b → s'.1.view.columns c = s.context.view.columns c := by
  have hi : Targeted P s := targeted_of_run (Graph.ownKeys_empty P) h
  refine ⟨?_, ?_, ?_, ?_⟩
  · intro b hb
    obtain ⟨book, hbook⟩ := Graph.mem_fetchBooks.1 hb
    obtain ⟨book_id, hid, hu⟩ := hi.keys.keyed b book hbook
    refine ⟨book_id, by rw [Graph.key_of_row hbook, hid], ?_⟩
    intro c hc hkey
    obtain ⟨book', hbook'⟩ := Graph.mem_fetchBooks.1 hc
    rw [Graph.key_of_row hbook', Option.some.injEq] at hkey
    exact hu c book' hbook' hkey
  · intro b hb
    obtain ⟨book, book_id, hbook, hid, hlookup⟩ := hi.lookup (hi.rows b hb)
    exact ⟨book_id, by rw [Graph.key_of_row hbook, hid], hlookup⟩
  · intro row b order' save hrow
    obtain ⟨s', hs', hv⟩ := hi.deleteAction hrow order' save
    refine ⟨s', hs', ?_, ?_⟩
    · rw [hv, Graph.key_deleteBook, if_pos rfl]
    · intro c hc
      rw [hv, Graph.columns_deleteBook, if_neg hc]
  · intro vc b answers hf hb ha
    exact hi.updateBookRecord hf hb ha

def addedOnce : List (Event Nat Nat) :=
  [.clickAdd, .pickImage 7 1 true true, .editTexts "n" "a" "d", .clickSave .succeed, .popTimer,
    .pullToRefresh (some .asStored)]

theorem books_targeted_added_once : ∃ s,
    (bookStore .device).Run (fun _ e => e.FetchesSucceed)
      (App.launch Graph.empty (some .asStored)) addedOnce s ∧
    s.list.arrTblBooks = [0] ∧ ∀ b ∈ s.list.arrTblBooks, ∃ book_id,
      s.context.view.key b = some (some book_id) ∧ s.context.view.booksWithID book_id = [b] := by
  have h : ((bookStore .device).exec (fun _ _ => True)
      (App.launch Graph.empty (some .asStored)) addedOnce).any (fun s =>
        decide (s.list.arrTblBooks = [0])) = true := by
    decide +kernel
  obtain ⟨s, hs, hrow⟩ := Machine.exec_any h
  have hfetch : ∀ e ∈ addedOnce, e.FetchesSucceed := by
    simp only [addedOnce, List.mem_cons, List.not_mem_nil, or_false]
    intro e h₀
    rcases h₀ with rfl | rfl | rfl | rfl | rfl | rfl
    all_goals simp [Event.FetchesSucceed, SaveAnswers.succeed]
  have hrun := (hs.with_events hfetch).mono fun _ _ hB => hB.2
  exact ⟨s, hrun, of_decide_eq_true hrow, (books_targeted .device .asStored hrun).2.1⟩

end

end TrainingDemos.BookStore
