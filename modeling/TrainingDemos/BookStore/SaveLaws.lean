import TrainingDemos.BookStore.ViewController
import TrainingDemos.BookStore.Ownership

namespace TrainingDemos.BookStore
set_option autoImplicit true

theorem Fetch.answer_perm {fetch : Fetch} (h : fetch.answer found = some l) : l.Perm found := by
  obtain ⟨order, -, rfl⟩ := Option.map_eq_some_iff.1 h
  exact order.perm found

theorem Fetch.answer_singleton {fetch : Fetch} (h : fetch.answer [b] = some l) : l = [b] :=
  List.perm_singleton.1 (Fetch.answer_perm h)

/-- Each book carries a `book_id`, and no other book carries the same one. -/
def Graph.Keyed (g : Graph) : Prop :=
  ∀ b book, g.books.row b = some book → ∃ book_id, book.book_id = some book_id ∧
    ∀ c book', g.books.row c = some book' → book'.book_id = some book_id → c = b

theorem Graph.Keyed.lookup {g : Graph} (h : g.Keyed) (hb : g.books.row b = some book)
    (hid : book.book_id = some book_id) : g.booksWithID book_id = [b] := by
  obtain ⟨id, hid', hu⟩ := h b book hb
  rw [hid] at hid'
  cases hid'
  apply Table.select_eq_singleton hb (by simp only [hid, decide_true])
  intro c book' hc hp
  exact hu c book' hc (of_decide_eq_true hp)

theorem Graph.mem_imagesWithURL {g : Graph} : i ∈ g.imagesWithURL u ↔ g.Names i u := by
  simp only [imagesWithURL, Table.mem_select, decide_eq_true_eq, Names]

instance (g : Graph) (u : String) : Decidable (∀ i, ¬ g.Names i u) :=
  decidable_of_iff (g.imagesWithURL u = []) (by
    simp only [List.eq_nil_iff_forall_not_mem, Graph.mem_imagesWithURL])

instance (g : Graph) : DecidablePred fun u => ∃ i, g.Names i u := fun u =>
  decidable_of_iff (∃ i ∈ g.imagesWithURL u, True) (by
    simp only [Graph.mem_imagesWithURL, and_true])

/-- Deleting `gone` answers the removal of the file names `us`. -/
structure Removal (g : Graph) (us : List String) (gone : Nat → Bool) : Prop where
  named : ∀ i, gone i = true → ∃ u ∈ us, g.Names i u
  covers : ∀ u ∈ us, ∀ i, g.Names i u → ∃ j, gone j = true ∧ g.Names j u

theorem removeImages_spec (h : removeImages answers bookData k us ctx = some ctx') :
    ∃ gone, Removal ctx.view us gone ∧ ctx'.view = ctx.view.dropImages gone := by
  induction us generalizing k ctx with
  | nil =>
    cases h
    refine ⟨fun _ => false, ⟨?_, ?_⟩, (Graph.dropImages_none _).symm⟩
    · intro i hi
      cases hi
    · intro u hu
      cases hu
  | cons u us ih =>
    simp only [removeImages, Option.bind_eq_bind, Option.bind_eq_some_iff] at h
    obtain ⟨getData, hget, h⟩ := h
    have hperm := Fetch.answer_perm hget
    cases getData with
    | nil =>
      obtain ⟨gone, hr, hv⟩ := ih h
      refine ⟨gone, ⟨?_, ?_⟩, hv⟩
      · intro i hi
        obtain ⟨v, hv, hn⟩ := hr.named i hi
        exact ⟨v, List.mem_cons_of_mem _ hv, hn⟩
      · intro v hv i hn
        rcases List.mem_cons.1 hv with rfl | hv
        · have hi := hperm.mem_iff.2 (Graph.mem_imagesWithURL.2 hn)
          cases hi
        · exact hr.covers v hv i hn
    | cons img rest =>
      have himg : ctx.view.Names img u :=
        Graph.mem_imagesWithURL.1 (hperm.mem_iff.1 List.mem_cons_self)
      simp only [Graph.removeFromBookImages_deleteImage] at h
      obtain ⟨gone, hr, hv⟩ := ih h
      simp only [Context.view_save, Graph.deleteImage] at hr hv
      refine ⟨fun i => decide (i = img) || gone i, ⟨?_, ?_⟩, ?_⟩
      · intro i hi
        simp only [Bool.or_eq_true, decide_eq_true_eq] at hi
        rcases hi with rfl | hi
        · exact ⟨u, List.mem_cons_self, himg⟩
        · obtain ⟨v, hv, hn⟩ := hr.named i hi
          exact ⟨v, List.mem_cons_of_mem _ hv, ((Graph.names_dropImages _ _ _).1 hn).1⟩
      · intro v hv i hn
        by_cases hi : i = img
        · exact ⟨img, by simp only [decide_true, Bool.true_or], hi ▸ hn⟩
        · rcases List.mem_cons.1 hv with rfl | hv
          · exact ⟨img, by simp only [decide_true, Bool.true_or], himg⟩
          · have hn' := (Graph.names_dropImages (fun j => decide (j = img)) i v).2
              ⟨hn, by simp only [hi, decide_false]⟩
            obtain ⟨j, hj, hnj⟩ := hr.covers v hv i hn'
            exact ⟨j, by simp only [hj, Bool.or_true], ((Graph.names_dropImages _ _ _).1 hnj).1⟩
      · rw [hv, Graph.dropImages_dropImages]

section Handlers
variable {P : Platform Image Data Time}

def imageRow (P : Platform Image Data Time) (ctx : Context) (b i : Nat) (u : String) :
    TblImages where
  b_id := some (P.absoluteString (ctx.bookID b))
  image_id := some (P.absoluteString (ctx.imageID i))
  img_url := some u

theorem foldl_addImage (b : Nat) (us : List String) (ctx : Context) (vc : AddBookVC) :
    us.foldl (addImage P b) (ctx, vc) =
      ({ ctx with view := ctx.view.attach b (imageRow P ctx b) us }, vc) := by
  induction us generalizing ctx with
  | nil => rfl
  | cons u us ih => exact ih { ctx with view := _ }

def newBook (P : Platform Image Data Time) (ctx : Context) (vc : AddBookVC) : TblBooks where
  book_name := some vc.txts0
  author_name := some vc.txts1
  book_desc := some vc.txt_desc
  book_id := some (P.absoluteString (ctx.bookID ctx.view.books.next))
  book_images := []

def rewriteBook (P : Platform Image Data Time) (ctx : Context) (vc : AddBookVC) (b : Nat)
    (book : TblBooks) : TblBooks :=
  { book with
    book_name := some vc.txts0
    author_name := some vc.txts1
    book_desc := some vc.txt_desc
    book_id := some (P.absoluteString (ctx.bookID b)) }

def addedView (P : Platform Image Data Time) (ctx : Context) (vc : AddBookVC) : Graph :=
  (ctx.view.insertBook (newBook P ctx vc)).attach ctx.view.books.next
    (imageRow P ctx ctx.view.books.next) vc.arrImages

/-- The objects after the picked images of an Edit form are stored, before the removals. -/
def extendedView (P : Platform Image Data Time) (ctx : Context) (vc : AddBookVC) (b : Nat) :
    Graph :=
  (ctx.view.modifyBook b (rewriteBook P ctx vc b)).attach b (imageRow P ctx b) vc.arrUpdatedImages

theorem addBookRecord_eq (h : vc.arrImages ≠ []) (save : Bool) (ctx : Context) :
    addBookRecord P save (ctx, vc) = some (saveAndPop "Book Added SuccessFully!" save
      ({ ctx with view := addedView P ctx vc }, vc)) := by
  rw [addBookRecord, forEnumerated_of_ne_nil h, foldl_addImage]
  rfl

theorem updateBookRecord_eq (hk : ctx.view.Keyed) (hb : vc.bookData = some b)
    (h : updateBookRecord P answers (ctx, vc) = some s) :
    (∃ book, ctx.view.books.row b = some book) ∧
      saveAndGoBack answers ({ ctx with view := extendedView P ctx vc b }, vc) = some s := by
  simp only [updateBookRecord, hb, Option.bind_eq_bind, Option.bind_some,
    Option.bind_eq_some_iff] at h
  obtain ⟨book, hbook, book_id, hid, getData, hget, target, ht, h⟩ := h
  rw [hk.lookup hbook hid] at hget
  rw [Fetch.answer_singleton hget] at ht
  cases ht
  refine ⟨⟨book, hbook⟩, ?_⟩
  split at h
  · rename_i hu
    rw [forEnumerated_of_ne_nil (List.ne_nil_of_length_pos hu), foldl_addImage] at h
    exact h
  · rename_i hu
    have hnil : vc.arrUpdatedImages = [] := List.eq_nil_of_length_eq_zero (by omega)
    rw [extendedView, hnil]
    exact h

theorem saveAndGoBack_eq (h : saveAndGoBack answers (ctx, vc) = some s) :
    ∃ b ctx', vc.bookData = some b ∧
      removeImages answers b 0 vc.arrRemoveImages ctx = some ctx' ∧
      s = saveAndPop "Book Updated SuccessFully!" answers.save (ctx', vc) := by
  simp only [saveAndGoBack, Option.bind_eq_bind, Option.bind_eq_some_iff] at h
  obtain ⟨b, hb, ctx', hr, hs⟩ := h
  exact ⟨b, ctx', hb, hr, (Option.some.inj hs).symm⟩

theorem saveAndGoBack_spec (h : saveAndGoBack answers (ctx, vc) = some s) :
    ∃ gone ctx', Removal ctx.view vc.arrRemoveImages gone ∧
      ctx'.view = ctx.view.dropImages gone ∧
      s = saveAndPop "Book Updated SuccessFully!" answers.save (ctx', vc) := by
  obtain ⟨b, ctx', -, hr, hs⟩ := saveAndGoBack_eq h
  obtain ⟨gone, hgone, hv⟩ := removeImages_spec hr
  exact ⟨gone, ctx', hgone, hv, hs⟩

theorem saveAndPop_form (msg : String) (save : Bool) (s : Screen) :
    ∃ a n, (saveAndPop msg save s).2 = { s.2 with alert := a, scheduledPops := n } := by
  cases save
  · exact ⟨s.2.alert, s.2.scheduledPops, rfl⟩
  · exact ⟨_, _, rfl⟩

end Handlers

theorem deleteAction_eq {s s' : Context × ViewController} (hk : s.1.view.Keyed)
    (h : ViewController.deleteAction fetch save row s = some s') :
    ∃ b, s.2.arrTblBooks[row]? = some b ∧ (∃ book, s.1.view.books.row b = some book) ∧
      s'.1 = Context.save { s.1 with view := s.1.view.deleteBook b } save ∧
      s'.2 = { s.2 with
        arrTblBooks := s.2.arrTblBooks.eraseIdx row, tableRows := s.2.tableRows - 1 } := by
  simp only [ViewController.deleteAction, Option.bind_eq_bind, Option.bind_eq_some_iff] at h
  obtain ⟨b, hb, book, hbook, book_id, hid, getdata, hget, target, ht, h⟩ := h
  rw [hk.lookup hbook hid] at hget
  rw [Fetch.answer_singleton hget] at ht
  cases ht
  cases h
  exact ⟨b, hb, ⟨book, hbook⟩, rfl, rfl⟩

end TrainingDemos.BookStore
