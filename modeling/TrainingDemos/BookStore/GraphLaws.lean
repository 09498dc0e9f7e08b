import TrainingDemos.BookStore.ObjectGraph

namespace TrainingDemos.BookStore
set_option autoImplicit true

namespace Graph
variable {g : Graph}

/-- Insert images for a list of file names into the set of one book. -/
def attach (g : Graph) (b : Nat) (mk : Nat → String → TblImages) (us : List String) : Graph :=
  us.foldl (fun g u => g.insertImage b (mk g.images.next u)) g

@[simp] theorem images_modifyBook (g : Graph) (b : Nat) (f : TblBooks → TblBooks) :
    (g.modifyBook b f).images = g.images := rfl

theorem book_insertBook (g : Graph) (book : TblBooks) (c : Nat) :
    (g.insertBook book).books.row c = if c = g.books.next then some book else g.books.row c := rfl

theorem book_modifyBook (g : Graph) (b : Nat) (f : TblBooks → TblBooks) (c : Nat) :
    (g.modifyBook b f).books.row c = if c = b then (g.books.row c).map f else g.books.row c :=
  Table.row_modify _ _ _ _

theorem book_dropImages (g : Graph) (gone : Nat → Bool) (c : Nat) :
    (g.dropImages gone).books.row c = (g.books.row c).map fun book =>
      { book with book_images := book.book_images.filter fun i => !gone i } := rfl

theorem image_dropImages (g : Graph) (gone : Nat → Bool) (i : Nat) :
    (g.dropImages gone).images.row i = if gone i then none else g.images.row i := by
  rw [dropImages, Table.row_filter]
  cases gone i <;> rfl

theorem book_deleteBook (g : Graph) (b c : Nat) :
    (g.deleteBook b).books.row c = if c = b then none else
      (g.books.row c).map fun book =>
        { book with book_images := book.book_images.filter fun i => !g.owns b i } := by
  by_cases h : c = b
  · simp only [deleteBook, Table.row_filter, h, decide_true, Bool.not_true, Bool.false_eq_true,
      if_false, if_true]
  · simp only [deleteBook, Table.row_filter, h, decide_false, Bool.not_false, if_true, if_false]
    rfl

theorem image_deleteBook (g : Graph) (b i : Nat) :
    (g.deleteBook b).images.row i = if g.owns b i then none else g.images.row i :=
  image_dropImages _ _ _

theorem removeFromBookImages_deleteImage (g : Graph) (b i : Nat) :
    (g.deleteImage i).removeFromBookImages b i = g.deleteImage i := by
  refine eq_of_rows rfl rfl ?_ (fun _ => rfl)
  intro c
  rw [removeFromBookImages, book_modifyBook]
  split
  · simp only [deleteImage, book_dropImages, Option.map_map]
    congr 1
    funext book
    simp only [Function.comp, List.filter_filter, Bool.and_self]
  · rfl

theorem dropImages_dropImages (g : Graph) (gone gone' : Nat → Bool) :
    (g.dropImages gone).dropImages gone' = g.dropImages fun i => gone i || gone' i := by
  refine eq_of_rows rfl rfl ?_ ?_
  · intro c
    simp only [book_dropImages, Option.map_map]
    congr 1
    funext book
    simp only [Function.comp, List.filter_filter, Bool.not_or, Bool.and_comm]
  · intro i
    simp only [image_dropImages]
    cases gone i <;> cases gone' i <;> rfl

theorem dropImages_none (g : Graph) : g.dropImages (fun _ => false) = g := by
  refine eq_of_rows rfl rfl ?_ ?_
  · intro c
    simp only [book_dropImages, Bool.not_false, List.filter_true, Option.map_id']
  · intro i
    simp only [image_dropImages, Bool.false_eq_true, if_false]

@[simp] theorem next_books_attach (g : Graph) (b : Nat) (mk : Nat → String → TblImages)
    (us : List String) : (g.attach b mk us).books.next = g.books.next := by
  induction us generalizing g with
  | nil => rfl
  | cons u us ih => exact ih _

theorem image_attach (g : Graph) (b : Nat) (mk : Nat → String → TblImages) (us : List String)
    (i : Nat) : (g.attach b mk us).images.row i =
      if i < g.images.next then g.images.row i
      else us[i - g.images.next]?.map (mk i) := by
  induction us generalizing g with
  | nil =>
    by_cases h : i < g.images.next
    · rw [if_pos h]; rfl
    · rw [if_neg h]; exact g.images.unallocated i (by omega)
  | cons u us ih =>
    have hstep : (g.attach b mk (u :: us)) =
        (g.insertImage b (mk g.images.next u)).attach b mk us := rfl
    have hn : (g.insertImage b (mk g.images.next u)).images =
      g.images.insert (mk g.images.next u) := rfl
    rw [hstep, ih, hn, Table.next_insert, Table.row_insert]
    by_cases h : i < g.images.next
    · rw [if_pos (by omega), if_neg (by omega), if_pos h]
    · by_cases he : i = g.images.next
      · subst he
        rw [if_pos (by omega), if_pos rfl, if_neg h, Nat.sub_self]
        rfl
      · rw [if_neg (by omega), if_neg h]
        have hsub : i - g.images.next = (i - (g.images.next + 1)) + 1 := by omega
        rw [hsub, List.getElem?_cons_succ]

theorem book_attach (g : Graph) (b : Nat) (mk : Nat → String → TblImages) (us : List String)
    (c : Nat) : (g.attach b mk us).books.row c =
      if c = b then (g.books.row c).map fun book => { book with
        book_images := book.book_images ++ List.range' g.images.next us.length }
      else g.books.row c := by
  induction us generalizing g with
  | nil =>
    split
    · simp only [List.length_nil, List.range'_zero, List.append_nil, Option.map_id']
      rfl
    · rfl
  | cons u us ih =>
    have hstep : (g.attach b mk (u :: us)) =
        (g.insertImage b (mk g.images.next u)).attach b mk us := rfl
    rw [hstep, ih, insertImage, book_modifyBook]
    split
    · simp only [images_modifyBook, Table.next_insert, Option.map_map, List.length_cons]
      congr 1
      funext book
      simp only [Function.comp, List.append_assoc, List.singleton_append, List.range'_succ]
    · rfl

end Graph

end TrainingDemos.BookStore
