import TrainingDemos.BookStore.GraphLaws

namespace TrainingDemos.BookStore
set_option autoImplicit true

namespace Graph
variable {g : Graph}

theorem owns_insertBook {book : TblBooks} (hbook : book.book_images = []) (b i : Nat) :
    (g.insertBook book).Owns b i ↔ g.Owns b i := by
  simp only [Owns, book_insertBook]
  by_cases h : b = g.books.next
  · simp only [if_pos h, Option.some.injEq, exists_eq_left', hbook, List.not_mem_nil, false_iff,
      not_exists, not_and]
    intro book' hb
    rw [h, Table.row_next] at hb
    cases hb
  · rw [if_neg h]

theorem owns_modifyBook {f : TblBooks → TblBooks}
    (hf : ∀ book, (f book).book_images = book.book_images) (b c i : Nat) :
    (g.modifyBook b f).Owns c i ↔ g.Owns c i := by
  simp only [Owns, book_modifyBook]
  split
  · cases g.books.row c with
    | none => simp only [Option.map_none]
    | some book => simp only [Option.map_some, Option.some.injEq, exists_eq_left', hf]
  · rfl

theorem owns_dropImages (gone : Nat → Bool) (b i : Nat) :
    (g.dropImages gone).Owns b i ↔ g.Owns b i ∧ gone i = false := by
  simp only [Owns, book_dropImages]
  cases g.books.row b with
  | none => simp only [Option.map_none, reduceCtorEq, false_and, exists_false]
  | some book =>
    simp only [Option.map_some, Option.some.injEq, exists_eq_left', List.mem_filter,
      Bool.not_eq_true']

theorem owns_deleteBook (b c i : Nat) :
    (g.deleteBook b).Owns c i ↔ c ≠ b ∧ g.Owns c i ∧ ¬ g.Owns b i := by
  rw [← owns_iff (b := b)]
  by_cases h : c = b
  · simp only [Owns, book_deleteBook, h, if_true, reduceCtorEq, false_and, exists_false, ne_eq,
      not_true_eq_false]
  · have hd := owns_dropImages (g := g) (g.owns b) c i
    simp only [Owns, book_dropImages] at hd
    simp only [Owns, book_deleteBook, h, if_false, hd, ne_eq, not_false_eq_true, true_and,
      Bool.not_eq_true]

theorem owns_attach {mk : Nat → String → TblImages} {us : List String}
    (hb : g.books.row b = some book) (c i : Nat) : (g.attach b mk us).Owns c i ↔
      g.Owns c i ∨ c = b ∧ g.images.next ≤ i ∧ i < g.images.next + us.length := by
  simp only [Owns, book_attach]
  by_cases h : c = b
  · subst h
    simp only [if_true, hb, Option.map_some, Option.some.injEq, exists_eq_left', List.mem_append,
      List.mem_range'_1, true_and]
  · simp only [h, if_false, false_and, or_false]

theorem names_dropImages (gone : Nat → Bool) (i : Nat) (u : String) :
    (g.dropImages gone).Names i u ↔ g.Names i u ∧ gone i = false := by
  simp only [Names, image_dropImages]
  cases gone i with
  | true => simp only [if_true, reduceCtorEq, false_and, exists_false, and_false]
  | false => simp only [Bool.false_eq_true, if_false, and_true]

theorem names_deleteBook (b i : Nat) (u : String) :
    (g.deleteBook b).Names i u ↔ g.Names i u ∧ ¬ g.Owns b i := by
  rw [← owns_iff, Bool.not_eq_true]
  exact names_dropImages _ _ _

theorem names_attach {mk : Nat → String → TblImages} {us : List String}
    (hmk : ∀ i u, (mk i u).img_url = some u) (i : Nat) (u : String) :
    (g.attach b mk us).Names i u ↔
      g.Names i u ∨ g.images.next ≤ i ∧ us[i - g.images.next]? = some u := by
  simp only [Names, image_attach]
  by_cases h : i < g.images.next
  · simp only [if_pos h, Nat.not_le.2 h, false_and, or_false]
  · have hr := g.images.unallocated i (by omega)
    simp only [if_neg h, Nat.not_lt.1 h, true_and, hr, reduceCtorEq, false_and, exists_false,
      false_or]
    cases us[i - g.images.next]? with
    | none => simp only [Option.map_none, reduceCtorEq, false_and, exists_false]
    | some v => simp only [Option.map_some, Option.some.injEq, exists_eq_left', hmk]

theorem Names.unique (h : g.Names i u) (h' : g.Names i v) : u = v := by
  obtain ⟨image, hi, hu⟩ := h
  obtain ⟨image', hi', hv⟩ := h'
  rw [hi] at hi'
  cases hi'
  rw [hu] at hv
  exact Option.some.inj hv

/-- Every image is in the set of exactly one book, and what is read unchecked is present. -/
structure Sound (g : Graph) : Prop where
  resolves : ∀ b i, g.Owns b i → ∃ image, g.images.row i = some image
  nodup : ∀ b book, g.books.row b = some book → book.book_images.Nodup
  unique : ∀ b c i, g.Owns b i → g.Owns c i → b = c
  owned : ∀ i image, g.images.row i = some image → ∃ b, g.Owns b i
  texts : ∀ b book, g.books.row b = some book →
    book.book_name.isSome ∧ book.author_name.isSome ∧ book.book_desc.isSome
  urls : ∀ i image, g.images.row i = some image → image.img_url.isSome

theorem Sound.owns_names (h : g.Sound) (ho : g.Owns b i) : ∃ u, g.Names i u := by
  obtain ⟨image, hi⟩ := h.resolves b i ho
  obtain ⟨u, hu⟩ := Option.isSome_iff_exists.1 (h.urls i image hi)
  exact ⟨u, image, hi, hu⟩

theorem Sound.lt_next (h : g.Sound) (ho : g.Owns b i) : i < g.images.next := by
  obtain ⟨image, hi⟩ := h.resolves b i ho
  exact Table.lt_next hi

theorem sound_empty : empty.Sound := by
  have hb (b : Nat) : empty.books.row b = none := rfl
  have hi (i : Nat) : empty.images.row i = none := rfl
  constructor <;> simp only [Owns, hb, hi, reduceCtorEq, false_and, exists_false, false_implies,
    implies_true]

theorem Sound.insertBook (h : g.Sound) (book : TblBooks) (himages : book.book_images = [])
    (htexts : book.book_name.isSome ∧ book.author_name.isSome ∧ book.book_desc.isSome) :
    (g.insertBook book).Sound where
  resolves b i ho := h.resolves b i ((owns_insertBook himages b i).1 ho)
  nodup b book' hb := by
    rw [book_insertBook] at hb
    split at hb
    · cases hb
      rw [himages]
      exact List.nodup_nil
    · exact h.nodup b book' hb
  unique b c i hb hc := by
    rw [owns_insertBook himages] at hb hc
    exact h.unique b c i hb hc
  owned i image hi := by
    obtain ⟨b, hb⟩ := h.owned i image hi
    exact ⟨b, (owns_insertBook himages b i).2 hb⟩
  texts b book' hb := by
    rw [book_insertBook] at hb
    split at hb
    · cases hb
      exact htexts
    · exact h.texts b book' hb
  urls := h.urls

theorem Sound.modifyBook (h : g.Sound) (b : Nat) {f : TblBooks → TblBooks}
    (himages : ∀ book, (f book).book_images = book.book_images)
    (htexts : ∀ book, (f book).book_name.isSome ∧ (f book).author_name.isSome ∧
      (f book).book_desc.isSome) : (g.modifyBook b f).Sound where
  resolves c i ho := h.resolves c i ((owns_modifyBook himages b c i).1 ho)
  nodup c book' hc := by
    rw [book_modifyBook] at hc
    split at hc
    · obtain ⟨book, hbook, rfl⟩ := Option.map_eq_some_iff.1 hc
      rw [himages]
      exact h.nodup c book hbook
    · exact h.nodup c book' hc
  unique c d i hc hd := by
    rw [owns_modifyBook himages] at hc hd
    exact h.unique c d i hc hd
  owned i image hi := by
    obtain ⟨c, hc⟩ := h.owned i image hi
    exact ⟨c, (owns_modifyBook himages b c i).2 hc⟩
  texts c book' hc := by
    rw [book_modifyBook] at hc
    split at hc
    · obtain ⟨book, hbook, rfl⟩ := Option.map_eq_some_iff.1 hc
      exact htexts book
    · exact h.texts c book' hc
  urls := h.urls

theorem Sound.dropImages (h : g.Sound) (gone : Nat → Bool) : (g.dropImages gone).Sound where
  resolves b i ho := by
    rw [owns_dropImages] at ho
    obtain ⟨image, hi⟩ := h.resolves b i ho.1
    exact ⟨image, by rw [image_dropImages, ho.2]; exact hi⟩
  nodup b book' hb := by
    rw [book_dropImages] at hb
    obtain ⟨book, hbook, rfl⟩ := Option.map_eq_some_iff.1 hb
    exact (h.nodup b book hbook).filter _
  unique b c i hb hc := by
    rw [owns_dropImages] at hb hc
    exact h.unique b c i hb.1 hc.1
  owned i image hi := by
    rw [image_dropImages] at hi
    split at hi
    · cases hi
    · rename_i hg
      obtain ⟨b, hb⟩ := h.owned i image hi
      exact ⟨b, (owns_dropImages gone b i).2 ⟨hb, Bool.not_eq_true _ ▸ hg⟩⟩
  texts b book' hb := by
    rw [book_dropImages] at hb
    obtain ⟨book, hbook, rfl⟩ := Option.map_eq_some_iff.1 hb
    exact h.texts b book hbook
  urls i image hi := by
    rw [image_dropImages] at hi
    split at hi
    · cases hi
    · exact h.urls i image hi

theorem Sound.deleteBook (h : g.Sound) (b : Nat) : (g.deleteBook b).Sound where
  resolves c i ho := by
    rw [owns_deleteBook] at ho
    obtain ⟨image, hi⟩ := h.resolves c i ho.2.1
    refine ⟨image, ?_⟩
    rw [image_deleteBook, if_neg (by rw [owns_iff]; exact ho.2.2)]
    exact hi
  nodup c book' hc := by
    rw [book_deleteBook] at hc
    split at hc
    · cases hc
    · obtain ⟨book, hbook, rfl⟩ := Option.map_eq_some_iff.1 hc
      exact (h.nodup c book hbook).filter _
  unique c d i hc hd := by
    rw [owns_deleteBook] at hc hd
    exact h.unique c d i hc.2.1 hd.2.1
  owned i image hi := by
    rw [image_deleteBook] at hi
    split at hi
    · cases hi
    · rename_i hb
      rw [owns_iff] at hb
      obtain ⟨c, hc⟩ := h.owned i image hi
      have hcb : c ≠ b := by
        intro he
        exact hb (he ▸ hc)
      exact ⟨c, (owns_deleteBook b c i).2 ⟨hcb, hc, hb⟩⟩
  texts c book' hc := by
    rw [book_deleteBook] at hc
    split at hc
    · cases hc
    · obtain ⟨book, hbook, rfl⟩ := Option.map_eq_some_iff.1 hc
      exact h.texts c book hbook
  urls i image hi := by
    rw [image_deleteBook] at hi
    split at hi
    · cases hi
    · exact h.urls i image hi

theorem Sound.attach (h : g.Sound) (hb : g.books.row b = some book)
    {mk : Nat → String → TblImages} (hmk : ∀ i u, (mk i u).img_url = some u) (us : List String) :
    (g.attach b mk us).Sound where
  resolves c i ho := by
    rw [owns_attach hb] at ho
    rw [image_attach]
    rcases ho with ho | ⟨-, hle, hlt⟩
    · rw [if_pos (h.lt_next ho)]
      exact h.resolves c i ho
    · rw [if_neg (Nat.not_lt.2 hle), List.getElem?_eq_getElem (by omega)]
      exact ⟨_, rfl⟩
  nodup c book' hc := by
    rw [book_attach] at hc
    split at hc
    · obtain ⟨old, hold, rfl⟩ := Option.map_eq_some_iff.1 hc
      rw [List.nodup_append]
      refine ⟨h.nodup c old hold, List.nodup_range', ?_⟩
      intro i hi j hj
      have hlt := h.lt_next ⟨old, hold, hi⟩
      rw [List.mem_range'_1] at hj
      omega
    · exact h.nodup c book' hc
  unique c d i hc hd := by
    rw [owns_attach hb] at hc hd
    rcases hc with hc | ⟨rfl, hc⟩ <;> rcases hd with hd | ⟨rfl, hd⟩
    · exact h.unique c d i hc hd
    · have := h.lt_next hc
      omega
    · have := h.lt_next hd
      omega
    · rfl
  owned i image hi := by
    rw [image_attach] at hi
    split at hi
    · obtain ⟨c, hc⟩ := h.owned i image hi
      exact ⟨c, (owns_attach hb c i).2 (.inl hc)⟩
    · obtain ⟨u, hu, -⟩ := Option.map_eq_some_iff.1 hi
      obtain ⟨hlt, -⟩ := List.getElem?_eq_some_iff.1 hu
      exact ⟨b, (owns_attach hb b i).2 (.inr ⟨rfl, by omega, by omega⟩)⟩
  texts c book' hc := by
    rw [book_attach] at hc
    split at hc
    · obtain ⟨old, hold, rfl⟩ := Option.map_eq_some_iff.1 hc
      exact h.texts c old hold
    · exact h.texts c book' hc
  urls i image hi := by
    rw [image_attach] at hi
    split at hi
    · exact h.urls i image hi
    · obtain ⟨u, -, rfl⟩ := Option.map_eq_some_iff.1 hi
      rw [hmk]
      rfl

end Graph

end TrainingDemos.BookStore
