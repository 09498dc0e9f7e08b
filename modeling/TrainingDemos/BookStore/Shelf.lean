import TrainingDemos.BookStore.SaveLaws

namespace TrainingDemos.BookStore
set_option autoImplicit true

/-- A book as its user sees it: three texts and a bag of pictures, each given by its file name. -/
structure BookRecord where
  name : Option String
  author : Option String
  desc : Option String
  images : Multiset (Option String)
  deriving DecidableEq

def bag (names : List String) : Multiset (Option String) := (names.map some : List (Option String))

theorem bag_eq_iff : bag l = bag l' ↔ l.Perm l' := by
  rw [bag, bag, Multiset.coe_eq_coe, List.map_perm_map_iff fun _ _ => Option.some.inj]

/-- What the app is for: a shelf of books, on which books are placed, replaced and removed. -/
abbrev Shelf := Nat → Option BookRecord

namespace Graph
variable {g : Graph}

def url (g : Graph) (i : Nat) : Option String := (g.images.row i).bind TblImages.img_url

/-- The shelf that an object graph stands for. -/
def shelf (g : Graph) : Shelf := fun b => (g.books.row b).map fun book =>
  ⟨book.book_name, book.author_name, book.book_desc, (book.book_images.map g.url : List _)⟩

def Distinct (g : Graph) : Prop := ∀ i j u, g.Names i u → g.Names j u → i = j

theorem url_eq_some : g.url i = some u ↔ g.Names i u := by
  simp only [url, Option.bind_eq_some_iff, Names]

theorem Names.lt_next (h : g.Names i u) : i < g.images.next := by
  obtain ⟨image, hi, -⟩ := h
  exact Table.lt_next hi

instance (g : Graph) : Decidable g.Distinct :=
  decidable_of_iff (∀ i < g.images.next, ∀ j < g.images.next, (g.url i).isSome →
      g.url i = g.url j → i = j) (by
    constructor
    · intro h i j u hi hj
      apply h i hi.lt_next j hj.lt_next
      · rw [url_eq_some.2 hi]
        rfl
      · rw [url_eq_some.2 hi, url_eq_some.2 hj]
    · intro h i _ j _ hi he
      obtain ⟨u, hu⟩ := Option.isSome_iff_exists.1 hi
      exact h i j u (url_eq_some.1 hu) (url_eq_some.1 (he ▸ hu)))

theorem Sound.owned_url (h : g.Sound) (hb : g.books.row b = some book)
    (hi : i ∈ book.book_images) : ∃ u, g.url i = some u := by
  obtain ⟨u, hu⟩ := h.owns_names ⟨book, hb, hi⟩
  exact ⟨u, url_eq_some.2 hu⟩

theorem nodup_urls (hs : g.Sound) (hd : g.Distinct) (hb : g.books.row b = some book) :
    (book.book_images.map g.url).Nodup := by
  apply (List.nodup_map_iff_inj_on (hs.nodup b book hb)).2
  intro i hi j hj he
  obtain ⟨u, hu⟩ := hs.owned_url hb hi
  exact hd i j u (url_eq_some.1 hu) (url_eq_some.1 (he ▸ hu))

theorem urls_perm (hs : g.Sound) (hd : g.Distinct) (hb : g.books.row b = some book)
    {l : List String} (hl : l.Nodup) (hmem : ∀ u, u ∈ l ↔ ∃ i, g.Owns b i ∧ g.Names i u) :
    (book.book_images.map g.url).Perm (l.map some) := by
  rw [List.perm_ext_iff_of_nodup (nodup_urls hs hd hb) (hl.map fun _ _ => Option.some.inj)]
  intro o
  simp only [List.mem_map]
  constructor
  · intro h₀
    obtain ⟨i, hi, rfl⟩ := h₀
    obtain ⟨u, hu⟩ := hs.owned_url hb hi
    exact ⟨u, (hmem u).2 ⟨i, ⟨book, hb, hi⟩, url_eq_some.1 hu⟩, hu.symm⟩
  · intro h₀
    obtain ⟨u, hu, rfl⟩ := h₀
    obtain ⟨i, ⟨book', hb', hi⟩, hn⟩ := (hmem u).1 hu
    rw [hb] at hb'
    cases hb'
    exact ⟨i, hi, url_eq_some.2 hn⟩

theorem shelf_eq (hs : g.Sound) (hd : g.Distinct) (hb : g.books.row b = some book)
    {l : List String} (hl : l.Nodup) (hmem : ∀ u, u ∈ l ↔ ∃ i, g.Owns b i ∧ g.Names i u) :
    g.shelf b = some ⟨book.book_name, book.author_name, book.book_desc, bag l⟩ := by
  rw [shelf, hb, Option.map_some, bag, Multiset.coe_eq_coe.2 (urls_perm hs hd hb hl hmem)]

theorem Distinct.attach (hd : g.Distinct) {mk : Nat → String → TblImages} {us : List String}
    (hmk : ∀ i u, (mk i u).img_url = some u) (hus : us.Nodup)
    (hnew : ∀ u ∈ us, ∀ i, ¬ g.Names i u) (b : Nat) : (g.attach b mk us).Distinct := by
  intro i j u hi hj
  rw [names_attach hmk] at hi hj
  rcases hi with hi | ⟨hile, hi⟩ <;> rcases hj with hj | ⟨hjle, hj⟩
  · exact hd i j u hi hj
  · exact absurd hi (hnew u (List.mem_of_getElem? hj) i)
  · exact absurd hj (hnew u (List.mem_of_getElem? hi) j)
  · have hlt := (List.getElem?_eq_some_iff.1 hi).1
    have hsub := (List.getElem?_inj hlt hus).1 (hi.trans hj.symm)
    omega

theorem Distinct.dropImages (hd : g.Distinct) (gone : Nat → Bool) :
    (g.dropImages gone).Distinct := by
  intro i j u hi hj
  rw [names_dropImages] at hi hj
  exact hd i j u hi.1 hj.1

theorem Distinct.deleteBook (hd : g.Distinct) (b : Nat) : (g.deleteBook b).Distinct := by
  intro i j u hi hj
  rw [names_deleteBook] at hi hj
  exact hd i j u hi.1 hj.1

theorem shelf_congr {g' : Graph} (hb : g'.books.row b = g.books.row b)
    (hi : ∀ i, g.Owns b i → g'.images.row i = g.images.row i) : g'.shelf b = g.shelf b := by
  simp only [shelf, hb]
  cases hrow : g.books.row b with
  | none => rfl
  | some book =>
    have hmap : book.book_images.map g'.url = book.book_images.map g.url := by
      apply List.map_congr_left
      intro i hmem
      rw [url, url, hi i ⟨book, hrow, hmem⟩]
    rw [Option.map_some, Option.map_some, hmap]

theorem shelf_insertBook (book : TblBooks) (h : c ≠ g.books.next) :
    (g.insertBook book).shelf c = g.shelf c :=
  shelf_congr (by rw [book_insertBook, if_neg h]) fun _ _ => rfl

theorem shelf_modifyBook (f : TblBooks → TblBooks) (h : c ≠ b) :
    (g.modifyBook b f).shelf c = g.shelf c :=
  shelf_congr (by rw [book_modifyBook, if_neg h]) fun _ _ => rfl

theorem shelf_attach (hs : g.Sound) (mk : Nat → String → TblImages) (us : List String)
    (h : c ≠ b) : (g.attach b mk us).shelf c = g.shelf c := by
  apply shelf_congr (by rw [book_attach, if_neg h])
  intro i hi
  rw [image_attach, if_pos (hs.lt_next hi)]

theorem shelf_dropImages (gone : Nat → Bool) (h : ∀ i, g.Owns c i → gone i = false) :
    (g.dropImages gone).shelf c = g.shelf c := by
  apply shelf_congr
  · rw [book_dropImages]
    cases hrow : g.books.row c with
    | none => rfl
    | some book =>
      have hfilter : book.book_images.filter (fun i => !gone i) = book.book_images := by
        apply List.filter_eq_self.2
        intro i hi
        rw [h i ⟨book, hrow, hi⟩]
        rfl
      rw [Option.map_some, hfilter]
  · intro i hi
    rw [image_dropImages, h i hi]
    rfl

theorem shelf_deleteBook (hs : g.Sound) (b : Nat) :
    (g.deleteBook b).shelf = Function.update g.shelf b none := by
  funext c
  by_cases h : c = b
  · subst h
    rw [Function.update_self, shelf, book_deleteBook, if_pos rfl]
    rfl
  · rw [Function.update_of_ne h]
    have hkeep (i : Nat) (hi : g.Owns c i) : g.owns b i = false := by
      rw [← Bool.not_eq_true, owns_iff]
      intro hb
      exact h (hs.unique c b i hi hb)
    rw [← shelf_dropImages (g.owns b) hkeep]
    apply shelf_congr
    · rw [book_deleteBook, if_neg h]
      rfl
    · intro i _
      rfl

end Graph

section
variable {P : Platform Image Data Time} {ctx : Context}

theorem imageRow_img_url (P : Platform Image Data Time) (ctx : Context) (b i : Nat) (u : String) :
    (imageRow P ctx b i u).img_url = some u := rfl

theorem Graph.Sound.rewriteBook (h : ctx.view.Sound) (vc : AddBookVC) (b : Nat) :
    (ctx.view.modifyBook b (rewriteBook P ctx vc b)).Sound :=
  h.modifyBook b (fun _ => rfl) fun _ => ⟨rfl, rfl, rfl⟩

theorem row_rewriteBook (hb : ctx.view.books.row b = some book) (vc : AddBookVC) :
    (ctx.view.modifyBook b (rewriteBook P ctx vc b)).books.row b =
      some (rewriteBook P ctx vc b book) := by
  rw [Graph.book_modifyBook, if_pos rfl, hb, Option.map_some]

theorem Graph.Sound.addedView (h : ctx.view.Sound) (vc : AddBookVC) :
    (addedView P ctx vc).Sound :=
  (h.insertBook (newBook P ctx vc) rfl ⟨rfl, rfl, rfl⟩).attach
    (by rw [Graph.book_insertBook, if_pos rfl]) (imageRow_img_url P ctx _) _

theorem Graph.Sound.extendedView (h : ctx.view.Sound) (hb : ctx.view.books.row b = some book)
    (vc : AddBookVC) : (extendedView P ctx vc b).Sound :=
  (h.rewriteBook vc b).attach (row_rewriteBook hb vc) (imageRow_img_url P ctx _) _

theorem owns_addedView (vc : AddBookVC) (c i : Nat) :
    (addedView P ctx vc).Owns c i ↔ ctx.view.Owns c i ∨ c = ctx.view.books.next ∧
      ctx.view.images.next ≤ i ∧ i < ctx.view.images.next + vc.arrImages.length := by
  rw [addedView, Graph.owns_attach (by rw [Graph.book_insertBook, if_pos rfl]),
    Graph.owns_insertBook rfl]
  rfl

theorem names_addedView (vc : AddBookVC) (i : Nat) (u : String) :
    (addedView P ctx vc).Names i u ↔ ctx.view.Names i u ∨
      ctx.view.images.next ≤ i ∧ vc.arrImages[i - ctx.view.images.next]? = some u :=
  Graph.names_attach (imageRow_img_url P ctx _) i u

theorem owns_extendedView (hb : ctx.view.books.row b = some book) (vc : AddBookVC) (c i : Nat) :
    (extendedView P ctx vc b).Owns c i ↔ ctx.view.Owns c i ∨ c = b ∧
      ctx.view.images.next ≤ i ∧ i < ctx.view.images.next + vc.arrUpdatedImages.length := by
  rw [extendedView, Graph.owns_attach (row_rewriteBook hb vc),
    Graph.owns_modifyBook (f := rewriteBook P ctx vc b) fun _ => rfl]
  rfl

theorem names_extendedView (vc : AddBookVC) (b i : Nat) (u : String) :
    (extendedView P ctx vc b).Names i u ↔ ctx.view.Names i u ∨
      ctx.view.images.next ≤ i ∧ vc.arrUpdatedImages[i - ctx.view.images.next]? = some u :=
  Graph.names_attach (imageRow_img_url P ctx _) i u

theorem shelf_addedView (h : ctx.view.Sound) (vc : AddBookVC) (hc : c ≠ ctx.view.books.next) :
    (addedView P ctx vc).shelf c = ctx.view.shelf c := by
  rw [addedView, Graph.shelf_attach (h.insertBook _ rfl ⟨rfl, rfl, rfl⟩) _ _ hc,
    Graph.shelf_insertBook _ hc]

theorem shelf_extendedView (h : ctx.view.Sound) (vc : AddBookVC) (hc : c ≠ b) :
    (extendedView P ctx vc b).shelf c = ctx.view.shelf c := by
  rw [extendedView, Graph.shelf_attach (h.rewriteBook vc b) _ _ hc, Graph.shelf_modifyBook _ hc]

theorem names_of_added (P : Platform Image Data Time) (ctx : Context) (vc : AddBookVC)
    (u : String) :
    (∃ i, (addedView P ctx vc).Owns ctx.view.books.next i ∧ (addedView P ctx vc).Names i u) ↔
      u ∈ vc.arrImages := by
  simp only [owns_addedView, names_addedView, true_and]
  constructor
  · intro h₀
    obtain ⟨i, ho, hn⟩ := h₀
    have ho' : ¬ ctx.view.Owns ctx.view.books.next i := by
      intro h₀
      obtain ⟨book, hb, -⟩ := h₀
      rw [Table.row_next] at hb
      cases hb
    have hi := ho.resolve_left ho'
    rcases hn with hn | hn
    · have := hn.lt_next
      omega
    · exact List.mem_of_getElem? hn.2
  · intro hu
    obtain ⟨k, hk, rfl⟩ := List.getElem_of_mem hu
    refine ⟨ctx.view.images.next + k, .inr ⟨by omega, by omega⟩, .inr ⟨by omega, ?_⟩⟩
    rw [Nat.add_sub_cancel_left, List.getElem?_eq_getElem hk]

theorem names_of_extended (hs : ctx.view.Sound) (vc : AddBookVC)
    (hbook : ctx.view.books.row b = some book) (u : String) :
    (∃ i, (extendedView P ctx vc b).Owns b i ∧ (extendedView P ctx vc b).Names i u) ↔
      u ∈ vc.arrUpdatedImages ∨ ∃ i, ctx.view.Owns b i ∧ ctx.view.Names i u := by
  simp only [owns_extendedView hbook, names_extendedView, true_and]
  constructor
  · intro h₀
    obtain ⟨i, ho | ⟨hle, -⟩, hn | ⟨hle', hn⟩⟩ := h₀
    · exact .inr ⟨i, ho, hn⟩
    · have := hs.lt_next ho
      omega
    · have := hn.lt_next
      omega
    · exact .inl (List.mem_of_getElem? hn)
  · intro h₀
    rcases h₀ with hu | ⟨i, ho, hn⟩
    · obtain ⟨k, hk, rfl⟩ := List.getElem_of_mem hu
      refine ⟨ctx.view.images.next + k, .inr ⟨by omega, by omega⟩, .inr ⟨by omega, ?_⟩⟩
      rw [Nat.add_sub_cancel_left, List.getElem?_eq_getElem hk]
    · exact ⟨i, .inl ho, .inl hn⟩

end

end TrainingDemos.BookStore
