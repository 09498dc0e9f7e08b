import TrainingDemos.Tables
import Mathlib.Data.Multiset.Basic

namespace TrainingDemos.BookStore
set_option autoImplicit true

/-- A row of the entity `Tbl_Images`. Its `book` relationship is never set and is left out. -/
structure TblImages where
  b_id : Option String
  image_id : Option String
  img_url : Option String
  deriving DecidableEq

/-- A row of the entity `Tbl_Books`. `book_images` lists the identities of a set of images. -/
structure TblBooks where
  author_name : Option String
  book_desc : Option String
  book_id : Option String
  book_name : Option String
  book_images : List Nat
  deriving DecidableEq

inductive Entity where
  | tblBooks
  | tblImages
  deriving DecidableEq

/-- `NSManagedObjectID`: temporary until the first save of the object, permanent from then on. -/
structure ObjectID where
  entity : Entity
  object : Nat
  isTemporaryID : Bool
  deriving DecidableEq

structure Graph where
  books : Table TblBooks
  images : Table TblImages

/-- Order in which `allObjects`, or a fetch without sort descriptors, lists a set. -/
structure Arrangement where
  arrange : List Nat → List Nat
  perm : ∀ l, (arrange l).Perm l

def Arrangement.asStored : Arrangement := ⟨id, .refl⟩

/-- How the store answers one fetch: by throwing, or with the matching objects in some order. -/
abbrev Fetch := Option Arrangement

def Fetch.answer (fetch : Fetch) (found : List Nat) : Option (List Nat) :=
  fetch.map fun order => order.arrange found

namespace Graph

def empty : Graph := ⟨Table.empty, Table.empty⟩

def insertBook (g : Graph) (book : TblBooks) : Graph :=
  { g with books := g.books.insert book }

def modifyBook (g : Graph) (b : Nat) (f : TblBooks → TblBooks) : Graph :=
  { g with books := g.books.modify b f }

/-- `Tbl_Images(context:)` followed by `addToBook_images`. -/
def insertImage (g : Graph) (b : Nat) (image : TblImages) : Graph :=
  { g with images := g.images.insert image }.modifyBook b fun book =>
    { book with book_images := book.book_images ++ [g.images.next] }

def dropImages (g : Graph) (gone : Nat → Bool) : Graph where
  books := g.books.mapRows fun _ book =>
    { book with book_images := book.book_images.filter fun i => !gone i }
  images := g.images.filter fun i => !gone i

def deleteImage (g : Graph) (i : Nat) : Graph := g.dropImages fun j => decide (j = i)

def removeFromBookImages (g : Graph) (b i : Nat) : Graph :=
  g.modifyBook b fun book =>
    { book with book_images := book.book_images.filter fun j => !decide (j = i) }

def owns (g : Graph) (b i : Nat) : Bool :=
  (g.books.row b).any fun book => book.book_images.contains i

/-- Delete a book; the deletion rule of `book_images` is Cascade. -/
def deleteBook (g : Graph) (b : Nat) : Graph :=
  let cascaded := g.dropImages (g.owns b)
  { cascaded with books := cascaded.books.filter fun c => !decide (c = b) }

def fetchBooks (g : Graph) : List Nat := g.books.select fun _ => true

def booksWithID (g : Graph) (book_id : String) : List Nat :=
  g.books.select fun book => decide (book.book_id = some book_id)

def imagesWithURL (g : Graph) (img_url : String) : List Nat :=
  g.images.select fun image => decide (image.img_url = some img_url)

def Owns (g : Graph) (b i : Nat) : Prop := ∃ book, g.books.row b = some book ∧ i ∈ book.book_images

def Names (g : Graph) (i : Nat) (u : String) : Prop :=
  ∃ image, g.images.row i = some image ∧ image.img_url = some u

theorem owns_iff {g : Graph} : g.owns b i = true ↔ g.Owns b i := by
  simp only [owns, Option.any_eq_true, List.contains_iff_mem, Owns]

instance (g : Graph) (b i : Nat) : Decidable (g.Owns b i) := decidable_of_iff _ owns_iff

theorem eq_of_rows {g h : Graph} (hnb : g.books.next = h.books.next)
    (hni : g.images.next = h.images.next) (hb : ∀ c, g.books.row c = h.books.row c)
    (hi : ∀ i, g.images.row i = h.images.row i) : g = h := by
  obtain ⟨books, images⟩ := g
  obtain ⟨books', images'⟩ := h
  congr
  · exact Table.ext hnb hb
  · exact Table.ext hni hi

end Graph

/-- The one `viewContext` of the app over its persistent store. -/
structure Context where
  view : Graph
  store : Graph

namespace Context

def launch (store : Graph) : Context := ⟨store, store⟩

/-- `save`: all pending changes are written, or it throws and they stay pending. -/
def save (ctx : Context) (succeeds : Bool) : Context :=
  if succeeds then { ctx with store := ctx.view } else ctx

/-- An object has its permanent id exactly if a save has succeeded since it was inserted. -/
def bookID (ctx : Context) (b : Nat) : ObjectID :=
  ⟨.tblBooks, b, decide (ctx.store.books.next ≤ b)⟩

def imageID (ctx : Context) (i : Nat) : ObjectID :=
  ⟨.tblImages, i, decide (ctx.store.images.next ≤ i)⟩

@[simp] theorem view_save (ctx : Context) (succeeds : Bool) :
    (ctx.save succeeds).view = ctx.view := by
  cases succeeds <;> rfl

@[simp] theorem store_save_true (ctx : Context) : (ctx.save true).store = ctx.view := rfl

@[simp] theorem save_false (ctx : Context) : ctx.save false = ctx := rfl

end Context

end TrainingDemos.BookStore
