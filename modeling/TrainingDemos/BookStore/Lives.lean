import TrainingDemos.Durability
import TrainingDemos.Refinements
import TrainingDemos.BookStore.CommitLaw
import TrainingDemos.BookStore.FailedSaves
import Mathlib.Data.List.Dedup
import Mathlib.Data.Multiset.AddSub

namespace TrainingDemos.BookStore
set_option autoImplicit true

inductive ShelfAction where
  | place (b : Nat) (record : BookRecord)
  | replace (b : Nat) (record : BookRecord)
  | remove (b : Nat)

def shelfMachine : Machine Shelf ShelfAction where
  enabled
    | shelf, .place b _ => shelf b = none
    | shelf, .replace b _ | shelf, .remove b => (shelf b).isSome
  step
    | shelf, .place b record | shelf, .replace b record =>
      some (Function.update shelf b (some record))
    | shelf, .remove b => some (Function.update shelf b none)

/-- The events of the running app, and the end of its process followed by a new launch. -/
inductive LifeEvent (Image Time : Type) where
  | event (e : Event Image Time)
  | relaunch (fetch : Fetch)

/-- The app launched again on its store; the files it has written and its history remain. -/
def App.relaunch (s : App Image Data) (fetch : Fetch) : App Image Data :=
  { (App.launch s.context.store fetch : App Image Data) with
    documents := s.documents
    picked := s.picked }

def bookStoreLives (P : Platform Image Data Time) :
    Machine (App Image Data) (LifeEvent Image Time) where
  enabled
    | s, .event e => s.Enabled e
    | _, .relaunch _ => True
  step
    | s, .event e => s.step P e
    | s, .relaunch fetch => some (s.relaunch fetch)

instance (P : Platform Image Data Time) (s : App Image Data) :
    (e : LifeEvent Image Time) → Decidable ((bookStoreLives P).enabled s e)
  | .event e => inferInstanceAs (Decidable (s.Enabled e))
  | .relaunch _ => inferInstanceAs (Decidable True)

def written (save : Bool) : List (DurableEvent ShelfAction) := if save then [.write] else []

/-- What one press of Save on the form `vc` does to the shelf. -/
inductive SaveStandsFor (s : App Image Data) (vc : AddBookVC) (answers : SaveAnswers) :
    List (DurableEvent ShelfAction) → Prop where
  | refused : ¬ vc.Accepted → SaveStandsFor s vc answers []
  | added : vc.Accepted → vc.bookData = none → SaveStandsFor s vc answers
      (.perform (.place s.context.view.books.next vc.record) :: written answers.save)
  | updated : vc.Accepted → vc.bookData = some b → SaveStandsFor s vc answers
      (.perform (.replace b vc.record) :: written answers.save)
  /-- What is written still has pictures that were to be removed then. -/
  | halfway : vc.Accepted → vc.bookData = some b → vc.arrRemoveImages = done ++ rest → done ≠ [] →
      answers.imageSave (done.length - 1) = true → answers.save = false → left ≤ bag rest →
      SaveStandsFor s vc answers
        [.perform (.replace b { vc.record with images := vc.record.images + left }), .write,
          .perform (.replace b vc.record)]

def App.StandsFor (s : App Image Data) :
    LifeEvent Image Time → List (DurableEvent ShelfAction) → Prop
  | .event (.swipeDelete row _ save), as =>
    ∃ b, s.list.arrTblBooks[row]? = some b ∧ as = .perform (.remove b) :: written save
  | .event (.clickSave answers), as => ∃ vc ∈ s.form, SaveStandsFor s vc answers as
  | .event _, as => as = []
  | .relaunch _, as => as = [.crash]

/-- Picked names are new, and a Save inserts only file names that no image has. -/
def App.Careful (P : Platform Image Data Time) (K : String → Prop) (s : App Image Data) :
    LifeEvent Image Time → Prop
  | .event e => s.NewPick P K e ∧ s.SavesNew e
  | .relaunch _ => True

instance (P : Platform Image Data Time) (K : String → Prop) [DecidablePred K]
    (s : App Image Data) : (e : LifeEvent Image Time) → Decidable (s.Careful P K e)
  | .event e => inferInstanceAs (Decidable (s.NewPick P K e ∧ s.SavesNew e))
  | .relaunch _ => inferInstanceAs (Decidable True)

/-- The shelf the user sees, and the one that a launch would find. -/
def App.shelves (s : App Image Data) : Durable Shelf :=
  ⟨s.context.view.shelf, s.context.store.shelf⟩

open Classical in
noncomputable def Graph.remaining (g : Graph) (b : Nat) (us : List String) : List String :=
  us.dedup.filter fun u => ∃ i, g.Owns b i ∧ g.Names i u

theorem Graph.mem_remaining (g : Graph) (b : Nat) (us : List String) (u : String) :
    u ∈ g.remaining b us ↔ u ∈ us ∧ ∃ i, g.Owns b i ∧ g.Names i u := by
  simp only [remaining, List.mem_filter, List.mem_dedup, decide_eq_true_eq]

theorem Graph.nodup_remaining (g : Graph) (b : Nat) (us : List String) :
    (g.remaining b us).Nodup :=
  (List.nodup_dedup us).filter _

theorem Graph.remaining_le (g : Graph) (b : Nat) (us : List String) :
    bag (g.remaining b us) ≤ bag us := by
  have hsub : (g.remaining b us).Sublist us := List.filter_sublist.trans (List.dedup_sublist us)
  exact Multiset.coe_le.2 (hsub.map some).subperm

section
variable {P : Platform Image Data Time} {s t : App Image Data} {K : String → Prop}

theorem clickSave_written (hk : s.context.view.Keyed) (ha : vc.Accepted)
    (h : s.clickSave P answers vc = some t) :
    answers.save = true ∧ t.context.store = t.context.view ∨ answers.save = false ∧
      SavedSoFar P answers s.context vc t.context.store := by
  obtain ⟨ctx, hctx, hst⟩ := clickSave_store hk ha h
  cases hsave : answers.save with
  | true =>
    rw [hctx, hsave, Context.store_save_true, Context.view_save]
    exact .inl ⟨rfl, rfl⟩
  | false =>
    rw [hctx, hsave, Context.save_false]
    exact .inr ⟨rfl, hst⟩

theorem Framed.shelf_dropped (h : Framed K s) (hf : s.form = some vc) (hb : vc.bookData = some b)
    (hbook : s.context.view.books.row b = some book)
    (hgone : ∀ i, gone i = true →
      ∃ u ∈ vc.arrRemoveImages, (extendedView P s.context vc b).Names i u) (hc : c ≠ b) :
    ((extendedView P s.context vc b).dropImages gone).shelf c = s.context.view.shelf c := by
  rw [Graph.shelf_dropImages, shelf_extendedView h.sound vc hc]
  intro i hi
  rw [← Bool.not_eq_true]
  intro hg
  obtain ⟨u, hu, hn⟩ := hgone i hg
  have hown := h.extended hf hb hbook u (.inr (.inr hu)) i hn
  exact hc ((h.sound.extendedView (P := P) hbook vc).unique c b i hi hown)

theorem shelf_halfway (hF : Framed K s) (hA : Accounted s) (hf : s.form = some vc)
    (hb : vc.bookData = some b) (hbook : s.context.view.books.row b = some book)
    (hnew : ∀ u ∈ vc.arrUpdatedImages, ∀ i, ¬ s.context.view.Names i u)
    (hdone : vc.arrRemoveImages = done ++ rest)
    (hr : Removal (extendedView P s.context vc b) done gone) :
    ∃ left, left ≤ bag rest ∧
      ((extendedView P s.context vc b).dropImages gone).shelf = Function.update
        s.context.view.shelf b (some { vc.record with images := vc.record.images + left }) := by
  have hsess := hA.session vc b hf hb
  have hd := hA.distinct.extendedView (P := P) hsess.updated_nodup hnew b
  have hext := names_of_extended (P := P) hF.sound vc hbook
  have hs := (hF.sound.extendedView (P := P) hbook vc).dropImages gone
  generalize hleft : ((extendedView P s.context vc b).dropImages gone).remaining b rest = left
  have hmem (u : String) : u ∈ left ↔ u ∈ rest ∧ ∃ i,
      ((extendedView P s.context vc b).dropImages gone).Owns b i ∧
        ((extendedView P s.context vc b).dropImages gone).Names i u := by
    rw [← hleft, Graph.mem_remaining]
  have hnodup : (vc.arrImages ++ left).Nodup := by
    refine List.nodup_append'.2 ⟨hA.nodup vc hf, hleft ▸ Graph.nodup_remaining _ b rest, ?_⟩
    intro u hu hu'
    exact hsess.removed u (hdone ▸ List.mem_append_right _ ((hmem u).1 hu').1) hu
  have hnames (u : String) : u ∈ vc.arrImages ++ left ↔ ∃ i,
      ((extendedView P s.context vc b).dropImages gone).Owns b i ∧
        ((extendedView P s.context vc b).dropImages gone).Names i u := by
    rw [List.mem_append, hmem]
    apply Iff.intro
    · intro h₀
      rcases h₀ with hu | ⟨-, hu⟩
      · obtain ⟨i, ho, hn⟩ := (hext u).2 (hsess.shown u hu)
        have hg : gone i = false := by
          rw [← Bool.not_eq_true]
          intro hg
          obtain ⟨v, hv, hnv⟩ := hr.named i hg
          exact hsess.removed v (hdone ▸ List.mem_append_left _ hv) (hn.unique hnv ▸ hu)
        exact ⟨i, (Graph.owns_dropImages _ _ _).2 ⟨ho, hg⟩,
          (Graph.names_dropImages _ _ _).2 ⟨hn, hg⟩⟩
      · exact hu
    · intro h₀
      obtain ⟨i, ho, hn⟩ := h₀
      obtain ⟨hn', hg⟩ := (Graph.names_dropImages _ _ _).1 hn
      rcases (hext u).1 ⟨i, ((Graph.owns_dropImages _ _ _).1 ho).1, hn'⟩ with hu | ⟨j, hoj, hnj⟩
      · exact .inl (hsess.updated_shown u hu)
      · refine (hsess.kept j u hoj hnj).imp_right ?_
        intro hu
        rw [hdone, List.mem_append] at hu
        -- a name of `done` has no image left
        rcases hu with hu | hu
        · rw [(hr.gone_iff hd i).2 ⟨u, hu, hn'⟩] at hg
          cases hg
        · exact ⟨hu, i, ho, hn⟩
  have hgone (i : Nat) (hg : gone i = true) :
      ∃ u ∈ vc.arrRemoveImages, (extendedView P s.context vc b).Names i u := by
    obtain ⟨u, hu, hn⟩ := hr.named i hg
    exact ⟨u, hdone ▸ List.mem_append_left _ hu, hn⟩
  refine ⟨bag left, hleft ▸ Graph.remaining_le _ b rest, ?_⟩
  funext c
  by_cases hc : c = b
  · subst hc
    obtain ⟨images, hrow⟩ := row_extendedView (P := P) hbook vc gone
    rw [Function.update_self, Graph.shelf_eq hs (hd.dropImages gone) hrow hnodup hnames]
    simp only [AddBookVC.record, bag, List.map_append, Multiset.coe_add]
    rfl
  · rw [Function.update_of_ne hc, hF.shelf_dropped hf hb hbook hgone hc]

end

end TrainingDemos.BookStore
