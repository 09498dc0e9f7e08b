import TrainingDemos.BookStore.Shelf
import TrainingDemos.BookStore.Targeting

namespace TrainingDemos.BookStore
set_option autoImplicit true

/-- The file names a form works with. -/
def AddBookVC.Mentions (vc : AddBookVC) (u : String) : Prop :=
  u ∈ vc.arrImages ∨ u ∈ vc.arrUpdatedImages ∨ u ∈ vc.arrRemoveImages

namespace App

/-- Names that were in use before the run or that `saveImage` has returned. -/
def Known (K : String → Prop) (s : App Image Data) (u : String) : Prop :=
  K u ∨ u ∈ s.picked.map Prod.fst

/-- `saveImage` returns a name it has not returned before. -/
def FreshPick (P : Platform Image Data Time) (s : App Image Data) : Event Image Time → Prop
  | .pickImage _ timestamp _ _ => fileName P timestamp ∉ s.picked.map Prod.fst
  | _ => True

instance (P : Platform Image Data Time) (s : App Image Data) :
    (e : Event Image Time) → Decidable (s.FreshPick P e)
  | .pickImage _ timestamp _ _ =>
    inferInstanceAs (Decidable (fileName P timestamp ∉ s.picked.map Prod.fst))
  | .pullToRefresh _ | .clickAdd | .swipeEdit _ _ | .swipeDelete _ _ _ | .clickDelete _
  | .editTexts _ _ _ | .clickSave _ | .clickBack | .popTimer => inferInstanceAs (Decidable True)

def NewPick (P : Platform Image Data Time) (K : String → Prop) (s : App Image Data) :
    Event Image Time → Prop
  | .pickImage _ timestamp _ _ => ¬ s.Known K (fileName P timestamp)
  | _ => True

instance (P : Platform Image Data Time) (K : String → Prop) [DecidablePred K]
    (s : App Image Data) : (e : Event Image Time) → Decidable (s.NewPick P K e)
  | .pickImage _ timestamp _ _ => inferInstanceAs (Decidable (¬ (K (fileName P timestamp) ∨
      fileName P timestamp ∈ s.picked.map Prod.fst)))
  | .pullToRefresh _ | .clickAdd | .swipeEdit _ _ | .swipeDelete _ _ _ | .clickDelete _
  | .editTexts _ _ _ | .clickSave _ | .clickBack | .popTimer => inferInstanceAs (Decidable True)

theorem FreshPick.newPick {P : Platform Image Data Time} {s : App Image Data}
    (h : s.FreshPick P e) : s.NewPick P (fun _ => False) e := by
  cases e with
  | pickImage => exact fun hk => h (hk.resolve_left id)
  | _ => trivial

/-- A Save of the Add form inserts only file names that no image has. -/
def AddsNew (s : App Image Data) : Event Image Time → Prop
  | .clickSave _ => ∀ vc ∈ s.form, vc.Accepted → vc.bookData = none →
      ∀ u ∈ vc.arrImages, ∀ i, ¬ s.context.view.Names i u
  | _ => True

instance (s : App Image Data) : (e : Event Image Time) → Decidable (s.AddsNew e)
  | .clickSave _ => inferInstanceAs (Decidable (∀ vc ∈ s.form, vc.Accepted → vc.bookData = none →
      ∀ u ∈ vc.arrImages, ∀ i, ¬ s.context.view.Names i u))
  | .pullToRefresh _ | .clickAdd | .swipeEdit _ _ | .swipeDelete _ _ _ | .pickImage _ _ _ _
  | .clickDelete _ | .editTexts _ _ _ | .clickBack | .popTimer => inferInstanceAs (Decidable True)

end App

theorem setUpdatedData_spec {g : Graph} (h : AddBookVC.setUpdatedData g order b = some vc) :
    ∃ book, g.books.row b = some book ∧ vc.bookData = some b ∧
      vc.arrUpdatedImages = [] ∧ vc.arrRemoveImages = [] ∧
      (book.book_images.map g.url).Perm (vc.arrImages.map some) := by
  simp only [AddBookVC.setUpdatedData, Option.bind_eq_bind, Option.bind_eq_some_iff] at h
  obtain ⟨book, hbook, _, _, _, _, _, _, urls, hurls, h⟩ := h
  cases h
  refine ⟨book, hbook, rfl, rfl, rfl, ?_⟩
  rw [← mapM_eq_some_iff.1 hurls]
  exact ((order.perm _).map _).symm

theorem setUpdatedData_mem {g : Graph} (h : AddBookVC.setUpdatedData g order b = some vc)
    (u : String) : u ∈ vc.arrImages ↔ ∃ i, g.Owns b i ∧ g.Names i u := by
  obtain ⟨book, hbook, -, -, -, hp⟩ := setUpdatedData_spec h
  rw [← List.mem_map_of_injective fun _ _ => Option.some.inj, ← hp.mem_iff, List.mem_map]
  simp only [Graph.url_eq_some, Graph.Owns, hbook, Option.some.injEq, exists_eq_left']

section
variable {P : Platform Image Data Time} {s t : App Image Data} {K : String → Prop}

theorem mentions_pick (vc : AddBookVC) (h : (vc.imagePickerController imgName).Mentions u) :
    vc.Mentions u ∨ u = imgName := by
  simp only [AddBookVC.Mentions, AddBookVC.imagePickerController] at h ⊢
  split at h <;> simp only [List.mem_append, List.mem_singleton] at h <;> tauto

theorem mentions_remove {vc : AddBookVC} (hi : vc.arrImages[index]? = some image)
    (h : AddBookVC.Mentions { vc with
      arrUpdatedImages := vc.arrUpdatedImages.erase image
      arrRemoveImages := vc.arrRemoveImages ++ [image]
      arrImages := vc.arrImages.eraseIdx index } u) : vc.Mentions u := by
  simp only [AddBookVC.Mentions, List.mem_append] at h ⊢
  rcases h with h | h | h | h
  · exact .inl (List.mem_of_mem_eraseIdx h)
  · exact .inr (.inl (List.mem_of_mem_erase h))
  · exact .inr (.inr h)
  · rw [List.mem_singleton.1 h]
    exact .inl (List.mem_of_getElem? hi)

theorem Effect.names {Q : String → Prop} (he : Effect P s e t)
    (hpick : ∀ image timestamp encodes writes, e = .pickImage image timestamp encodes writes →
      Q (fileName P timestamp))
    (hview : ∀ i u, s.context.view.Names i u → Q u)
    (hform : ∀ vc u, s.form = some vc → vc.Mentions u → Q u) :
    (∀ i u, t.context.view.Names i u → Q u) ∧
      ∀ vc u, t.form = some vc → vc.Mentions u → Q u := by
  cases he with
  | refresh => exact ⟨hview, hform⟩
  | openAdd =>
    refine ⟨hview, ?_⟩
    intro vc u hvc hu
    cases hvc
    rcases hu with hu | hu | hu <;> cases hu
  | openEdit hf hrow hvc =>
    obtain ⟨book, -, -, hupd, hrem, -⟩ := setUpdatedData_spec hvc
    refine ⟨hview, ?_⟩
    intro vc' u hvc' hu
    cases hvc'
    rw [AddBookVC.Mentions, hupd, hrem] at hu
    rcases hu with hu | hu | hu
    · obtain ⟨i, -, hn⟩ := (setUpdatedData_mem hvc u).1 hu
      exact hview i u hn
    · cases hu
    · cases hu
  | delete hf =>
    constructor
    · intro i u hn
      rw [Context.view_save, Graph.names_deleteBook] at hn
      exact hview i u hn.1
    · intro vc u hvc
      rw [hf] at hvc
      cases hvc
  | @pick vc image timestamp encodes writes hf =>
    refine ⟨hview, ?_⟩
    intro vc' u hvc hu
    cases hvc
    rcases mentions_pick _ hu with hm | hm
    · exact hform vc u hf hm
    · exact hm ▸ hpick _ _ _ _ rfl
  | remove hf hi =>
    refine ⟨hview, ?_⟩
    intro vc' u hvc hu
    cases hvc
    exact hform _ u hf (mentions_remove hi hu)
  | texts hf =>
    refine ⟨hview, ?_⟩
    intro vc' u hvc hu
    cases hvc
    exact hform _ u hf hu
  | refused hf =>
    refine ⟨hview, ?_⟩
    intro vc' u hvc hu
    cases hvc
    exact hform _ u hf hu
  | @added vc _ _ _ hf =>
    constructor
    · intro i u hn
      rw [Context.view_save, names_addedView] at hn
      rcases hn with hn | ⟨-, hn⟩
      · exact hview i u hn
      · exact hform vc u hf (.inl (List.mem_of_getElem? hn))
    · intro vc' u hvc hu
      cases hvc
      exact hform vc u hf hu
  | @updated vc _ _ _ _ _ _ _ hf _ _ _ _ hv =>
    constructor
    · intro i u hn
      rw [Context.view_save, hv, Graph.names_dropImages, names_extendedView] at hn
      rcases hn with ⟨hn | ⟨-, hn⟩, -⟩
      · exact hview i u hn
      · exact hform vc u hf (.inr (.inl (List.mem_of_getElem? hn)))
    · intro vc' u hvc hu
      cases hvc
      exact hform vc u hf hu
  | leave =>
    refine ⟨hview, ?_⟩
    intro vc u hvc
    cases hvc

theorem Effect.known_mono (he : Effect P s e t) (h : s.Known K u) : t.Known K u := by
  cases he with
  | pick =>
    rw [App.Known, List.map_append]
    exact h.imp_right (List.mem_append_left _)
  | _ => exact h

theorem Effect.known_pick (he : Effect P s e t)
    (hp : e = .pickImage image timestamp encodes writes) : t.Known K (fileName P timestamp) := by
  cases he with
  | pick =>
    cases hp
    rw [App.Known, List.map_append]
    exact .inr (List.mem_append_right _ List.mem_cons_self)
  | leave _ he =>
    subst hp
    rcases he with he | he <;> cases he
  | _ => cases hp

theorem Graph.Sound.effect (h : s.context.view.Sound) (he : Effect P s e t) :
    t.context.view.Sound := by
  cases he with
  | delete =>
    rw [Context.view_save]
    exact h.deleteBook _
  | @added vc =>
    rw [Context.view_save]
    exact h.addedView vc
  | @updated vc b book gone answers a n ctx hf ha hb hbook hr hv =>
    rw [Context.view_save, hv]
    exact (h.extendedView hbook vc).dropImages gone
  | _ => exact h

/-- Images of one name belong to one book, and the names a form works with belong to its book. -/
structure Framed (K : String → Prop) (s : App Image Data) : Prop where
  sound : s.context.view.Sound
  shared : ∀ i j u b, s.context.view.Names i u → s.context.view.Names j u →
    s.context.view.Owns b i → s.context.view.Owns b j
  stored : ∀ i u, s.context.view.Names i u → s.Known K u
  shown : ∀ vc u, s.form = some vc → vc.Mentions u → s.Known K u
  foreign : ∀ vc b u i, s.form = some vc → vc.bookData = some b → vc.Mentions u →
    s.context.view.Names i u → s.context.view.Owns b i

theorem framed_launch (fetch : Fetch) :
    Framed (fun _ => False) (App.launch Graph.empty fetch : App Image Data) where
  sound := Graph.sound_empty
  shared := by
    intro i j u b h₀
    obtain ⟨_, hi, -⟩ := h₀
    cases hi
  stored := by
    intro i u h₀
    obtain ⟨_, hi, -⟩ := h₀
    cases hi
  shown := by
    intro vc u hvc
    cases hvc
  foreign := by
    intro vc b u i hvc
    cases hvc

theorem Framed.extended (h : Framed K s) (hf : s.form = some vc) (hb : vc.bookData = some b)
    (hbook : s.context.view.books.row b = some book) (u : String) (hu : vc.Mentions u) (i : Nat)
    (hn : (extendedView P s.context vc b).Names i u) :
    (extendedView P s.context vc b).Owns b i := by
  rw [names_extendedView] at hn
  rw [owns_extendedView hbook]
  rcases hn with hn | ⟨hle, hk⟩
  · exact .inl (h.foreign vc b u i hf hb hu hn)
  · obtain ⟨hlt, -⟩ := List.getElem?_eq_some_iff.1 hk
    exact .inr ⟨rfl, hle, by omega⟩

theorem Framed.shared_extended (h : Framed K s) (hf : s.form = some vc) (hb : vc.bookData = some b)
    (hbook : s.context.view.books.row b = some book)
    (hi : (extendedView P s.context vc b).Names i u)
    (hj : (extendedView P s.context vc b).Names j u)
    (hc : (extendedView P s.context vc b).Owns c i) : (extendedView P s.context vc b).Owns c j := by
  have hs := h.sound.extendedView (P := P) hbook vc
  by_cases hu : vc.Mentions u
  · rw [hs.unique c b i hc (h.extended hf hb hbook u hu i hi)]
    exact h.extended hf hb hbook u hu j hj
  · -- neither image is new, since the names of new images are mentioned
    have hold (k : Nat) (hk : (extendedView P s.context vc b).Names k u) :
        s.context.view.Names k u := by
      rw [names_extendedView] at hk
      rcases hk with hk | ⟨-, hk⟩
      · exact hk
      · exact absurd (.inr (.inl (List.mem_of_getElem? hk))) hu
    rw [owns_extendedView hbook] at hc ⊢
    rcases hc with hc | ⟨-, hle, -⟩
    · exact .inl (h.shared i j u c (hold i hi) (hold j hj) hc)
    · have := (hold i hi).lt_next
      omega

theorem Framed.shared_added (h : Framed K s)
    (hnew : ∀ u ∈ vc.arrImages, ∀ i, ¬ s.context.view.Names i u)
    (hi : (addedView P s.context vc).Names i u) (hj : (addedView P s.context vc).Names j u)
    (hc : (addedView P s.context vc).Owns c i) : (addedView P s.context vc).Owns c j := by
  rw [names_addedView] at hi hj
  rw [owns_addedView] at hc ⊢
  rcases hi with hi | ⟨hile, hi⟩ <;> rcases hj with hj | ⟨hjle, hj⟩
  · rcases hc with hc | ⟨-, hle, -⟩
    · exact .inl (h.shared i j u c hi hj hc)
    · have := hi.lt_next
      omega
  · exact absurd hi (hnew u (List.mem_of_getElem? hj) i)
  · exact absurd hj (hnew u (List.mem_of_getElem? hi) j)
  · obtain ⟨hlt, -⟩ := List.getElem?_eq_some_iff.1 hj
    rcases hc with hc | ⟨hc, -⟩
    · have := h.sound.lt_next hc
      omega
    · exact .inr ⟨hc, hjle, by omega⟩

theorem Framed.shared_effect (h : Framed K s) (he : Effect P s e t) (hnew : s.AddsNew e)
    (i j : Nat) (u : String) (b : Nat) (hi : t.context.view.Names i u)
    (hj : t.context.view.Names j u) (hb : t.context.view.Owns b i) : t.context.view.Owns b j := by
  cases he with
  | delete =>
    rw [Context.view_save] at hi hj hb ⊢
    rw [Graph.names_deleteBook] at hi hj
    rw [Graph.owns_deleteBook] at hb ⊢
    exact ⟨hb.1, h.shared i j u b hi.1 hj.1 hb.2.1, hj.2⟩
  | added hf ha hd =>
    rw [Context.view_save] at hi hj hb ⊢
    exact h.shared_added (hnew _ hf ha hd) hi hj hb
  | updated hf _ hd hbook _ hv =>
    rw [Context.view_save, hv] at hi hj hb ⊢
    rw [Graph.names_dropImages] at hi hj
    rw [Graph.owns_dropImages] at hb ⊢
    exact ⟨h.shared_extended hf hd hbook hi.1 hj.1 hb.1, hj.2⟩
  | _ => exact h.shared i j u b hi hj hb

theorem Framed.foreign_effect (h : Framed K s) (he : Effect P s e t) (hpick : s.NewPick P K e)
    (vc : AddBookVC) (b : Nat) (u : String) (i : Nat) (hvc : t.form = some vc)
    (hb : vc.bookData = some b) (hu : vc.Mentions u) (hn : t.context.view.Names i u) :
    t.context.view.Owns b i := by
  cases he with
  | refresh => exact h.foreign vc b u i hvc hb hu hn
  | openAdd =>
    cases hvc
    cases hb
  | openEdit hf hrow hopen =>
    obtain ⟨book, -, hdata, hupd, hrem, -⟩ := setUpdatedData_spec hopen
    cases hvc
    rw [hdata] at hb
    cases hb
    rw [AddBookVC.Mentions, hupd, hrem] at hu
    rcases hu with hu | hu | hu
    · obtain ⟨j, ho, hj⟩ := (setUpdatedData_mem hopen u).1 hu
      exact h.shared j i u b hj hn ho
    · cases hu
    · cases hu
  | delete hf =>
    rw [hf] at hvc
    cases hvc
  | pick hf =>
    cases hvc
    rcases mentions_pick _ hu with hu | hu
    · exact h.foreign _ b u i hf hb hu hn
    · subst hu
      exact absurd (h.stored i _ hn) hpick
  | remove hf hi =>
    cases hvc
    exact h.foreign _ b u i hf hb (mentions_remove hi hu) hn
  | texts hf =>
    cases hvc
    exact h.foreign _ b u i hf hb hu hn
  | refused hf =>
    cases hvc
    exact h.foreign _ b u i hf hb hu hn
  | added _ _ hd =>
    cases hvc
    rw [hd] at hb
    cases hb
  | updated hf _ hd hbook _ hv =>
    cases hvc
    rw [hd] at hb
    cases hb
    rw [Context.view_save, hv] at hn ⊢
    rw [Graph.names_dropImages] at hn
    exact (Graph.owns_dropImages _ b i).2 ⟨h.extended hf hd hbook u hu i hn.1, hn.2⟩
  | leave => cases hvc

theorem Framed.effect (h : Framed K s) (he : Effect P s e t) (hpick : s.NewPick P K e)
    (hnew : s.AddsNew e) : Framed K t := by
  have hnames := he.names (fun _ _ _ _ hp => he.known_pick hp)
    (fun i u hn => he.known_mono (h.stored i u hn))
    (fun vc u hf hu => he.known_mono (h.shown vc u hf hu))
  exact ⟨h.sound.effect he, h.shared_effect he hnew, hnames.1, hnames.2, h.foreign_effect he hpick⟩

def Event.InForm : Event Image Time → Prop
  | .pickImage _ _ _ _ | .clickDelete _ | .editTexts _ _ _ | .clickSave _ => True
  | _ => False

theorem Effect.in_form (he : Effect P s e t) (hin : e.InForm) (hf : s.form = some vc) :
    (t.context = s.context ∧ t.saveLog = s.saveLog ∧
      ∃ vc', t.form = some vc' ∧ vc'.bookData = vc.bookData) ∨
    ∃ answers, e = .clickSave answers ∧ vc.Accepted ∧ SaveEffect P s vc answers t := by
  have hsame (vc') (hf' : s.form = some vc') : vc'.bookData = vc.bookData := by
    rw [hf] at hf'
    cases hf'
    rfl
  cases he with
  | pick hf' =>
    have hb := hsame _ hf'
    exact .inl ⟨rfl, rfl, _, rfl, hb⟩
  | remove hf' _ =>
    have hb := hsame _ hf'
    exact .inl ⟨rfl, rfl, _, rfl, hb⟩
  | texts hf' =>
    have hb := hsame _ hf'
    exact .inl ⟨rfl, rfl, _, rfl, hb⟩
  | refused hf' _ =>
    have hb := hsame _ hf'
    exact .inl ⟨rfl, rfl, _, rfl, hb⟩
  | added hf' ha hb =>
    rw [hf] at hf'
    cases hf'
    exact .inr ⟨_, rfl, ha, .added hb⟩
  | updated hf' ha hb hbook hr hv =>
    rw [hf] at hf'
    cases hf'
    exact .inr ⟨_, rfl, ha, .updated hb hbook hr hv⟩
  | leave _ he => rcases he with rfl | rfl <;> cases hin
  | _ => cases hin

/-- `h` has the other books of `g` on its shelf, and no image of theirs has been touched. -/
structure KeepsOthers (b : Nat) (g h : Graph) : Prop where
  shelf : ∀ c, c ≠ b → h.shelf c = g.shelf c
  images : ∀ i image, g.images.row i = some image → ¬ g.Owns b i →
    h.images.row i = some image ∧ ¬ h.Owns b i

theorem KeepsOthers.refl (b : Nat) (g : Graph) : KeepsOthers b g g :=
  ⟨fun _ _ => rfl, fun _ _ hi ho => ⟨hi, ho⟩⟩

theorem KeepsOthers.trans {g g' g'' : Graph} (h : KeepsOthers b g g') (h' : KeepsOthers b g' g'') :
    KeepsOthers b g g'' where
  shelf c hc := (h'.shelf c hc).trans (h.shelf c hc)
  images i image hi ho := by
    obtain ⟨hi', ho'⟩ := h.images i image hi ho
    exact h'.images i image hi' ho'

theorem Framed.removed_owned (h : Framed K s) (hf : s.form = some vc) (hb : vc.bookData = some b)
    (hbook : s.context.view.books.row b = some book)
    (hr : Removal (extendedView P s.context vc b) vc.arrRemoveImages gone) (hi : gone i = true) :
    (extendedView P s.context vc b).Owns b i := by
  obtain ⟨u, hu, hn⟩ := hr.named i hi
  exact h.extended hf hb hbook u (.inr (.inr hu)) i hn

theorem Framed.keepsOthers (h : Framed K s) (hf : s.form = some vc) (hb : vc.bookData = some b)
    (hbook : s.context.view.books.row b = some book)
    (hr : Removal (extendedView P s.context vc b) vc.arrRemoveImages gone) :
    KeepsOthers b s.context.view ((extendedView P s.context vc b).dropImages gone) where
  shelf c hc := by
    rw [Graph.shelf_dropImages, shelf_extendedView h.sound vc hc]
    intro i hi
    rw [← Bool.not_eq_true]
    intro hg
    have hs := h.sound.extendedView (P := P) hbook vc
    exact hc (hs.unique c b i hi (h.removed_owned hf hb hbook hr hg))
  images i image hi ho := by
    have ho' : ¬ (extendedView P s.context vc b).Owns b i := by
      rw [owns_extendedView hbook]
      intro h₀
      rcases h₀ with h' | ⟨-, hle, -⟩
      · exact ho h'
      · have := Table.lt_next hi
        omega
    have hg : gone i = false := by
      rw [← Bool.not_eq_true]
      exact fun hg => ho' (h.removed_owned hf hb hbook hr hg)
    refine ⟨?_, fun h' => ho' ((Graph.owns_dropImages _ _ _).1 h').1⟩
    rw [Graph.image_dropImages, hg, if_neg Bool.false_ne_true, extendedView, Graph.image_attach]
    exact (if_pos (Table.lt_next hi)).trans hi

theorem Framed.inForm_effect (h : Framed K s) (he : Effect P s e t) (hin : e.InForm)
    (hf : s.form = some vc) (hb : vc.bookData = some b) :
    (∃ vc', t.form = some vc' ∧ vc'.bookData = some b) ∧
      KeepsOthers b s.context.view t.context.view := by
  rcases he.in_form hin hf with ⟨hctx, -, vc', hf', hb'⟩ | ⟨answers, -, -, hsave⟩
  · rw [hctx]
    exact ⟨⟨vc', hf', hb'.trans hb⟩, .refl _ _⟩
  · cases hsave with
    | added hb' =>
      rw [hb] at hb'
      cases hb'
    | updated hb' hbook hr hv =>
      rw [hb] at hb'
      cases hb'
      refine ⟨⟨_, rfl, hb⟩, ?_⟩
      rw [Context.view_save, hv]
      exact h.keepsOthers hf hb hbook hr

theorem Framed.step (h : Targeted P s ∧ Framed K s) (hen : s.Enabled e) (hpick : s.NewPick P K e)
    (hnew : s.AddsNew e) (hs : s.step P e = some t) : Targeted P t ∧ Framed K t :=
  ⟨h.1.step hen hs, h.2.effect (step_effect h.1.keys.keyed hen hs) hpick hnew⟩

theorem framed_of_run
    (h : (bookStore P).Run (fun s e => s.FreshPick P e ∧ s.AddsNew e)
      (App.launch Graph.empty fetch) es s) : Targeted P s ∧ Framed (fun _ => False) s :=
  h.invariant (fun _ _ _ hi hen hB hs => Framed.step hi hen hB.1.newPick hB.2 hs)
    ⟨targeted_launch (Graph.ownKeys_empty P) fetch, framed_launch fetch⟩

theorem visit_keepsOthers
    (hrun : (bookStore P).Run (fun s e => s.FreshPick P e ∧ s.AddsNew e) s visit t)
    (h : Targeted P s ∧ Framed (fun _ => False) s) (hin : ∀ e ∈ visit, e.InForm)
    (hf : s.form = some vc) (hb : vc.bookData = some b) :
    KeepsOthers b s.context.view t.context.view := by
  induction hrun generalizing vc with
  | nil => exact .refl _ _
  | cons hen hB hs hr ih =>
    have he := step_effect h.1.keys.keyed hen hs
    obtain ⟨⟨vc', hf', hb'⟩, hk⟩ := h.2.inForm_effect he (hin _ List.mem_cons_self) hf hb
    have ht := Framed.step h hen hB.1.newPick hB.2 hs
    exact hk.trans (ih ht (fun e he => hin e (List.mem_cons_of_mem _ he)) hf' hb')

/-- An edit leaves all other books as they were, where no Add form stores a name twice. -/
theorem edit_frame (P : Platform Image Data Time) (fetch : Fetch)
    (hrun : (bookStore P).Run (fun s e => s.FreshPick P e ∧ s.AddsNew e)
      (App.launch Graph.empty fetch) es s)
    (hvisit : (bookStore P).Run (fun s e => s.FreshPick P e ∧ s.AddsNew e) s
      (.swipeEdit row allObjects :: visit) t)
    (hin : ∀ e ∈ visit, e.InForm) (hrow : s.list.arrTblBooks[row]? = some b) :
    (∀ c, c ≠ b → t.context.view.shelf c = s.context.view.shelf c) ∧
      ∀ i image, s.context.view.images.row i = some image → ¬ s.context.view.Owns b i →
        t.context.view.images.row i = some image := by
  have h := framed_of_run hrun
  obtain ⟨u, hen, hB, hs, hr⟩ := run_cons hvisit
  have ht := Framed.step h hen hB.1.newPick hB.2 hs
  cases step_effect h.1.keys.keyed hen hs with
  | openEdit hf hrow' hvc =>
    rw [hrow] at hrow'
    cases hrow'
    have hk := visit_keepsOthers hr ht hin rfl (setUpdatedData_bookData hvc).1
    exact ⟨hk.shelf, fun i image hi ho => (hk.images i image hi ho).1⟩
  | leave _ he => rcases he with he | he <;> cases he

/-- Two Saves of one Add form, which leave two books with one image name. -/
def addedTwice : List (Event Nat Nat) :=
  [.clickAdd, .pickImage 7 1 true true, .editTexts "n" "a" "d", .clickSave .succeed,
    .clickSave .succeed, .popTimer, .pullToRefresh (some .asStored)]

def addedInTurn : List (Event Nat Nat) :=
  [.clickAdd, .pickImage 7 1 true true, .editTexts "n" "a" "d", .clickSave .succeed, .popTimer,
    .clickAdd, .pickImage 9 3 true true, .editTexts "n" "a" "d", .clickSave .succeed, .popTimer,
    .pullToRefresh (some .asStored)]

def replacePicture : List (Event Nat Nat) :=
  [.clickDelete 0, .pickImage 8 2 true true, .clickSave .succeed]

theorem edit_frame_added_in_turn : ∃ s t,
    (bookStore .device).Run (fun s e => s.FreshPick .device e ∧ s.AddsNew e)
      (App.launch Graph.empty (some .asStored)) addedInTurn s ∧
    (bookStore .device).Run (fun s e => s.FreshPick .device e ∧ s.AddsNew e) s
      (.swipeEdit 1 .asStored :: replacePicture) t ∧
    (∀ c, c ≠ 1 → t.context.view.shelf c = s.context.view.shelf c) ∧
      ∀ i image, s.context.view.images.row i = some image → ¬ s.context.view.Owns 1 i →
        t.context.view.images.row i = some image := by
  have h : ((bookStore .device).exec (fun s e => s.FreshPick .device e ∧ s.AddsNew e)
      (App.launch Graph.empty (some .asStored)) addedInTurn).any (fun s =>
        ((bookStore .device).exec (fun s e => s.FreshPick .device e ∧ s.AddsNew e) s
          (.swipeEdit 1 .asStored :: replacePicture)).any fun _ =>
            decide (s.list.arrTblBooks[1]? = some 1)) = true := by
    decide +kernel
  obtain ⟨s, hs, hp⟩ := Machine.exec_any h
  obtain ⟨t, ht, hrow⟩ := Machine.exec_any hp
  have hin : ∀ e ∈ replacePicture, e.InForm := by
    simp only [replacePicture, List.mem_cons, List.not_mem_nil, or_false]
    rintro e (rfl | rfl | rfl) <;> trivial
  exact ⟨s, t, hs, ht, edit_frame .device _ hs ht hin (of_decide_eq_true hrow)⟩

theorem edit_frame_added_twice : ∃ s t,
    (bookStore .device).Run (App.FreshPick .device) (App.launch Graph.empty (some .asStored))
      addedTwice s ∧
    (bookStore .device).Run (App.FreshPick .device) s (.swipeEdit 1 .asStored :: replacePicture) t ∧
    s.list.arrTblBooks[1]? = some 1 ∧ t.context.view.shelf 0 ≠ s.context.view.shelf 0 := by
  have h : ((bookStore .device).exec (App.FreshPick .device)
      (App.launch Graph.empty (some .asStored)) addedTwice).any (fun s =>
        ((bookStore .device).exec (App.FreshPick .device) s
          (.swipeEdit 1 .asStored :: replacePicture)).any fun t =>
            decide (s.list.arrTblBooks[1]? = some 1 ∧
              t.context.view.shelf 0 ≠ s.context.view.shelf 0)) = true := by
    decide +kernel
  obtain ⟨s, hs, hp⟩ := Machine.exec_any h
  obtain ⟨t, ht, hq⟩ := Machine.exec_any hp
  exact ⟨s, t, hs, ht, of_decide_eq_true hq⟩

end

end TrainingDemos.BookStore
