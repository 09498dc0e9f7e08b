import TrainingDemos.BookStore.FailedSaves
import TrainingDemos.BookStore.Frame

namespace TrainingDemos.BookStore
set_option autoImplicit true

namespace App

/-- A file of this name exists and holds the JPEG of an image that was picked under the name. -/
def Backed (P : Platform Image Data Time) (s : App Image Data) (u : String) : Prop :=
  ∃ image, (u, image) ∈ s.picked ∧ s.documents u = some (P.jpeg image)

/-- A pick is encoded and written, and the clock gives a name no file has yet. -/
def CleanPick (P : Platform Image Data Time) (s : App Image Data) : Event Image Time → Prop
  | .pickImage _ timestamp encodes writes =>
    encodes = true ∧ writes = true ∧ (s.documents (fileName P timestamp)).isNone
  | _ => True

instance (P : Platform Image Data Time) (s : App Image Data) :
    (e : Event Image Time) → Decidable (s.CleanPick P e)
  | .pickImage _ timestamp encodes writes => inferInstanceAs (Decidable (encodes = true ∧
      writes = true ∧ (s.documents (fileName P timestamp)).isNone))
  | .pullToRefresh _ | .clickAdd | .swipeEdit _ _ | .swipeDelete _ _ _ | .clickDelete _
  | .editTexts _ _ _ | .clickSave _ | .clickBack | .popTimer => inferInstanceAs (Decidable True)

end App

section
variable {P : Platform Image Data Time} {s t : App Image Data}

/-- Each name that is shown or stored denotes a file with the one image picked under it. -/
structure FilesIntact (P : Platform Image Data Time) (s : App Image Data) : Prop where
  distinct : (s.picked.map Prod.fst).Nodup
  shown : ∀ vc u, s.form = some vc → u ∈ vc.arrImages → s.Backed P u
  visible : ∀ i u, s.context.view.Names i u → s.Backed P u
  stored : ∀ i u, s.context.store.Names i u → s.Backed P u

structure Filed (P : Platform Image Data Time) (s : App Image Data) : Prop where
  targeted : Targeted P s
  files : ∀ u, (s.documents u).isSome ↔ u ∈ s.picked.map Prod.fst
  mentioned : ∀ vc u, s.form = some vc → vc.Mentions u → s.Backed P u

theorem store_names {Q : String → Prop} (hk : s.context.view.Keyed) (hen : s.Enabled e)
    (h : s.step P e = some t) (hstore : ∀ i u, s.context.store.Names i u → Q u)
    (hview : ∀ i u, s.context.view.Names i u → Q u)
    (hform : ∀ vc u, s.form = some vc → vc.Mentions u → Q u)
    (hview' : ∀ i u, t.context.view.Names i u → Q u) (i : Nat) (u : String)
    (hn : t.context.store.Names i u) : Q u := by
  by_cases hm : s.Mutates e
  · by_cases hsave : e.SaveSucceeds
    · rw [step_saved hk hm hsave h] at hn
      exact hview' i u hn
    · rcases step_unsaved hk hm hsave h with ⟨_, _, _, -, hst⟩ | ⟨answers, vc, -, hf, hst⟩
      · exact hstore i u (hst ▸ hn)
      · rcases hst.removal with hst | ⟨b, done, rest, gone, -, -, -, -, -, hst⟩
        · exact hstore i u (hst ▸ hn)
        · rw [hst, Graph.names_dropImages, names_extendedView] at hn
          rcases hn with ⟨hn | ⟨-, hn⟩, -⟩
          · exact hview i u hn
          · exact hform vc u hf (.inr (.inl (List.mem_of_getElem? hn)))
  · cases step_effect hk hen h with
    | delete => exact absurd trivial hm
    | added hf ha => exact absurd ⟨_, hf, ha⟩ hm
    | updated hf ha => exact absurd ⟨_, hf, ha⟩ hm
    | _ => exact hstore i u hn

theorem saveImage_clean {docs : Documents Data} (h : (docs (fileName P timestamp)).isNone)
    (image : Image) : (saveImage P docs image timestamp true true).1 =
      Function.update docs (fileName P timestamp) (some (P.jpeg image)) := by
  rw [saveImage, if_pos ⟨rfl, Option.isNone_iff_eq_none.1 h⟩]
  rfl

theorem saveImage_unclean {docs : Documents Data} (image : Image)
    (h : ¬ (encodes = true ∧ writes = true ∧ (docs (fileName P timestamp)).isNone)) :
    (saveImage P docs image timestamp encodes writes).1 = docs := by
  simp only [saveImage]
  split
  · rename_i he
    cases writes with
    | false => rfl
    | true => exact absurd ⟨he.1, rfl, Option.isNone_iff_eq_none.2 he.2⟩ h
  · rfl

theorem clean_effect (he : Effect P s e t) (hc : s.CleanPick P e) :
    (t.documents = s.documents ∧ t.picked = s.picked) ∨
      ∃ name image, (s.documents name).isNone ∧ t.picked = s.picked ++ [(name, image)] ∧
        t.documents = Function.update s.documents name (some (P.jpeg image)) := by
  cases he with
  | pick =>
    obtain ⟨henc, hwr, hnone⟩ := hc
    subst henc hwr
    exact .inr ⟨_, _, hnone, rfl, saveImage_clean hnone _⟩
  | _ => exact .inl ⟨rfl, rfl⟩

theorem backed_effect (he : Effect P s e t) (hc : s.CleanPick P e) (h : s.Backed P u) :
    t.Backed P u := by
  obtain ⟨image, hmem, hdoc⟩ := h
  rcases clean_effect he hc with ⟨hd, hp⟩ | ⟨name, image', hnone, hp, hd⟩
  · exact ⟨image, hp ▸ hmem, hd ▸ hdoc⟩
  · have hne : u ≠ name := by
      intro hu
      rw [← hu, hdoc] at hnone
      cases hnone
    refine ⟨image, ?_, ?_⟩
    · rw [hp]
      exact List.mem_append_left _ hmem
    · rw [hd, Function.update_of_ne hne, hdoc]

theorem backed_pick (he : Effect P s e t) (hc : s.CleanPick P e)
    (hp : e = .pickImage image timestamp encodes writes) : t.Backed P (fileName P timestamp) := by
  subst hp
  obtain ⟨henc, hwr, hnone⟩ := hc
  subst henc hwr
  cases he with
  | pick =>
    have hd := saveImage_clean hnone image
    refine ⟨image, List.mem_append_right _ List.mem_cons_self, ?_⟩
    exact (congrFun hd _).trans (Function.update_self _ _ _)
  | leave _ he => rcases he with he | he <;> cases he

theorem files_effect (he : Effect P s e t) (hc : s.CleanPick P e)
    (h : ∀ u, (s.documents u).isSome ↔ u ∈ s.picked.map Prod.fst) (u : String) :
    (t.documents u).isSome ↔ u ∈ t.picked.map Prod.fst := by
  rcases clean_effect he hc with ⟨hd, hp⟩ | ⟨name, image, -, hp, hd⟩
  · rw [hd, hp]
    exact h u
  · rw [hd, hp, List.map_append, List.mem_append, ← h u]
    by_cases hu : u = name
    · subst hu
      rw [Function.update_self]
      exact ⟨fun _ => .inr List.mem_cons_self, fun _ => rfl⟩
    · rw [Function.update_of_ne hu]
      simp only [List.map_cons, List.map_nil, List.mem_singleton, hu, or_false]

theorem distinct_effect (he : Effect P s e t) (hc : s.CleanPick P e)
    (h : ∀ u, (s.documents u).isSome ↔ u ∈ s.picked.map Prod.fst)
    (hd : (s.picked.map Prod.fst).Nodup) : (t.picked.map Prod.fst).Nodup := by
  rcases clean_effect he hc with ⟨-, hp⟩ | ⟨name, image, hnone, hp, -⟩
  · exact hp ▸ hd
  · have hnew : name ∉ s.picked.map Prod.fst := by
      rw [← h, Bool.not_eq_true, Option.isSome_eq_false_iff]
      exact hnone
    rw [hp, List.map_append, List.map_singleton, ← List.concat_eq_append]
    exact hd.concat hnew

theorem FilesIntact.step (h : FilesIntact P s) (hi : Filed P s) (hen : s.Enabled e)
    (hs : s.step P e = some t) (hc : s.CleanPick P e) : FilesIntact P t ∧ Filed P t := by
  have he := step_effect hi.targeted.keys.keyed hen hs
  have hmono (u : String) : s.Backed P u → t.Backed P u := backed_effect he hc
  have hnames := he.names (fun _ _ _ _ => backed_pick he hc)
    (fun i u hn => hmono u (h.visible i u hn))
    (fun vc u hf hu => hmono u (hi.mentioned vc u hf hu))
  have hstore := store_names hi.targeted.keys.keyed hen hs
    (fun i u hn => hmono u (h.stored i u hn)) (fun i u hn => hmono u (h.visible i u hn))
    (fun vc u hf hu => hmono u (hi.mentioned vc u hf hu)) hnames.1
  exact ⟨⟨distinct_effect he hc hi.files h.distinct, fun vc u hf hu => hnames.2 vc u hf (.inl hu),
    hnames.1, hstore⟩, hi.targeted.effect he, files_effect he hc hi.files, hnames.2⟩

theorem FilesIntact.clean (h : FilesIntact P t) (hi : Filed P s) (hen : s.Enabled e)
    (hs : s.step P e = some t) : s.CleanPick P e := by
  cases step_effect hi.targeted.keys.keyed hen hs with
  | @pick vc image timestamp encodes writes hf =>
    have hnew : fileName P timestamp ∉ s.picked.map Prod.fst := by
      have hd := h.distinct
      rw [List.map_append, List.nodup_append] at hd
      intro hmem
      exact hd.2.2 _ hmem _ List.mem_cons_self rfl
    by_contra hc
    have hshown : fileName P timestamp ∈
        (vc.imagePickerController (fileName P timestamp)).arrImages :=
      List.mem_append_right _ List.mem_cons_self
    obtain ⟨image', -, hdoc⟩ := h.shown _ _ rfl hshown
    simp only [saveImage_unclean image hc] at hdoc
    exact hnew ((hi.files _).1 (hdoc ▸ rfl))
  | leave _ he => rcases he with rfl | rfl <;> trivial
  | _ => trivial

theorem filesIntact_launch (P : Platform Image Data Time) (fetch : Fetch) :
    FilesIntact P (App.launch Graph.empty fetch : App Image Data) ∧
      Filed P (App.launch Graph.empty fetch : App Image Data) := by
  refine ⟨⟨List.nodup_nil, ?_, ?_, ?_⟩, targeted_launch (Graph.ownKeys_empty P) fetch, ?_, ?_⟩
  · intro vc u hvc
    cases hvc
  · intro i u hn
    obtain ⟨image, hi, -⟩ := hn
    cases hi
  · intro i u hn
    obtain ⟨image, hi, -⟩ := hn
    cases hi
  · intro u
    constructor
    · intro h
      cases h
    · intro h
      cases h
  · intro vc u hvc
    cases hvc

/-- The files are intact throughout exactly if every pick is encoded, written and newly named. -/
theorem image_files (P : Platform Image Data Time) (fetch : Fetch)
    (h : (bookStore P).Run (fun _ _ => True) (App.launch Graph.empty fetch) es s) :
    (bookStore P).Throughout (fun _ _ => True) (FilesIntact P) (App.launch Graph.empty fetch) es ↔
      (bookStore P).Run (App.CleanPick P) (App.launch Graph.empty fetch) es s := by
  obtain ⟨hfiles, hfiled⟩ := filesIntact_launch P fetch
  have hiff := h.throughout_iff (I := Filed P) (P := FilesIntact P) (C := App.CleanPick P)
    (fun s e t hi hP hen _ hs => ⟨fun ht => ht.clean hi hen hs, fun hc => (hP.step hi hen hs hc).1⟩)
    (fun s e t hi hP hen _ hc hs => (hP.step hi hen hs hc).2) hfiled hfiles
  rw [hiff]
  constructor
  · intro hrun
    exact hrun.mono fun _ _ hB => hB.2
  · intro hrun
    exact hrun.mono fun _ _ hC => ⟨trivial, hC⟩

theorem image_files_added_once : (bookStore .device).Throughout (fun _ _ => True)
    (FilesIntact .device) (App.launch Graph.empty (some .asStored)) addedOnce := by
  have h : ((bookStore .device).exec (App.CleanPick .device)
      (App.launch Graph.empty (some .asStored)) addedOnce).any (fun _ => true) = true := by
    decide +kernel
  obtain ⟨s, hs, -⟩ := Machine.exec_any h
  exact (image_files .device _ (hs.mono fun _ _ _ => trivial)).2 hs

theorem image_files_unclean : ∃ s vc,
    (bookStore .device).Run (fun _ _ => True) (App.launch Graph.empty (some .asStored))
      [.clickAdd, .pickImage 7 1 true true, .pickImage 8 1 true true, .pickImage 9 2 false true] s ∧
    s.form = some vc ∧ vc.arrImages = ["1.0.jpg", "1.0.jpg", "2.0.jpg"] ∧
    s.picked = [("1.0.jpg", 7), ("1.0.jpg", 8), ("2.0.jpg", 9)] ∧
    s.documents "1.0.jpg" = some 7 ∧ s.documents "2.0.jpg" = none := by
  have h : ((bookStore .device).exec (fun _ _ => True) (App.launch Graph.empty (some .asStored))
      [.clickAdd, .pickImage 7 1 true true, .pickImage 8 1 true true,
        .pickImage 9 2 false true]).any (fun s => s.form.any fun vc =>
          decide (vc.arrImages = ["1.0.jpg", "1.0.jpg", "2.0.jpg"] ∧
            s.picked = [("1.0.jpg", 7), ("1.0.jpg", 8), ("2.0.jpg", 9)] ∧
            s.documents "1.0.jpg" = some 7 ∧ s.documents "2.0.jpg" = none)) = true := by
    decide +kernel
  obtain ⟨s, hs, hp⟩ := Machine.exec_any h
  obtain ⟨vc, hf, hp⟩ := (Option.any_eq_true _ _).1 hp
  exact ⟨s, vc, hs, hf, of_decide_eq_true hp⟩

end

end TrainingDemos.BookStore
