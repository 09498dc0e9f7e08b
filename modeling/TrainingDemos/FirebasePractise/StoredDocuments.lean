import Mathlib.Data.List.InsertIdx
import TrainingDemos.FirebasePractise.Screens

namespace TrainingDemos.FirebasePractise
set_option autoImplicit true

def IsLink (C : Cloud Image URL) (d : Document) (field : String) : Prop :=
  d field = some .null ∨ ∃ u, d field = some (.string (C.absoluteString u))

def IsStdid (d : Document) : Prop :=
  d "stdid" = some .null ∨ ∃ n, Int64Range n ∧ d "stdid" = some (.integer n)

def mark (d : Document) (subject : String) : Option Value :=
  ((d "marks").bind Value.asMap).bind (List.lookup subject)

def subjects : List String := ["guj", "eng", "sce", "hindi"]

/-- What the student form stores. -/
structure StudentDocument (C : Cloud Image URL) (key : String) (d : Document) : Prop where
  key : d "key" = some (.string key)
  name : d.IsString "name"
  stdid : IsStdid d
  board : d.IsString "board"
  time : d.IsTimestamp "time"
  image : IsLink C d "image"

structure DetailDocument (C : Cloud Image URL) (key : String) (d : Document) : Prop where
  key : d "key" = some (.string key)
  name : d.IsString "name"
  age : d.IsString "age"
  gender : d.IsString "gender"
  time : d.IsTimestamp "time"
  url : IsLink C d "url"
  marks : ∀ subject ∈ subjects, ∃ s, mark d subject = some (.string s)

theorem isLink_of_optional {u : Option URL}
    (h : d field = some (.ofOption .string (u.map C.absoluteString))) : IsLink C d field := by
  cases u with
  | none => exact .inl h
  | some u => exact .inr ⟨u, h⟩

theorem isStdid_of_parse (h : d "stdid" = some (.ofOption .integer (IntegerText.parse text))) :
    IsStdid d := by
  cases hp : IntegerText.parse text with
  | none => exact .inl (by rw [h, hp]; rfl)
  | some n => exact .inr ⟨n, IntegerText.parse_range hp, by rw [h, hp]; rfl⟩

theorem GetDataVc.addbtnclick_keeps (C : Cloud Image URL) (answers : Press URL)
    (vc : GetDataVc Image) : (vc.addbtnclick C answers).Keeps (StudentDocument C) := by
  rw [addbtnclick]
  split
  · intro d hd
    constructor
    · rfl
    · exact ⟨_, rfl⟩
    · exact isStdid_of_parse rfl
    · exact ⟨_, rfl⟩
    · exact ⟨_, rfl⟩
    · exact hd.image
  · constructor
    · rfl
    · exact ⟨_, rfl⟩
    · exact isStdid_of_parse rfl
    · exact ⟨_, rfl⟩
    · exact ⟨_, rfl⟩
    · exact isLink_of_optional rfl

theorem PassDataVC.mark_of_marks {vc : PassDataVC Image} (h : d "marks" = some vc.marks)
    (hs : subject ∈ subjects) : ∃ s, mark d subject = some (.string s) := by
  rw [mark, h]
  simp only [subjects, List.mem_cons, List.not_mem_nil, or_false] at hs
  rcases hs with hs | hs | hs | hs
  all_goals
    subst hs
    exact ⟨_, rfl⟩

theorem PassDataVC.updatedata_keeps (C : Cloud Image URL) (data1 : URL) (vc : PassDataVC Image) :
    (vc.updatedata C data1).Keeps (DetailDocument C) := by
  intro d hd
  constructor
  · exact hd.key
  · exact ⟨_, rfl⟩
  · exact ⟨_, rfl⟩
  · exact ⟨_, rfl⟩
  · exact hd.time
  · exact .inr ⟨data1, rfl⟩
  · intro subject hs
    exact vc.mark_of_marks rfl hs

theorem PassDataVC.addbtnclick_keeps {C : Cloud Image URL} {vc : PassDataVC Image}
    (h : vc.addbtnclick C answers = some write) : write.Keeps (DetailDocument C) := by
  rw [addbtnclick] at h
  split at h
  · split at h
    · obtain ⟨url, -, hw⟩ := Option.bind_eq_some_iff.1 h
      cases hw
      exact vc.updatedata_keeps C url
    · obtain ⟨url, -, hw⟩ := Option.bind_eq_some_iff.1 h
      cases hw
      exact vc.updatedata_keeps C url
  · cases h
    constructor
    · rfl
    · exact ⟨_, rfl⟩
    · exact ⟨_, rfl⟩
    · exact ⟨_, rfl⟩
    · exact ⟨_, rfl⟩
    · exact isLink_of_optional rfl
    · intro subject hs
      exact vc.mark_of_marks rfl hs

/-- A row shows a document that was fetched, and every request keeps documents well formed. -/
structure Screens.Lawful (S : Screens Model Form Input URL) (W : String → Document → Prop) :
    Prop where
  key_ofDocument : ∀ now document, S.key (S.ofDocument now document) = document.1
  fetch : ∀ now c m, m ∈ S.fetch now c →
    ∃ i document, document ∈ c.orderBy "time" ∧ m = S.ofDocument i document
  keys : ∀ now c, ((S.fetch now c).map S.key).Perm ((c.orderBy "time").map Prod.fst)
  keeps : ∀ answers vc write, S.addbtnclick answers vc = some write → write.Keeps W

theorem studentScreens_lawful (C : Cloud Image URL) :
    (studentScreens C).Lawful (StudentDocument C) where
  key_ofDocument _ _ := rfl
  fetch now c m hm := by
    obtain ⟨i, hi, hm⟩ := List.mem_mapIdx.1 hm
    exact ⟨now i, _, List.getElem_mem hi, hm.symm⟩
  keys now c := by
    have hk : ((getstudentLimitedData now (c.orderBy "time")).map Student.key).Perm
        ((c.orderBy "time").map Prod.fst) := by
      rw [getstudentLimitedData, map_mapIdx_of]
      intro i document
      rfl
    exact hk
  keeps answers vc write h := by
    cases h
    exact vc.addbtnclick_keeps C answers

theorem detailScreens_lawful (C : Cloud Image URL) :
    (detailScreens C).Lawful (DetailDocument C) where
  key_ofDocument _ _ := rfl
  fetch now c m hm := by
    obtain ⟨i, hi, hm⟩ := List.mem_mapIdx.1 ((List.mem_insertionSort _).1 hm)
    exact ⟨now i, _, List.getElem_mem hi, hm.symm⟩
  keys now c := by
    have hk : ((getdetailLimitedData now (c.orderBy "time")).map Detail.key).Perm
        ((c.orderBy "time").map Prod.fst) := by
      rw [getdetailLimitedData, map_mapIdx_of]
      intro i document
      rfl
    exact ((List.perm_insertionSort _ _).map Detail.key).trans hk
  keeps answers vc write h := vc.addbtnclick_keeps h

/-- The documents are well formed, and each row shows one of them as it was when fetched. -/
structure Sound (S : Screens Model Form Input URL) (W : String → Document → Prop)
    (s : App Model Form) : Prop where
  documents : s.documents.All W
  decoded : ∀ m ∈ s.rows, ∃ now key d, W key d ∧ m = S.ofDocument now (key, d)
  present : ∀ m ∈ s.rows, (s.documents.doc (S.key m)).isSome
  distinct : (s.rows.map S.key).Nodup

section
variable {S : Screens Model Form Input URL} {W : String → Document → Prop} {s t : App Model Form}

theorem Sound.launch : Sound S W (App.launch : App Model Form) where
  documents := .empty
  decoded m hm := by cases hm
  present m hm := by cases hm
  distinct := List.nodup_nil

theorem Sound.with_form (h : Sound S W s) (form : Option Form) :
    Sound S W { s with form := form } :=
  ⟨h.documents, h.decoded, h.present, h.distinct⟩

theorem Sound.fetched (hS : S.Lawful W) (h : Sound S W s) (now : Nat → Int) :
    Sound S W { s with rows := S.fetch now s.documents } where
  documents := h.documents
  decoded m hm := by
    obtain ⟨i, ⟨key, d⟩, hd, hm⟩ := hS.fetch now s.documents m hm
    exact ⟨i, key, d, h.documents key d (Collection.mem_orderBy.1 hd).1, hm⟩
  present m hm := by
    obtain ⟨i, ⟨key, d⟩, hd, hm⟩ := hS.fetch now s.documents m hm
    have hdoc : s.documents.doc key = some d := (Collection.mem_orderBy.1 hd).1
    rw [hm, hS.key_ofDocument]
    exact Option.isSome_iff_exists.2 ⟨d, hdoc⟩
  distinct := (hS.keys now s.documents).nodup_iff.2 (Collection.nodup_orderBy s.documents "time")

theorem Sound.delete (h : Sound S W s) (hrow : s.rows[row]? = some data) (succeeds : Bool) :
    Sound S W { s with
      documents := App.request s.documents succeeds (·.delete (S.key data))
      rows := s.rows.eraseIdx row } where
  documents := by
    cases succeeds with
    | false => exact h.documents
    | true => exact h.documents.delete _
  decoded m hm := h.decoded m (List.mem_of_mem_eraseIdx hm)
  present m hm := by
    have hp := h.present m (List.mem_of_mem_eraseIdx hm)
    cases succeeds with
    | false => exact hp
    | true =>
      have hkey : (s.rows.map S.key)[row]? = some (S.key data) := by
        rw [List.getElem?_map, hrow, Option.map_some]
      have hmem : S.key m ∈ (s.rows.map S.key).erase (S.key data) := by
        rw [← eraseIdx_eq_erase h.distinct hkey, List.eraseIdx_map]
        exact List.mem_map_of_mem hm
      have hne : S.key m ≠ S.key data := (h.distinct.mem_erase_iff.1 hmem).1
      rw [App.request, if_pos rfl, Collection.doc_delete_of_ne _ hne]
      exact hp
  distinct := h.distinct.sublist ((List.eraseIdx_sublist _ _).map S.key)

theorem Sound.press (h : Sound S W s) (hw : write.Keeps W) (succeeds : Bool) :
    Sound S W { s with documents := App.request s.documents succeeds (·.perform write) } := by
  cases succeeds with
  | false => exact h
  | true =>
    constructor
    · exact h.documents.perform hw
    · exact h.decoded
    · intro m hm
      exact Collection.isSome_perform (h.present m hm) write
    · exact h.distinct

theorem Sound.step (hS : S.Lawful W) (h : Sound S W s) (hs : App.step S s e = some t) :
    Sound S W t := by
  cases e with
  | fetched now =>
    cases hs
    exact h.fetched hS now
  | clickAdd now =>
    obtain ⟨vc, -, ht⟩ := Option.bind_eq_some_iff.1 hs
    cases ht
    exact h.with_form _
  | swipeEdit row =>
    obtain ⟨data, -, hs⟩ := Option.bind_eq_some_iff.1 hs
    obtain ⟨vc, -, ht⟩ := Option.bind_eq_some_iff.1 hs
    cases ht
    exact h.with_form _
  | swipeDelete row succeeds =>
    obtain ⟨data, hrow, ht⟩ := Option.bind_eq_some_iff.1 hs
    cases ht
    exact h.delete hrow succeeds
  | input i =>
    obtain ⟨vc, -, hs⟩ := Option.bind_eq_some_iff.1 hs
    obtain ⟨vc', -, ht⟩ := Option.bind_eq_some_iff.1 hs
    cases ht
    exact h.with_form _
  | press answers =>
    obtain ⟨vc, -, hs⟩ := Option.bind_eq_some_iff.1 hs
    obtain ⟨write, hw, ht⟩ := Option.bind_eq_some_iff.1 hs
    cases ht
    exact h.press (hS.keeps answers vc write hw) _
  | pop =>
    cases hs
    exact h.with_form none

theorem sound_of_run (hS : S.Lawful W) (h : S.Runs App.launch es s) : Sound S W s := by
  apply h.invariant (I := Sound S W) _ .launch
  intro s e t hs hen hb hst
  exact hs.step hS hst

theorem fetched_rows (hS : S.Lawful W) (h : S.Runs s (es ++ [.fetched now]) t)
    (hm : data ∈ t.rows) : ∃ i d, t.documents.doc (S.key data) = some d ∧
      data = S.ofDocument i (S.key data, d) := by
  obtain ⟨u, -, hr⟩ := Machine.Run.split h
  obtain ⟨-, v, hv, hr⟩ := Screens.runs_cons.1 hr
  cases hv
  cases hr
  obtain ⟨i, ⟨key, d⟩, hd, hm⟩ := hS.fetch now u.documents data hm
  have hkey : S.key data = key := by rw [hm, hS.key_ofDocument]
  rw [hkey]
  exact ⟨i, d, (Collection.mem_orderBy.1 hd).1, hm⟩

end

end TrainingDemos.FirebasePractise
