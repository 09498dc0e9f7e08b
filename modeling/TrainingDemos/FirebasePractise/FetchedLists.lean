import TrainingDemos.FirebasePractise.StoredDocuments
import TrainingDemos.FirebasePractise.Fruits

namespace TrainingDemos.FirebasePractise
set_option autoImplicit true

/-- A list screen: the documents that its query matches, and the array that its completion shows. -/
structure ListScreen (Model : Type) where
  key : Model → String
  query : Collection → List (String × Document)
  fetch : (Nat → Int) → Collection → List Model

/-- `MainDataVc`. -/
def studentList : ListScreen Student where
  key := Student.key
  query documents := documents.orderBy "time"
  fetch := retrivealldata

/-- `ViewController`. -/
def detailList : ListScreen Detail where
  key := Detail.key
  query documents := documents.orderBy "time"
  fetch := getAlldetail

/-- `SignupmainVC` of the user. -/
def fruitList (userID : String) : ListScreen Fruits where
  key := Fruits.key
  query documents := documents.whereField "created_by" userID
  fetch _ := getfruit userID

inductive ListRequest where
  | getDocuments
  | documents (arrData : Collection)
  | delete (key : String)

/-- The write that a device lays over what the server answers, until its outcome is known. -/
def ListRequest.upsert : ListRequest → Option Upsert
  | .delete key => some (key, none)
  | .getDocuments | .documents _ => none

/-- A device drops the versions of a document from before its own write. -/
def ListRequest.outdated (u : Upsert) : ListRequest → ListRequest
  | .documents arrData => .documents (arrData.upsert u)
  | request => request

/-- `failed` are the keys of the deletions that have failed since the shown answer arrived. -/
structure ListApp (Model : Type) where
  documents : Collection
  rows : List Model
  requests : List ListRequest
  failed : List String

inductive ListEvent where
  | viewWillAppear
  | swipeDelete (row : Nat)
  /-- The server carries out a request, which a deletion need not survive, or an answer arrives. -/
  | served (i : Nat) (now : Nat → Int) (succeeds : Bool)

namespace ListApp

def start (documents : Collection) : ListApp Model := ⟨documents, [], [.getDocuments], []⟩

def Enabled (s : ListApp Model) : ListEvent → Prop
  | .viewWillAppear => True
  | .swipeDelete row => row < s.rows.length
  | .served i _ _ => i < s.requests.length

instance (s : ListApp Model) : (e : ListEvent) → Decidable (s.Enabled e)
  | .viewWillAppear => inferInstanceAs (Decidable True)
  | .swipeDelete _ | .served _ _ _ => inferInstanceAs (Decidable (_ < _))

def pending (s : ListApp Model) : List Upsert := s.requests.filterMap ListRequest.upsert

/-- The outcome of a deletion is only printed. -/
def serve (L : ListScreen Model) (s : ListApp Model) (now : Nat → Int) (succeeds : Bool) :
    ListRequest → ListApp Model
  | .getDocuments => { s with requests := s.requests ++ [.documents s.documents] }
  | .documents arrData => { s with rows := L.fetch now (arrData.overlaid s.pending), failed := [] }
  | .delete key =>
    if succeeds then { s with
      documents := s.documents.delete key
      requests := s.requests.map (.outdated (key, none)) }
    else { s with failed := key :: s.failed }

def step (L : ListScreen Model) (s : ListApp Model) : ListEvent → Option (ListApp Model)
  | .viewWillAppear => some { s with requests := s.requests ++ [.getDocuments] }
  | .swipeDelete row => s.rows[row]?.map fun data => { s with
    rows := s.rows.eraseIdx row
    requests := s.requests ++ [.delete (L.key data)] }
  | .served i now succeeds =>
    s.requests[i]?.map ({ s with requests := s.requests.eraseIdx i }.serve L now succeeds)

def Agrees (L : ListScreen Model) (s : ListApp Model) : Prop :=
  ∀ key, key ∈ s.rows.map L.key ↔ key ∈ (L.query s.documents).map Prod.fst

end ListApp

def ListScreen.machine (L : ListScreen Model) : Machine (ListApp Model) ListEvent where
  enabled := ListApp.Enabled
  step := ListApp.step L

instance (L : ListScreen Model) (s : ListApp Model) (e : ListEvent) :
    Decidable (L.machine.enabled s e) :=
  inferInstanceAs (Decidable (s.Enabled e))

/-- The query matches by the content of a document, and the rows have the ids of the documents. -/
structure ListScreen.Lawful (L : ListScreen Model) (matched : Document → Prop)
    (W : String → Document → Prop) : Prop where
  query : ∀ c key d, (key, d) ∈ L.query c ↔ c.doc key = some d ∧ matched d
  nodup : ∀ c, ((L.query c).map Prod.fst).Nodup
  keys : ∀ now c, c.All W → ((L.fetch now c).map L.key).Perm ((L.query c).map Prod.fst)

theorem studentList_lawful :
    studentList.Lawful (fun d => (d "time").isSome) fun _ _ => True where
  query _ _ _ := Collection.mem_orderBy
  nodup c := c.nodup_orderBy "time"
  keys now c _ := (studentScreens_lawful Cloud.device).keys now c

theorem detailList_lawful : detailList.Lawful (fun d => (d "time").isSome) fun _ _ => True where
  query _ _ _ := Collection.mem_orderBy
  nodup c := c.nodup_orderBy "time"
  keys now c _ := (detailScreens_lawful Cloud.device).keys now c

theorem fruitList_lawful (userID : String) :
    (fruitList userID).Lawful (fun d => d "created_by" = some (.string userID))
      fun _ d => ∃ creator, FruitDocument creator d where
  query _ _ _ := Collection.mem_whereField
  nodup c := c.nodup_whereField "created_by" userID
  keys _ _ hc := .of_eq (FruitCollection.keys_getfruit hc userID)

/-- The array shows what the query matches but for the pending deletions and the failed ones. -/
structure Shows (L : ListScreen Model) (s : ListApp Model) : Prop where
  rows : ∀ key, key ∈ s.rows.map L.key ↔ key ∈ (L.query s.documents).map Prod.fst ∧
    key ∉ s.pending.map Prod.fst ∧ key ∉ s.failed
  failed : ∀ key ∈ s.failed, key ∈ (L.query s.documents).map Prod.fst ∧
    key ∉ s.pending.map Prod.fst
  distinct : (s.rows.map L.key).Nodup

structure Tracked (L : ListScreen Model) (W : String → Document → Prop) (s : ListApp Model) :
    Prop where
  documents : s.documents.All W
  answers : ∀ arrData, .documents arrData ∈ s.requests → arrData = s.documents
  pending : (s.pending.map Prod.fst).Nodup
  queried : ∀ key ∈ s.pending.map Prod.fst, key ∈ (L.query s.documents).map Prod.fst
  shown : Shows L s ∨ s.rows = [] ∧ ∃ request ∈ s.requests, request.upsert = none

section
variable {L : ListScreen Model} {matched : Document → Prop} {W : String → Document → Prop}
  {s t : ListApp Model}

theorem ListScreen.Lawful.mem_keys (hL : L.Lawful matched W) (c : Collection) :
    source ∈ (L.query c).map Prod.fst ↔ ∃ d, c.doc source = some d ∧ matched d := by
  rw [List.mem_map]
  constructor
  · intro h
    obtain ⟨⟨key, d⟩, hm, he⟩ := h
    cases he
    exact ⟨d, (hL.query c _ d).1 hm⟩
  · intro h
    obtain ⟨d, hd⟩ := h
    exact ⟨(source, d), (hL.query c source d).2 hd, rfl⟩

theorem ListScreen.Lawful.mem_keys_delete (hL : L.Lawful matched W) (c : Collection)
    (key : String) :
    source ∈ (L.query (c.delete key)).map Prod.fst ↔
      source ∈ (L.query c).map Prod.fst ∧ source ≠ key := by
  rw [hL.mem_keys, hL.mem_keys]
  by_cases hk : source = key
  · subst hk
    rw [Collection.doc_delete_self]
    constructor
    · intro h
      obtain ⟨d, hd, -⟩ := h
      cases hd
    · intro h
      exact absurd rfl h.2
  · rw [Collection.doc_delete_of_ne c hk]
    exact ⟨fun h => ⟨h, hk⟩, fun h => h.1⟩

theorem ListApp.pending_deletes (s : ListApp Model) : ∀ u ∈ s.pending, u.2 = none := by
  intro u hu
  obtain ⟨request, -, hr⟩ := List.mem_filterMap.1 hu
  cases request with
  | delete key =>
    cases hr
    rfl
  | getDocuments => cases hr
  | documents arrData => cases hr

theorem ListScreen.Lawful.mem_keys_overlaid (hL : L.Lawful matched W) {c : Collection}
    {us : List Upsert} (hus : ∀ u ∈ us, u.2 = none) :
    source ∈ (L.query (c.overlaid us)).map Prod.fst ↔
      source ∈ (L.query c).map Prod.fst ∧ source ∉ us.map Prod.fst := by
  rw [hL.mem_keys, hL.mem_keys]
  simp only [Collection.doc_overlaid_deletions hus]
  constructor
  · intro h
    obtain ⟨d, hd, hm⟩ := h
    exact ⟨⟨d, hd.1, hm⟩, hd.2⟩
  · intro h
    obtain ⟨⟨d, hd, hm⟩, hk⟩ := h
    exact ⟨d, ⟨hd, hk⟩, hm⟩

theorem Shows.agrees_iff (h : Shows L s) (hp : s.pending = []) : s.Agrees L ↔ s.failed = [] := by
  have hrows (key : String) : key ∈ s.rows.map L.key ↔
      key ∈ (L.query s.documents).map Prod.fst ∧ key ∉ s.failed := by
    rw [h.rows, hp]
    exact ⟨fun hk => ⟨hk.1, hk.2.2⟩, fun hk => ⟨hk.1, List.not_mem_nil, hk.2⟩⟩
  constructor
  · intro ha
    apply List.eq_nil_iff_forall_not_mem.2
    intro key hk
    exact ((hrows key).1 ((ha key).2 (h.failed key hk).1)).2 hk
  · intro hf key
    rw [hrows, hf]
    exact ⟨fun hk => hk.1, fun hk => ⟨hk, List.not_mem_nil⟩⟩

theorem ListApp.pending_concat (s : ListApp Model) (request : ListRequest) :
    pending { s with requests := s.requests ++ [request] } =
      s.pending ++ request.upsert.toList := by
  have hlast : [request].filterMap ListRequest.upsert = request.upsert.toList := by
    rw [List.filterMap_cons]
    cases request.upsert with
    | none => rfl
    | some u => rfl
  rw [pending, List.filterMap_append, hlast, pending]

theorem ListApp.pending_eraseIdx (hr : s.requests[i]? = some request) :
    s.pending.Perm (request.upsert.toList ++
      pending { s with requests := s.requests.eraseIdx i }) := by
  have hp := (perm_cons_eraseIdx hr).filterMap ListRequest.upsert
  rw [List.filterMap_cons] at hp
  cases hu : request.upsert with
  | none =>
    rw [hu] at hp
    exact hp
  | some u =>
    rw [hu] at hp
    exact hp

theorem ListApp.pending_outdated (s : ListApp Model) (u : Upsert) :
    pending { s with requests := s.requests.map (.outdated u) } = s.pending := by
  have hsame (request : ListRequest) : (request.outdated u).upsert = request.upsert := by
    cases request <;> rfl
  rw [pending, List.filterMap_map]
  exact congrArg (List.filterMap · s.requests) (funext hsame)

theorem tracked_start {documents : Collection} (h : documents.All W) :
    Tracked L W (ListApp.start documents) where
  documents := h
  answers arrData hm := by
    cases List.mem_singleton.1 hm
  pending := List.nodup_nil
  queried key hk := absurd hk List.not_mem_nil
  shown := .inr ⟨rfl, .getDocuments, List.mem_cons_self, rfl⟩

theorem Shows.of_pending (h : Shows L s) (hrows : t.rows = s.rows)
    (hd : t.documents = s.documents) (hf : t.failed = s.failed)
    (hp : ∀ key, key ∈ t.pending.map Prod.fst ↔ key ∈ s.pending.map Prod.fst) : Shows L t := by
  refine ⟨?_, ?_, ?_⟩
  · intro key
    rw [hrows, hd, hf, hp]
    exact h.rows key
  · intro key hk
    rw [hd, hp]
    exact h.failed key (hf ▸ hk)
  · rw [hrows]
    exact h.distinct

theorem Tracked.send (h : Tracked L W s) (hu : request.upsert = none)
    (ha : ∀ arrData, request = .documents arrData → arrData = s.documents) :
    Tracked L W { s with requests := s.requests ++ [request] } := by
  have hp := s.pending_concat request
  rw [hu, Option.toList_none, List.append_nil] at hp
  refine ⟨h.documents, ?_, ?_, ?_, ?_⟩
  · intro arrData hm
    rcases List.mem_append.1 hm with hm | hm
    · exact h.answers arrData hm
    · exact ha arrData (List.mem_singleton.1 hm).symm
  · rw [hp]
    exact h.pending
  · rw [hp]
    exact h.queried
  · rcases h.shown with hs | ⟨hrows, request', hm, hf⟩
    · exact .inl (hs.of_pending rfl rfl rfl fun key => by rw [hp])
    · exact .inr ⟨hrows, request', List.mem_append_left _ hm, hf⟩

theorem Tracked.swipeDelete (h : Tracked L W s) (hrow : s.rows[row]? = some data) :
    Tracked L W { s with
      rows := s.rows.eraseIdx row
      requests := s.requests ++ [.delete (L.key data)] } := by
  have hmem : data ∈ s.rows := List.mem_of_getElem? hrow
  have hs : Shows L s := h.shown.resolve_right fun h => absurd (h.1 ▸ hmem) List.not_mem_nil
  have hkey : (s.rows.map L.key)[row]? = some (L.key data) := by
    rw [List.getElem?_map, hrow, Option.map_some]
  obtain ⟨hquery, hpending, hfailed⟩ := (hs.rows (L.key data)).1 (List.mem_map_of_mem hmem)
  have hp : ListApp.pending { s with
      rows := s.rows.eraseIdx row
      requests := s.requests ++ [.delete (L.key data)] } = s.pending ++ [(L.key data, none)] :=
    s.pending_concat (.delete (L.key data))
  refine ⟨h.documents, ?_, ?_, ?_, .inl ⟨?_, ?_, ?_⟩⟩
  · intro arrData hm
    rcases List.mem_append.1 hm with hm | hm
    · exact h.answers arrData hm
    · cases List.mem_singleton.1 hm
  · rw [hp, List.map_append, List.map_singleton, ← List.concat_eq_append]
    exact h.pending.concat hpending
  · intro key hk
    rw [hp, List.map_append, List.mem_append] at hk
    rcases hk with hk | hk
    · exact h.queried key hk
    · rw [List.mem_singleton.1 hk]
      exact hquery
  · intro key
    rw [hp, List.map_append, List.mem_append, not_or, List.map_singleton, List.mem_singleton,
      ← List.eraseIdx_map, eraseIdx_eq_erase hs.distinct hkey, hs.distinct.mem_erase_iff, hs.rows]
    constructor
    · intro hk
      exact ⟨hk.2.1, ⟨hk.2.2.1, hk.1⟩, hk.2.2.2⟩
    · intro hk
      exact ⟨hk.2.1.2, hk.1, hk.2.1.1, hk.2.2⟩
  · intro key hk
    rw [hp, List.map_append, List.mem_append, not_or, List.map_singleton, List.mem_singleton]
    refine ⟨(hs.failed key hk).1, (hs.failed key hk).2, ?_⟩
    intro he
    rw [he] at hk
    exact hfailed hk
  · exact hs.distinct.sublist ((List.eraseIdx_sublist _ _).map L.key)

theorem Tracked.received (h : Tracked L W s) (hr : s.requests[i]? = some request)
    (hu : request.upsert ≠ none) :
    Shows L s ∨ s.rows = [] ∧ ∃ request ∈ s.requests.eraseIdx i, request.upsert = none := by
  refine h.shown.imp_right ?_
  intro hf
  obtain ⟨hrows, request', hm, hf⟩ := hf
  refine ⟨hrows, request', ?_, hf⟩
  rcases List.mem_cons.1 ((perm_cons_eraseIdx hr).mem_iff.1 hm) with he | hm
  · exact absurd (he ▸ hf) hu
  · exact hm

theorem Tracked.getDocuments (h : Tracked L W s) (hr : s.requests[i]? = some .getDocuments) :
    Tracked L W { s with requests := s.requests.eraseIdx i ++ [.documents s.documents] } := by
  have hp := ListApp.pending_concat { s with requests := s.requests.eraseIdx i }
    (.documents s.documents)
  rw [ListRequest.upsert, Option.toList_none, List.append_nil] at hp
  have hperm : (s.pending.map Prod.fst).Perm _ := (ListApp.pending_eraseIdx hr).map Prod.fst
  refine ⟨h.documents, ?_, ?_, ?_, ?_⟩
  · intro arrData hm
    rcases List.mem_append.1 hm with hm | hm
    · exact h.answers arrData (List.mem_of_mem_eraseIdx hm)
    · cases List.mem_singleton.1 hm
      rfl
  · rw [hp]
    exact hperm.nodup_iff.1 h.pending
  · intro key hk
    rw [hp] at hk
    exact h.queried key (hperm.mem_iff.2 hk)
  · rcases h.shown with hs | ⟨hrows, -⟩
    · refine .inl (hs.of_pending rfl rfl rfl ?_)
      intro key
      rw [hp]
      exact hperm.mem_iff.symm
    · exact .inr ⟨hrows, _, List.mem_append_right _ List.mem_cons_self, rfl⟩

theorem Tracked.arrived (h : Tracked L W s) (hL : L.Lawful matched W)
    (hr : s.requests[i]? = some (.documents arrData)) (now : Nat → Int) :
    Tracked L W { s with
      rows := L.fetch now
        (arrData.overlaid (ListApp.pending { s with requests := s.requests.eraseIdx i }))
      requests := s.requests.eraseIdx i
      failed := [] } := by
  cases h.answers arrData (List.mem_of_getElem? hr)
  have hperm : (s.pending.map Prod.fst).Perm
      ((ListApp.pending { s with requests := s.requests.eraseIdx i }).map Prod.fst) :=
    (ListApp.pending_eraseIdx hr).map Prod.fst
  have hdeletes := ListApp.pending_deletes { s with requests := s.requests.eraseIdx i }
  have hkeys := hL.keys now (s.documents.overlaid
    (ListApp.pending { s with requests := s.requests.eraseIdx i })) (by
      intro key d hd
      exact h.documents key d ((Collection.doc_overlaid_deletions hdeletes).1 hd).1)
  refine ⟨h.documents, ?_, hperm.nodup_iff.1 h.pending, ?_, .inl ⟨?_, ?_,
    hkeys.nodup_iff.2 (hL.nodup _)⟩⟩
  · intro arrData hm
    exact h.answers arrData (List.mem_of_mem_eraseIdx hm)
  · intro key hk
    exact h.queried key (hperm.mem_iff.2 hk)
  · intro key
    rw [hkeys.mem_iff, hL.mem_keys_overlaid hdeletes]
    exact ⟨fun hk => ⟨hk.1, hk.2, List.not_mem_nil⟩, fun hk => ⟨hk.1, hk.2.1⟩⟩
  · intro key hk
    cases hk

theorem Tracked.deletion (h : Tracked L W s) (hr : s.requests[i]? = some (.delete key)) :
    key ∈ (L.query s.documents).map Prod.fst ∧
      key ∉ (ListApp.pending { s with requests := s.requests.eraseIdx i }).map Prod.fst ∧
      ((ListApp.pending { s with requests := s.requests.eraseIdx i }).map Prod.fst).Nodup ∧
      ∀ key', key' ∈ s.pending.map Prod.fst ↔ key' = key ∨
        key' ∈ (ListApp.pending { s with requests := s.requests.eraseIdx i }).map Prod.fst := by
  have hperm : (s.pending.map Prod.fst).Perm
      (key :: (ListApp.pending { s with requests := s.requests.eraseIdx i }).map Prod.fst) :=
    (ListApp.pending_eraseIdx hr).map Prod.fst
  have hmem (key' : String) := hperm.mem_iff (a := key')
  obtain ⟨hnew, hnodup⟩ := List.nodup_cons.1 (hperm.nodup_iff.1 h.pending)
  refine ⟨h.queried key ((hmem key).2 List.mem_cons_self), hnew, hnodup, ?_⟩
  intro key'
  rw [hmem, List.mem_cons]

theorem Tracked.deletion_failed (h : Tracked L W s)
    (hr : s.requests[i]? = some (.delete key)) :
    Tracked L W { s with
      requests := s.requests.eraseIdx i
      failed := key :: s.failed } := by
  obtain ⟨hquery, hnew, hnodup, hmem⟩ := h.deletion hr
  refine ⟨h.documents, ?_, hnodup, ?_, ?_⟩
  · intro arrData hm
    exact h.answers arrData (List.mem_of_mem_eraseIdx hm)
  · intro key' hk
    exact h.queried key' ((hmem key').2 (.inr hk))
  · rcases h.received hr (Option.some_ne_none _) with hs | hf
    · refine .inl ⟨?_, ?_, hs.distinct⟩
      · intro key'
        show key' ∈ s.rows.map L.key ↔ _
        rw [hs.rows, hmem, List.mem_cons, not_or, not_or]
        constructor
        · intro hk
          exact ⟨hk.1, hk.2.1.2, hk.2.1.1, hk.2.2⟩
        · intro hk
          exact ⟨hk.1, ⟨hk.2.2.1, hk.2.1⟩, hk.2.2.2⟩
      · intro key' hk
        rcases List.mem_cons.1 hk with hk | hk
        · rw [hk]
          exact ⟨hquery, hnew⟩
        · obtain ⟨hq, hp⟩ := hs.failed key' hk
          rw [hmem, not_or] at hp
          exact ⟨hq, hp.2⟩
    · exact .inr hf

theorem Tracked.deleted (h : Tracked L W s) (hL : L.Lawful matched W)
    (hr : s.requests[i]? = some (.delete key)) :
    Tracked L W { s with
      documents := s.documents.delete key
      requests := (s.requests.eraseIdx i).map (.outdated (key, none)) } := by
  obtain ⟨hquery, hnew, hnodup, hmem⟩ := h.deletion hr
  have hp : ListApp.pending { s with
      documents := s.documents.delete key
      requests := (s.requests.eraseIdx i).map (.outdated (key, none)) } = _ :=
    ListApp.pending_outdated { s with requests := s.requests.eraseIdx i } (key, none)
  refine ⟨h.documents.delete key, ?_, ?_, ?_, ?_⟩
  · intro arrData hm
    obtain ⟨request, hm, he⟩ := List.mem_map.1 hm
    cases request with
    | documents arrData' =>
      cases h.answers arrData' (List.mem_of_mem_eraseIdx hm)
      cases he
      rfl
    | getDocuments => cases he
    | delete key' => cases he
  · rw [hp]
    exact hnodup
  · intro key' hk
    rw [hp] at hk
    rw [hL.mem_keys_delete]
    exact ⟨h.queried key' ((hmem key').2 (.inr hk)), fun he => hnew (he ▸ hk)⟩
  · rcases h.received hr (Option.some_ne_none _) with hs | ⟨hrows, request, hm, hf⟩
    · refine .inl ⟨?_, ?_, hs.distinct⟩
      · intro key'
        rw [hp]
        show key' ∈ s.rows.map L.key ↔ _
        rw [hs.rows, hmem, not_or, hL.mem_keys_delete]
        constructor
        · intro hk
          exact ⟨⟨hk.1, hk.2.1.1⟩, hk.2.1.2, hk.2.2⟩
        · intro hk
          exact ⟨hk.1.1, ⟨hk.1.2, hk.2.1⟩, hk.2.2⟩
      · intro key' hk
        obtain ⟨hq, hpend⟩ := hs.failed key' hk
        rw [hmem, not_or] at hpend
        rw [hp, hL.mem_keys_delete]
        exact ⟨⟨hq, hpend.1⟩, hpend.2⟩
    · refine .inr ⟨hrows, _, List.mem_map_of_mem hm, ?_⟩
      cases request with
      | delete key' => cases hf
      | getDocuments => rfl
      | documents arrData => rfl

theorem Tracked.step (h : Tracked L W s) (hL : L.Lawful matched W)
    (hs : ListApp.step L s e = some t) : Tracked L W t := by
  cases e with
  | viewWillAppear =>
    cases hs
    exact h.send rfl fun _ he => by cases he
  | swipeDelete row =>
    obtain ⟨data, hrow, ht⟩ := Option.map_eq_some_iff.1 hs
    cases ht
    exact h.swipeDelete hrow
  | served i now succeeds =>
    obtain ⟨request, hr, ht⟩ := Option.map_eq_some_iff.1 hs
    cases ht
    cases request with
    | getDocuments => exact h.getDocuments hr
    | documents arrData => exact h.arrived hL hr now
    | delete key =>
      cases succeeds with
      | false => exact h.deletion_failed hr
      | true => exact h.deleted hL hr

end

/-- In every run from the appearing of the screen, with fetches and deletions in flight in any order
and deletions that may fail: whenever no request is in flight, the array shows what the query
matches on the server exactly if no deletion has failed since the shown answer arrived. -/
def ListScreen.AgreesWhen (L : ListScreen Model) (documents : Collection) : Prop :=
  ∀ es s, L.machine.Run (fun _ _ => True) (ListApp.start documents) es s → s.requests = [] →
    (s.Agrees L ↔ s.failed = [])

theorem ListScreen.Lawful.agreesWhen {L : ListScreen Model} (hL : L.Lawful matched W)
    {documents : Collection} (h : documents.All W) : L.AgreesWhen documents := by
  intro es s hr hs
  have ht : Tracked L W s := by
    apply hr.invariant (I := Tracked L W) _ (tracked_start h)
    intro s e t hs hen hb hst
    exact hs.step hL hst
  rcases ht.shown with hshows | ⟨-, request, hm, -⟩
  · refine hshows.agrees_iff ?_
    rw [ListApp.pending, hs]
    rfl
  · rw [hs] at hm
    cases hm

def oneFruit : Collection := Collection.empty.setData "f"
  (.ofFields [("name", .string "apple"), ("created_by", .string "u")])

theorem fruitCollection_oneFruit : FruitCollection oneFruit :=
  Collection.All.empty.setData ⟨"u", ⟨_, rfl⟩, rfl, rfl, rfl⟩

/-- A second fetch is answered before the deletion is carried out, and arrives after it. -/
def oneDeletionOvertaken : List ListEvent :=
  [.served 0 (fun _ => 0) true, .served 0 (fun _ => 0) true, .viewWillAppear, .swipeDelete 0,
    .served 0 (fun _ => 0) true, .served 0 (fun _ => 0) true, .served 0 (fun _ => 0) true]

def failedDeletion : List ListEvent :=
  [.served 0 (fun _ => 0) true, .served 0 (fun _ => 0) true, .swipeDelete 0,
    .served 0 (fun _ => 0) false]

end TrainingDemos.FirebasePractise
