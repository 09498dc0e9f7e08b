import TrainingDemos.FirebasePractise.FruitReads
import TrainingDemos.FirebasePractise.SessionTurns

namespace TrainingDemos.FirebasePractise
set_option autoImplicit true

/-- Ids that were made up for a user stay that user's. -/
def Extends (creator creator' : String → Option String) : Prop :=
  ∀ key uid, creator key = some uid → creator' key = some uid

structure Device.Owns (creator : String → Option String) (device : Device) : Prop where
  session : device.session.Ordered
  arrfruit : device.session.root = .homeNavi →
    ∀ row ∈ device.arrfruit, creator row.key = some device.session.userID
  form : device.session.root = .homeNavi → ∀ vc data, device.form = some vc →
    vc.data = some data → creator data.key = some device.session.userID

namespace FruitApp

def Addressed (m : FruitApp δ) (d : δ) (screen : Nat) (id : String) : Prop :=
  screen ≤ (m.devices d).session.screen ∧
    ((m.devices d).session.root = .homeNavi → (m.devices d).session.screen = screen →
      id = (m.devices d).session.userID)

end FruitApp

/-- The document bears the name of the user whom its id was made up for. -/
def Owned (creator : String → Option String) (key : String) (d : Document) : Prop :=
  ∃ uid, creator key = some uid ∧ FruitDocument uid d

/-- A request concerns documents of the user who sent it only. -/
def FruitRequest.Own (m : FruitApp δ) : FruitRequest δ → Prop
  | .setData _ user merge => ∃ uid name, user = some uid ∧ m.creator merge.key = some uid ∧
      merge.fields = [("name", .string name), ("created_by", .string uid)]
  | .delete _ user key => ∃ uid, user = some uid ∧ m.creator key = some uid
  | .getDocuments d screen id => m.Addressed d screen id
  | .documents d screen id arrData => m.Addressed d screen id ∧ arrData.All (Owned m.creator)

structure Isolated (m : FruitApp δ) : Prop where
  documents : m.documents.All (Owned m.creator)
  devices : ∀ d, (m.devices d).Owns m.creator
  requests : ∀ request ∈ m.requests, request.Own m

theorem Device.Owns.extends {device : Device} (h : device.Owns creator)
    (he : Extends creator creator') : device.Owns creator' where
  session := h.session
  arrfruit hr row hm := he _ _ (h.arrfruit hr row hm)
  form hr vc data hf hd := he _ _ (h.form hr vc data hf hd)

theorem Owned.extends (h : Owned creator key d) (he : Extends creator creator') :
    Owned creator' key d := by
  obtain ⟨uid, hc, hdoc⟩ := h
  exact ⟨uid, he _ _ hc, hdoc⟩

section
variable {m m' : FruitApp δ}

theorem FruitRequest.Own.extends {request : FruitRequest δ} (h : request.Own m)
    (he : Extends m.creator m'.creator)
    (ha : ∀ d screen uid, m.Addressed d screen uid → m'.Addressed d screen uid) :
    request.Own m' := by
  cases request with
  | setData d user merge =>
    obtain ⟨uid, name, hu, hc, hf⟩ := h
    exact ⟨uid, name, hu, he _ _ hc, hf⟩
  | delete d user key =>
    obtain ⟨uid, hu, hc⟩ := h
    exact ⟨uid, hu, he _ _ hc⟩
  | getDocuments d screen id => exact ha d screen id h
  | documents d screen id arrData =>
    exact ⟨ha d screen id h.1, fun key doc hd => (h.2 key doc hd).extends he⟩

theorem FruitRequest.Own.upsert {request : FruitRequest δ} (h : request.Own m)
    (hu : request.upsert = some u) :
    (∃ uid, request.user = some uid ∧ m.creator u.1 = some uid) ∧
      ∀ c : Collection, c.All (Owned m.creator) → (c.upsert u).All (Owned m.creator) := by
  cases request with
  | setData d user merge =>
    cases hu
    obtain ⟨uid, name, hu, hc, hf⟩ := h
    refine ⟨⟨uid, hu, hc⟩, ?_⟩
    intro c hall
    apply Collection.All.setData hall
    refine ⟨uid, hc, ?_⟩
    rw [hf]
    apply SignPassdataVC.addbtnclick_merges merge.key uid ⟨none, name⟩
    intro d hd
    obtain ⟨creator, -, hdoc⟩ := hall _ d hd
    exact ⟨creator, hdoc⟩
  | delete d user key =>
    cases hu
    exact ⟨h, fun c hall => hall.delete key⟩
  | getDocuments d screen id => cases hu
  | documents d screen id arrData => cases hu

theorem FruitApp.Addressed.of_sessions {d : δ} (h : m.Addressed d screen uid)
    (hs : Session.Succeeds (m.devices d).session (m'.devices d).session) :
    m'.Addressed d screen uid := by
  refine ⟨Nat.le_trans h.1 hs.screen, ?_⟩
  intro hroot hscreen
  have heq : (m'.devices d).session.screen = (m.devices d).session.screen :=
    Nat.le_antisymm (hscreen ▸ h.1) hs.screen
  obtain ⟨hroot', huser⟩ := hs.sameUser heq hroot
  rw [huser]
  exact h.2 hroot' (heq ▸ hscreen)

theorem Session.Succeeds.refl (s : Session) : Session.Succeeds s s :=
  ⟨le_rfl, fun _ h => ⟨h, rfl⟩⟩

/-- The list shows, once each, exactly the documents whose ids were made up for the user. -/
def ShowsOwn (creator : String → Option String) (uid : String) (documents : Collection)
    (rows : List Fruits) : Prop :=
  (rows.map Fruits.key).Nodup ∧ ∀ key, key ∈ rows.map Fruits.key ↔
    (documents.doc key).isSome ∧ creator key = some uid

theorem showsOwn_getfruit {c : Collection} (h : c.All (Owned creator)) (uid : String) :
    ShowsOwn creator uid c (getfruit uid c) := by
  have hall : FruitCollection c := by
    intro key d hd
    obtain ⟨creator, -, hdoc⟩ := h key d hd
    exact ⟨creator, hdoc⟩
  rw [ShowsOwn, hall.keys_getfruit]
  refine ⟨Collection.nodup_whereField _ _ _, ?_⟩
  intro key
  constructor
  · intro hm
    obtain ⟨⟨key', d⟩, hloaded, hk⟩ := List.mem_map.1 hm
    cases hk
    obtain ⟨hd, hby⟩ := Collection.mem_whereField.1 hloaded
    obtain ⟨creator, hc, hdoc⟩ := h _ d hd
    rw [hdoc.created_by] at hby
    cases hby
    exact ⟨Option.isSome_iff_exists.2 ⟨d, hd⟩, hc⟩
  · intro hk
    obtain ⟨hsome, hc⟩ := hk
    obtain ⟨d, hd⟩ := Option.isSome_iff_exists.1 hsome
    obtain ⟨creator, hc', hdoc⟩ := h key d hd
    rw [hc] at hc'
    cases hc'
    exact List.mem_map.2 ⟨(key, d), Collection.mem_whereField.2 ⟨hd, hdoc.created_by⟩, rfl⟩

theorem isolated_start : Isolated (FruitApp.start : FruitApp δ) where
  documents := .empty
  devices _ := ⟨Session.ordered_installed, nofun, nofun⟩
  requests := nofun

theorem Extends.refl (creator : String → Option String) : Extends creator creator :=
  fun _ _ h => h

theorem Extends.update {creator : String → Option String} (h : creator documentID = none)
    (user : Option String) : Extends creator (Function.update creator documentID user) := by
  intro key uid hk
  have hne : key ≠ documentID := by
    intro he
    rw [he, h] at hk
    cases hk
  rw [Function.update_of_ne hne]
  exact hk

theorem Isolated.send (h : Isolated m) {request : FruitRequest δ} (hr : request.Own m) :
    Isolated (m.send request) where
  documents := h.documents
  devices := h.devices
  requests request' hm := by
    have hown : request'.Own m := by
      rcases List.mem_append.1 hm with hm | hm
      · exact h.requests request' hm
      · rw [List.mem_singleton.1 hm]
        exact hr
    exact hown.extends (.refl _) fun _ _ _ ha => ha

theorem Isolated.extends (h : Isolated m) (he : Extends m.creator creator) :
    Isolated { m with creator := creator } where
  documents key d hd := (h.documents key d hd).extends he
  devices d := (h.devices d).extends he
  requests request hm := (h.requests request hm).extends he fun _ _ _ ha => ha

theorem Isolated.without (h : Isolated m) (i : Nat) :
    Isolated { m with requests := m.requests.eraseIdx i } where
  documents := h.documents
  devices := h.devices
  requests request hm := by
    have hown := h.requests request (List.mem_of_mem_eraseIdx hm)
    exact hown.extends (.refl _) fun _ _ _ ha => ha

theorem Isolated.currentUser (h : Isolated m) {d : δ}
    (hroot : (m.devices d).session.root = .homeNavi) :
    (m.devices d).session.currentUser = some (m.devices d).session.userID :=
  ((h.devices d).session.homeAgrees hroot).2.2

variable [DecidableEq δ]

theorem FruitApp.succeeds_setDevice {d : δ} {device : Device}
    (h : Session.Succeeds (m.devices d).session device.session) (d' : δ) :
    Session.Succeeds (m.devices d').session ((m.setDevice d device).devices d').session := by
  by_cases hd : d' = d
  · subst hd
    rw [devices_setDevice_self]
    exact h
  · rw [devices_setDevice_of_ne m device hd]
    exact .refl _

theorem Isolated.setDevice {d : δ} {device : Device} (h : Isolated m)
    (hdevice : device.Owns m.creator)
    (hs : Session.Succeeds (m.devices d).session device.session) :
    Isolated (m.setDevice d device) where
  documents := h.documents
  devices d' := by
    by_cases hd : d' = d
    · subst hd
      rw [FruitApp.devices_setDevice_self]
      exact hdevice
    · rw [FruitApp.devices_setDevice_of_ne m device hd]
      exact h.devices d'
  requests request hm := by
    have he : Extends m.creator (m.setDevice d device).creator := .refl _
    apply (h.requests request hm).extends he
    intro d' screen uid ha
    exact ha.of_sessions (FruitApp.succeeds_setDevice hs d')

theorem Isolated.carryOut (h : Isolated m) {u : Upsert}
    (hu : ∀ c : Collection, c.All (Owned m.creator) → (c.upsert u).All (Owned m.creator)) (d : δ) :
    Isolated (m.carryOut d u) where
  documents := hu _ h.documents
  devices := h.devices
  requests request hm := by
    obtain ⟨request', hm', he⟩ := List.mem_map.1 hm
    have hown := h.requests request' hm'
    subst he
    cases request' with
    | setData d' user merge => exact hown
    | delete d' user key => exact hown
    | getDocuments d' screen id => exact hown
    | documents d' screen id arrData =>
      refine ⟨hown.1, ?_⟩
      split
      · exact hu _ hown.2
      · exact hown.2

theorem Isolated.overlaid {arrData : Collection} (h : Isolated m)
    (hall : arrData.All (Owned m.creator)) (d : δ) (user : Option String) :
    (arrData.overlaid (m.pending d user)).All (Owned m.creator) := by
  refine Collection.All.overlaid ?_ hall
  intro u hu
  obtain ⟨request, hm, hl⟩ := List.mem_filterMap.1 hu
  exact ((h.requests request hm).upsert (FruitRequest.upsert_of_laidOver hl)).2

theorem Isolated.serve (h : Isolated m) {request : FruitRequest δ} (hr : request.Own m) :
    Isolated (m.serve request) := by
  cases request with
  | setData d user merge => exact h.carryOut (hr.upsert rfl).2 d
  | delete d user key => exact h.carryOut (hr.upsert rfl).2 d
  | getDocuments d screen uid => exact h.send ⟨hr, h.documents⟩
  | documents d screen uid arrData =>
    rw [FruitApp.serve]
    split
    · rename_i hshown
      refine h.setDevice ⟨(h.devices d).session, ?_, (h.devices d).form⟩ (.refl _)
      intro hroot row hrow
      rw [← hr.1.2 hroot hshown.2]
      have hall := h.overlaid hr.2 d (m.devices d).session.currentUser
      exact (((showsOwn_getfruit hall uid).2 row.key).1 (List.mem_map_of_mem hrow)).2
    · exact h

theorem Device.Owns.auth {device device' : Device} (h : device.Owns creator)
    (hen : device.session.Enabled e) (hb : device.session.InTurn e)
    (hs : device.auth e = some device') :
    device'.Owns creator ∧ Session.Succeeds device.session device'.session := by
  obtain ⟨session, hstep, hd⟩ := Option.map_eq_some_iff.1 hs
  obtain ⟨hordered, hnext⟩ := h.session.step hen hb hstep
  split at hd
  · rename_i hscreen
    cases hd
    refine ⟨⟨hordered, ?_, ?_⟩, hnext⟩
    · intro hroot row hm
      obtain ⟨hroot', huser⟩ := hnext.sameUser hscreen hroot
      have hc := h.arrfruit hroot' row hm
      rw [← huser] at hc
      exact hc
    · intro hroot vc data hf hdata
      obtain ⟨hroot', huser⟩ := hnext.sameUser hscreen hroot
      have hc := h.form hroot' vc data hf hdata
      rw [← huser] at hc
      exact hc
  · cases hd
    exact ⟨⟨hordered, nofun, nofun⟩, hnext⟩

theorem Isolated.setForm (h : Isolated m) (d : δ) (vc : SignPassdataVC)
    (hvc : (m.devices d).session.root = .homeNavi → ∀ data, vc.data = some data →
      m.creator data.key = some (m.devices d).session.userID) :
    Isolated (m.setDevice d { m.devices d with form := some vc }) := by
  refine h.setDevice ⟨(h.devices d).session, (h.devices d).arrfruit, ?_⟩ (.refl _)
  intro hroot vc' data hf hdata
  cases hf
  exact hvc hroot data hdata

theorem Isolated.press (h : Isolated m) {d : δ} (hroot : (m.devices d).session.root = .homeNavi)
    (hf : (m.devices d).form = some vc) (hid : m.creator documentID = none)
    (hs : m.step (.press d documentID) = some m') :
    Isolated m' ∧ Extends m.creator m'.creator := by
  have hs : (m.devices d).form.bind _ = some m' := hs
  rw [hf, Option.bind_some] at hs
  cases hs
  have huser := h.currentUser hroot
  cases hdata : vc.data with
  | none =>
    have hext := Extends.update hid (m.devices d).session.currentUser
    have hwrite : (FruitRequest.setData d (m.devices d).session.currentUser
        (vc.addbtnclick documentID (m.devices d).session.userID)).Own { m with
          creator := Function.update m.creator documentID (m.devices d).session.currentUser } := by
      refine ⟨_, _, huser, ?_, rfl⟩
      rw [SignPassdataVC.addbtnclick, hdata, huser]
      exact Function.update_self _ _ _
    exact ⟨(h.extends hext).send hwrite, hext⟩
  | some data =>
    have hwrite : (FruitRequest.setData d (m.devices d).session.currentUser
        (vc.addbtnclick documentID (m.devices d).session.userID)).Own m := by
      refine ⟨_, _, huser, ?_, rfl⟩
      rw [SignPassdataVC.addbtnclick, hdata]
      exact (h.devices d).form hroot vc data hf hdata
    exact ⟨h.send hwrite, .refl _⟩

/-- Authentication requests on each device do not overlap, and succeed. -/
def FruitApp.InTurn (m : FruitApp δ) : FruitEvent δ → Prop
  | .auth d e => (m.devices d).session.InTurn e
  | _ => True

instance (m : FruitApp δ) : (e : FruitEvent δ) → Decidable (m.InTurn e)
  | .auth d e => inferInstanceAs (Decidable ((m.devices d).session.InTurn e))
  | .viewWillAppear _ | .addbtnclick _ | .swipeEdit _ _ | .swipeDelete _ _ | .input _ _
  | .press _ _ | .pop _ | .served _ => inferInstanceAs (Decidable True)

theorem FruitApp.creator_serve (m : FruitApp δ) (request : FruitRequest δ) :
    (m.serve request).creator = m.creator := by
  cases request with
  | documents d screen uid arrData =>
    rw [serve]
    split <;> rfl
  | _ => rfl

theorem Isolated.step (h : Isolated m) (hen : m.Enabled e) (hb : m.InTurn e)
    (hs : m.step e = some m') : Isolated m' ∧ Extends m.creator m'.creator := by
  cases e with
  | auth d e =>
    obtain ⟨device, hd, hm⟩ := Option.bind_eq_some_iff.1 hs
    cases hm
    obtain ⟨howns, hnext⟩ := (h.devices d).auth hen hb hd
    exact ⟨h.setDevice howns hnext, .refl _⟩
  | viewWillAppear d =>
    cases hs
    exact ⟨h.send ⟨le_rfl, fun _ _ => rfl⟩, .refl _⟩
  | addbtnclick d =>
    cases hs
    refine ⟨h.setForm d _ ?_, .refl _⟩
    intro _ data hdata
    cases hdata
  | swipeEdit d row =>
    obtain ⟨data, hrow, hm⟩ := Option.bind_eq_some_iff.1 hs
    cases hm
    refine ⟨h.setForm d _ ?_, .refl _⟩
    intro hroot data' hdata
    rw [SignPassdataVC.viewWillAppear_data] at hdata
    cases hdata
    exact (h.devices d).arrfruit hroot data (List.mem_of_getElem? hrow)
  | swipeDelete d row =>
    obtain ⟨data, hrow, hm⟩ := Option.bind_eq_some_iff.1 hs
    cases hm
    have hroot : (m.devices d).session.root = .homeNavi := hen.1.1
    have howner := (h.devices d).arrfruit hroot data (List.mem_of_getElem? hrow)
    have hdevice : Isolated (m.setDevice d { m.devices d with
        arrfruit := (m.devices d).arrfruit.eraseIdx row }) := by
      refine h.setDevice ⟨(h.devices d).session, ?_, (h.devices d).form⟩ (.refl _)
      intro hr row' hm
      exact (h.devices d).arrfruit hr row' (List.mem_of_mem_eraseIdx hm)
    exact ⟨hdevice.send ⟨_, h.currentUser hroot, howner⟩, .refl _⟩
  | input d i =>
    obtain ⟨vc, hf, hm⟩ := Option.bind_eq_some_iff.1 hs
    cases hm
    refine ⟨h.setForm d _ ?_, .refl _⟩
    intro hroot data hdata
    rw [SignPassdataVC.input_data] at hdata
    exact (h.devices d).form hroot vc data hf hdata
  | press d documentID =>
    obtain ⟨vc, hf⟩ := Option.isSome_iff_exists.1 hen.1.2
    exact h.press hen.1.1 hf hen.2 hs
  | pop d =>
    cases hs
    exact ⟨h.setDevice ⟨(h.devices d).session, (h.devices d).arrfruit, nofun⟩ (.refl _), .refl _⟩
  | served i =>
    obtain ⟨request, hi, hm⟩ := Option.map_eq_some_iff.1 hs
    cases hm
    have hown := h.requests request (List.mem_of_getElem? hi)
    have hown : request.Own { m with requests := m.requests.eraseIdx i } :=
      hown.extends (.refl _) fun _ _ _ ha => ha
    refine ⟨(h.without i).serve hown, ?_⟩
    rw [FruitApp.creator_serve]
    exact .refl _

theorem FruitApp.creator_step (hs : m.step e = some m') : m'.creator = m.creator ∨
    ∃ d documentID, e = .press d documentID ∧
      m'.creator = Function.update m.creator documentID (m.devices d).session.currentUser := by
  cases e with
  | served i =>
    obtain ⟨request, hi, hm⟩ := Option.map_eq_some_iff.1 hs
    rw [← hm, creator_serve]
    exact .inl rfl
  | press d documentID =>
    obtain ⟨vc, -, hm⟩ := Option.bind_eq_some_iff.1 hs
    cases hm
    dsimp only
    split
    · exact .inr ⟨d, documentID, rfl, rfl⟩
    · exact .inl rfl
  | viewWillAppear d | addbtnclick d | pop d =>
    cases hs
    exact .inl rfl
  | auth d e | swipeEdit d row | swipeDelete d row | input d i =>
    obtain ⟨_, -, hm⟩ := Option.bind_eq_some_iff.1 hs
    cases hm
    exact .inl rfl

theorem Isolated.changed (h : Isolated m) (hs : m.step e = some m')
    (hc : m'.documents.doc key ≠ m.documents.doc key) : ∃ i request uid, e = .served i ∧
      m.requests[i]? = some request ∧ request.user = some uid ∧ m.creator key = some uid := by
  rcases FruitApp.step_requests hs with ⟨i, request, he, hi, hm⟩ | ⟨hd, -⟩
  · have hown := h.requests request (List.mem_of_getElem? hi)
    rw [hm, FruitApp.documents_serve] at hc
    cases hu : request.upsert with
    | none =>
      rw [hu] at hc
      exact absurd rfl hc
    | some u =>
      obtain ⟨⟨uid, huser, hcreator⟩, -⟩ := hown.upsert hu
      have hkey : key = u.1 := by
        by_contra hne
        rw [hu] at hc
        exact hc (Collection.doc_upsert_of_ne m.documents hne)
      exact ⟨i, request, uid, he, hi, huser, hkey ▸ hcreator⟩
  · rw [hd] at hc
    exact absurd rfl hc

theorem FruitApp.created (hs : m.step e = some m') (hn : m.creator key = none)
    (hk : m'.creator key = some uid) :
    ∃ d, e = .press d key ∧ (m.devices d).session.currentUser = some uid := by
  rcases creator_step hs with hc | ⟨d, documentID, he, hc⟩
  · rw [hc, hn] at hk
    cases hk
  · by_cases hkey : key = documentID
    · subst hkey
      rw [hc, Function.update_self] at hk
      exact ⟨d, he, hk⟩
    · rw [hc, Function.update_of_ne hkey, hn] at hk
      cases hk

theorem Isolated.of_run (h : FruitApp.machine.Run (fun m e => m.InTurn e) m es m')
    (hm : Isolated m) : Isolated m' := by
  apply h.invariant (I := Isolated) _ hm
  intro m e m' hi hen hb hs
  exact (hi.step hen hb hs).1

theorem FruitApp.served_getDocuments {id : String} (hs : m.step (.served i) = some m')
    (hi : m.requests[i]? = some (.getDocuments d screen id)) :
    .documents d screen id m.documents ∈ m'.requests := by
  obtain ⟨request, hi', hm⟩ := Option.map_eq_some_iff.1 hs
  cases hi.symm.trans hi'
  rw [← hm]
  exact List.mem_append_right _ List.mem_cons_self

theorem Isolated.loaded {d : δ} (h : Isolated m) (hs : m.step (.served i) = some m')
    (hi : m.requests[i]? = some (.documents d (m.devices d).session.screen uid arrData))
    (hroot : (m.devices d).session.root = .homeNavi) :
    (m.devices d).session.currentUser = some uid ∧
      ShowsOwn m.creator uid (arrData.overlaid (m.pending d (some uid)))
        (m'.devices d).arrfruit := by
  have hown := h.requests _ (List.mem_of_getElem? hi)
  have huser : (m.devices d).session.currentUser = some uid := by
    rw [hown.1.2 hroot rfl]
    exact h.currentUser hroot
  refine ⟨huser, ?_⟩
  rw [FruitApp.arrfruit_arrived hs hi hroot, huser]
  exact showsOwn_getfruit (h.overlaid hown.2 d _) uid

/-- Fruits are isolated in every run. Each document bears the uid of the user who was signed in when
its id was made up, which no step changes. A document changes by requests of its user only. A home
screen shows documents of its user only; and an answer that arrives puts there, once each, exactly
those that the server evaluated the query on, but for the device's own writes: the ones carried out
since, and the ones that are still on their way. -/
theorem fruit_isolation
    (h : FruitApp.machine.Run (fun m e => m.InTurn e) (FruitApp.start : FruitApp δ) es m) :
    (∀ key d, m.documents.doc key = some d →
      ∃ uid, m.creator key = some uid ∧ d "created_by" = some (.string uid)) ∧
    (∀ d, (m.devices d).session.root = .homeNavi →
      ∃ uid, (m.devices d).session.currentUser = some uid ∧
        (∀ row ∈ (m.devices d).arrfruit, m.creator row.key = some uid) ∧
        ∀ id, .getDocuments d (m.devices d).session.screen id ∈ m.requests → id = uid) ∧
    (∀ d screen id arrData, .documents d screen id arrData ∈ m.requests →
      FruitApp.Read (fun m e => m.InTurn e) es m d screen id arrData) ∧
    ∀ e m', m.Enabled e → m.InTurn e → m.step e = some m' →
      (∀ key uid, m.creator key = some uid → m'.creator key = some uid) ∧
      (∀ key uid, m.creator key = none → m'.creator key = some uid →
        ∃ d, e = .press d key ∧ (m.devices d).session.currentUser = some uid) ∧
      m'.documents = m.documents.overlaid (m.served e) ∧
      (∀ key, m'.documents.doc key ≠ m.documents.doc key → ∃ i request uid, e = .served i ∧
        m.requests[i]? = some request ∧ request.user = some uid ∧ m.creator key = some uid) ∧
      (∀ request, m.Sends e request → request ∈ m'.requests) ∧
      (∀ i d screen id, e = .served i → m.requests[i]? = some (.getDocuments d screen id) →
        .documents d screen id m.documents ∈ m'.requests) ∧
      ∀ i d uid arrData, e = .served i →
        m.requests[i]? = some (.documents d (m.devices d).session.screen uid arrData) →
        (m.devices d).session.root = .homeNavi →
        (m.devices d).session.currentUser = some uid ∧
          ShowsOwn m.creator uid (arrData.overlaid (m.pending d (some uid)))
            (m'.devices d).arrfruit := by
  have hi : Isolated m := Isolated.of_run h isolated_start
  constructor
  · intro key d hd
    obtain ⟨uid, hc, hdoc⟩ := hi.documents key d hd
    exact ⟨uid, hc, hdoc.created_by⟩
  constructor
  · intro d hroot
    refine ⟨_, hi.currentUser hroot, (hi.devices d).arrfruit hroot, ?_⟩
    intro id hm
    exact (hi.requests _ hm).2 hroot rfl
  constructor
  · exact (FruitApp.reads_of_run h).answers
  · intro e m' hen hb hs
    obtain ⟨-, hext⟩ := hi.step hen hb hs
    refine ⟨hext, fun key uid => FruitApp.created hs, FruitApp.documents_step hs,
      fun key => hi.changed hs, fun request => FruitApp.sends_step hs, ?_, ?_⟩
    · intro i d screen id he hreq
      subst he
      exact FruitApp.served_getDocuments hs hreq
    · intro i d uid arrData he hreq hroot
      subst he
      exact hi.loaded hs hreq hroot

end

/-- Two users on two devices; one deletes and adds a fruit while an answer is on its way. -/
def twoUsers : List (FruitEvent Bool) := [
  .auth false .launch, .auth false (.clickonsignup "Ann" "a@b" "secret"),
  .auth false (.completed 0 ⟨none, "u1", "Ann", "a@b"⟩),
  .auth false (.completed 0 ⟨none, "", "", ""⟩), .addbtnclick false,
  .input false (.editText "apple"), .press false "f1", .served 0, .pop false,
  .viewWillAppear false, .served 0, .served 0,
  .auth true .launch, .auth true (.clickonsignup "Bob" "b@c" "secret"),
  .auth true (.completed 0 ⟨none, "u2", "Bob", "b@c"⟩),
  .auth true (.completed 0 ⟨none, "", "", ""⟩), .addbtnclick true, .press true "f2", .served 0,
  .viewWillAppear false, .served 0, .swipeDelete false 0, .addbtnclick false,
  .input false (.editText "pear"), .press false "f3", .pop false]

def FruitRequest.isAnswer (d : Bool) (screen : Nat) : FruitRequest Bool → Bool
  | .documents d' screen' _ _ => d' == d && screen' == screen
  | .setData _ _ _ | .delete _ _ _ | .getDocuments _ _ _ => false

theorem fruit_isolation_two_users :
    ∃ m m', FruitApp.machine.Run (fun m e => m.InTurn e) FruitApp.start twoUsers m ∧
      m.step (.served 0) = some m' ∧ m.documents.ids = ["f1", "f2"] ∧
      (m'.devices false).arrfruit.map Fruits.key = ["f3"] ∧
      ∃ uid documents, (m.devices false).session.currentUser = some uid ∧
        ShowsOwn m.creator uid documents (m'.devices false).arrfruit := by
  obtain ⟨m, hr, hp⟩ := FruitApp.machine.run_of_exec (fun m e => m.InTurn e) FruitApp.start twoUsers
    (fun m => m.documents.ids == ["f1", "f2"] && (m.devices false).session.root == .homeNavi &&
      (m.step (.served 0)).any (fun m' => (m'.devices false).arrfruit.map Fruits.key == ["f3"]) &&
      m.requests[0]?.any (FruitRequest.isAnswer false (m.devices false).session.screen))
    (by decide +kernel)
  simp only [Bool.and_eq_true, beq_iff_eq] at hp
  obtain ⟨⟨⟨hids, hroot⟩, hstep⟩, hanswer⟩ := hp
  obtain ⟨m', hs, hkeys⟩ := (Option.any_eq_true _ _).1 hstep
  obtain ⟨request, hi, hrequest⟩ := (Option.any_eq_true _ _).1 hanswer
  have hlt : 0 < m.requests.length := (List.getElem?_eq_some_iff.1 hi).1
  cases request with
  | documents d screen uid arrData =>
    simp only [FruitRequest.isAnswer, Bool.and_eq_true, beq_iff_eq] at hrequest
    rw [hrequest.1, hrequest.2] at hi
    obtain ⟨-, -, -, hsteps⟩ := fruit_isolation hr
    obtain ⟨-, -, -, -, -, -, hloaded⟩ := hsteps (.served 0) m' hlt trivial hs
    obtain ⟨huser, hshows⟩ := hloaded 0 false uid arrData rfl hi hroot
    exact ⟨m, m', hr, hs, hids, beq_iff_eq.1 hkeys, uid, _, huser, hshows⟩
  | _ => cases hrequest

end TrainingDemos.FirebasePractise
