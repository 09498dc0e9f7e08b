import TrainingDemos.FirebasePractise.Fruits
import TrainingDemos.FirebasePractise.Session

namespace TrainingDemos.FirebasePractise
set_option autoImplicit true

structure Device where
  session : Session
  arrfruit : List Fruits
  form : Option SignPassdataVC

/-- `user` was signed in when a write was sent, `screen` is the home screen that waits. -/
inductive FruitRequest (δ : Type) where
  | setData (device : δ) (user : Option String) (merge : Merge)
  | delete (device : δ) (user : Option String) (key : String)
  | getDocuments (device : δ) (screen : Nat) (id : String)
  /-- An answer on its way back, with the documents that the query was evaluated on. -/
  | documents (device : δ) (screen : Nat) (id : String) (arrData : Collection)

namespace FruitRequest

def device : FruitRequest δ → δ
  | setData device _ _ | delete device _ _ | getDocuments device _ _ | documents device _ _ _ =>
    device

def user : FruitRequest δ → Option String
  | setData _ user _ | delete _ user _ => user
  | getDocuments _ _ _ | documents _ _ _ _ => none

def upsert : FruitRequest δ → Option Upsert
  | setData _ _ merge => some (merge.key, some merge.fields)
  | delete _ _ key => some (key, none)
  | getDocuments _ _ _ | documents _ _ _ _ => none

variable [DecidableEq δ]

def upsertOf (d : δ) (request : FruitRequest δ) : Option Upsert :=
  if request.device = d then request.upsert else none

/-- The write, if the device shows it to the user before the server has carried it out. -/
def laidOver (d : δ) (user : Option String) (request : FruitRequest δ) : Option Upsert :=
  if request.user = user then request.upsertOf d else none

/-- A device drops the versions of a document from before its own write. -/
def outdated (d : δ) (u : Upsert) : FruitRequest δ → FruitRequest δ
  | documents d' screen id arrData =>
    documents d' screen id (if d' = d then arrData.upsert u else arrData)
  | request => request

theorem upsert_of_upsertOf {request : FruitRequest δ} (h : request.upsertOf d = some u) :
    request.upsert = some u := by
  rw [upsertOf] at h
  split at h
  · exact h
  · cases h

theorem upsert_of_laidOver {request : FruitRequest δ} (h : laidOver d uid request = some u) :
    request.upsert = some u := by
  rw [laidOver] at h
  split at h
  · exact upsert_of_upsertOf h
  · cases h

theorem upsertOf_eq_none {request : FruitRequest δ} (h : request.upsert = none) (d : δ) :
    request.upsertOf d = none := by
  rw [upsertOf, h, ite_self]

end FruitRequest

/-- `creator` has for each id that `document()` made up the user who was signed in then. -/
structure FruitApp (δ : Type) where
  documents : Collection
  devices : δ → Device
  requests : List (FruitRequest δ)
  creator : String → Option String

inductive FruitEvent (δ : Type) where
  | auth (device : δ) (e : Session.Event)
  | viewWillAppear (device : δ)
  | addbtnclick (device : δ)
  | swipeEdit (device : δ) (row : Nat)
  | swipeDelete (device : δ) (row : Nat)
  | input (device : δ) (i : SignPassdataVC.Input)
  | press (device : δ) (documentID : String)
  /-- The form is left, by the user or when a write has succeeded. -/
  | pop (device : δ)
  | served (i : Nat)

/-- A new home screen starts with an empty list. -/
def Device.auth (device : Device) (e : Session.Event) : Option Device :=
  (device.session.step e).map fun session =>
    if session.screen = device.session.screen then { device with session := session }
    else ⟨session, [], none⟩

namespace FruitApp
variable [DecidableEq δ]

def start : FruitApp δ := ⟨.empty, fun _ => ⟨.installed, [], none⟩, [], fun _ => none⟩

def setDevice (m : FruitApp δ) (d : δ) (device : Device) : FruitApp δ :=
  { m with devices := Function.update m.devices d device }

def send (m : FruitApp δ) (request : FruitRequest δ) : FruitApp δ :=
  { m with requests := m.requests ++ [request] }

def OnList (m : FruitApp δ) (d : δ) : Prop :=
  (m.devices d).session.root = .homeNavi ∧ (m.devices d).form.isNone

def OnForm (m : FruitApp δ) (d : δ) : Prop :=
  (m.devices d).session.root = .homeNavi ∧ (m.devices d).form.isSome

/-- `document()` makes up ids that it has not made up before. -/
def Enabled (m : FruitApp δ) : FruitEvent δ → Prop
  | .auth d e => (m.devices d).session.Enabled e
  | .viewWillAppear d | .addbtnclick d => m.OnList d
  | .swipeEdit d row | .swipeDelete d row => m.OnList d ∧ row < (m.devices d).arrfruit.length
  | .input d _ | .pop d => m.OnForm d
  | .press d documentID => m.OnForm d ∧ m.creator documentID = none
  | .served i => i < m.requests.length

instance (m : FruitApp δ) : (e : FruitEvent δ) → Decidable (m.Enabled e)
  | .auth d e => inferInstanceAs (Decidable ((m.devices d).session.Enabled e))
  | .viewWillAppear _ | .addbtnclick _ => inferInstanceAs (Decidable (_ = _ ∧ _ = true))
  | .swipeEdit _ _ | .swipeDelete _ _ =>
    inferInstanceAs (Decidable ((_ = _ ∧ _ = true) ∧ _ < _))
  | .input _ _ | .pop _ => inferInstanceAs (Decidable (_ = _ ∧ _ = true))
  | .press _ _ => inferInstanceAs (Decidable ((_ = _ ∧ _ = true) ∧ _ = _))
  | .served _ => inferInstanceAs (Decidable (_ < _))

def pending (m : FruitApp δ) (d : δ) (user : Option String) : List Upsert :=
  m.requests.filterMap (FruitRequest.laidOver d user)

/-- A write is carried out, and its acknowledgement reaches the device at once. -/
def carryOut (m : FruitApp δ) (d : δ) (u : Upsert) : FruitApp δ :=
  { m with
    documents := m.documents.upsert u
    requests := m.requests.map (.outdated d u) }

/-- Every request succeeds. An answer for a home screen that is gone is not seen. -/
def serve (m : FruitApp δ) : FruitRequest δ → FruitApp δ
  | .setData d _ merge => m.carryOut d (merge.key, some merge.fields)
  | .delete d _ key => m.carryOut d (key, none)
  | .getDocuments d screen id => m.send (.documents d screen id m.documents)
  | .documents d screen id arrData =>
    let device := m.devices d
    if device.session.root = .homeNavi ∧ device.session.screen = screen then
      let documents := arrData.overlaid (m.pending d device.session.currentUser)
      m.setDevice d { device with arrfruit := getfruit id documents }
    else m

def step (m : FruitApp δ) : FruitEvent δ → Option (FruitApp δ)
  | .auth d e => do
    let device ← (m.devices d).auth e
    some (m.setDevice d device)
  | .viewWillAppear d =>
    let session := (m.devices d).session
    some (m.send (.getDocuments d session.screen session.userID))
  | .addbtnclick d =>
    let vc := (SignPassdataVC.instantiate none).viewWillAppear
    some (m.setDevice d { m.devices d with form := some vc })
  | .swipeEdit d row => do
    let data ← (m.devices d).arrfruit[row]?
    let vc := (SignPassdataVC.instantiate (some data)).viewWillAppear
    some (m.setDevice d { m.devices d with form := some vc })
  | .swipeDelete d row => do
    let device := m.devices d
    let data ← device.arrfruit[row]?
    let m := m.setDevice d { device with arrfruit := device.arrfruit.eraseIdx row }
    some (m.send (.delete d device.session.currentUser data.key))
  | .input d i => do
    let vc ← (m.devices d).form
    some (m.setDevice d { m.devices d with form := some (vc.input i) })
  | .press d documentID => do
    let session := (m.devices d).session
    let vc ← (m.devices d).form
    let m := m.send (.setData d session.currentUser (vc.addbtnclick documentID session.userID))
    some { m with
      creator :=
        if vc.data.isNone then Function.update m.creator documentID session.currentUser
        else m.creator }
  | .pop d => some (m.setDevice d { m.devices d with form := none })
  | .served i => m.requests[i]?.map { m with requests := m.requests.eraseIdx i }.serve

theorem devices_setDevice_self (m : FruitApp δ) (d : δ) (device : Device) :
    (m.setDevice d device).devices d = device :=
  Function.update_self _ _ _

theorem devices_setDevice_of_ne (m : FruitApp δ) (device : Device) (h : d' ≠ d) :
    (m.setDevice d device).devices d' = m.devices d' :=
  Function.update_of_ne h _ _

def machine : Machine (FruitApp δ) (FruitEvent δ) where
  enabled := Enabled
  step := step

instance (m : FruitApp δ) (e : FruitEvent δ) : Decidable (machine.enabled m e) :=
  inferInstanceAs (Decidable (m.Enabled e))

end FruitApp

end TrainingDemos.FirebasePractise
