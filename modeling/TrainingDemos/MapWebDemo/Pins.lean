import TrainingDemos.Loops
import TrainingDemos.MapWebDemo.MapVC
import TrainingDemos.Transitions

namespace TrainingDemos.MapWebDemo
set_option autoImplicit true

/-- An `MKPointAnnotation`. -/
structure MapPin (κ : Type) where
  title : String
  coordinate : κ
  deriving DecidableEq

/-- A request to a geocoder whose completion handler has not been called yet. -/
inductive Geocoding (κ : Type) where
  | reverseGeocodeLocation (location : κ)
  | geocodeAddressString (address : String)
  deriving DecidableEq

def Geocoding.address : Geocoding κ → Option String
  | .reverseGeocodeLocation _ => none
  | .geocodeAddressString address => some address

structure MapVC (κ : Type) where
  currentLocation : Option κ
  updatingLocation : Bool
  annotations : List (MapPin κ)
  inFlight : List (Geocoding κ)
  deriving DecidableEq

namespace MapVC
variable {κ : Type}

def viewDidLoad : MapVC κ := ⟨none, true, [], []⟩

def addPinOnMap (location : κ) (s : MapVC κ) : MapVC κ :=
  { s with annotations := s.annotations ++ [⟨"current location", location⟩] }

def geocode (request : Geocoding κ) (s : MapVC κ) : MapVC κ :=
  { s with inFlight := s.inFlight ++ [request] }

def didUpdateLocations (locations : List κ) (s : MapVC κ) : Option (MapVC κ) := do
  let location ← locations.getLast?
  let s := { s with currentLocation := some location, updatingLocation := false }
  some ((s.addPinOnMap location).geocode (.reverseGeocodeLocation location))

/-- The completion of `reverseGeocodeLocation` unwraps the placemarks unless there is an error. -/
def reverseGeocoded (placemarks : Option (List CLPlacemark)) (error : Option String)
    (s : MapVC κ) : Option (MapVC κ) :=
  match error with
  | some _ => some s
  | none => do
    let placemarks ← placemarks
    match displayLocationInfo placemarks.head? with
    | some address => some (s.geocode (.geocodeAddressString address))
    | none => some s

def firstLocation (placemarks : Option (List (Option κ))) : Option κ :=
  placemarks.bind fun placemarks => placemarks.head?.join

/-- The completion of `geocodeAddressString`, which looks at no error. -/
def geocoded (placemarks : Option (List (Option κ))) (s : MapVC κ) : MapVC κ :=
  match firstLocation placemarks with
  | some location => s.addPinOnMap location
  | none => s

inductive Event (κ : Type) where
  | didUpdateLocations (locations : List κ)
  | reverseGeocoded (i : Nat) (placemarks : Option (List CLPlacemark)) (error : Option String)
  | geocoded (i : Nat) (placemarks : Option (List (Option κ)))

/-- The location manager reports one location at least, and may do so after it was stopped. -/
def Enabled (s : MapVC κ) : Event κ → Prop
  | .didUpdateLocations locations => locations ≠ []
  | .reverseGeocoded i _ _ => s.inFlight[i]?.any (fun request => request.address.isNone) = true
  | .geocoded i _ => s.inFlight[i]?.any (fun request => request.address.isSome) = true

instance [DecidableEq κ] (s : MapVC κ) : (e : Event κ) → Decidable (s.Enabled e)
  | .didUpdateLocations _ => inferInstanceAs (Decidable (_ ≠ _))
  | .reverseGeocoded _ _ _ | .geocoded _ _ => inferInstanceAs (Decidable (_ = _))

def step (s : MapVC κ) : Event κ → Option (MapVC κ)
  | .didUpdateLocations locations => s.didUpdateLocations locations
  | .reverseGeocoded i placemarks error =>
    { s with inFlight := s.inFlight.eraseIdx i }.reverseGeocoded placemarks error
  | .geocoded i placemarks =>
    some ({ s with inFlight := s.inFlight.eraseIdx i }.geocoded placemarks)

def Event.isUpdate : Event κ → Bool
  | .didUpdateLocations _ => true
  | _ => false

def Event.isGeocoded : Event κ → Bool
  | .geocoded _ _ => true
  | _ => false

def pins (locations : Option κ) : List (MapPin κ) :=
  locations.toList.map fun location => ⟨"current location", location⟩

def Event.located : Event κ → Option κ
  | .didUpdateLocations locations => locations.getLast?
  | _ => none

def Event.pins : Event κ → List (MapPin κ)
  | .didUpdateLocations locations => MapVC.pins locations.getLast?
  | .reverseGeocoded _ _ _ => []
  | .geocoded _ placemarks => MapVC.pins (firstLocation placemarks)

/-- Whatever address is geocoded, it is the same one. -/
def OneAddress (s : MapVC κ) : Prop :=
  ∀ address, .geocodeAddressString address ∈ s.inFlight →
    address = "1 Infinite Loop, Cupertino, CA 95014"

end MapVC

def mapScreen (κ : Type) : Machine (MapVC κ) (MapVC.Event κ) where
  enabled := MapVC.Enabled
  step := MapVC.step

instance [DecidableEq κ] (s : MapVC κ) (e : MapVC.Event κ) :
    Decidable ((mapScreen κ).enabled s e) :=
  inferInstanceAs (Decidable (s.Enabled e))

namespace MapVC
variable {κ : Type} {s t : MapVC κ} {e : Event κ}

theorem reverseGeocoded_cases (placemarks : Option (List CLPlacemark)) (error : Option String)
    (s : MapVC κ) :
    s.reverseGeocoded placemarks error = some s ∨
    s.reverseGeocoded placemarks error =
      some (s.geocode (.geocodeAddressString "1 Infinite Loop, Cupertino, CA 95014")) ∨
    s.reverseGeocoded placemarks error = none ∧ placemarks = none ∧ error = none := by
  cases error with
  | some error => exact .inl rfl
  | none =>
    cases placemarks with
    | none => exact .inr (.inr ⟨rfl, rfl, rfl⟩)
    | some placemarks =>
      cases placemarks with
      | nil => exact .inl rfl
      | cons placemark placemarks => exact .inr (.inl rfl)

theorem OneAddress.eraseIdx (hs : s.OneAddress) (i : Nat) :
    OneAddress { s with inFlight := s.inFlight.eraseIdx i } :=
  fun address hmem => hs address (List.mem_of_mem_eraseIdx hmem)

theorem OneAddress.geocode (hs : s.OneAddress) (request : Geocoding κ)
    (hr : ∀ address, request = .geocodeAddressString address →
      address = "1 Infinite Loop, Cupertino, CA 95014") : (s.geocode request).OneAddress := by
  intro address hmem
  obtain hold | hnew := List.mem_append.1 hmem
  · exact hs address hold
  · exact hr address (List.mem_singleton.1 hnew).symm

theorem didUpdateLocations_eq (h : locations.getLast? = some location) (s : MapVC κ) :
    s.didUpdateLocations locations = some (({ s with
      currentLocation := some location
      updatingLocation := false }.addPinOnMap location).geocode
        (.reverseGeocodeLocation location)) := by
  rw [didUpdateLocations, h]
  rfl

theorem length_eraseIdx_succ {requests : List (Geocoding κ)} (hi : requests[i]? = some request) :
    (requests.eraseIdx i).length + 1 = requests.length := by
  obtain ⟨hlt, -⟩ := List.getElem?_eq_some_iff.1 hi
  rw [List.length_eraseIdx_of_lt hlt]
  exact Nat.sub_add_cancel (Nat.lt_of_le_of_lt (Nat.zero_le i) hlt)

theorem OneAddress.step (hs : s.OneAddress) (hen : s.Enabled e) (hst : s.step e = some t) :
    t.OneAddress ∧ t.annotations = s.annotations ++ e.pins ∧
      t.inFlight.length + [e].countP Event.isGeocoded ≤
        s.inFlight.length + [e].countP Event.isUpdate ∧
      t.currentLocation = e.located.or s.currentLocation := by
  cases e with
  | didUpdateLocations locations =>
    have hlast := List.getLast?_eq_some_getLast hen
    generalize locations.getLast hen = location at hlast
    rw [MapVC.step, didUpdateLocations_eq hlast] at hst
    cases hst
    refine ⟨?_, ?_, ?_, ?_⟩
    · exact OneAddress.geocode (fun address hmem => hs address hmem) _ nofun
    · rw [Event.pins, hlast]
      rfl
    · change (s.inFlight ++ [_]).length ≤ s.inFlight.length + 1
      rw [List.length_append, List.length_singleton]
    · rw [Event.located, hlast]
      rfl
  | reverseGeocoded i placemarks error =>
    obtain ⟨request, hi, -⟩ := (Option.any_eq_true _ _).1 hen
    have hlen := length_eraseIdx_succ hi
    have hrest := hs.eraseIdx i
    obtain h | h | h := reverseGeocoded_cases placemarks error
      { s with inFlight := s.inFlight.eraseIdx i }
    · cases h.symm.trans hst
      refine ⟨hrest, (List.append_nil _).symm, ?_, rfl⟩
      exact Nat.le_of_lt (Nat.lt_of_succ_le (Nat.le_of_eq hlen))
    · cases h.symm.trans hst
      refine ⟨hrest.geocode _ ?_, (List.append_nil _).symm, ?_, rfl⟩
      · intro address heq
        exact (Geocoding.geocodeAddressString.inj heq).symm
      · change (s.inFlight.eraseIdx i ++ [_]).length ≤ s.inFlight.length
        rw [List.length_append, List.length_singleton, hlen]
    · cases h.1.symm.trans hst
  | geocoded i placemarks =>
    obtain ⟨request, hi, -⟩ := (Option.any_eq_true _ _).1 hen
    have hlen := length_eraseIdx_succ hi
    have hrest := hs.eraseIdx i
    cases hst
    rw [MapVC.geocoded, Event.pins]
    cases firstLocation placemarks with
    | none => exact ⟨hrest, (List.append_nil _).symm, Nat.le_of_eq hlen, rfl⟩
    | some location => exact ⟨hrest, rfl, Nat.le_of_eq hlen, rfl⟩

theorem currentLocation_run (hs : s.OneAddress) (h : (mapScreen κ).Run (fun _ _ => True) s es t) :
    t.currentLocation = (es.filterMap Event.located).getLast?.or s.currentLocation := by
  induction h with
  | nil s => rfl
  | @cons s e t es u hen hb hst hr ih =>
    obtain ⟨ht, -, -, hlocated⟩ := hs.step hen hst
    rw [ih ht, hlocated, List.filterMap_cons]
    cases e.located with
    | none => rfl
    | some location =>
      rw [List.getLast?_cons]
      cases (es.filterMap Event.located).getLast? with
      | none => rfl
      | some last => rfl

end MapVC

/-- In every run: the map has a pin where each update located the device and one at each answer's
first placemark, in the order of their events; one address is ever geocoded, and answered at most as
often as there are updates; and only a reverse geocoder that gives neither placemarks nor an error
makes the app trap. -/
theorem pins_of_run {κ : Type} {es : List (MapVC.Event κ)} {s : MapVC κ}
    (h : (mapScreen κ).Run (fun _ _ => True) .viewDidLoad es s) :
    s.annotations = es.flatMap MapVC.Event.pins ∧ s.OneAddress ∧
    s.inFlight.length + es.countP MapVC.Event.isGeocoded ≤ es.countP MapVC.Event.isUpdate ∧
    s.currentLocation = (es.filterMap MapVC.Event.located).getLast? ∧
    ∀ e, s.Enabled e → (s.step e = none ↔ ∃ i, e = .reverseGeocoded i none none) := by
  have hstart : MapVC.OneAddress (.viewDidLoad : MapVC κ) := nofun
  have hpins := h.accumulates (f := MapVC.annotations) (fun s e t hs hen _ hst => by
    obtain ⟨ht, hpins, -, -⟩ := hs.step hen hst
    exact ⟨ht, hpins⟩) hstart
  have hcharges := h.charges (f := fun s => s.inFlight.length) (fun s e t hs hen _ hst => by
    obtain ⟨ht, -, hlen, -⟩ := hs.step hen hst
    exact ⟨ht, hlen⟩) hstart
  refine ⟨hpins.2, hpins.1, ?_, ?_, fun e hen => ?_⟩
  · exact hcharges.2.trans (Nat.le_of_eq (Nat.zero_add _))
  · rw [MapVC.currentLocation_run hstart h]
    exact Option.or_none
  · cases e with
    | didUpdateLocations locations =>
      rw [MapVC.step, MapVC.didUpdateLocations_eq (List.getLast?_eq_some_getLast hen)]
      exact ⟨nofun, nofun⟩
    | reverseGeocoded i placemarks error =>
      rw [MapVC.step]
      apply Iff.intro
      · intro hnone
        obtain hsame | hasked | htrap := MapVC.reverseGeocoded_cases placemarks error
          { s with inFlight := s.inFlight.eraseIdx i }
        · cases hsame.symm.trans hnone
        · cases hasked.symm.trans hnone
        · exact ⟨i, by rw [htrap.2.1, htrap.2.2]⟩
      · intro hevent
        obtain ⟨j, hevent⟩ := hevent
        cases hevent
        rfl
    | geocoded i placemarks => exact ⟨nofun, nofun⟩

/-- Three updates. Of the two that have a placemark, one is followed by a geocoding that fails. -/
def located : List (MapVC.Event Nat) := [
  .didUpdateLocations [1, 2], .didUpdateLocations [3], .didUpdateLocations [4],
  .reverseGeocoded 1 (some [⟨none, none, none, some "Surat", none, none, none, some "India"⟩]) none,
  .reverseGeocoded 0 none (some "network"), .reverseGeocoded 0 (some [⟨none, none, none,
    some "Surat", none, none, none, some "India"⟩]) none, .geocoded 0 none,
  .geocoded 0 (some [some 37, none])]

theorem pins_of_run_located : ∃ s,
    (mapScreen Nat).Run (fun _ _ => True) .viewDidLoad located s ∧
    s.annotations.map MapPin.coordinate = [2, 3, 4, 37] ∧
    s.annotations = located.flatMap MapVC.Event.pins := by
  obtain ⟨s, hr, hs⟩ := Machine.run_of_exec (mapScreen Nat) (fun _ _ => True) .viewDidLoad
    located (fun s => decide (s.annotations.map MapPin.coordinate = [2, 3, 4, 37]))
    (by decide +kernel)
  exact ⟨s, hr, of_decide_eq_true hs, (pins_of_run hr).1⟩

end TrainingDemos.MapWebDemo
