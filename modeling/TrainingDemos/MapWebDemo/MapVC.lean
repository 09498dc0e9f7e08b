import TrainingDemos.JoinedTexts

namespace TrainingDemos.MapWebDemo
set_option autoImplicit true

structure CLPlacemark where
  thoroughfare : Option String
  subThoroughfare : Option String
  subLocality : Option String
  locality : Option String
  postalCode : Option String
  subAdministrativeArea : Option String
  administrativeArea : Option String
  country : Option String
  deriving DecidableEq

/-- `if let part = part { address += part + separator }`. -/
def appendPart (address : String) (part : Option String) (separator : String) : String :=
  match part with
  | some part => address ++ (part ++ separator)
  | none => address

def addressText (containsPlacemark : CLPlacemark) : String :=
  let address := ""
  let address := appendPart address containsPlacemark.thoroughfare ", "
  let address := appendPart address containsPlacemark.subThoroughfare ", "
  let address := appendPart address containsPlacemark.subLocality ", "
  let address := appendPart address containsPlacemark.locality ", "
  let address := appendPart address containsPlacemark.postalCode ", "
  let address := appendPart address containsPlacemark.subAdministrativeArea ", "
  let address := appendPart address containsPlacemark.administrativeArea ", "
  appendPart address containsPlacemark.country ""

/-- The text passed to `geocodeAddressString`: a local variable shadows the argument. -/
def getLatLongFromAddress (_address : String) : String :=
  let address := "1 Infinite Loop, Cupertino, CA 95014"
  address

def displayLocationInfo (placemark : Option CLPlacemark) : Option String := do
  let containsPlacemark ← placemark
  some (getLatLongFromAddress (addressText containsPlacemark))

namespace CLPlacemark

/-- The components before the country that are present. -/
def localParts (p : CLPlacemark) : List String :=
  [p.thoroughfare, p.subThoroughfare, p.subLocality, p.locality, p.postalCode,
    p.subAdministrativeArea, p.administrativeArea].reduceOption

def components (p : CLPlacemark) : List String := p.localParts ++ p.country.toList

/-- The address as it should read. -/
def joined (p : CLPlacemark) : String := ", ".intercalate p.components

end CLPlacemark

theorem foldl_appendPart (parts : List (Option String)) (address separator : String) :
    parts.foldl (fun address part => appendPart address part separator) address =
      parts.reduceOption.foldl (fun address part => address ++ (part ++ separator)) address := by
  induction parts generalizing address with
  | nil => rfl
  | cons part parts ih =>
    cases part with
    | none => exact ih address
    | some part => exact ih (address ++ (part ++ separator))

theorem addressText_eq (p : CLPlacemark) : addressText p =
    p.localParts.foldl (fun address part => address ++ (part ++ ", ")) "" ++ p.country.getD "" := by
  rw [CLPlacemark.localParts, ← foldl_appendPart]
  change appendPart _ p.country "" = _
  cases p.country with
  | none => exact String.append_empty.symm
  | some country =>
    rw [appendPart, String.append_empty]
    rfl

theorem addressText_joined_iff (p : CLPlacemark) :
    addressText p = p.joined ↔ p.country.isSome ∨ p.components = [] := by
  rw [addressText_eq, CLPlacemark.joined, CLPlacemark.components]
  cases p.country with
  | some country => exact ⟨fun _ => .inl rfl, fun _ => (intercalate_concat _ _ _).symm⟩
  | none =>
    rw [Option.toList_none, List.append_nil, Option.getD_none, String.append_empty]
    by_cases hparts : p.localParts = []
    · rw [hparts]
      exact ⟨fun _ => .inr rfl, fun _ => rfl⟩
    · rw [foldl_eq_intercalate_append hparts]
      constructor
      · intro h
        have hlen := congrArg String.length h
        rw [String.length_append] at hlen
        exact absurd hlen (Nat.ne_of_gt (Nat.lt_add_of_pos_right (by decide)))
      · intro h
        obtain h | h := h
        · cases h
        · exact absurd h hparts

/-- The components whose joined text is the one that is always geocoded. -/
def infiniteLoop : List (List String) := [
  ["1 Infinite Loop, Cupertino, CA 95014"], ["1 Infinite Loop", "Cupertino, CA 95014"],
  ["1 Infinite Loop", "Cupertino", "CA 95014"], ["1 Infinite Loop, Cupertino", "CA 95014"]]

theorem textSplits_infiniteLoop :
    textSplits ", " "1 Infinite Loop, Cupertino, CA 95014" = infiniteLoop := by
  decide +kernel

/-- The joined address is geocoded exactly for the components of one address. -/
theorem geocodes_joined_iff (p : CLPlacemark) :
    displayLocationInfo (some p) = some p.joined ↔ p.components ∈ infiniteLoop := by
  rw [← textSplits_infiniteLoop, mem_textSplits (by decide)]
  change some "1 Infinite Loop, Cupertino, CA 95014" = some p.joined ↔ _
  constructor
  · intro h
    have hjoined := Option.some.inj h
    refine ⟨fun hc => ?_, hjoined.symm⟩
    rw [CLPlacemark.joined, hc] at hjoined
    exact absurd hjoined (by decide)
  · intro h
    exact congrArg some h.2.symm

theorem surat_not_geocoded :
    let surat : CLPlacemark := ⟨none, none, none, some "Surat", none, none, some "GJ", none⟩
    surat.joined = "Surat, GJ" ∧ addressText surat = "Surat, GJ, " ∧
    addressText { surat with country := some "India" } = "Surat, GJ, India" ∧
    displayLocationInfo (some surat) = some "1 Infinite Loop, Cupertino, CA 95014" ∧
    displayLocationInfo (some surat) ≠ some surat.joined := by
  decide +kernel

end TrainingDemos.MapWebDemo
