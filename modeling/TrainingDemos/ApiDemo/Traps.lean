import TrainingDemos.ApiDemo.Agreement

namespace TrainingDemos.ApiDemo
set_option autoImplicit true

variable {F : Foundation} {arrDetail : List LocationDetail} {response : Response} {json : JSON}

def AppendsAtMostOne (arrDetail : List LocationDetail) (out : Option (List LocationDetail)) :
    Prop :=
  ∃ arrDetail', out = some arrDetail' ∧
    (arrDetail' = arrDetail ∨ ∃ row, arrDetail' = arrDetail ++ [row])

theorem AppendsAtMostOne.unchanged : AppendsAtMostOne arrDetail (some arrDetail) :=
  ⟨arrDetail, rfl, .inl rfl⟩

theorem AppendsAtMostOne.appended (row : LocationDetail) :
    AppendsAtMostOne arrDetail (some (arrDetail ++ [row])) :=
  ⟨arrDetail ++ [row], rfl, .inr ⟨row, rfl⟩⟩

theorem AppendsAtMostOne.ne_none (h : AppendsAtMostOne arrDetail out) : out ≠ none := by
  obtain ⟨arrDetail', hout, -⟩ := h
  rw [hout]
  exact Option.some_ne_none arrDetail'

/-- A value that no forced cast traps on. -/
def SafeJSON (R : MemberReading Double) (json : JSON) : Prop :=
  ∃ members, json = .object members ∧ ∀ results currentVal,
    R.member members "location" = some (.object results) →
    R.member members "current" = some (.object currentVal) →
    (∃ name, R.member results "name" = some (.string name)) ∧
    ∃ country, R.member results "country" = some (.string country)

def SafeResponse (F : Foundation) (response : Response) : Prop :=
  ∀ data, response.data = some data → ∀ json, F.jsonObject data = some json →
    SafeJSON F.serialization json

theorem eq_object (h : json.asObject = some members) : json = .object members := by
  cases json with
  | object _ =>
    cases h
    rfl
  | _ => cases h

theorem bind_asObject_eq_some_iff {value : Option JSON} :
    value.bind JsonTree.asObject = some members ↔ value = some (.object members) := by
  constructor
  · intro h
    obtain ⟨json, hv, hj⟩ := Option.bind_eq_some_iff.1 h
    rw [hv, eq_object hj]
  · intro h
    rw [h]
    rfl

theorem bind_asString_eq_some_iff {value : Option JSON} :
    value.bind JsonTree.asString = some s ↔ value = some (.string s) := by
  constructor
  · intro h
    obtain ⟨json, hv, hj⟩ := Option.bind_eq_some_iff.1 h
    rw [hv, eq_string hj]
  · intro h
    rw [h]
    rfl

theorem callAPIThroughURLSession_appends (F : Foundation) (arrDetail : List LocationDetail)
    (response : Response) :
    AppendsAtMostOne arrDetail (callAPIThroughURLSession F arrDetail response) := by
  rw [callAPIThroughURLSession]
  cases response.data with
  | none => exact .unchanged
  | some data =>
    dsimp only
    cases F.decodeRData data with
    | none => exact .unchanged
    | some json => exact .appended _

theorem getDataAlamofire_appends (F : Foundation) (arrDetail : List LocationDetail)
    (response : Response) :
    AppendsAtMostOne arrDetail (getDataAlamofire F arrDetail response) := by
  rw [getDataAlamofire]
  cases afResult response with
  | none => exact .unchanged
  | some value =>
    dsimp only
    cases F.jsonObject value with
    | none => exact .unchanged
    | some json => exact .appended _

theorem safeJSON_of_ne_none (hdata : response.data = some data)
    (hjson : F.jsonObject data = some json)
    (h : callAPIThorughURLSessionWithJSONObject F arrDetail response ≠ none) :
    SafeJSON F.serialization json := by
  obtain ⟨out, hout⟩ := Option.ne_none_iff_exists'.1 h
  simp only [callAPIThorughURLSessionWithJSONObject, hdata, hjson] at hout
  obtain ⟨members, hm, hout⟩ := Option.bind_eq_some_iff.1 hout
  refine ⟨members, eq_object hm, ?_⟩
  intro results currentVal hl hc
  simp only [bind_asObject_eq_some_iff.2 hl, bind_asObject_eq_some_iff.2 hc] at hout
  obtain ⟨name, hname, hout⟩ := Option.bind_eq_some_iff.1 hout
  obtain ⟨country, hcountry, -⟩ := Option.bind_eq_some_iff.1 hout
  exact ⟨⟨name, bind_asString_eq_some_iff.1 hname⟩, country, bind_asString_eq_some_iff.1 hcountry⟩

theorem appends_of_safeJSON (hdata : response.data = some data)
    (hjson : F.jsonObject data = some json) (h : SafeJSON F.serialization json) :
    AppendsAtMostOne arrDetail (callAPIThorughURLSessionWithJSONObject F arrDetail response) := by
  obtain ⟨members, hm, h⟩ := h
  subst hm
  simp only [callAPIThorughURLSessionWithJSONObject, hdata, hjson, JsonTree.asObject,
    Option.bind_eq_bind, Option.bind_some]
  cases hl : (F.serialization.member members "location").bind JsonTree.asObject with
  | none => exact .unchanged
  | some results =>
    cases hc : (F.serialization.member members "current").bind JsonTree.asObject with
    | none => exact .unchanged
    | some currentVal =>
      obtain ⟨⟨name, hname⟩, country, hcountry⟩ := h results currentVal
        (bind_asObject_eq_some_iff.1 hl) (bind_asObject_eq_some_iff.1 hc)
      dsimp only
      rw [bind_asString_eq_some_iff.2 hname, bind_asString_eq_some_iff.2 hcountry]
      exact .appended _

theorem jsonObject_appends_iff :
    AppendsAtMostOne arrDetail (callAPIThorughURLSessionWithJSONObject F arrDetail response) ↔
      SafeResponse F response := by
  constructor
  · intro h data hdata json hjson
    exact safeJSON_of_ne_none hdata hjson h.ne_none
  · intro h
    cases hdata : response.data with
    | none =>
      rw [callAPIThorughURLSessionWithJSONObject, hdata]
      exact .unchanged
    | some data =>
      cases hjson : F.jsonObject data with
      | none =>
        simp only [callAPIThorughURLSessionWithJSONObject, hdata, hjson]
        exact .unchanged
      | some json => exact appends_of_safeJSON hdata hjson (h data hdata json hjson)

/-- The clients end without a trap and append at most one row exactly when the response is safe. -/
theorem clients_append_iff (F : Foundation) (arrDetail : List LocationDetail)
    (response : Response) :
    (AppendsAtMostOne arrDetail (callAPIThroughURLSession F arrDetail response) ∧
      AppendsAtMostOne arrDetail (callAPIThorughURLSessionWithJSONObject F arrDetail response) ∧
      AppendsAtMostOne arrDetail (getDataAlamofire F arrDetail response)) ↔
    SafeResponse F response := by
  rw [jsonObject_appends_iff]
  constructor
  · intro h
    exact h.2.1
  · intro h
    exact ⟨callAPIThroughURLSession_appends F arrDetail response, h,
      getDataAlamofire_appends F arrDetail response⟩

theorem array_not_safe : ∃ F : Foundation, F.parse [91, 93] = some (.array []) ∧
    ¬ AppendsAtMostOne [] (callAPIThorughURLSessionWithJSONObject F []
      ⟨some [91, 93], some 200, false⟩) := by
  have hparse := Foundation.parse_reading [91, 93] (.array []) (List.cons_ne_nil _ _)
  refine ⟨_, hparse, ?_⟩
  intro h
  apply h.ne_none
  simp only [callAPIThorughURLSessionWithJSONObject, Foundation.jsonObject, hparse]
  rfl

end TrainingDemos.ApiDemo
