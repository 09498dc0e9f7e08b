import TrainingDemos.ApiDemo.ViewController

namespace TrainingDemos.ApiDemo
set_option autoImplicit true

variable {F : Foundation} {R R' : MemberReading Double} {json : JSON}

structure Reads (R : MemberReading Double) (json : JSON) (row : LocationDetail) : Prop where
  shape : ∃ members results currentVal, json = .object members ∧
    R.member members "location" = some (.object results) ∧
    R.member members "current" = some (.object currentVal) ∧
    R.member results "name" = some (.string row.name) ∧
    R.member results "country" = some (.string row.country) ∧
    R.member results "region" = some (.string row.region) ∧
    R.member currentVal "temp_c" = some (.number row.temp)

theorem decodeMember_object {decode : JSON → Option α}
    (h : decodeMember R json key decode = some a) : ∃ members value, json = .object members ∧
      R.member members key = some value ∧ decode value = some a := by
  obtain ⟨members, hm, h⟩ := Option.bind_eq_some_iff.1 h
  obtain ⟨value, hv, hd⟩ := Option.bind_eq_some_iff.1 h
  cases json with
  | object _ =>
    cases hm
    exact ⟨members, value, rfl, hv, hd⟩
  | _ => cases hm

theorem eq_string (h : json.asString = some s) : json = .string s := by
  cases json with
  | string _ =>
    cases h
    rfl
  | _ => cases h

theorem eq_number (h : json.asNumber = some d) : json = .number d := by
  cases json with
  | number _ =>
    cases h
    rfl
  | _ => cases h

def RData.row (r : RData) : LocationDetail :=
  ⟨r.location.name, r.location.country, r.current.temp_c, r.location.region⟩

theorem decodeMember_string (h : decodeMember R (.object members) key JsonTree.asString = some s) :
    R.member members key = some (.string s) := by
  obtain ⟨_, value, he, hv, hs⟩ := decodeMember_object h
  cases he
  rw [hv, eq_string hs]

theorem decodeMember_number (h : decodeMember R (.object members) key JsonTree.asNumber = some d) :
    R.member members key = some (.number d) := by
  obtain ⟨_, value, he, hv, hd⟩ := decodeMember_object h
  cases he
  rw [hv, eq_number hd]

theorem reads_of_decode (h : RData.decode R json = some r) : Reads R json r.row := by
  simp only [RData.decode, Option.bind_eq_bind, Option.bind_eq_some_iff] at h
  obtain ⟨location, hl, current, hc, hr⟩ := h
  cases hr
  obtain ⟨members, locationJson, hjson, hlocation, hl⟩ := decodeMember_object hl
  obtain ⟨members', currentJson, hjson', hcurrent, hc⟩ := decodeMember_object hc
  rw [hjson] at hjson'
  cases hjson'
  simp only [Location.decode, Option.bind_eq_bind, Option.bind_eq_some_iff] at hl
  obtain ⟨name, hname, country, hcountry, region, hregion, lat, -, lon, -, hl⟩ := hl
  cases hl
  obtain ⟨results, -, hresults, -⟩ := decodeMember_object hname
  simp only [Current.decode, Option.bind_eq_bind, Option.bind_eq_some_iff] at hc
  obtain ⟨temp_c, htemp, condition, -, hc⟩ := hc
  cases hc
  obtain ⟨currentVal, -, hcurrentVal, -⟩ := decodeMember_object htemp
  subst hresults
  subst hcurrentVal
  exact ⟨members, results, currentVal, hjson, hlocation, hcurrent, decodeMember_string hname,
    decodeMember_string hcountry, decodeMember_string hregion, decodeMember_number htemp⟩

theorem Reads.congr (h : Reads R json row) (hdup : json.DuplicateFree) (R' : MemberReading Double) :
    Reads R' json row := by
  obtain ⟨members, results, currentVal, hjson, hl, hc, hname, hcountry, hregion, htemp⟩ := h.shape
  subst hjson
  have hdl := MemberReading.duplicateFree_member hdup hl
  have hdc := MemberReading.duplicateFree_member hdup hc
  obtain ⟨hm, -⟩ := JsonTree.duplicateFree_object hdup
  obtain ⟨hr, -⟩ := JsonTree.duplicateFree_object hdl
  obtain ⟨hv, -⟩ := JsonTree.duplicateFree_object hdc
  refine ⟨members, results, currentVal, rfl, ?_, ?_, ?_, ?_, ?_, ?_⟩
  · rw [← R.member_congr R' hm, hl]
  · rw [← R.member_congr R' hm, hc]
  · rw [← R.member_congr R' hr, hname]
  · rw [← R.member_congr R' hr, hcountry]
  · rw [← R.member_congr R' hr, hregion]
  · rw [← R.member_congr R' hv, htemp]

theorem decoder_appends {response : Response} (hdata : response.data = some body)
    (h : F.decodeRData body = some r) (arrDetail : List LocationDetail) :
    callAPIThroughURLSession F arrDetail response = some (arrDetail ++ [r.row]) := by
  simp only [callAPIThroughURLSession, hdata, h]
  rfl

theorem serialization_appends {response : Response} (hdata : response.data = some body)
    (hbody : F.jsonObject body = some json) (h : Reads F.serialization json row)
    (arrDetail : List LocationDetail) :
    callAPIThorughURLSessionWithJSONObject F arrDetail response = some (arrDetail ++ [row]) := by
  obtain ⟨members, results, currentVal, hjson, hl, hc, hname, hcountry, hregion, htemp⟩ := h.shape
  subst hjson
  simp only [callAPIThorughURLSessionWithJSONObject, hdata, hbody, JsonTree.asObject, hl, hc, hname,
    hcountry, hregion, htemp, Option.bind_eq_bind, Option.bind_some, JsonTree.asString, asDouble,
    Option.getD_some]

theorem swiftyJSON_appends {response : Response} (hvalue : afResult response = some body)
    (hbody : F.jsonObject body = some json) (h : Reads F.serialization json row)
    (arrDetail : List LocationDetail) :
    getDataAlamofire F arrDetail response = some (arrDetail ++ [row]) := by
  obtain ⟨members, results, currentVal, hjson, hl, hc, hname, hcountry, hregion, htemp⟩ := h.shape
  subst hjson
  simp only [getDataAlamofire, hvalue, hbody, SwiftyJSON.subscript, hl, hc, hname, hcountry,
    hregion, htemp, Option.getD_some, SwiftyJSON.stringValue, SwiftyJSON.doubleValue]

theorem afResult_success (hcode : 200 ≤ code ∧ code < 300) (hbody : body ≠ []) :
    afResult ⟨some body, some code, false⟩ = some body := by
  have hv : validated ⟨some body, some code, false⟩ = true := by
    rw [validated, Bool.not_false, Bool.true_and, Option.all_some]
    exact decide_eq_true hcode
  have hne : (!body.isEmpty) = true := by
    rw [Bool.not_eq_true', List.isEmpty_eq_false_iff]
    exact hbody
  rw [afResult, if_pos hv, serialized, Option.filter_some, if_pos hne]

/-- For a duplicate-free body of success that decodes, the clients append one equal row each. -/
theorem clients_agree (F : Foundation) (hcode : 200 ≤ code ∧ code < 300)
    (hjson : F.parse body = some json) (hdup : json.DuplicateFree)
    (hdecode : F.decodeRData body = some r) : ∃ row, ∀ arrDetail,
    callAPIThroughURLSession F arrDetail ⟨some body, some code, false⟩ =
      some (arrDetail ++ [row]) ∧
    callAPIThorughURLSessionWithJSONObject F arrDetail ⟨some body, some code, false⟩ =
      some (arrDetail ++ [row]) ∧
    getDataAlamofire F arrDetail ⟨some body, some code, false⟩ = some (arrDetail ++ [row]) := by
  have hreads : Reads F.decoder json r.row := by
    rw [Foundation.decodeRData, hjson, Option.bind_some] at hdecode
    exact reads_of_decode hdecode
  have hreads' := hreads.congr hdup F.serialization
  have hbody : F.jsonObject body = some json := by
    obtain ⟨members, _, _, he, -⟩ := hreads.shape
    rw [Foundation.jsonObject, hjson, he]
    rfl
  have hne : body ≠ [] := by
    intro he
    rw [he, F.parse_empty] at hjson
    cases hjson
  refine ⟨r.row, fun arrDetail => ⟨decoder_appends rfl hdecode arrDetail,
    serialization_appends rfl hbody hreads' arrDetail, ?_⟩⟩
  exact swiftyJSON_appends (afResult_success hcode hne) hbody hreads' arrDetail

def Foundation.reading (text : Bytes) (json : JSON) (h : text ≠ []) : Foundation where
  parse data := if data = text then some json else none
  parse_empty := if_neg fun he => h he.symm
  decoder := .last
  serialization := .first
  stringValue d := IntegerText.print d.value.num
  decimal _ := none

theorem Foundation.parse_reading (text : Bytes) (json : JSON) (h : text ≠ []) :
    (Foundation.reading text json h).parse text = some json :=
  if_pos rfl

def delhiBody : Bytes :=
  ("\x7b\"location\":\x7b\"name\":\"Delhi\",\"region\":\"\",\"country\":\"India\",\"lat\":28," ++
    "\"lon\":77,\"tz_id\":null\x7d,\"current\":\x7b\"is_day\":true,\"temp_c\":31," ++
    "\"condition\":\x7b\"code\":1030,\"text\":\"Mist\"\x7d\x7d\x7d").toUTF8.toList

def delhi : JSON := .object [
  ("location", .object [("name", .string "Delhi"), ("region", .string ""),
    ("country", .string "India"), ("lat", .number (.ofInt 28 (by decide))),
    ("lon", .number (.ofInt 77 (by decide))), ("tz_id", .null)]),
  ("current", .object [("is_day", .bool true), ("temp_c", .number (.ofInt 31 (by decide))),
    ("condition", .object [("code", .number (.ofInt 1030 (by decide))),
      ("text", .string "Mist")])])]

theorem delhiBody_ne_nil : delhiBody ≠ [] := by decide +kernel

theorem delhi_duplicateFree : delhi.DuplicateFree := by
  refine .object (by decide) ?_
  simp only [List.forall_mem_cons, List.not_mem_nil, false_imp_iff, implies_true, and_true]
  refine ⟨.object (by decide) ?_, .object (by decide) ?_⟩
  · simp only [List.forall_mem_cons, List.not_mem_nil, false_imp_iff, implies_true, and_true]
    exact ⟨.string, .string, .string, .number, .number, .null⟩
  · simp only [List.forall_mem_cons, List.not_mem_nil, false_imp_iff, implies_true, and_true]
    refine ⟨.bool, .number, .object (by decide) ?_⟩
    simp only [List.forall_mem_cons, List.not_mem_nil, false_imp_iff, implies_true, and_true]
    exact ⟨.number, .string⟩

theorem clients_agree_delhi : ∃ F row, ∀ arrDetail,
    callAPIThroughURLSession F arrDetail ⟨some delhiBody, some 200, false⟩ =
      some (arrDetail ++ [row]) ∧
    callAPIThorughURLSessionWithJSONObject F arrDetail ⟨some delhiBody, some 200, false⟩ =
      some (arrDetail ++ [row]) ∧
    getDataAlamofire F arrDetail ⟨some delhiBody, some 200, false⟩ =
      some (arrDetail ++ [row]) := by
  have hparse := Foundation.parse_reading delhiBody delhi delhiBody_ne_nil
  have hdecode : (Foundation.reading delhiBody delhi delhiBody_ne_nil).decodeRData delhiBody =
      some ⟨⟨"Delhi", "India", "", .ofInt 28 (by decide), .ofInt 77 (by decide)⟩,
        ⟨.ofInt 31 (by decide), "Mist", 1030⟩⟩ := by
    rw [Foundation.decodeRData, hparse]
    change RData.decode .last delhi = _
    decide +kernel
  exact ⟨_, clients_agree _ ⟨by decide, by decide⟩ hparse delhi_duplicateFree hdecode⟩

end TrainingDemos.ApiDemo
