import Mathlib.Data.List.Nodup
import Mathlib.Data.List.Sort
import TrainingDemos.Loops
import TrainingDemos.ScalarShift

namespace TrainingDemos.CountryPicker
set_option autoImplicit true

/-- The letters of a code become regional indicators, of which two show as a flag. -/
def countryFlag (countryCode : String) : String :=
  String.ofList (shiftScalars 127397 countryCode.toList)

def prefixCodes : List (String × String) := [
  ("AC", "248"), ("AF", "93"), ("AE", "971"), ("AL", "355"), ("AN", "599"), ("AS", "1"),
  ("AD", "376"), ("AO", "244"), ("AI", "1"), ("AG", "1"), ("AR", "54"), ("AM", "374"),
  ("AW", "297"), ("AU", "61"), ("AT", "43"), ("AZ", "994"), ("BS", "1"), ("BH", "973"),
  ("BF", "226"), ("BI", "257"), ("BD", "880"), ("BB", "1"), ("BY", "375"), ("BE", "32"),
  ("BZ", "501"), ("BJ", "229"), ("BM", "1"), ("BT", "975"), ("BA", "387"), ("BW", "267"),
  ("BR", "55"), ("BG", "359"), ("BO", "591"), ("BL", "590"), ("BN", "673"), ("CC", "61"),
  ("CD", "243"), ("CI", "225"), ("KH", "855"), ("CM", "237"), ("CA", "1"), ("CV", "238"),
  ("KY", "345"), ("CF", "236"), ("CH", "41"), ("CL", "56"), ("CN", "86"), ("CX", "61"),
  ("CO", "57"), ("KM", "269"), ("CG", "242"), ("CK", "682"), ("CR", "506"), ("CU", "53"),
  ("CY", "537"), ("CZ", "420"), ("DE", "49"), ("DK", "45"), ("DJ", "253"), ("DM", "1"),
  ("DO", "1"), ("DZ", "213"), ("EC", "593"), ("EG", "20"), ("ER", "291"), ("EE", "372"),
  ("ES", "34"), ("ET", "251"), ("FM", "691"), ("FK", "500"), ("FO", "298"), ("FJ", "679"),
  ("FI", "358"), ("FR", "33"), ("GB", "44"), ("GF", "594"), ("GA", "241"), ("GS", "500"),
  ("GM", "220"), ("GE", "995"), ("GH", "233"), ("GI", "350"), ("GQ", "240"), ("GR", "30"),
  ("GG", "44"), ("GL", "299"), ("GD", "1"), ("GP", "590"), ("GU", "1"), ("GT", "502"),
  ("GN", "224"), ("GW", "245"), ("GY", "595"), ("HT", "509"), ("HR", "385"), ("HN", "504"),
  ("HU", "36"), ("HK", "852"), ("IR", "98"), ("IM", "44"), ("IL", "972"), ("IO", "246"),
  ("IS", "354"), ("IN", "91"), ("ID", "62"), ("IQ", "964"), ("IE", "353"), ("IT", "39"),
  ("JM", "1"), ("JP", "81"), ("JO", "962"), ("JE", "44"), ("KP", "850"), ("KR", "82"),
  ("KZ", "77"), ("KE", "254"), ("KI", "686"), ("KW", "965"), ("KG", "996"), ("KN", "1"),
  ("LC", "1"), ("LV", "371"), ("LB", "961"), ("LK", "94"), ("LS", "266"), ("LR", "231"),
  ("LI", "423"), ("LT", "370"), ("LU", "352"), ("LA", "856"), ("LY", "218"), ("MO", "853"),
  ("MK", "389"), ("MG", "261"), ("MW", "265"), ("MY", "60"), ("MV", "960"), ("ML", "223"),
  ("MT", "356"), ("MH", "692"), ("MQ", "596"), ("MR", "222"), ("MU", "230"), ("MX", "52"),
  ("MC", "377"), ("MN", "976"), ("ME", "382"), ("MP", "1"), ("MS", "1"), ("MA", "212"),
  ("MM", "95"), ("MF", "590"), ("MD", "373"), ("MZ", "258"), ("NA", "264"), ("NR", "674"),
  ("NP", "977"), ("NL", "31"), ("NC", "687"), ("NZ", "64"), ("NI", "505"), ("NE", "227"),
  ("NG", "234"), ("NU", "683"), ("NF", "672"), ("NO", "47"), ("OM", "968"), ("PK", "92"),
  ("PM", "508"), ("PW", "680"), ("PF", "689"), ("PA", "507"), ("PG", "675"), ("PY", "595"),
  ("PE", "51"), ("PH", "63"), ("PL", "48"), ("PN", "872"), ("PT", "351"), ("PR", "1"),
  ("PS", "970"), ("QA", "974"), ("RO", "40"), ("RE", "262"), ("RS", "381"), ("RU", "7"),
  ("RW", "250"), ("SM", "378"), ("SA", "966"), ("SN", "221"), ("SC", "248"), ("SL", "232"),
  ("SG", "65"), ("SK", "421"), ("SI", "386"), ("SB", "677"), ("SH", "290"), ("SD", "249"),
  ("SR", "597"), ("SZ", "268"), ("SE", "46"), ("SV", "503"), ("ST", "239"), ("SO", "252"),
  ("SJ", "47"), ("SY", "963"), ("TW", "886"), ("TZ", "255"), ("TL", "670"), ("TD", "235"),
  ("TJ", "992"), ("TH", "66"), ("TG", "228"), ("TK", "690"), ("TO", "676"), ("TT", "1"),
  ("TN", "216"), ("TR", "90"), ("TM", "993"), ("TC", "1"), ("TV", "688"), ("UG", "256"),
  ("UA", "380"), ("US", "1"), ("UY", "598"), ("UZ", "998"), ("VA", "379"), ("VE", "58"),
  ("VN", "84"), ("VG", "1"), ("VI", "1"), ("VC", "1"), ("VU", "678"), ("WS", "685"), ("WF", "681"),
  ("YE", "967"), ("YT", "262"), ("ZA", "27"), ("ZM", "260"), ("ZW", "263"), ("AQ", "672"),
  ("AX", "358")]

/-- A code that the table lacks traps. -/
def GetCountryCallingCode (countryRegionCode : String) : Option String :=
  prefixCodes.lookup countryRegionCode

structure Row where
  flag : String
  name : String
  code : String
  callingCode : String
  deriving DecidableEq

/-- `localizedString` is that of the current locale. -/
def row (localizedString : String → Option String) (countryCode : String) : Option Row := do
  let callingCode ← GetCountryCallingCode countryCode
  some ⟨countryFlag countryCode, (localizedString countryCode).getD "", countryCode, callingCode⟩

def body (localizedString : String → Option String) (isoCountryCodes : List String) :
    Option (List Row) :=
  isoCountryCodes.mapM (row localizedString)

def Capital (c : Char) : Prop := 65 ≤ c.toNat ∧ c.toNat ≤ 90

instance (c : Char) : Decidable (Capital c) := inferInstanceAs (Decidable (_ ∧ _))

def RegionalIndicator (c : Char) : Prop := 127462 ≤ c.toNat ∧ c.toNat ≤ 127487

def codeNumber (code : String) : Nat := code.toList.foldl (fun n c => n * 26 + c.toNat) 0

theorem nodup_prefixCodes : (prefixCodes.map Prod.fst).Nodup := by
  have hchain : ((prefixCodes.map fun p => codeNumber p.1).insertionSort (· ≤ ·)).IsChain
      (· < ·) := by
    decide +kernel
  have hsorted := hchain.pairwise.imp Nat.ne_of_lt
  have hnumbers : ((prefixCodes.map Prod.fst).map codeNumber).Nodup := by
    rw [List.map_map]
    exact (List.perm_insertionSort _ _).nodup_iff.1 hsorted
  exact hnumbers.of_map

theorem capital_prefixCodes : ∀ p ∈ prefixCodes, p.1.length = 2 ∧ ∀ c ∈ p.1.toList, Capital c := by
  have hall : prefixCodes.all (fun p =>
      decide (p.1.length = 2) && p.1.toList.all fun c => decide (Capital c)) = true := by
    decide +kernel
  intro p hp
  have hcode := List.all_eq_true.1 hall p hp
  rw [Bool.and_eq_true, List.all_eq_true] at hcode
  exact ⟨of_decide_eq_true hcode.1, fun c hc => of_decide_eq_true (hcode.2 c hc)⟩

theorem Capital.shiftable (h : Capital c) : shiftable 127397 c = true := by
  obtain ⟨-, hc⟩ := h
  exact decide_eq_true (Or.inr ⟨by omega, by omega⟩)

theorem toList_countryFlag (code : String) :
    (countryFlag code).toList = shiftScalars 127397 code.toList :=
  String.toList_ofList

theorem toNat_shifted (h : shiftable 127397 c = true) :
    (Char.ofNat (127397 + c.toNat)).toNat = 127397 + c.toNat :=
  toNat_ofNat_of_valid (of_decide_eq_true h)

theorem capital_iff (code : String) : (∀ c ∈ code.toList, Capital c) ↔
    (countryFlag code).length = code.length ∧
      ∀ c ∈ (countryFlag code).toList, RegionalIndicator c := by
  rw [← String.length_toList, ← String.length_toList, toList_countryFlag]
  apply Iff.intro
  · intro h
    rw [shift_eq_map fun c hc => (h c hc).shiftable, List.length_map]
    refine ⟨rfl, fun d hd => ?_⟩
    obtain ⟨c, hc, rfl⟩ := List.mem_map.1 hd
    obtain ⟨hA, hZ⟩ := h c hc
    rw [RegionalIndicator, toNat_shifted (h c hc).shiftable]
    omega
  · intro h c hc
    obtain ⟨hlen, hregional⟩ := h
    have hkept := shiftable_of_length hlen
    rw [shift_eq_map hkept] at hregional
    have hflag := hregional _ (List.mem_map_of_mem hc)
    rw [RegionalIndicator, toNat_shifted (hkept c hc)] at hflag
    rw [Capital]
    omega

theorem countryFlag_eq_iff {a b : String} : countryFlag a = countryFlag b ↔
    a.toList.filter (shiftable 127397) = b.toList.filter (shiftable 127397) := by
  rw [← shift_eq_shift_iff, countryFlag, countryFlag, String.ofList_inj]

theorem countryFlag_inj {a b : String} (ha : ∀ c ∈ a.toList, Capital c)
    (hb : ∀ c ∈ b.toList, Capital c) : countryFlag a = countryFlag b ↔ a = b := by
  rw [countryFlag_eq_iff, List.filter_eq_self.2 fun c hc => (ha c hc).shiftable,
    List.filter_eq_self.2 fun c hc => (hb c hc).shiftable, String.toList_inj]

theorem GetCountryCallingCode_eq_some :
    GetCountryCallingCode code = some callingCode ↔ (code, callingCode) ∈ prefixCodes := by
  rw [GetCountryCallingCode, List.lookup_eq_some_iff]
  apply Iff.intro
  · intro h
    obtain ⟨l, r, heq, -⟩ := h
    rw [heq]
    exact List.mem_append_right _ List.mem_cons_self
  · intro h
    obtain ⟨l, r, heq⟩ := List.append_of_mem h
    refine ⟨l, r, heq, fun p hp => bne_iff_ne.2 fun hkey => ?_⟩
    -- no code is in the table twice
    have hnodup := nodup_prefixCodes
    rw [heq, List.map_append, List.nodup_append] at hnodup
    exact hnodup.2.2 p.1 (List.mem_map_of_mem hp) code List.mem_cons_self hkey.symm

theorem row_eq_some {localizedString : String → Option String} :
    row localizedString code = some r ↔ (code, r.callingCode) ∈ prefixCodes ∧
      r = ⟨countryFlag code, (localizedString code).getD "", code, r.callingCode⟩ := by
  rw [row, Option.bind_eq_bind, Option.bind_eq_some_iff]
  apply Iff.intro
  · intro h
    obtain ⟨callingCode, hcode, hr⟩ := h
    cases hr
    exact ⟨GetCountryCallingCode_eq_some.1 hcode, rfl⟩
  · intro h
    exact ⟨r.callingCode, GetCountryCallingCode_eq_some.2 h.1, congrArg some h.2.symm⟩

theorem row_isSome (localizedString : String → Option String) :
    (row localizedString code).isSome ↔ code ∈ prefixCodes.map Prod.fst := by
  rw [Option.isSome_iff_exists, List.mem_map]
  apply Iff.intro
  · intro h
    obtain ⟨r, hr⟩ := h
    exact ⟨_, (row_eq_some.1 hr).1, rfl⟩
  · intro h
    obtain ⟨⟨code', callingCode⟩, hmem, rfl⟩ := h
    exact ⟨_, (row_eq_some (r := ⟨_, _, _, callingCode⟩)).2 ⟨hmem, rfl⟩⟩

theorem body_isSome {localizedString : String → Option String} {codes : List String} :
    (body localizedString codes).isSome ↔ ∀ code ∈ codes, code ∈ prefixCodes.map Prod.fst := by
  rw [Option.isSome_iff_exists]
  apply Iff.intro
  · intro h code hcode
    obtain ⟨rows, hrows⟩ := h
    rw [← row_isSome localizedString]
    have hmem := List.mem_map_of_mem (f := row localizedString) hcode
    rw [mapM_eq_some_iff.1 hrows] at hmem
    obtain ⟨r, -, hr⟩ := List.mem_map.1 hmem
    rw [← hr]
    rfl
  · intro h
    exact exists_mapM fun code hcode =>
      Option.isSome_iff_exists.1 ((row_isSome localizedString).2 (h code hcode))

theorem code_row {localizedString : String → Option String}
    (h : row localizedString code = some r) : r.code = code := by
  rw [(row_eq_some.1 h).2]

theorem rows_body {localizedString : String → Option String} {codes : List String}
    (h : body localizedString codes = some rows) :
    rows.map Row.code = codes ∧ ∀ r ∈ rows, row localizedString r.code = some r := by
  rw [body, mapM_eq_some_iff] at h
  induction codes generalizing rows with
  | nil =>
    rw [List.map_eq_nil_iff.1 h.symm]
    exact ⟨rfl, nofun⟩
  | cons code codes ih =>
    cases rows with
    | nil => cases h
    | cons r rows =>
      rw [List.map_cons, List.map_cons, List.cons.injEq] at h
      obtain ⟨hcodes, hrows⟩ := ih h.2
      rw [List.map_cons, hcodes, code_row h.1]
      refine ⟨rfl, fun r' hr' => ?_⟩
      obtain heq | hmem := List.mem_cons.1 hr'
      · rw [heq, code_row h.1]
        exact h.1
      · exact hrows r' hmem

/-- Flags are the same scalars exactly if those of their texts that can be shifted are, and a text
is of capital letters exactly if its flag is of regional indicators, one for each. The rows of any
codes render exactly if the table has all of them; each then has its own calling code and a flag of
two regional indicators, which tells it from the rows of other codes. -/
theorem rows_of_codes (localizedString : String → Option String) (codes : List String) :
    (∀ a b, countryFlag a = countryFlag b ↔
      a.toList.filter (shiftable 127397) = b.toList.filter (shiftable 127397)) ∧
    (∀ code : String, (∀ c ∈ code.toList, Capital c) ↔
      (countryFlag code).length = code.length ∧
        ∀ c ∈ (countryFlag code).toList, RegionalIndicator c) ∧
    ((body localizedString codes).isSome ↔ ∀ code ∈ codes, code ∈ prefixCodes.map Prod.fst) ∧
    ∀ rows ∈ body localizedString codes, rows.map Row.code = codes ∧
      ∀ r ∈ rows, (r.code, r.callingCode) ∈ prefixCodes ∧ r.flag.length = 2 ∧
        (∀ c ∈ r.flag.toList, RegionalIndicator c) ∧
        ∀ r' ∈ rows, r.flag = r'.flag ↔ r.code = r'.code := by
  refine ⟨fun _ _ => countryFlag_eq_iff, capital_iff, body_isSome, fun rows hrows => ?_⟩
  obtain ⟨hcodes, hrow⟩ := rows_body hrows
  have hflag : ∀ r ∈ rows, (r.code, r.callingCode) ∈ prefixCodes ∧ r.flag = countryFlag r.code := by
    intro r hr
    obtain ⟨hmem, heq⟩ := row_eq_some.1 (hrow r hr)
    exact ⟨hmem, congrArg Row.flag heq⟩
  refine ⟨hcodes, fun r hr => ?_⟩
  obtain ⟨hmem, hr⟩ := hflag r hr
  obtain ⟨hlen, hcapital⟩ := capital_prefixCodes _ hmem
  obtain ⟨hflaglen, hregional⟩ := (capital_iff r.code).1 hcapital
  rw [← hr] at hflaglen hregional
  refine ⟨hmem, hflaglen.trans hlen, hregional, fun r' hr' => ?_⟩
  obtain ⟨hmem', hr'⟩ := hflag r' hr'
  rw [hr, hr']
  exact countryFlag_inj hcapital (capital_prefixCodes _ hmem').2

example : countryFlag "IN" = "🇮🇳" ∧ (body some ["IN", "BQ"]).isSome = false ∧
    (body some ["IN"]).isSome = true := by
  decide +kernel

end TrainingDemos.CountryPicker
