import TrainingDemos.ByteText

namespace TrainingDemos
set_option autoImplicit true

theorem idxOf?_eq_some_iff_of_nodup {alphabet : List Char} (hnodup : alphabet.Nodup) :
    alphabet.idxOf? c = some n ↔ alphabet[n]? = some c := by
  rw [List.idxOf?_eq_some_iff, List.getElem?_eq_some_iff]
  apply Iff.intro
  · intro h
    obtain ⟨hn, hc, -⟩ := h
    exact ⟨hn, hc⟩
  · intro h
    obtain ⟨hn, hc⟩ := h
    refine ⟨hn, hc, fun j hj hjc => ?_⟩
    exact absurd (hnodup.getElem_inj_iff.1 (hjc.trans hc.symm)) (Nat.ne_of_lt hj)

def hexAlphabet : List Char := (List.range 16).map Nat.digitChar

def hexValue (c : Char) : Option Nat := hexAlphabet.idxOf? c

theorem hexValue_eq_some : hexValue c = some n ↔ n < 16 ∧ Nat.digitChar n = c := by
  rw [hexValue, idxOf?_eq_some_iff_of_nodup (by decide), hexAlphabet, List.getElem?_map,
    Option.map_eq_some_iff]
  apply Iff.intro
  · intro h
    obtain ⟨m, hm, hc⟩ := h
    obtain ⟨hn, heq⟩ := List.getElem?_eq_some_iff.1 hm
    rw [List.length_range] at hn
    rw [List.getElem_range] at heq
    subst heq
    exact ⟨hn, hc⟩
  · intro h
    exact ⟨n, List.getElem?_range h.1, h.2⟩

/-- The bytes that a text of hexadecimal digits writes. -/
def hexBytes : List Char → Option Bytes
  | a :: b :: rest => do
    let high ← hexValue a
    let low ← hexValue b
    let bytes ← hexBytes rest
    some (UInt8.ofNat (high * 16 + low) :: bytes)
  | [_] => none
  | [] => some []

theorem toNat_ofNat (hn : n < 256) : (UInt8.ofNat n).toNat = n := by
  rw [UInt8.toNat_ofNat']
  exact Nat.mod_eq_of_lt hn

theorem hexByte_ofNat (hm : m < 16) (hn : n < 16) :
    hexByte (UInt8.ofNat (m * 16 + n)) = [Nat.digitChar m, Nat.digitChar n] := by
  have hhigh : (m * 16 + n) / 16 = m := by omega
  have hlow : (m * 16 + n) % 16 = n := by omega
  rw [hexByte, toNat_ofNat (by omega), hhigh, hlow]

theorem hexBytes_flatMap (bytes : Bytes) : hexBytes (bytes.flatMap hexByte) = some bytes := by
  induction bytes with
  | nil => rfl
  | cons b bytes ih =>
    have hb := b.toNat_lt
    have hhigh : hexValue (Nat.digitChar (b.toNat / 16)) = some (b.toNat / 16) :=
      hexValue_eq_some.2 ⟨by omega, rfl⟩
    have hlow : hexValue (Nat.digitChar (b.toNat % 16)) = some (b.toNat % 16) :=
      hexValue_eq_some.2 ⟨by omega, rfl⟩
    have hbyte : UInt8.ofNat (b.toNat / 16 * 16 + b.toNat % 16) = b := by
      rw [Nat.div_add_mod']
      exact UInt8.ofNat_toNat
    rw [List.flatMap_cons]
    simp only [hexByte, List.cons_append, List.nil_append, hexBytes, hhigh, hlow, ih,
      Option.bind_eq_bind, Option.bind_some, hbyte]

theorem hexBytes_eq_some : hexBytes cs = some bytes ↔ bytes.flatMap hexByte = cs := by
  apply Iff.intro
  · intro h
    induction cs using hexBytes.induct generalizing bytes with
    | case1 a b rest ih =>
      simp only [hexBytes, Option.bind_eq_bind, Option.bind_eq_some_iff, Option.some.injEq] at h
      obtain ⟨m, hm, n, hn, bytes', hbytes, h⟩ := h
      obtain ⟨hm16, ha⟩ := hexValue_eq_some.1 hm
      obtain ⟨hn16, hb⟩ := hexValue_eq_some.1 hn
      rw [← h, List.flatMap_cons, hexByte_ofNat hm16 hn16, ha, hb, ih hbytes]
      rfl
    | case2 a => cases h
    | case3 =>
      cases h
      rfl
  · intro h
    rw [← h]
    exact hexBytes_flatMap bytes

theorem length_hexText (bytes : Bytes) : (hexText bytes).length = 2 * bytes.length := by
  rw [hexText, String.length_ofList, List.length_flatMap]
  induction bytes with
  | nil => rfl
  | cons b bytes ih =>
    rw [List.map_cons, List.sum_cons, ih, List.length_cons, hexByte]
    simp only [List.length_cons, List.length_nil]
    omega

theorem nodup_base64Alphabet : base64Alphabet.Nodup := by
  decide +kernel

def base64Value (c : Char) : Option Nat := base64Alphabet.idxOf? c

theorem base64Value_eq_some : base64Value c = some n ↔ n < 64 ∧ base64Char n = c := by
  have hlen : base64Alphabet.length = 64 := by decide +kernel
  rw [base64Value, idxOf?_eq_some_iff_of_nodup nodup_base64Alphabet, base64Char,
    List.getD_eq_getElem?_getD]
  apply Iff.intro
  · intro h
    have hn := (List.getElem?_eq_some_iff.1 h).1
    rw [h]
    exact ⟨by omega, rfl⟩
  · intro h
    have hn : n < base64Alphabet.length := by omega
    rw [List.getElem?_eq_getElem hn] at h ⊢
    exact congrArg some h.2

theorem base64Value_pad : base64Value '=' = none := by
  decide +kernel

theorem ne_pad_of_value (hc : base64Value c = some z) : c ≠ '=' := by
  intro h
  rw [h, base64Value_pad] at hc
  cases hc

/-- The bytes that a base64 text writes. The bits that padding leaves over are zero. -/
def base64Bytes : List Char → Option Bytes
  | a :: b :: c :: d :: rest => do
    let x ← base64Value a
    let y ← base64Value b
    if c = '=' ∧ d = '=' ∧ rest = [] then
      if y % 16 = 0 then some [UInt8.ofNat (x * 4 + y / 16)] else none
    else
      let z ← base64Value c
      if d = '=' ∧ rest = [] then
        if z % 4 = 0 then
          some [UInt8.ofNat (x * 4 + y / 16), UInt8.ofNat (y % 16 * 16 + z / 4)]
        else none
      else
        let w ← base64Value d
        let bytes ← base64Bytes rest
        some (UInt8.ofNat (x * 4 + y / 16) :: UInt8.ofNat (y % 16 * 16 + z / 4) ::
          UInt8.ofNat (z % 4 * 64 + w) :: bytes)
  | [] => some []
  | _ => none

theorem ofNat_sextets (a b c : UInt8) :
    UInt8.ofNat (group a b c / 262144 * 4 + group a b c / 4096 % 64 / 16) = a ∧
    UInt8.ofNat (group a b c / 4096 % 64 % 16 * 16 + group a b c / 64 % 64 / 4) = b ∧
    UInt8.ofNat (group a b c / 64 % 64 % 4 * 64 + group a b c % 64) = c := by
  have ha := a.toNat_lt
  have hb := b.toNat_lt
  have hc := c.toNat_lt
  rw [group]
  refine ⟨UInt8.toNat_inj.1 ?_, UInt8.toNat_inj.1 ?_, UInt8.toNat_inj.1 ?_⟩
  · rw [toNat_ofNat (by omega)]
    omega
  · rw [toNat_ofNat (by omega)]
    omega
  · rw [toNat_ofNat (by omega)]
    omega

theorem group_ofNat (hx : x < 64) (hy : y < 64) (hz : z < 64) (hw : w < 64) :
    group (UInt8.ofNat (x * 4 + y / 16)) (UInt8.ofNat (y % 16 * 16 + z / 4))
      (UInt8.ofNat (z % 4 * 64 + w)) = x * 262144 + y * 4096 + z * 64 + w := by
  rw [group, toNat_ofNat (by omega), toNat_ofNat (by omega), toNat_ofNat (by omega)]
  omega

theorem base64Value_char (hn : n < 64) : base64Value (base64Char n) = some n :=
  base64Value_eq_some.2 ⟨hn, rfl⟩

theorem base64Value_first (a b c : UInt8) :
    base64Value (base64Char (group a b c / 262144)) = some (group a b c / 262144) :=
  base64Value_char (Nat.div_lt_of_lt_mul (group_lt a b c))

theorem base64Value_digit (n : Nat) : base64Value (base64Char (n % 64)) = some (n % 64) :=
  base64Value_char (Nat.mod_lt n (by decide))

theorem base64Bytes_two (ha : base64Value a = some x) (hb : base64Value b = some y)
    (hrest : y % 16 = 0) :
    base64Bytes [a, b, '=', '='] = some [UInt8.ofNat (x * 4 + y / 16)] := by
  rw [base64Bytes, ha, hb]
  simp only [Option.bind_eq_bind, Option.bind_some, and_self, if_true, hrest]

theorem base64Bytes_three (ha : base64Value a = some x) (hb : base64Value b = some y)
    (hc : base64Value c = some z) (hrest : z % 4 = 0) :
    base64Bytes [a, b, c, '='] =
      some [UInt8.ofNat (x * 4 + y / 16), UInt8.ofNat (y % 16 * 16 + z / 4)] := by
  rw [base64Bytes, ha, hb, hc]
  simp only [Option.bind_eq_bind, Option.bind_some, ne_pad_of_value hc, false_and, if_false,
    and_self, if_true, hrest]

theorem base64Bytes_four (ha : base64Value a = some x) (hb : base64Value b = some y)
    (hc : base64Value c = some z) (hd : base64Value d = some w)
    (hbytes : base64Bytes rest = some bytes) :
    base64Bytes (a :: b :: c :: d :: rest) =
      some (UInt8.ofNat (x * 4 + y / 16) :: UInt8.ofNat (y % 16 * 16 + z / 4) ::
        UInt8.ofNat (z % 4 * 64 + w) :: bytes) := by
  rw [base64Bytes, ha, hb, hc, hd, hbytes]
  simp only [Option.bind_eq_bind, Option.bind_some, ne_pad_of_value hc, ne_pad_of_value hd,
    false_and, if_false]

theorem base64Bytes_chars (bytes : Bytes) : base64Bytes (base64Chars bytes) = some bytes := by
  induction bytes using base64Chars.induct with
  | case1 a b c rest ih =>
    obtain ⟨ha, hb, hc⟩ := ofNat_sextets a b c
    rw [base64Chars, base64Bytes_four (base64Value_first a b c) (base64Value_digit _)
      (base64Value_digit _) (base64Value_digit _) ih, ha, hb, hc]
  | case2 a b =>
    obtain ⟨ha, hb, -⟩ := ofNat_sextets a b 0
    have hrest : group a b 0 / 64 % 64 % 4 = 0 := by
      rw [group, UInt8.toNat_zero]
      omega
    rw [base64Chars, base64Bytes_three (base64Value_first a b 0) (base64Value_digit _)
      (base64Value_digit _) hrest, ha, hb]
  | case3 a =>
    obtain ⟨ha, -, -⟩ := ofNat_sextets a 0 0
    have hrest : group a 0 0 / 4096 % 64 % 16 = 0 := by
      rw [group, UInt8.toNat_zero]
      omega
    rw [base64Chars, base64Bytes_two (base64Value_first a 0 0) (base64Value_digit _) hrest, ha]
  | case4 => rfl

theorem base64Chars_three (hx : x < 64) (hy : y < 64) (hz : z < 64) (hw : w < 64)
    (rest : Bytes) :
    base64Chars (UInt8.ofNat (x * 4 + y / 16) :: UInt8.ofNat (y % 16 * 16 + z / 4) ::
      UInt8.ofNat (z % 4 * 64 + w) :: rest) =
      base64Char x :: base64Char y :: base64Char z :: base64Char w :: base64Chars rest := by
  have h₁ : (x * 262144 + y * 4096 + z * 64 + w) / 262144 = x := by omega
  have h₂ : (x * 262144 + y * 4096 + z * 64 + w) / 4096 % 64 = y := by omega
  have h₃ : (x * 262144 + y * 4096 + z * 64 + w) / 64 % 64 = z := by omega
  have h₄ : (x * 262144 + y * 4096 + z * 64 + w) % 64 = w := by omega
  rw [base64Chars, group_ofNat hx hy hz hw, h₁, h₂, h₃, h₄]

theorem base64Chars_two (hx : x < 64) (hy : y < 64) (hz : z < 64) (hrest : z % 4 = 0) :
    base64Chars [UInt8.ofNat (x * 4 + y / 16), UInt8.ofNat (y % 16 * 16 + z / 4)] =
      [base64Char x, base64Char y, base64Char z, '='] := by
  have hgroup := group_ofNat hx hy hz (w := 0) (by decide)
  rw [hrest, Nat.zero_mul, Nat.zero_add] at hgroup
  have h₁ : (x * 262144 + y * 4096 + z * 64 + 0) / 262144 = x := by omega
  have h₂ : (x * 262144 + y * 4096 + z * 64 + 0) / 4096 % 64 = y := by omega
  have h₃ : (x * 262144 + y * 4096 + z * 64 + 0) / 64 % 64 = z := by omega
  rw [base64Chars, show (0 : UInt8) = UInt8.ofNat 0 from rfl, hgroup, h₁, h₂, h₃]

theorem base64Chars_one (hx : x < 64) (hy : y < 64) (hrest : y % 16 = 0) :
    base64Chars [UInt8.ofNat (x * 4 + y / 16)] = [base64Char x, base64Char y, '=', '='] := by
  have hgroup := group_ofNat hx hy (z := 0) (w := 0) (by decide) (by decide)
  simp only [hrest, Nat.zero_mul, Nat.zero_div, Nat.zero_mod, Nat.add_zero] at hgroup
  have h₁ : (x * 262144 + y * 4096) / 262144 = x := by omega
  have h₂ : (x * 262144 + y * 4096) / 4096 % 64 = y := by omega
  rw [base64Chars, show (0 : UInt8) = UInt8.ofNat 0 from rfl, hgroup, h₁, h₂]

theorem base64Bytes_eq_some : base64Bytes cs = some bytes ↔ base64Chars bytes = cs := by
  apply Iff.intro
  · intro h
    induction cs using base64Bytes.induct generalizing bytes with
    | case1 a b c d rest ih =>
      simp only [base64Bytes, Option.bind_eq_bind, Option.bind_eq_some_iff] at h
      obtain ⟨x, hx, y, hy, h⟩ := h
      obtain ⟨hx, ha⟩ := base64Value_eq_some.1 hx
      obtain ⟨hy, hb⟩ := base64Value_eq_some.1 hy
      split at h
      · rename_i hpad
        obtain ⟨hc, hd, hrest⟩ := hpad
        split at h
        · rename_i hzero
          cases h
          rw [base64Chars_one hx hy hzero, ha, hb, hc, hd, hrest]
        · cases h
      · obtain ⟨z, hz, h⟩ := Option.bind_eq_some_iff.1 h
        obtain ⟨hz, hc⟩ := base64Value_eq_some.1 hz
        split at h
        · rename_i hpad
          obtain ⟨hd, hrest⟩ := hpad
          split at h
          · rename_i hzero
            cases h
            rw [base64Chars_two hx hy hz hzero, ha, hb, hc, hd, hrest]
          · cases h
        · obtain ⟨w, hw, h⟩ := Option.bind_eq_some_iff.1 h
          obtain ⟨hw, hd⟩ := base64Value_eq_some.1 hw
          obtain ⟨bytes', hbytes, h⟩ := Option.bind_eq_some_iff.1 h
          cases h
          rw [base64Chars_three hx hy hz hw, ha, hb, hc, hd, ih hbytes]
    | case2 =>
      cases h
      rfl
    | case3 cs hfour hnil =>
      rw [base64Bytes] at h
      · cases h
      · exact hfour
      · exact hnil
  · intro h
    rw [← h]
    exact base64Bytes_chars bytes

theorem length_base64Chars (bytes : Bytes) :
    (base64Chars bytes).length = 4 * ((bytes.length + 2) / 3) := by
  induction bytes using base64Chars.induct with
  | case1 a b c rest ih =>
    simp only [base64Chars, List.length_cons, ih]
    omega
  | case2 a b => simp only [base64Chars, List.length_cons, List.length_nil]
  | case3 a => simp only [base64Chars, List.length_cons, List.length_nil]
  | case4 => simp only [base64Chars, List.length_nil]

theorem length_base64Text (bytes : Bytes) :
    (base64Text bytes).length = 4 * ((bytes.length + 2) / 3) := by
  rw [base64Text, String.length_ofList]
  exact length_base64Chars bytes

theorem ofList_eq_iff : String.ofList cs = text ↔ cs = text.toList := by
  apply Iff.intro
  · intro h
    rw [← h, String.toList_ofList]
  · intro h
    rw [h, String.ofList_toList]

theorem hexText_eq_iff : hexText bytes = text ↔ hexBytes text.toList = some bytes := by
  rw [hexText, ofList_eq_iff, hexBytes_eq_some]

theorem base64Text_eq_iff : base64Text bytes = text ↔ base64Bytes text.toList = some bytes := by
  rw [base64Text, ofList_eq_iff, base64Bytes_eq_some]

example : hexBytes "000aff".toList = some [0, 10, 255] ∧ hexBytes "000AFF".toList = none ∧
    base64Bytes "TWFuTWE=".toList = some [77, 97, 110, 77, 97] ∧
    base64Bytes "TWFuTWF=".toList = none := by
  decide +kernel

end TrainingDemos
