import Mathlib.Data.List.Nodup

namespace TrainingDemos
set_option autoImplicit true

abbrev Bytes := List UInt8

/-- Two lower-case digits, as `"%02hhx"` prints a byte. -/
def hexByte (b : UInt8) : List Char :=
  [Nat.digitChar (b.toNat / 16), Nat.digitChar (b.toNat % 16)]

def hexText (bytes : Bytes) : String := String.ofList (bytes.flatMap hexByte)

theorem digitChar_inj : ∀ m < 16, ∀ n < 16, Nat.digitChar m = Nat.digitChar n → m = n := by
  decide

theorem hexByte_inj (h : hexByte a = hexByte b) : a = b := by
  have ha := a.toNat_lt
  have hb := b.toNat_lt
  rw [hexByte, hexByte, List.cons.injEq, List.cons.injEq] at h
  have hhigh := digitChar_inj (a.toNat / 16) (by omega) (b.toNat / 16) (by omega) h.1
  have hlow := digitChar_inj (a.toNat % 16) (by omega) (b.toNat % 16) (by omega) h.2.1
  exact UInt8.toNat_inj.1 (by omega)

theorem hexText_injective : Function.Injective hexText := by
  intro xs ys h
  replace h : xs.flatMap hexByte = ys.flatMap hexByte := String.ofList_injective h
  induction xs generalizing ys with
  | nil =>
    cases ys with
    | nil => rfl
    | cons y ys => cases h
  | cons x xs ih =>
    cases ys with
    | nil => cases h
    | cons y ys =>
      rw [List.flatMap_cons, List.flatMap_cons] at h
      obtain ⟨hx, hxs⟩ := List.append_inj h rfl
      rw [hexByte_inj hx, ih hxs]

def base64Alphabet : List Char := [
  'A', 'B', 'C', 'D', 'E', 'F', 'G', 'H', 'I', 'J', 'K', 'L', 'M',
  'N', 'O', 'P', 'Q', 'R', 'S', 'T', 'U', 'V', 'W', 'X', 'Y', 'Z',
  'a', 'b', 'c', 'd', 'e', 'f', 'g', 'h', 'i', 'j', 'k', 'l', 'm',
  'n', 'o', 'p', 'q', 'r', 's', 't', 'u', 'v', 'w', 'x', 'y', 'z',
  '0', '1', '2', '3', '4', '5', '6', '7', '8', '9', '+', '/']

def base64Char (n : Nat) : Char := base64Alphabet.getD n '='

def group (a b c : UInt8) : Nat := a.toNat * 65536 + b.toNat * 256 + c.toNat

/-- Three bytes give four characters, and a last group of one or two bytes is padded. -/
def base64Chars : Bytes → List Char
  | a :: b :: c :: rest =>
    base64Char (group a b c / 262144) :: base64Char (group a b c / 4096 % 64) ::
      base64Char (group a b c / 64 % 64) :: base64Char (group a b c % 64) :: base64Chars rest
  | [a, b] => [base64Char (group a b 0 / 262144), base64Char (group a b 0 / 4096 % 64),
      base64Char (group a b 0 / 64 % 64), '=']
  | [a] => [base64Char (group a 0 0 / 262144), base64Char (group a 0 0 / 4096 % 64), '=', '=']
  | [] => []

def base64Text (bytes : Bytes) : String := String.ofList (base64Chars bytes)

theorem base64Char_inj (hm : m < 64) (hn : n < 64) (h : base64Char m = base64Char n) : m = n := by
  have hnodup : base64Alphabet.Nodup := by decide +kernel
  have hlen : base64Alphabet.length = 64 := by decide +kernel
  rw [← hlen] at hm hn
  rw [base64Char, base64Char, List.getD_eq_getElem?_getD, List.getD_eq_getElem?_getD,
    List.getElem?_eq_getElem hm, List.getElem?_eq_getElem hn] at h
  exact (hnodup.getElem_inj_iff).1 h

theorem eq_of_sextets (hm : m < 16777216) (hn : n < 16777216)
    (h₁ : base64Char (m / 262144) = base64Char (n / 262144))
    (h₂ : base64Char (m / 4096 % 64) = base64Char (n / 4096 % 64))
    (h₃ : base64Char (m / 64 % 64) = base64Char (n / 64 % 64))
    (h₄ : base64Char (m % 64) = base64Char (n % 64)) : m = n := by
  have h₁ := base64Char_inj (by omega) (by omega) h₁
  have h₂ := base64Char_inj (by omega) (by omega) h₂
  have h₃ := base64Char_inj (by omega) (by omega) h₃
  have h₄ := base64Char_inj (by omega) (by omega) h₄
  omega

theorem eq_of_group (h : group a b c = group d e f) : a = d ∧ b = e ∧ c = f := by
  have hb := b.toNat_lt
  have hc := c.toNat_lt
  have he := e.toNat_lt
  have hf := f.toNat_lt
  rw [group, group] at h
  refine ⟨UInt8.toNat_inj.1 ?_, UInt8.toNat_inj.1 ?_, UInt8.toNat_inj.1 ?_⟩ <;> omega

theorem group_lt (a b c : UInt8) : group a b c < 16777216 := by
  have ha := a.toNat_lt
  have hb := b.toNat_lt
  have hc := c.toNat_lt
  rw [group]
  omega

theorem group_two (a b : UInt8) : group a b 0 % 64 = 0 := by
  rw [group, UInt8.toNat_zero]
  omega

theorem group_one (a : UInt8) : group a 0 0 / 64 % 64 = 0 := by
  rw [group, UInt8.toNat_zero]
  omega

theorem base64Chars_inj (hlen : xs.length = ys.length) (h : base64Chars xs = base64Chars ys) :
    xs = ys := by
  induction xs using base64Chars.induct generalizing ys with
  | case1 a b c rest ih =>
    obtain ⟨d, e, f, rest', hys⟩ : ∃ d e f rest', ys = d :: e :: f :: rest' := by
      match ys, hlen with
      | d :: e :: f :: rest', _ => exact ⟨d, e, f, rest', rfl⟩
    subst hys
    simp only [base64Chars, List.cons.injEq] at h
    obtain ⟨h₁, h₂, h₃, h₄, hrest⟩ := h
    obtain ⟨ha, hb, hc⟩ := eq_of_group
      (eq_of_sextets (group_lt a b c) (group_lt d e f) h₁ h₂ h₃ h₄)
    rw [ha, hb, hc, ih (Nat.add_right_cancel (m := 3) hlen) hrest]
  | case2 a b =>
    obtain ⟨d, e, hys⟩ : ∃ d e, ys = [d, e] := by
      match ys, hlen with
      | [d, e], _ => exact ⟨d, e, rfl⟩
    subst hys
    simp only [base64Chars, List.cons.injEq, and_true] at h
    obtain ⟨h₁, h₂, h₃⟩ := h
    have h₄ : base64Char (group a b 0 % 64) = base64Char (group d e 0 % 64) := by
      rw [group_two, group_two]
    obtain ⟨ha, hb, -⟩ := eq_of_group
      (eq_of_sextets (group_lt a b 0) (group_lt d e 0) h₁ h₂ h₃ h₄)
    rw [ha, hb]
  | case3 a =>
    obtain ⟨d, hys⟩ := List.length_eq_one_iff.1 hlen.symm
    subst hys
    simp only [base64Chars, List.cons.injEq, and_true] at h
    obtain ⟨h₁, h₂⟩ := h
    have h₃ : base64Char (group a 0 0 / 64 % 64) = base64Char (group d 0 0 / 64 % 64) := by
      rw [group_one, group_one]
    have h₄ : base64Char (group a 0 0 % 64) = base64Char (group d 0 0 % 64) := by
      rw [group_two, group_two]
    obtain ⟨ha, -⟩ := eq_of_group (eq_of_sextets (group_lt a 0 0) (group_lt d 0 0) h₁ h₂ h₃ h₄)
    rw [ha]
  | case4 => exact (List.eq_nil_of_length_eq_zero hlen.symm).symm

theorem base64Text_inj (hlen : xs.length = ys.length) (h : base64Text xs = base64Text ys) :
    xs = ys :=
  base64Chars_inj hlen (String.ofList_injective h)

example : hexText [0, 10, 255] = "000aff" ∧ base64Text [77, 97, 110, 77, 97] = "TWFuTWE=" ∧
    base64Text [77] = "TQ==" := by
  decide +kernel

end TrainingDemos
