import TrainingDemos.ByteReading
import TrainingDemos.CollDemo.Hashing

namespace TrainingDemos.CollDemo
set_option autoImplicit true

/-- `data(using: .utf8)`, which is never `nil` for `.utf8`. -/
def utf8Data (message : String) : Option Bytes := some message.toByteArray.data.toList

variable (C : CommonCrypto) (emptyBase : Bool)

/-- `String.hashed`; the outer `none` is a trap. -/
def hashedString (message : String) (type : HashType) (output : HashOutputType := .hex) :
    Option (Option String) :=
  match utf8Data message with
  | none => some none
  | some message => hashed C emptyBase message type output

def HashOutputType.bytes : HashOutputType → String → Option Bytes
  | .hex, text => hexBytes text.toList
  | .base64, text => base64Bytes text.toList

def HashOutputType.width : HashOutputType → HashType → Nat
  | .hex, type => 2 * type.length
  | .base64, type => 4 * ((type.length + 2) / 3)

variable {C} {emptyBase}

theorem HashOutputType.text_eq_iff (output : HashOutputType) {value : String} :
    output.text digest = value ↔ output.bytes value = some digest := by
  cases output with
  | hex => exact hexText_eq_iff
  | base64 => exact base64Text_eq_iff

theorem HashOutputType.length_text (output : HashOutputType) (hlen : digest.length = type.length) :
    (output.text digest).length = output.width type := by
  cases output with
  | hex =>
    rw [text, length_hexText, hlen]
    rfl
  | base64 =>
    rw [text, length_base64Text, hlen]
    rfl

theorem HashOutputType.width_inj (output : HashOutputType)
    (h : output.width a = output.width b) : a = b := by
  revert h
  cases output <;> cases a <;> cases b <;> decide

theorem hashed_eq_some : hashed C emptyBase data type output = some text ↔
    ∃ digest, digestOf C emptyBase data type = some digest ∧ text = some (output.text digest) := by
  rw [hashed, Option.bind_eq_bind, Option.bind_eq_some_iff]
  apply Iff.intro
  · intro h
    obtain ⟨digest, hd, ht⟩ := h
    exact ⟨digest, hd, (Option.some.inj ht).symm⟩
  · intro h
    obtain ⟨digest, hd, ht⟩ := h
    exact ⟨digest, hd, congrArg some ht.symm⟩

variable (C emptyBase) in
theorem digestOf_eq_none (type : HashType) :
    digestOf C emptyBase data type = none ↔ 4294967296 ≤ data.length := by
  rw [digestOf]
  split
  · rename_i hempty
    rw [hempty.1]
    exact iff_of_false (Option.some_ne_none _) (by decide)
  · split
    · rename_i hlt
      exact iff_of_false (Option.some_ne_none _) (Nat.not_le.2 hlt)
    · rename_i hlt
      exact iff_of_true rfl (Nat.not_lt.1 hlt)

theorem hashed_eq_none :
    hashed C emptyBase data type output = none ↔ 4294967296 ≤ data.length := by
  rw [← digestOf_eq_none C emptyBase type, hashed, Option.bind_eq_bind]
  cases digestOf C emptyBase data type with
  | none => exact iff_of_true rfl rfl
  | some digest => exact iff_of_false (Option.some_ne_none _) (Option.some_ne_none _)

theorem length_hashed (h : hashed C emptyBase data type output = some (some text)) :
    text.length = output.width type := by
  obtain ⟨digest, hd, ht⟩ := hashed_eq_some.1 h
  rw [Option.some.inj ht]
  exact output.length_text (length_digestOf hd)

theorem utf8_inj {a b : String} :
    a.toByteArray.data.toList = b.toByteArray.data.toList ↔ a = b := by
  rw [Array.toList_inj, ← ByteArray.ext_iff, String.toByteArray_inj]

theorem hashed_eq_hashed :
    (∃ text, hashed C emptyBase a s output = some (some text) ∧
      hashed C emptyBase b t output = some (some text)) ↔
    s = t ∧ ∃ digest, digestOf C emptyBase a s = some digest ∧
      digestOf C emptyBase b t = some digest := by
  apply Iff.intro
  · intro h
    obtain ⟨text, ha, hb⟩ := h
    have htype := output.width_inj ((length_hashed ha).symm.trans (length_hashed hb))
    obtain ⟨digest, hd, hv⟩ := hashed_eq_some.1 ha
    obtain ⟨digest', hd', hv'⟩ := hashed_eq_some.1 hb
    have hlen : digest.length = digest'.length := by
      rw [length_digestOf hd, length_digestOf hd', htype]
    have heq := output.text_inj hlen (Option.some.inj (hv.symm.trans hv'))
    exact ⟨htype, digest, hd, heq ▸ hd'⟩
  · intro h
    obtain ⟨-, digest, hd, hd'⟩ := h
    exact ⟨output.text digest, hashed_eq_some.2 ⟨digest, hd, rfl⟩,
      hashed_eq_some.2 ⟨digest, hd', rfl⟩⟩

/-- Hashing traps exactly from 2^32 bytes on and never gives `nil`. A text is the hash exactly if
it reads back as the digest, and has the width of its type. Two strings share a text exactly if
their types are one and either their scalars are or the digests of their bytes collide. -/
theorem hash_texts_read_back (C : CommonCrypto) (emptyBase : Bool) (output : HashOutputType) :
    (∀ data type, (hashed C emptyBase data type output = none ↔ 4294967296 ≤ data.length) ∧
      hashed C emptyBase data type output ≠ some none ∧
      ∀ text, hashed C emptyBase data type output = some (some text) ↔
        text.length = output.width type ∧
          ∃ digest, digestOf C emptyBase data type = some digest ∧
            output.bytes text = some digest) ∧
    ∀ a b s t, (∃ text, hashedString C emptyBase a s output = some (some text) ∧
        hashedString C emptyBase b t output = some (some text)) ↔
      s = t ∧ (∃ text, hashedString C emptyBase a s output = some (some text)) ∧
        (a = b ∨ ∃ m n digest, m ≠ n ∧ utf8Data a = some m ∧ utf8Data b = some n ∧
          digestOf C emptyBase m s = some digest ∧ digestOf C emptyBase n s = some digest) := by
  refine ⟨fun data type => ⟨hashed_eq_none, ?_, fun text => ?_⟩, fun a b s t => ?_⟩
  · intro h
    obtain ⟨digest, -, hv⟩ := hashed_eq_some.1 h
    cases hv
  · constructor
    · intro h
      obtain ⟨digest, hd, hv⟩ := hashed_eq_some.1 h
      exact ⟨length_hashed h, digest, hd, output.text_eq_iff.1 (Option.some.inj hv).symm⟩
    · intro h
      obtain ⟨-, digest, hd, hv⟩ := h
      exact hashed_eq_some.2 ⟨digest, hd, congrArg some (output.text_eq_iff.2 hv).symm⟩
  · constructor
    · intro h
      obtain ⟨rfl, digest, ha, hb⟩ := hashed_eq_hashed.1 h
      obtain ⟨text, ht, -⟩ := h
      refine ⟨rfl, ⟨text, ht⟩, ?_⟩
      by_cases hab : a = b
      · exact .inl hab
      · exact .inr ⟨_, _, digest, fun h => hab (utf8_inj.1 h), rfl, rfl, ha, hb⟩
    · intro h
      obtain ⟨rfl, ⟨text, ht⟩, hab⟩ := h
      rcases hab with rfl | hcollide
      · exact ⟨text, ht, ht⟩
      · obtain ⟨m, n, digest, -, hm, hn, ha, hb⟩ := hcollide
        cases hm
        cases hn
        exact hashed_eq_hashed.2 ⟨rfl, digest, ha, hb⟩

end TrainingDemos.CollDemo
