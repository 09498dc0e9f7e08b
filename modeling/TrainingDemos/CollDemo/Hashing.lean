import TrainingDemos.ByteText

namespace TrainingDemos.CollDemo
set_option autoImplicit true

inductive HashType where
  | md5
  | sha1
  | sha224
  | sha256
  | sha384
  | sha512
  deriving DecidableEq

def HashType.length : HashType → Nat
  | .md5 => 16
  | .sha1 => 20
  | .sha224 => 28
  | .sha256 => 32
  | .sha384 => 48
  | .sha512 => 64

inductive HashOutputType where
  | hex
  | base64
  deriving DecidableEq

structure CommonCrypto where
  digest : HashType → Bytes → Bytes
  length_digest : ∀ type message, (digest type message).length = type.length

variable (C : CommonCrypto) (emptyBase : Bool)

/-- The digest that `hashed` writes out. Without a base address it stays as it was allocated, which
`emptyBase` rules out for empty data; `CC_LONG` traps from 2^32 on. -/
def digestOf (data : Bytes) (type : HashType) : Option Bytes :=
  if data = [] ∧ emptyBase = false then some (List.replicate type.length 0)
  else if data.length < 4294967296 then some (C.digest type data)
  else none

def HashOutputType.text : HashOutputType → Bytes → String
  | .hex, digest => hexText digest
  | .base64, digest => base64Text digest

/-- `Data.hashed`; the outer `none` is a trap. -/
def hashed (data : Bytes) (type : HashType) (output : HashOutputType := .hex) :
    Option (Option String) := do
  let digest ← digestOf C emptyBase data type
  some (some (output.text digest))

def rsa2048Asn1Header : Bytes := [
  0x30, 0x82, 0x01, 0x22, 0x30, 0x0d, 0x06, 0x09, 0x2a, 0x86, 0x48, 0x86,
  0xf7, 0x0d, 0x01, 0x01, 0x01, 0x05, 0x00, 0x03, 0x82, 0x01, 0x0f, 0x00]

/-- `Data.hashWithRSA2048Asn1Header`: the data with its header is built, and not hashed. -/
def hashWithRSA2048Asn1Header (data : Bytes) (type : HashType) (output : HashOutputType := .hex) :
    Option (Option String) :=
  let headerData := rsa2048Asn1Header
  let _headerData := headerData ++ data
  hashed C emptyBase data type output

/-- The hash is the value that `hashed` gives for the header and the data. -/
def CoversHeader (data : Bytes) (type : HashType) (output : HashOutputType) : Prop :=
  ∃ value, hashed C emptyBase (rsa2048Asn1Header ++ data) type output = some value ∧
    hashWithRSA2048Asn1Header C emptyBase data type output = some value

variable {C} {emptyBase}

theorem length_digestOf (h : digestOf C emptyBase data type = some digest) :
    digest.length = type.length := by
  rw [digestOf] at h
  split at h
  · cases h
    exact List.length_replicate
  · split at h
    · cases h
      exact C.length_digest _ _
    · cases h

theorem HashOutputType.text_inj (output : HashOutputType) {a b : Bytes}
    (hlen : a.length = b.length) (h : output.text a = output.text b) : a = b := by
  cases output with
  | hex => exact hexText_injective h
  | base64 => exact base64Text_inj hlen h

theorem digestOf_header (C : CommonCrypto) (emptyBase : Bool) (data : Bytes) (type : HashType) :
    digestOf C emptyBase (rsa2048Asn1Header ++ data) type =
      if data.length + 24 < 4294967296 then some (C.digest type (rsa2048Asn1Header ++ data))
      else none := by
  have hne : ¬ (rsa2048Asn1Header ++ data = [] ∧ emptyBase = false) := by
    intro h
    cases h.1
  have hlen : (rsa2048Asn1Header ++ data).length = data.length + 24 := by
    rw [List.length_append, Nat.add_comm]
    rfl
  rw [digestOf, if_neg hne, hlen]

theorem coversHeader_iff (C : CommonCrypto) (emptyBase : Bool) (data : Bytes) (type : HashType)
    (output : HashOutputType) : CoversHeader C emptyBase data type output ↔
      data.length + 24 < 4294967296 ∧ digestOf C emptyBase data type =
        some (C.digest type (rsa2048Asn1Header ++ data)) := by
  rw [CoversHeader, hashed, digestOf_header]
  split
  · rename_i hlen
    constructor
    · intro h
      obtain ⟨value, hv, hw⟩ := h
      cases hv
      obtain ⟨digest, hd, ht⟩ := Option.bind_eq_some_iff.1 hw
      have htext := Option.some.inj (Option.some.inj ht)
      have heq := output.text_inj ((length_digestOf hd).trans (C.length_digest _ _).symm) htext
      rw [heq] at hd
      exact ⟨hlen, hd⟩
    · intro h
      refine ⟨_, rfl, ?_⟩
      rw [hashWithRSA2048Asn1Header, hashed, h.2]
      rfl
  · rename_i hlen
    refine ⟨fun h => ?_, fun h => absurd h.1 hlen⟩
    obtain ⟨value, hv, -⟩ := h
    cases hv

/-- A digest that only tells messages of one length from the others. -/
def CommonCrypto.ofLength (n : Nat) : CommonCrypto where
  digest type message := List.replicate type.length (if message.length = n then 1 else 0)
  length_digest _ _ := List.length_replicate

theorem digestOf_ofLength (hn : data.length ≠ n)
    (h : digestOf (.ofLength n) emptyBase data type = some digest) :
    digest = List.replicate type.length 0 := by
  rw [digestOf] at h
  split at h
  · exact (Option.some.inj h).symm
  · split at h
    · rw [← Option.some.inj h]
      exact congrArg (List.replicate type.length) (if_neg hn)
    · cases h

theorem HashType.length_pos (type : HashType) : 0 < type.length := by
  cases type <;> decide

/-- A digest function gives the hash its header exactly if it collides on the two messages. -/
theorem hash_covers_header_iff (emptyBase : Bool) (data : Bytes) (type : HashType)
    (output : HashOutputType) :
    (∀ C, CoversHeader C emptyBase data type output ↔
      data.length + 24 < 4294967296 ∧ digestOf C emptyBase data type =
        some (C.digest type (rsa2048Asn1Header ++ data))) ∧
    ¬ ∀ C, CoversHeader C emptyBase data type output := by
  refine ⟨fun C => coversHeader_iff C emptyBase data type output, fun h => ?_⟩
  have hlen : data.length ≠ (rsa2048Asn1Header ++ data).length := by
    rw [List.length_append]
    exact Nat.ne_of_lt (Nat.lt_add_of_pos_left (by decide))
  have hcovers := h (.ofLength (rsa2048Asn1Header ++ data).length)
  have hzeros := digestOf_ofLength hlen ((coversHeader_iff _ _ _ _ _).1 hcovers).2
  have hone : (1 : UInt8) ∈ List.replicate type.length 0 := by
    rw [← hzeros]
    exact List.mem_replicate.2 ⟨Nat.ne_of_gt type.length_pos, (if_pos rfl).symm⟩
  exact absurd (List.eq_of_mem_replicate hone) (by decide)

def CommonCrypto.firstBytes : CommonCrypto where
  digest type message := (message ++ List.replicate type.length 0).take type.length
  length_digest type message := by
    rw [List.length_take, List.length_append, List.length_replicate]
    omega

theorem header_not_hashed :
    hashed .firstBytes true (rsa2048Asn1Header ++ [7]) .md5 =
      some (some "30820122300d06092a864886f70d0101") ∧
    hashWithRSA2048Asn1Header .firstBytes true [7] .md5 =
      some (some "07000000000000000000000000000000") ∧
    ¬ CoversHeader .firstBytes true [7] .md5 .hex := by
  have hheader : hashed .firstBytes true (rsa2048Asn1Header ++ [7]) .md5 =
      some (some "30820122300d06092a864886f70d0101") := by
    decide +kernel
  have hdata : hashWithRSA2048Asn1Header .firstBytes true [7] .md5 =
      some (some "07000000000000000000000000000000") := by
    decide +kernel
  refine ⟨hheader, hdata, fun h => ?_⟩
  obtain ⟨value, hv, hw⟩ := h
  rw [hheader] at hv
  rw [hdata, ← Option.some.inj hv] at hw
  exact absurd hw (by decide)

end TrainingDemos.CollDemo
