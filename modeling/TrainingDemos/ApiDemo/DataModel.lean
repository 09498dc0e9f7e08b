import Mathlib.Algebra.Order.Ring.Rat
import TrainingDemos.IntegerText
import TrainingDemos.JsonTrees

namespace TrainingDemos.ApiDemo
set_option autoImplicit true

/-- A finite `Double`: a significand below 2^53 times a power of two. -/
structure Double where
  value : ℚ
  representable : ∃ m : ℤ, ∃ e : ℕ, m.natAbs < 2 ^ 53 ∧
    ((e ≤ 971 ∧ value = m * 2 ^ e) ∨ (e ≤ 1074 ∧ value * 2 ^ e = m))
  deriving DecidableEq

namespace Double

def ofInt (n : ℤ) (h : n.natAbs < 2 ^ 53) : Double where
  value := n
  representable := ⟨n, 0, h, .inl ⟨Nat.zero_le _, by rw [pow_zero, mul_one]⟩⟩

def zero : Double := ofInt 0 (by decide)

def one : Double := ofInt 1 (by decide)

def asInt (d : Double) : Option Int :=
  if d.value.den = 1 ∧ Int64Range d.value.num then some d.value.num else none

end Double

/-- A JSON value whose numbers are exactly representable. -/
abbrev JSON := JsonTree Double

structure Condition where
  text : String
  code : Int
  deriving DecidableEq

structure Location where
  name : String
  country : String
  region : String
  lat : Double
  lon : Double
  deriving DecidableEq

structure Current where
  temp_c : Double
  condition : Condition
  deriving DecidableEq

structure RData where
  location : Location
  current : Current
  deriving DecidableEq

structure LocationDetail where
  name : String
  country : String
  temp : Double
  region : String
  deriving DecidableEq

def LocationDetail.init : LocationDetail := ⟨"", "", .zero, ""⟩

/-- `decode(_:forKey:)` in a keyed container: throws without the member. -/
def decodeMember (R : MemberReading Double) (json : JSON) (key : String)
    (decode : JSON → Option α) : Option α := do
  let members ← json.asObject
  let value ← R.member members key
  decode value

def decodeInt (json : JSON) : Option Int := json.asNumber.bind Double.asInt

variable (R : MemberReading Double)

/-- The synthesised `init(from:)` of the four structures. -/
def Condition.decode (json : JSON) : Option Condition := do
  let text ← decodeMember R json "text" JsonTree.asString
  let code ← decodeMember R json "code" decodeInt
  some ⟨text, code⟩

def Location.decode (json : JSON) : Option Location := do
  let name ← decodeMember R json "name" JsonTree.asString
  let country ← decodeMember R json "country" JsonTree.asString
  let region ← decodeMember R json "region" JsonTree.asString
  let lat ← decodeMember R json "lat" JsonTree.asNumber
  let lon ← decodeMember R json "lon" JsonTree.asNumber
  some ⟨name, country, region, lat, lon⟩

def Current.decode (json : JSON) : Option Current := do
  let temp_c ← decodeMember R json "temp_c" JsonTree.asNumber
  let condition ← decodeMember R json "condition" (Condition.decode R)
  some ⟨temp_c, condition⟩

def RData.decode (json : JSON) : Option RData := do
  let location ← decodeMember R json "location" (Location.decode R)
  let current ← decodeMember R json "current" (Current.decode R)
  some ⟨location, current⟩

end TrainingDemos.ApiDemo
