/-
# Request identifiers

Every request gets an identifier of 128 bits, laid out as a version 7 UUID: 48 bits of the clock in
milliseconds, the version, 12 random bits, the variant, and 62 random bits.  Later requests
therefore sort behind earlier ones.
-/
import Gatehouse.Text.Quoted

namespace Gatehouse

/-- The identifier of one request: the moment it was made, in milliseconds, and random bits. -/
structure RequestId where
  millis : BitVec 48
  high : BitVec 12
  low : BitVec 62
deriving DecidableEq, Repr

namespace RequestId

/-- All bits in order, the version and the variant in their places. -/
def bits (id : RequestId) : BitVec 128 :=
  id.millis ++ (7 : BitVec 4) ++ id.high ++ (2 : BitVec 2) ++ id.low

/-- The four bits that tell how an identifier is laid out. -/
def version (id : RequestId) : Nat := (id.bits.extractLsb' 76 4).toNat

def digits (id : RequestId) : List Char :=
  let ds := Nat.toDigits 16 id.bits.toNat
  List.replicate (32 - ds.length) '0' ++ ds

/-- The digits in five groups, put together with hyphens. -/
def text (id : RequestId) : String :=
  let group (start length : Nat) := String.ofList ((id.digits.drop start).take length)
  "-".intercalate [group 0 8, group 8 4, group 12 4, group 16 4, group 20 12]

/-- The JSON form: the quoted text. -/
def render (id : RequestId) : String := "\"" ++ id.text ++ "\""

example : (RequestId.mk 0x017F22E279B0 0xCC3 0x18C4DC0C0C07398F).text =
    "017f22e2-79b0-7cc3-98c4-dc0c0c07398f" := by decide +kernel

end RequestId
end Gatehouse
