/-
# Header fields

Bodies and the values of header fields are sequences of octets; text becomes octets by its UTF-8
form.  Header fields are a list, in the order they were added.  Names are tokens in lower case, so
that two spellings of one name are one name; a value is any sequence of octets that holds no control
character other than a tab.
-/
import Gatehouse.Http.Method

namespace Gatehouse

/-! ## 1. Octets -/

abbrev Bytes := List UInt8

namespace Bytes

/-- The UTF-8 form of a text. -/
def ofText (s : String) : Bytes := s.toUTF8.data.toList

/-- The text whose UTF-8 form these octets are, if they are one. -/
def toText? (b : Bytes) : Option String := String.fromUTF8? ⟨b.toArray⟩

end Bytes

/-! ## 2. Fields -/

abbrev Headers := List (String × Bytes)

namespace Headers

/-- The name that a text spells, if it is a token. -/
def name? (s : String) : Option String := if isToken s then some (s.map Char.toLower) else none

/-- An octet that a value may hold: anything but control characters, a tab excepted. -/
def isValueOctet (b : UInt8) : Bool := (b ≥ 32 && b ≠ 127) || b = 9

def isValue (v : Bytes) : Bool := v.all isValueOctet

/-- Adds a field behind the others, fields of the same name included. -/
def append (hs : Headers) (name : String) (value : Bytes) : Headers := hs ++ [(name, value)]

/-- Makes `value` the only value of `name`.  The field stands where the first of that name stood,
or behind the others. -/
def set : Headers → String → Bytes → Headers
  | [], name, value => [(name, value)]
  | field :: hs, name, value =>
    if field.1 = name then (name, value) :: hs.filter (·.1 ≠ name) else field :: set hs name value

/-- The first value of `name`. -/
def get? (hs : Headers) (name : String) : Option Bytes := (hs.find? (·.1 = name)).map (·.2)

/-- The values of the fields of one name, in order. -/
def values (hs : Headers) (name : String) : List Bytes := (hs.filter (·.1 = name)).map (·.2)

/-- The fields of other names stay as they are, and where they are. -/
theorem filter_set (hs : Headers) (name : String) (value : Bytes) :
    (hs.set name value).filter (·.1 ≠ name) = hs.filter (·.1 ≠ name) := by
  induction hs with
  | nil => simp [set]
  | cons field hs ih =>
    by_cases hfield : field.1 = name
    · simp [set, hfield, List.filter_filter]
    · simpa [set, hfield] using ih

theorem values_set_self (hs : Headers) (name : String) (value : Bytes) :
    (hs.set name value).values name = [value] := by
  induction hs with
  | nil => simp [set, values]
  | cons field hs ih =>
    by_cases hfield : field.1 = name
    · simp [set, hfield, values, List.filter_filter]
    · simpa [set, hfield, values] using ih

theorem values_eq_filter {name other : String} (h : name ≠ other) (hs : Headers) :
    hs.values other = Headers.values (hs.filter (·.1 ≠ name)) other := by
  have hkeep : ∀ field : String × Bytes,
      (decide (field.1 = other) && !decide (field.1 = name)) = decide (field.1 = other) := by
    intro field
    by_cases hfield : field.1 = other
    · simp [hfield, h.symm]
    · simp [hfield]
  simp [values, List.filter_filter, hkeep]

theorem values_set_of_ne (hs : Headers) {name other : String} (value : Bytes) (h : name ≠ other) :
    (hs.set name value).values other = hs.values other := by
  rw [values_eq_filter h, filter_set, ← values_eq_filter h]

end Headers
end Gatehouse
