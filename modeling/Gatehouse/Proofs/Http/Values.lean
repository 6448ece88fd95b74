/-
# Texts that a header field may hold

A field that is set to a text with control characters in it stays as it was.  Numbers
(`isValue_toString`), dates (`isValue_dateText`) and media types (`isValue_mediaType`) have none, so
the fields of a file's answer are always set.
-/
import Gatehouse.Disk.Media
import Gatehouse.Http.Headers
import Gatehouse.Time.Calendar

namespace Gatehouse

/-! ## 1. Octets of a text -/

theorem Bytes.ofText_append (a b : String) :
    Bytes.ofText (a ++ b) = Bytes.ofText a ++ Bytes.ofText b := by
  simp [ofText]

theorem Bytes.ofText_ofList (cs : List Char) :
    Bytes.ofText (String.ofList cs) = cs.flatMap String.utf8EncodeChar := by
  simp [ofText, List.utf8Encode]

namespace Headers

theorem isValue_append (v w : Bytes) : isValue (v ++ w) = (isValue v && isValue w) :=
  List.all_append

/-! ## 2. Numbers -/

theorem isValueOctet_of_toNat {b : UInt8} (hlow : 32 ≤ b.toNat) (hhigh : b.toNat < 127) :
    isValueOctet b = true := by
  have hge : b ≥ 32 := UInt8.le_iff_toNat_le.mpr hlow
  have hne : b ≠ 127 := fun h => by simp [h] at hhigh
  simp [isValueOctet, hge, hne]

theorem isValue_utf8EncodeChar {c : Char} (h : c.isDigit = true) :
    isValue (String.utf8EncodeChar c) = true := by
  obtain ⟨hlow, hhigh⟩ : 48 ≤ c.val ∧ c.val ≤ 57 := by simpa [Char.isDigit] using h
  have hsize : c.utf8Size = 1 := Char.utf8Size_eq_one_iff.mpr (UInt32.le_trans hhigh (by decide))
  have hlow' : 48 ≤ c.val.toNat := UInt32.le_iff_toNat_le.mp hlow
  have hhigh' : c.val.toNat ≤ 57 := UInt32.le_iff_toNat_le.mp hhigh
  have hoctet : c.val.toUInt8.toNat = c.val.toNat % 256 := UInt32.toNat_toUInt8 _
  have hvalue : isValueOctet c.val.toUInt8 = true := isValueOctet_of_toNat (by omega) (by omega)
  rw [String.utf8EncodeChar_eq_singleton hsize, isValue, List.all_cons, hvalue]
  rfl

theorem isValue_ofText_of_isDigit {s : String} (h : ∀ c ∈ s.toList, c.isDigit = true) :
    isValue (Bytes.ofText s) = true := by
  have hoctets : Bytes.ofText s = s.toList.flatMap String.utf8EncodeChar := by
    rw [← Bytes.ofText_ofList, String.ofList_toList]
  rw [hoctets]
  unfold isValue
  rw [List.all_flatMap, List.all_eq_true]
  exact fun c hc => isValue_utf8EncodeChar (h c hc)

theorem isDigit_of_mem_toString {n : Nat} {c : Char} (h : c ∈ (toString n).toList) :
    c.isDigit = true := by
  refine Nat.isDigit_of_mem_toDigits (b := 10) (n := n) (by decide) (by decide) ?_
  simpa [Nat.repr] using h

/-- **A number is a value.** -/
theorem isValue_toString (n : Nat) : isValue (Bytes.ofText (toString n)) = true :=
  isValue_ofText_of_isDigit fun _ => isDigit_of_mem_toString

theorem isValue_padded (width n : Nat) :
    isValue (Bytes.ofText (Duration.padded width n)) = true := by
  have hzeros : isValue (Bytes.ofText
      (String.ofList (List.replicate (width - (toString n).length) '0'))) = true := by
    refine isValue_ofText_of_isDigit fun c hc => ?_
    rw [String.toList_ofList] at hc
    rw [List.eq_of_mem_replicate hc]
    rfl
  simp only [Duration.padded, Bytes.ofText_append, isValue_append, hzeros, isValue_toString,
    Bool.and_self]

/-! ## 3. Dates and media types -/

theorem isValue_weekday (n : Nat) : isValue (Bytes.ofText (Calendar.weekday n)) = true := by
  unfold Calendar.weekday
  split <;> decide

theorem isValue_monthName (n : Nat) : isValue (Bytes.ofText (Calendar.monthName n)) = true := by
  unfold Calendar.monthName
  split <;> decide

/-- **A date is a value.** -/
theorem isValue_dateText (seconds : Nat) :
    isValue (Bytes.ofText (Calendar.dateText seconds)) = true := by
  -- the parts are names, numbers and what stands between them
  simp only [Calendar.dateText, toString, Bytes.ofText_append, isValue_append, isValue_weekday,
    isValue_monthName, isValue_padded, Bool.true_and, Bool.and_true]
  decide

/-- **A media type is a value**, that of any location. -/
theorem isValue_mediaType (p : String) : isValue (Bytes.ofText (Disk.mediaType p)) = true := by
  have htypes : ∀ entry ∈ Disk.mediaTypes, isValue (Bytes.ofText entry.2) = true := by decide
  unfold Disk.mediaType
  split
  · decide
  · rename_i e _
    cases hfound : Disk.mediaTypes.lookup (e.map Char.toLower) with
    | none => decide
    | some mediaType =>
      obtain ⟨front, back, hsplit, -⟩ := List.lookup_eq_some_iff.mp hfound
      refine htypes (e.map Char.toLower, mediaType) ?_
      rw [hsplit]
      exact List.mem_append_cons_self

end Headers
end Gatehouse
