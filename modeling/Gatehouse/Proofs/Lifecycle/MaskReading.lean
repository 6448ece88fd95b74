/-
# Reading the mask of ignored signals

A status document is read line by line up to the first line of the mask, and nothing that stands
behind that line makes a difference.  The mask is a number of 64 bits in hexadecimal: it may have
blanks around it, zeros in front and letters of either case.

* `Text.trim_padded`, `Text.trim_append_blanks`: what trimming takes away;
* `SignalMask.value?_eq_some_iff`: **the digits that spell a number**;
* `SignalMask.mask?_eq_some_iff`: the texts that spell a mask;
* `SignalMask.lines_eq_splitOn`, `SignalMask.lines_text_append`: the lines of a document, and of a
  text that starts with whole lines;
* `SignalMask.ofDocument?_of_first`: the first line of the mask decides;
* `SignalMask.reads_first_mask`: **every rendering of a mask is read back**, and a document without
  one in the first line of the mask has none.
-/
import Gatehouse.Lifecycle.SignalMask
import Mathlib.Data.List.Induction

namespace Gatehouse

/-! ## 1. Blanks -/

namespace Text

variable {cs pad pad' : List Char}

/-- A text without blanks is left alone from the front. -/
theorem dropWhile_isBlank (h : ∀ c ∈ cs, isBlank c = false) : cs.dropWhile isBlank = cs := by
  cases cs with
  | nil => rfl
  | cons c cs => rw [List.dropWhile_cons_of_neg (by simp [h c List.mem_cons_self])]

/-- **Blanks behind a text are trimmed.** -/
theorem trim_append_blanks (hpad : ∀ c ∈ pad, isBlank c = true) (cs : List Char) :
    trim (cs ++ pad) = trim cs := by
  have hback : ∀ c ∈ pad.reverse, isBlank c = true := fun c hc => hpad c (List.mem_reverse.mp hc)
  rw [trim, trim, List.dropWhile_append]
  split
  · -- there are blanks alone
    rename_i hempty
    have hall : pad.dropWhile isBlank = [] := by
      rw [← List.append_nil pad, List.dropWhile_append_of_pos hpad, List.dropWhile_nil]
    rw [List.isEmpty_iff.mp hempty, hall]
  · rw [List.reverse_append, List.dropWhile_append_of_pos hback]

/-- **A text without blanks is what is left** when the blanks around it are trimmed. -/
theorem trim_padded (hpad : ∀ c ∈ pad, isBlank c = true) (hpad' : ∀ c ∈ pad', isBlank c = true)
    (hcs : ∀ c ∈ cs, isBlank c = false) : trim (pad ++ cs ++ pad') = cs := by
  have hback : ∀ c ∈ cs.reverse, isBlank c = false := fun c hc => hcs c (List.mem_reverse.mp hc)
  rw [trim_append_blanks hpad', trim, List.dropWhile_append_of_pos hpad, dropWhile_isBlank hcs,
    dropWhile_isBlank hback, List.reverse_reverse]

end Text

namespace SignalMask

/-! ## 2. Numerals -/

/-- Digits that spell a number in hexadecimal: its numeral, letters in either case, perhaps with
zeros in front. -/
def Spells (digits : List Char) (n : Nat) : Prop :=
  ∃ zeros, digits.map Char.toLower = List.replicate zeros '0' ++ Nat.toDigits 16 n

/-- Digits that spell a number, perhaps with a plus sign in front. -/
def Numeral (cs : List Char) (n : Nat) : Prop :=
  ∃ digits, (cs = digits ∨ cs = '+' :: digits) ∧ Spells digits n

theorem toNat_toLower (c : Char) :
    c.toLower.toNat = if 65 ≤ c.toNat ∧ c.toNat ≤ 90 then c.toNat + 32 else c.toNat := by
  by_cases h : 'A'.val ≤ c.val ∧ c.val ≤ 'Z'.val
  · have hlower : c.toLower.val = c.val + 32 := congrArg Char.val (dif_pos h)
    have hplace : 65 ≤ c.toNat ∧ c.toNat ≤ 90 := h
    have hsum : c.toLower.toNat = (c.toNat + 32) % 4294967296 :=
      (congrArg UInt32.toNat hlower).trans (UInt32.toNat_add _ _)
    rw [hsum, if_pos hplace]
    omega
  · have hsame : c.toLower = c := dif_neg h
    have hplace : ¬ (65 ≤ c.toNat ∧ c.toNat ≤ 90) := h
    rw [hsame, if_neg hplace]

theorem toNat_digitChar {d : Nat} (h : d < 16) :
    (Nat.digitChar d).toNat = if d < 10 then d + 48 else d + 87 := by
  revert d
  decide

/-- The value of a digit, by the number of its character. -/
theorem digit?_eq (c : Char) :
    digit? c =
      if 48 ≤ c.toNat ∧ c.toNat ≤ 57 then some (c.toNat - 48)
      else if 97 ≤ c.toNat ∧ c.toNat ≤ 102 then some (c.toNat - 87)
      else if 65 ≤ c.toNat ∧ c.toNat ≤ 70 then some (c.toNat - 55)
      else none := by
  simp only [digit?, Bool.and_eq_true, decide_eq_true_eq, Char.le_def, UInt32.le_iff_toNat_le]
  rfl

/-- **A digit is below sixteen, and in lower case it is the digit of its value.** -/
theorem digit?_eq_some_iff {c : Char} {d : Nat} :
    digit? c = some d ↔ d < 16 ∧ c.toLower = Nat.digitChar d := by
  have hlower := toNat_toLower c
  constructor
  · intro h
    rw [digit?_eq] at h
    have hd : d < 16 := by grind
    refine ⟨hd, Char.toNat_inj.mp ?_⟩
    rw [toNat_digitChar hd, hlower]
    grind
  · rintro ⟨hd, h⟩
    have hnum := congrArg Char.toNat h
    rw [toNat_digitChar hd, hlower] at hnum
    rw [digit?_eq]
    grind

@[simp] theorem digit?_digitChar {d : Nat} (h : d < 16) : digit? (Nat.digitChar d) = some d := by
  revert d
  decide

@[simp] theorem digit?_toLower (c : Char) : digit? c.toLower = digit? c := by
  have hlower : c.toLower.toLower = c.toLower := by
    have := toNat_toLower c
    refine Char.toNat_inj.mp ?_
    rw [toNat_toLower c.toLower]
    grind
  ext d
  rw [digit?_eq_some_iff, digit?_eq_some_iff, hlower]

/-- Reading on from a number. -/
theorem value?_append_singleton (ds : List Char) (c : Char) :
    value? (ds ++ [c]) = (value? ds).bind fun n => (digit? c).map (n * 16 + ·) := by
  simp [value?, List.foldlM_append]

theorem value?_map_toLower (ds : List Char) : value? (ds.map Char.toLower) = value? ds := by
  simp [value?, List.foldlM_map]

/-- **Zeros in front add nothing.** -/
theorem value?_zeros_append (zeros : Nat) (ds : List Char) :
    value? (List.replicate zeros '0' ++ ds) = value? ds := by
  induction zeros with
  | zero => rfl
  | succ zeros ih =>
    rw [← ih]
    rfl

/-- **The numeral of a number spells it.** -/
theorem value?_toDigits (n : Nat) : value? (Nat.toDigits 16 n) = some n := by
  induction n using Nat.strongRecOn with
  | ind n ih =>
    by_cases hlt : n < 16
    · rw [Nat.toDigits_of_lt_base hlt, ← List.nil_append [_], value?_append_singleton]
      simp [value?, hlt]
    · have hdigit : n % 16 < 16 := Nat.mod_lt n (by decide)
      rw [Nat.toDigits_of_base_le (by decide) (by omega), value?_append_singleton,
        ih (n / 16) (by omega), Option.bind_some, digit?_digitChar hdigit, Option.map_some]
      congr 1
      omega

/-- A digit alone spells its value. -/
theorem spells_singleton {c : Char} {d : Nat} (hc : digit? c = some d) : Spells [c] d := by
  obtain ⟨hd, hchar⟩ := digit?_eq_some_iff.mp hc
  exact ⟨0, by simp [hchar, Nat.toDigits_of_lt_base hd]⟩

/-- One more digit behind a numeral. -/
theorem spells_append_singleton {ds : List Char} {c : Char} {n d : Nat} (h : Spells ds n)
    (hc : digit? c = some d) : Spells (ds ++ [c]) (n * 16 + d) := by
  obtain ⟨zeros, hds⟩ := h
  obtain ⟨hd, hchar⟩ := digit?_eq_some_iff.mp hc
  rcases Nat.eq_zero_or_pos n with rfl | hn
  · -- the numeral of zero becomes one more zero in front
    refine ⟨zeros + 1, ?_⟩
    rw [List.map_append, hds, List.replicate_succ', Nat.toDigits_zero, Nat.zero_mul, Nat.zero_add,
      Nat.toDigits_of_lt_base hd, ← hchar]
    rfl
  · refine ⟨zeros, ?_⟩
    rw [List.map_append, hds, Nat.mul_comm n 16,
      ← Nat.toDigits_append_toDigits (by decide) hn hd, Nat.toDigits_of_lt_base hd, ← hchar,
      List.append_assoc]
    rfl

/-- **The digits that spell a number** are its numeral with zeros in front, in either case. -/
theorem value?_eq_some_iff {ds : List Char} {n : Nat} (hne : ds ≠ []) :
    value? ds = some n ↔ Spells ds n := by
  constructor
  · intro h
    induction ds using List.reverseRecOn generalizing n with
    | nil => exact absurd rfl hne
    | append_singleton ds c ih =>
      obtain ⟨m, hm, hn⟩ := Option.bind_eq_some_iff.mp (value?_append_singleton ds c ▸ h)
      obtain ⟨d, hd, rfl⟩ := Option.map_eq_some_iff.mp hn
      rcases eq_or_ne ds [] with rfl | hds
      · obtain rfl : 0 = m := Option.some_inj.mp hm
        simpa using spells_singleton hd
      · exact spells_append_singleton (ih hds hm) hd
  · rintro ⟨zeros, hds⟩
    rw [← value?_map_toLower, hds, value?_zeros_append, value?_toDigits]

theorem spells_ne_nil {ds : List Char} {n : Nat} (h : Spells ds n) : ds ≠ [] := by
  rintro rfl
  obtain ⟨zeros, h⟩ := h
  exact Nat.toDigits_ne_nil (List.append_eq_nil_iff.mp h.symm).2

theorem digit?_of_mem {ds : List Char} {n : Nat} (h : Spells ds n) {c : Char} (hc : c ∈ ds) :
    ∃ d, digit? c = some d := by
  have hvalue := (value?_eq_some_iff (spells_ne_nil h)).mpr h
  clear h
  induction ds using List.reverseRecOn generalizing n with
  | nil => cases hc
  | append_singleton ds c' ih =>
    obtain ⟨m, hm, hn⟩ := Option.bind_eq_some_iff.mp (value?_append_singleton ds c' ▸ hvalue)
    obtain ⟨d, hd, -⟩ := Option.map_eq_some_iff.mp hn
    rcases List.mem_append.mp hc with hc | hc
    · exact ih hc hm
    · exact ⟨d, List.mem_singleton.mp hc ▸ hd⟩

theorem isBlank_of_digit? {c : Char} {d : Nat} (h : digit? c = some d) :
    Text.isBlank c = false := by
  have haway : ∀ r ∈ Text.blankRanges, r.2 < 48 ∨ 102 < r.1 := by decide
  have hplace : 48 ≤ c.toNat ∧ c.toNat ≤ 102 := by
    rw [digit?_eq] at h
    grind
  rw [Bool.eq_false_iff, Text.isBlank, ne_eq, Text.inRanges_iff]
  rintro ⟨r, hr, hlow, hhigh⟩
  have := haway r hr
  omega

theorem unsigned_of_spells {ds : List Char} {n : Nat} (h : Spells ds n) : unsigned ds = ds := by
  unfold unsigned
  split
  · obtain ⟨d, hd⟩ := digit?_of_mem h List.mem_cons_self
    exact absurd hd (by simp [digit?])
  · rfl

/-- A numeral is what spells its number once the sign is gone. -/
theorem numeral_iff {cs : List Char} {n : Nat} : Numeral cs n ↔ Spells (unsigned cs) n := by
  constructor
  · rintro ⟨ds, rfl | rfl, h⟩
    · rwa [unsigned_of_spells h]
    · exact h
  · intro h
    refine ⟨unsigned cs, ?_, h⟩
    unfold unsigned
    split
    · exact .inr rfl
    · exact .inl rfl

/-- **The texts that spell a mask** are the numerals of the numbers of 64 bits. -/
theorem mask?_eq_some_iff {cs : List Char} {n : Nat} :
    mask? cs = some n ↔ Numeral cs n ∧ n < Nat.pow 2 64 := by
  rw [numeral_iff, mask?]
  split
  · rename_i hnil
    exact iff_of_false (by simp) fun h => spells_ne_nil h.1 hnil
  · rename_i hne
    rw [← value?_eq_some_iff hne]
    cases hvalue : value? (unsigned cs) with
    | none => simp
    | some m =>
      simp only [Option.some_inj]
      grind

/-! ## 3. Lines -/

/-- What ends a line. -/
inductive Ending where
  | feed
  | returnFeed

namespace Ending

/-- The carriage return of an ending, which stands in front of the line feed. -/
def back : Ending → List Char
  | feed => []
  | returnFeed => ['\r']

def text (e : Ending) : List Char := e.back ++ ['\n']

theorem blank_of_mem_back {e : Ending} {c : Char} (h : c ∈ e.back) :
    Text.isBlank c = true ∧ c ≠ '\n' := by
  cases e with
  | feed => cases h
  | returnFeed =>
    obtain rfl := List.mem_singleton.mp h
    decide

end Ending

/-- Lines one after the other, each with its ending. -/
def text (front : List (List Char × Ending)) : List Char :=
  front.flatMap fun l => l.1 ++ l.2.text

/-- What may stand behind a line: nothing, or an ending and any text. -/
def Behind (tail : List Char) : Prop :=
  tail = [] ∨ ∃ (e : Ending) (more : List Char), tail = e.text ++ more

/-- **The lines of a document** are its parts between line feeds. -/
theorem lines_eq_splitOn (cs : List Char) : lines cs = cs.splitOn '\n' := by
  induction cs with
  | nil => rfl
  | cons c cs ih =>
    rw [lines, ih, List.splitOn_cons_eq_if_modifyHead]
    simp only [beq_iff_eq]
    congr 1
    cases hsplit : cs.splitOn '\n' with
    | nil => exact absurd hsplit (List.splitOn_ne_nil _ _)
    | cons l ls => rfl

/-- A line loses its line feed, and no more. -/
theorem lines_append_text {line : List Char} (h : '\n' ∉ line) (e : Ending) (more : List Char) :
    lines (line ++ (e.text ++ more)) = (line ++ e.back) :: lines more := by
  have hback : '\n' ∉ line ++ e.back := by
    rw [List.mem_append, not_or]
    exact ⟨h, fun hmem => (Ending.blank_of_mem_back hmem).2 rfl⟩
  rw [lines_eq_splitOn, lines_eq_splitOn, ← List.splitOn_append_cons_self_of_not_mem hback]
  simp [Ending.text]

/-- **The lines of a text that starts with whole lines** are these lines, each with its carriage
return, and then the lines of the rest. -/
theorem lines_text_append {front : List (List Char × Ending)} (h : ∀ l ∈ front, '\n' ∉ l.1)
    (rest : List Char) :
    lines (text front ++ rest) = front.map (fun l => l.1 ++ l.2.back) ++ lines rest := by
  induction front with
  | nil => rfl
  | cons l front ih =>
    have hcons : text (l :: front) ++ rest = l.1 ++ (l.2.text ++ (text front ++ rest)) := by
      simp [text]
    rw [hcons, lines_append_text (h l List.mem_cons_self),
      ih fun l' hl' => h l' (List.mem_cons_of_mem l hl')]
    rfl

/-- A line at the end of the front loses at most its ending. -/
theorem lines_append_behind {line tail : List Char} (h : '\n' ∉ line) (htail : Behind tail) :
    ∃ (e : Ending) (after : List (List Char)),
      lines (line ++ tail) = (line ++ e.back) :: after := by
  obtain rfl | ⟨e, more, rfl⟩ := htail
  · refine ⟨.feed, [], ?_⟩
    rw [List.append_nil, lines_eq_splitOn, List.splitOn_eq_singleton h, Ending.back,
      List.append_nil]
  · exact ⟨e, lines more, lines_append_text h e more⟩

/-! ## 4. The line of the mask -/

theorem after?_eq_some_iff {front line rest : List Char} :
    after? front line = some rest ↔ line = front ++ rest := by
  unfold after?
  split
  · rename_i h
    obtain ⟨rest', rfl⟩ := List.isPrefixOf_iff_prefix.mp h
    simp
  · rename_i h
    refine iff_of_false (by simp) ?_
    rintro rfl
    exact h (List.isPrefixOf_iff_prefix.mpr (List.prefix_append _ _))

theorem after?_eq_none_iff {front line : List Char} :
    after? front line = none ↔ ¬ front <+: line := by
  unfold after?
  simp [← List.isPrefixOf_iff_prefix]

/-- A carriage return does not make a line one of the mask. -/
theorem not_key_prefix_append_back {line : List Char} (h : ¬ key <+: line) (e : Ending) :
    ¬ key <+: line ++ e.back := by
  cases e with
  | feed => simpa [Ending.back] using h
  | returnFeed =>
    rw [Ending.back, List.prefix_concat_iff]
    rintro (hkey | hkey)
    · have hmem : '\r' ∈ key := hkey ▸ List.mem_append_right _ List.mem_cons_self
      exact absurd hmem (by decide)
    · exact h hkey

/-- **Without a line of the mask there is none.** -/
theorem ofDocument?_of_no_line {document : List Char}
    (h : ∀ line ∈ lines document, ¬ key <+: line) : ofDocument? document = none := by
  have hnone : (lines document).findSome? (after? key) = none :=
    List.findSome?_eq_none_iff.mpr fun line hline => after?_eq_none_iff.mpr (h line hline)
  rw [ofDocument?, hnone, Option.bind_none]

/-- **The first line of the mask decides**, whatever stands behind it. -/
theorem ofDocument?_of_first {document rest : List Char} {before after : List (List Char)}
    (hlines : lines document = before ++ (key ++ rest) :: after)
    (hbefore : ∀ line ∈ before, ¬ key <+: line) :
    ofDocument? document = mask? (Text.trim rest) := by
  have hsome : (lines document).findSome? (after? key) = some rest :=
    List.findSome?_eq_some_iff.mpr ⟨before, key ++ rest, after, hlines,
      after?_eq_some_iff.mpr rfl, fun line hline => after?_eq_none_iff.mpr (hbefore line hline)⟩
  rw [ofDocument?, hsome, Option.bind_some]

/-- **A rendering of a mask is read back**: behind lines of other names, with blanks around it, in
digits of either case and with zeros in front. -/
theorem ofDocument?_rendered {front : List (List Char × Ending)} {pad digits pad' tail : List Char}
    {m : Nat} (hfront : ∀ l ∈ front, '\n' ∉ l.1 ∧ ¬ key <+: l.1)
    (hpad : ∀ c ∈ pad, Text.isBlank c = true ∧ c ≠ '\n')
    (hpad' : ∀ c ∈ pad', Text.isBlank c = true ∧ c ≠ '\n') (hdigits : Spells digits m)
    (hm : m < Nat.pow 2 64) (htail : Behind tail) :
    ofDocument? (text front ++ (key ++ (pad ++ digits ++ pad') ++ tail)) = some m := by
  have hplain : ∀ c ∈ digits, Text.isBlank c = false := fun c hc =>
    let ⟨_, hd⟩ := digit?_of_mem hdigits hc
    isBlank_of_digit? hd
  have hline : '\n' ∉ key ++ (pad ++ digits ++ pad') := by
    simp only [List.mem_append, not_or]
    refine ⟨by decide, ⟨fun h => (hpad _ h).2 rfl, fun h => ?_⟩, fun h => (hpad' _ h).2 rfl⟩
    exact absurd (hplain _ h) (by decide)
  obtain ⟨e, after, hafter⟩ := lines_append_behind hline htail
  have hlines := lines_text_append (fun l hl => (hfront l hl).1)
    (key ++ (pad ++ digits ++ pad') ++ tail)
  rw [hafter, List.append_assoc key _ e.back] at hlines
  have hbefore : ∀ line ∈ front.map (fun l => l.1 ++ l.2.back), ¬ key <+: line := by
    rintro line hmem
    obtain ⟨l, hl, rfl⟩ := List.mem_map.mp hmem
    exact not_key_prefix_append_back (hfront l hl).2 l.2
  rw [ofDocument?_of_first hlines hbefore,
    Text.trim_append_blanks fun c hc => (Ending.blank_of_mem_back hc).1,
    Text.trim_padded (fun c hc => (hpad c hc).1) (fun c hc => (hpad' c hc).1) hplain]
  exact mask?_eq_some_iff.mpr ⟨⟨digits, .inl rfl, hdigits⟩, hm⟩

/-- **Every rendering of a mask of 64 bits is read back, and the first line of the mask alone
counts.**

* Lines of other names may stand in front, each with either ending, blanks around the mask, zeros in
  front of its digits, letters in either case, and any text behind its line.
* A document has no mask when none of its lines starts with the name, and when what follows the name
  in the first such line, without the blanks around it, spells no number of 64 bits.  When it spells
  one, that is the mask. -/
theorem reads_first_mask :
    (∀ (front : List (List Char × Ending)) (pad digits pad' tail : List Char) (m : Nat),
      (∀ l ∈ front, '\n' ∉ l.1 ∧ ¬ key <+: l.1) →
      (∀ c ∈ pad, Text.isBlank c = true ∧ c ≠ '\n') →
      (∀ c ∈ pad', Text.isBlank c = true ∧ c ≠ '\n') →
      Spells digits m → m < Nat.pow 2 64 → Behind tail →
      ofDocument? (text front ++ (key ++ (pad ++ digits ++ pad') ++ tail)) = some m) ∧
    (∀ document : List Char,
      (∀ line ∈ document.splitOn '\n', ¬ key <+: line) → ofDocument? document = none) ∧
    ∀ (document rest : List Char) (before after : List (List Char)),
      document.splitOn '\n' = before ++ (key ++ rest) :: after →
      (∀ line ∈ before, ¬ key <+: line) →
      (∀ m, ofDocument? document = some m ↔ Numeral (Text.trim rest) m ∧ m < Nat.pow 2 64) ∧
      ((¬ ∃ m, Numeral (Text.trim rest) m ∧ m < Nat.pow 2 64) → ofDocument? document = none) := by
  refine ⟨fun _ _ _ _ _ _ hfront hpad hpad' hdigits hm htail =>
    ofDocument?_rendered hfront hpad hpad' hdigits hm htail, fun document h => ?_,
    fun document rest before after hlines hbefore => ?_⟩
  · rw [← lines_eq_splitOn] at h
    exact ofDocument?_of_no_line h
  · rw [← lines_eq_splitOn] at hlines
    rw [ofDocument?_of_first hlines hbefore]
    refine ⟨fun m => mask?_eq_some_iff, fun hnot => ?_⟩
    rw [Option.eq_none_iff_forall_not_mem]
    exact fun m hm => hnot ⟨m, mask?_eq_some_iff.mp hm⟩

/-- A status whose first mask is written with a capital letter and a blank behind it, between lines
that end in the other way; one without a mask; and one whose first mask needs 65 bits. -/
theorem reads_first_mask_statuses :
    ofDocument? "Name:\tspindle\r\nSigIgn:\t0000000000001A01 \r\nSigIgn:\tzz\n".toList
      = some 0x1a01 ∧
    ofDocument? "Name:\tspindle\n SigIgn:\t1".toList = none ∧
    ofDocument? "SigIgn:\t10000000000000000\nSigIgn:\t1\n".toList = none := by
  refine ⟨?_, ?_, ?_⟩
  · refine reads_first_mask.1 [("Name:\tspindle".toList, .returnFeed)] ['\t']
      "0000000000001A01".toList [' '] "\r\nSigIgn:\tzz\n".toList 0x1a01 (by decide)
      (List.forall_mem_singleton.mpr (by decide)) (List.forall_mem_singleton.mpr (by decide))
      ⟨12, by decide⟩ (by decide) (.inr ⟨.returnFeed, "SigIgn:\tzz\n".toList, rfl⟩)
  · exact reads_first_mask.2.1 _ (by decide)
  · refine (reads_first_mask.2.2 _ "\t10000000000000000".toList [] _ rfl (by decide)).2 ?_
    rintro ⟨m, hm⟩
    have hnone : mask? (Text.trim "\t10000000000000000".toList) = none := by decide
    rw [mask?_eq_some_iff.mpr hm] at hnone
    cases hnone

end SignalMask
end Gatehouse
