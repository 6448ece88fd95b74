/-
# Writing an answer

Every way of writing an answer changes the answer and leaves the rest of the context as it is:
the request, the route, the parameters, the chain and the position in it (`Edit.apply_rewrites`).

What a text or a file makes of the answer is said whole: its status, its fields and its body
(`writeText_eq`, `writeFile_eq`).  A file whose last change has no date is not answered with:
whether a change to the answer ends in a panic is a matter of the disk and the parameters alone
(`Edit.apply_eq_error_iff`).
-/
import Gatehouse.Context.Run
import Gatehouse.Proofs.Http.Values

namespace Gatehouse
namespace Context

/-! ## 1. What writing leaves alone -/

/-- `c'` is `c` with another answer. -/
def Rewrites (c c' : Context) : Prop := ∃ response, c' = { c with response }

/-- `c'` is `c` at another position, and with another answer. -/
def Moves (c c' : Context) : Prop := ∃ index response, c' = { c with index, response }

variable {c c' c'' : Context}

theorem Moves.refl (c : Context) : Moves c c := ⟨c.index, c.response, rfl⟩

theorem Moves.trans (h : Moves c c') (h' : Moves c' c'') : Moves c c'' := by
  obtain ⟨i, r, rfl⟩ := h
  obtain ⟨i', r', rfl⟩ := h'
  exact ⟨i', r', rfl⟩

theorem Moves.chain (h : Moves c c') : c'.chain = c.chain := by
  obtain ⟨i, r, rfl⟩ := h
  rfl

theorem Moves.params (h : Moves c c') : c'.params = c.params := by
  obtain ⟨i, r, rfl⟩ := h
  rfl

theorem Rewrites.moves (h : Rewrites c c') : Moves c c' := by
  obtain ⟨r, rfl⟩ := h
  exact ⟨c.index, r, rfl⟩

/-- What a change leaves of a context, where it ends in a panic too. -/
def left (c : Context) : Except Panic Context → Context
  | .ok c' => c'
  | .error _ => c

theorem Rewrites.refl (c : Context) : Rewrites c c := ⟨c.response, rfl⟩

theorem Rewrites.trans (h : Rewrites c c') (h' : Rewrites c' c'') : Rewrites c c'' := by
  obtain ⟨r, rfl⟩ := h
  obtain ⟨r', rfl⟩ := h'
  exact ⟨r', rfl⟩

theorem Rewrites.chain (h : Rewrites c c') : c'.chain = c.chain := by
  obtain ⟨r, rfl⟩ := h
  rfl

theorem Rewrites.index (h : Rewrites c c') : c'.index = c.index := by
  obtain ⟨r, rfl⟩ := h
  rfl

theorem setStatus_rewrites (c : Context) (code : Nat) : Rewrites c (c.setStatus code) := ⟨_, rfl⟩

theorem setHeader_rewrites (c : Context) (name value : String) :
    Rewrites c (c.setHeader name value) := by
  simp only [setHeader]
  split
  · exact ⟨_, rfl⟩
  · exact Rewrites.refl c

theorem writeData_rewrites (c : Context) (code : Nat) (mediaType : String) (body : Bytes) :
    Rewrites c (c.writeData code mediaType body) := by
  have h : Rewrites c ((c.setStatus code).setHeader "content-type" mediaType) :=
    (setStatus_rewrites c code).trans (setHeader_rewrites _ _ _)
  exact h.trans ⟨_, rfl⟩

theorem writeText_rewrites (c : Context) (code : Nat) (body : String) :
    Rewrites c (c.writeText code body) :=
  writeData_rewrites c code _ _

theorem writeInternalError_rewrites (c : Context) : Rewrites c c.writeInternalError :=
  writeText_rewrites c 500 _

theorem setModified_rewrites {t? : Option Int} (h : c.setModified t? = .ok c') :
    Rewrites c c' := by
  unfold setModified at h
  split at h
  · cases h
    exact Rewrites.refl c
  · split at h
    · cases h
      exact setHeader_rewrites c _ _
    · cases h

theorem writeFile_rewrites {d : Disk} {location : String} (h : c.writeFile d location = .ok c') :
    Rewrites c c' := by
  unfold writeFile at h
  split at h
  · split at h
    · split at h
      · split at h
        · rename_i dated hdated
          cases h
          exact ((setModified_rewrites hdated).trans (setHeader_rewrites _ _ _)).trans
            (writeData_rewrites _ _ _ _)
        · cases h
      · cases h
        exact writeInternalError_rewrites c
    · cases h
      exact writeText_rewrites c 404 _
  · cases h
    exact writeText_rewrites c 404 _

/-! ## 2. What writing makes -/

theorem setHeader_eq {value : String} (h : Headers.isValue (Bytes.ofText value) = true)
    (c : Context) (name : String) :
    c.setHeader name value = { c with response :=
      { c.response with headers := c.response.headers.set name (Bytes.ofText value) } } := by
  simp only [setHeader, h, if_true]

theorem writeData_eq {mediaType : String} (h : Headers.isValue (Bytes.ofText mediaType) = true)
    (c : Context) (code : Nat) (body : Bytes) :
    c.writeData code mediaType body = { c with response :=
      ⟨code, c.response.headers.set "content-type" (Bytes.ofText mediaType), body⟩ } := by
  rw [writeData, setHeader_eq h]
  rfl

theorem writeText_eq (c : Context) (code : Nat) (body : String) :
    c.writeText code body = { c with response :=
      ⟨code, c.response.headers.set "content-type" (Bytes.ofText "text/plain; charset=utf-8"),
        Bytes.ofText body⟩ } :=
  writeData_eq (by decide) c code _

end Context

/-! ## 3. Files and their dates -/

namespace FileStat

/-- Where the system keeps when a file was last changed, that moment has a date. -/
def HasDate (s : FileStat) : Prop := ∀ t, s.modified? = some t → Calendar.Covers t

/-- The panic that writing the date of a file's last change ends in, if it does. -/
def panic? (s : FileStat) : Option Panic :=
  match s.modified? with
  | none => none
  | some t =>
    match Calendar.httpDate t with
    | .ok _ => none
    | .error why => some (.text why.message)

theorem panic?_eq_none_iff {s : FileStat} : s.panic? = none ↔ s.HasDate := by
  unfold panic? HasDate
  cases s.modified? with
  | none => simp
  | some t =>
    by_cases hcovers : Calendar.Covers t
    · simp [Calendar.httpDate_of_covers hcovers, hcovers]
    · obtain ⟨why, hwhy⟩ := Calendar.httpDate_of_not_covers hcovers
      simp [hwhy, hcovers]

theorem undated_of_not_hasDate {s : FileStat} (h : ¬ s.HasDate) :
    ∃ t why, s.modified? = some t ∧ Calendar.httpDate t = .error why := by
  obtain ⟨t, ht⟩ := Classical.not_forall.mp h
  obtain ⟨hmodified, hcovers⟩ := Classical.not_imp.mp ht
  obtain ⟨why, hwhy⟩ := Calendar.httpDate_of_not_covers hcovers
  exact ⟨t, why, hmodified, hwhy⟩

end FileStat

namespace Disk

/-- What can be read of the regular file at a location. -/
def content? (d : Disk) (location : String) : Option Bytes :=
  if d.isRegular location then d.read? location else none

/-- The panic that answering with a location ends in, if it does. -/
def panic? (d : Disk) (location : String) : Option Panic :=
  if (d.content? location).isSome then (d.stat? location).bind FileStat.panic? else none

end Disk

/-- The fields with the date of a moment, where one is known. -/
def Headers.dated (hs : Headers) : Option Int → Headers
  | none => hs
  | some t => hs.set "last-modified" (Bytes.ofText (Calendar.dateText (t.toNat / 1000000000)))

namespace Context

/-- The answer that a regular file's content makes: besides its type, the fields say how large it is
and, where that is known, when it was last changed. -/
def fileResponse (c : Context) (location : String) (s : FileStat) (content : Bytes) : Response :=
  ⟨200, ((c.response.headers.dated s.modified?).set
    "content-length" (Bytes.ofText (toString s.size))).set
    "content-type" (Bytes.ofText (Disk.mediaType location)), content⟩

theorem setModified_of_hasDate {s : FileStat} (h : s.HasDate) (c : Context) :
    c.setModified s.modified? = .ok { c with response :=
      { c.response with headers := c.response.headers.dated s.modified? } } := by
  cases hmodified : s.modified? with
  | none => rfl
  | some t =>
    have hdate := Calendar.httpDate_of_covers (h t hmodified)
    simp only [setModified, hdate, setHeader_eq (Headers.isValue_dateText _), Headers.dated]

theorem setModified_of_panic {s : FileStat} {p : Panic} (h : s.panic? = some p) (c : Context) :
    c.setModified s.modified? = .error p := by
  cases hmodified : s.modified? with
  | none => simp [FileStat.panic?, hmodified] at h
  | some t =>
    cases hdate : Calendar.httpDate t with
    | ok date => simp [FileStat.panic?, hmodified, hdate] at h
    | error why =>
      have hp : Panic.text why.message = p := by simpa [FileStat.panic?, hmodified, hdate] using h
      simp only [setModified, hdate, hp]

section

variable {d : Disk} {location : String} {s : FileStat} {content : Bytes}
  (hstat : d.stat? location = some s) (hkind : s.kind = .regular)
include hstat hkind

/-- **A regular file that can be read is answered with its content.** -/
theorem writeFile_eq (hread : d.read? location = some content) (hdate : s.HasDate) (c : Context) :
    c.writeFile d location = .ok { c with response := c.fileResponse location s content } := by
  simp only [writeFile, hstat, hkind, hread, if_true, setModified_of_hasDate hdate]
  rw [setHeader_eq (Headers.isValue_toString _), writeData_eq (Headers.isValue_mediaType _)]
  rfl

theorem writeFile_undated {p : Panic} (hread : d.read? location = some content)
    (hpanic : s.panic? = some p) (c : Context) : c.writeFile d location = .error p := by
  simp only [writeFile, hstat, hkind, hread, if_true, setModified_of_panic hpanic]

theorem writeFile_unreadable (hread : d.read? location = none) (c : Context) :
    c.writeFile d location = .ok c.writeInternalError := by
  simp only [writeFile, hstat, hkind, hread, if_true]

end

theorem writeFile_notRegular {d : Disk} {location : String} (h : d.isRegular location = false)
    (c : Context) : c.writeFile d location = .ok c.writeNotFound := by
  cases hstat : d.stat? location with
  | none => simp only [writeFile, hstat]
  | some s =>
    have hkind : s.kind ≠ .regular := by simpa [Disk.isRegular, hstat] using h
    simp only [writeFile, hstat, if_neg hkind]

/-- A file's answer depends on what stands at its location and on what can be read there. -/
theorem writeFile_congr {d d' : Disk} {location : String}
    (hstat : d.stat? location = d'.stat? location) (hread : d.read? location = d'.read? location)
    (c : Context) : c.writeFile d location = c.writeFile d' location := by
  simp only [writeFile, hstat, hread]

/-- **Answering with a file ends in a panic if its last change has no date**, and only then. -/
theorem writeFile_eq_error_iff {d : Disk} {location : String} {p : Panic} (c : Context) :
    c.writeFile d location = .error p ↔ d.panic? location = some p := by
  cases hstat : d.stat? location with
  | none => simp [writeFile, Disk.panic?, Disk.content?, Disk.isRegular, hstat]
  | some s =>
    by_cases hkind : s.kind = .regular
    · cases hread : d.read? location with
      | none =>
        rw [writeFile_unreadable hstat hkind hread]
        simp [Disk.panic?, Disk.content?, hread]
      | some content =>
        have hreduced : d.panic? location = s.panic? := by
          simp [Disk.panic?, Disk.content?, Disk.isRegular, hstat, hkind, hread]
        rw [hreduced]
        cases hpanic : s.panic? with
        | none =>
          rw [writeFile_eq hstat hkind hread (FileStat.panic?_eq_none_iff.mp hpanic)]
          simp
        | some q =>
          rw [writeFile_undated hstat hkind hread hpanic]
          simp
    · have hregular : d.isRegular location = false := by simp [Disk.isRegular, hstat, hkind]
      rw [writeFile_notRegular hregular]
      simp [Disk.panic?, Disk.content?, hregular]

end Context

/-! ## 4. Any change to the answer -/

open Context

theorem Mount.serve_rewrites {d : Disk} {m : Mount} {c c' : Context} (h : m.serve d c = .ok c') :
    Rewrites c c' := by
  unfold Mount.serve at h
  split at h
  · exact writeFile_rewrites h
  · obtain rfl := Except.ok.inj h
    exact writeText_rewrites c _ _

namespace Edit

/-- **A change to the answer changes nothing else.** -/
theorem apply_rewrites {d : Disk} {c c' : Context} {e : Edit} (h : e.apply d c = .ok c') :
    Rewrites c c' := by
  cases e with
  | file location => exact writeFile_rewrites h
  | mount m =>
    have hserve : m.serve d c = .ok c' := h
    exact Mount.serve_rewrites hserve
  | status code =>
    obtain rfl := Except.ok.inj h
    exact setStatus_rewrites c code
  | header name value =>
    obtain rfl := Except.ok.inj h
    exact setHeader_rewrites c name value
  | _ =>
    obtain rfl := Except.ok.inj h
    exact writeData_rewrites c _ _ _

theorem left_rewrites (d : Disk) (c : Context) (e : Edit) : Rewrites c (c.left (e.apply d c)) := by
  cases hwritten : e.apply d c with
  | ok c' => exact apply_rewrites hwritten
  | error p => exact Rewrites.refl c

/-- The panic that a change to an answer ends in where a request has these parameters, if it
does. -/
def panic? (d : Disk) (params : List (String × String)) : Edit → Option Panic
  | file location => d.panic? location
  | mount m =>
    match m.resolve d ((params.lookup Mount.parameterName).getD "") with
    | .ok location => d.panic? location
    | .error _ => none
  | _ => none

/-- **Whether a change to the answer ends in a panic** is a matter of the disk and the
parameters. -/
theorem apply_eq_error_iff {d : Disk} {c : Context} {e : Edit} {p : Panic} :
    e.apply d c = .error p ↔ e.panic? d c.params = some p := by
  cases e with
  | file location => exact c.writeFile_eq_error_iff
  | mount m =>
    simp only [apply, Mount.serve, Context.param?, panic?]
    cases m.resolve d ((c.params.lookup Mount.parameterName).getD "") with
    | ok location => exact c.writeFile_eq_error_iff
    | error refusal => simp
  | _ => simp [apply, panic?]

end Edit
end Gatehouse
