/-
# What an answer says of its length

One way of writing an answer sets the field `content-length`: serving a file.  Every other way
writes a body and leaves that field as it is, and so does recovery when it answers for a panic.  The
field therefore tells of the last file that was served, and the body is what was written last.

* `Exchange.lengths_run`, `Exchange.body_run`: **what a run makes of the field and of the body**,
  each by the last moment that wrote it;
* `Exchange.length_told`: **the field is the body's length exactly if the last body is as long as
  the last file**, and it is so when nothing is written behind the file;
* `Exchange.not_length_right`: an answer whose field and body contradict each other.

All this is about chains whose handlers do not set the field themselves, and about disks that tell
the size of what can be read from them, as the disk of a tree does (`Disk.Tree.truthful_toDisk`).
-/
import Gatehouse.Disk.Tree
import Gatehouse.Proofs.Chain.Aborting
import Gatehouse.Proofs.Context.Confinement

namespace Gatehouse

/-! ## 1. The field -/

/-- The octets that a length is written with. -/
def Bytes.ofLength (n : Nat) : Bytes := Bytes.ofText (toString n)

theorem Bytes.ofLength_inj {m n : Nat} : ofLength m = ofLength n ↔ m = n := by
  constructor
  · intro h
    have htext : toString m = toString n :=
      String.toByteArray_inj.mp (ByteArray.ext (Array.toList_inj.mp h))
    rw [Nat.toString_eq_ofList_toDigits, Nat.toString_eq_ofList_toDigits] at htext
    have hdigits : Nat.toDigits 10 m = Nat.toDigits 10 n := String.ofList_inj.mp htext
    calc
      m = Nat.ofDigitChars 10 (Nat.toDigits 10 m) 0 := Nat.ofDigitChars_ten_toDigits.symm
      _ = Nat.ofDigitChars 10 (Nat.toDigits 10 n) 0 := by rw [hdigits]
      _ = n := Nat.ofDigitChars_ten_toDigits
  · rintro rfl
    rfl

/-- What an answer tells of a content that it serves: its length, once. -/
def Bytes.told (content : Bytes) : List Bytes := [ofLength content.length]

namespace Context

/-- What the answer says of its length. -/
def lengths (c : Context) : List Bytes := c.response.headers.values "content-length"

variable (c : Context)

theorem lengths_setHeader {name : String} (hname : name ≠ "content-length") (value : String) :
    (c.setHeader name value).lengths = c.lengths := by
  simp only [setHeader]
  split
  · exact Headers.values_set_of_ne _ _ hname
  · rfl

theorem body_setHeader (name value : String) :
    (c.setHeader name value).response.body = c.response.body := by
  simp only [setHeader]
  split <;> rfl

/-- **Writing a body leaves the length that the answer tells as it is.** -/
theorem lengths_writeData (code : Nat) (mediaType : String) (body : Bytes) :
    (c.writeData code mediaType body).lengths = c.lengths :=
  lengths_setHeader (c.setStatus code) (by decide) mediaType

theorem headers_finish : c.finish.headers = c.response.headers := by
  simp only [finish]
  split <;> rfl

/-- Serving a file tells the size that the system tells of it. -/
theorem lengths_fileResponse (location : String) (s : FileStat) (content : Bytes) :
    (c.fileResponse location s content).headers.values "content-length" =
      [Bytes.ofLength s.size] := by
  rw [fileResponse, Headers.values_set_of_ne _ _ (by decide), Headers.values_set_self]
  rfl

end Context

/-! ## 2. What one change does to the answer -/

namespace Disk

/-- The size that the system tells of a file is the length of what can be read from it. -/
def Truthful (d : Disk) : Prop :=
  ∀ p s content, d.stat? p = some s → s.kind = .regular → d.read? p = some content →
    s.size = content.length

theorem Tree.truthful_toDisk (t : Tree) : t.toDisk.Truthful := by
  intro p s content hstat _ hread
  obtain ⟨e, he, hs⟩ := Option.bind_eq_some_iff.mp hstat
  obtain ⟨e', he', hcontent⟩ := Option.bind_eq_some_iff.mp hread
  obtain rfl : e = e' := Option.some.inj (he.symm.trans he')
  cases e with
  | file body modified readable =>
    cases readable with
    | true =>
      cases hs
      cases hcontent
      rfl
    | false => cases hcontent
  | folder => cases hcontent
  | link target => cases hcontent

/-- The body that is written for a location: the content of a file, or what is said instead. -/
def page (d : Disk) (location : String) : Bytes :=
  (d.content? location).getD <| Bytes.ofText <|
    if d.isRegular location then "500 internal server error" else "404 page not found"

/-- The content of the file that is served for a location, if one is. -/
def served? (d : Disk) (location : String) : Option Bytes :=
  if d.panic? location = none then d.content? location else none

/-- The body that is written for a location, if the date of a file does not end in a panic first. -/
def written? (d : Disk) (location : String) : Option Bytes :=
  if d.panic? location = none then some (d.page location) else none

end Disk

namespace Edit

/-- The content of the file that a change to the answer serves, if it serves one. -/
def served? (d : Disk) (c : Context) : Edit → Option Bytes
  | file location => d.served? location
  | mount m =>
    match m.resolve d (Mount.requested c) with
    | .ok location => d.served? location
    | .error _ => none
  | _ => none

/-- The body that a change to the answer writes, if it writes one. -/
def body? (d : Disk) (c : Context) : Edit → Option Bytes
  | status _ | header _ _ => none
  | data _ _ body => some body
  | text _ body => some (Bytes.ofText body)
  | json _ value => some (Bytes.ofText value.render)
  | unwritable => some (Bytes.ofText "500 internal server error")
  | param _ name => some (Bytes.ofText ((c.param? name).getD ""))
  | echo => some c.request.body
  | file location => d.written? location
  | mount m =>
    match m.resolve d (Mount.requested c) with
    | .ok location => d.written? location
    | .error refusal => some (Bytes.ofText refusal.message)

/-- A change that does not set the length itself. -/
def LeavesLength : Edit → Prop
  | header name _ => name ≠ "content-length"
  | _ => True

/-- The body of a file that is served is its content. -/
theorem body?_of_served? {d : Disk} {c : Context} {e : Edit} {content : Bytes}
    (h : e.served? d c = some content) : e.body? d c = some content := by
  have hpage : ∀ {location}, d.served? location = some content →
      d.written? location = some content := by
    intro location hserved
    obtain ⟨hcalm, hcontent⟩ := Option.ite_none_right_eq_some.mp hserved
    rw [Disk.written?, if_pos hcalm, Disk.page, hcontent]
    rfl
  cases e with
  | file location => exact hpage h
  | mount m =>
    simp only [served?] at h
    simp only [body?]
    cases hresolve : m.resolve d (Mount.requested c) with
    | ok location =>
      rw [hresolve] at h
      exact hpage h
    | error refusal =>
      rw [hresolve] at h
      cases h
  | _ => cases h

end Edit

namespace Context

variable {d : Disk} (c : Context)

/-- The three ways in which a location is answered: with the content of a file, with what is said
instead of one, or not at all. -/
theorem writeFile_cases (d : Disk) (location : String) :
    (∃ s content, d.stat? location = some s ∧ s.kind = .regular ∧ d.read? location = some content ∧
        d.served? location = some content ∧ d.written? location = some content ∧
        c.writeFile d location = .ok { c with response := c.fileResponse location s content }) ∨
      (d.served? location = none ∧ d.written? location = some (d.page location) ∧
        ∃ code, c.writeFile d location =
          .ok (c.writeData code "text/plain; charset=utf-8" (d.page location))) ∨
      d.served? location = none ∧ d.written? location = none ∧
        ∃ p, c.writeFile d location = .error p := by
  cases hpanic : d.panic? location with
  | some p =>
    refine Or.inr (Or.inr ⟨?_, ?_, p, c.writeFile_eq_error_iff.mpr hpanic⟩)
    · simp [Disk.served?, hpanic]
    · simp [Disk.written?, hpanic]
  | none =>
    have hserved : d.served? location = d.content? location := if_pos hpanic
    have hwritten : d.written? location = some (d.page location) := if_pos hpanic
    by_cases hregular : d.isRegular location = true
    · obtain ⟨s, hstat, hkind⟩ : ∃ s, d.stat? location = some s ∧ s.kind = .regular := by
        simp only [Disk.isRegular] at hregular
        split at hregular
        · rename_i s hstat
          exact ⟨s, hstat, by simpa using hregular⟩
        · cases hregular
      have hcontent : d.content? location = d.read? location := if_pos hregular
      cases hread : d.read? location with
      | some content =>
        have hdate : s.HasDate := by
          refine FileStat.panic?_eq_none_iff.mp ?_
          simpa [Disk.panic?, hcontent, hread, hstat] using hpanic
        rw [hread] at hcontent
        refine Or.inl ⟨s, content, hstat, hkind, rfl, hserved.trans hcontent, ?_,
          writeFile_eq hstat hkind hread hdate c⟩
        rw [hwritten, Disk.page, hcontent, Option.getD_some]
      | none =>
        rw [hread] at hcontent
        refine Or.inr (Or.inl ⟨hserved.trans hcontent, hwritten, 500, ?_⟩)
        rw [writeFile_unreadable hstat hkind hread, Disk.page, hcontent, if_pos hregular]
        rfl
    · have hcontent : d.content? location = none := if_neg hregular
      refine Or.inr (Or.inl ⟨hserved.trans hcontent, hwritten, 404, ?_⟩)
      rw [writeFile_notRegular (Bool.eq_false_iff.mpr hregular), Disk.page, hcontent,
        if_neg hregular]
      rfl

/-- **A file that is served tells its length**, and what is said instead of one tells nothing. -/
theorem lengths_writeFile (hdisk : d.Truthful) (location : String) :
    (c.left (c.writeFile d location)).lengths =
      ((d.served? location).map Bytes.told).getD c.lengths := by
  rcases c.writeFile_cases d location with
    ⟨s, content, hstat, hkind, hread, hserved, -, hfile⟩ | ⟨hserved, -, code, hfile⟩ |
      ⟨hserved, -, p, hfile⟩
  · rw [hfile, hserved, Option.map_some, Option.getD_some, Bytes.told,
      ← hdisk _ _ _ hstat hkind hread]
    exact lengths_fileResponse c location s content
  · rw [hfile, hserved, Option.map_none, Option.getD_none]
    exact lengths_writeData c code _ _
  · rw [hfile, hserved]
    rfl

theorem body_writeFile (d : Disk) (location : String) :
    (c.left (c.writeFile d location)).response.body =
      (d.written? location).getD c.response.body := by
  rcases c.writeFile_cases d location with
    ⟨s, content, -, -, -, -, hwritten, hfile⟩ | ⟨-, hwritten, code, hfile⟩ | ⟨-, hwritten, p, hfile⟩
    <;> rw [hfile, hwritten] <;> rfl

end Context

namespace Edit

/-- **What a change to the answer tells of its length.** -/
theorem lengths_apply {d : Disk} (hdisk : d.Truthful) (c : Context) {e : Edit}
    (he : e.LeavesLength) :
    (c.left (e.apply d c)).lengths = ((e.served? d c).map Bytes.told).getD c.lengths := by
  cases e with
  | status code => rfl
  | header name value => exact c.lengths_setHeader he value
  | file location => exact c.lengths_writeFile hdisk location
  | mount m =>
    simp only [apply, served?]
    cases hresolve : m.resolve d (Mount.requested c) with
    | ok location =>
      rw [Mount.serve_of_ok hresolve]
      exact c.lengths_writeFile hdisk location
    | error refusal =>
      rw [Mount.serve_of_error hresolve]
      exact c.lengths_writeData _ _ _
  | _ => exact c.lengths_writeData _ _ _

/-- **The body that a change to the answer leaves.** -/
theorem body_apply (d : Disk) (c : Context) (e : Edit) :
    (c.left (e.apply d c)).response.body = (e.body? d c).getD c.response.body := by
  cases e with
  | status code => rfl
  | header name value => exact c.body_setHeader name value
  | file location => exact c.body_writeFile d location
  | mount m =>
    simp only [apply, body?]
    cases hresolve : m.resolve d (Mount.requested c) with
    | ok location =>
      rw [Mount.serve_of_ok hresolve]
      exact c.body_writeFile d location
    | error refusal =>
      rw [Mount.serve_of_error hresolve]
      rfl
  | _ => rfl

end Edit

/-! ## 3. What one event does to the answer -/

/-- The handler does not set the length of the answer itself. -/
def Handler.LeavesLength (h : Handler) : Prop := ∀ e, .edit e ∈ h.script → e.LeavesLength

namespace Chain.Event

/-- An event that does not set the length of the answer itself. -/
def LeavesLength : Event → Prop
  | reached _ (.edit e) => e.LeavesLength
  | _ => True

/-- Coming to an action is coming to one of the chain's. -/
def OfChain (hs : Chain) : Event → Prop
  | reached _ a => ∃ h ∈ hs, a ∈ h.script
  | _ => True

theorem OfChain.leavesLength {hs : Chain} {e : Event} (h : e.OfChain hs)
    (hs_leave : ∀ h ∈ hs, h.LeavesLength) : e.LeavesLength := by
  cases e with
  | reached i a =>
    obtain ⟨handler, hmem, ha⟩ := h
    cases a with
    | edit change => exact hs_leave handler hmem change ha
    | _ => trivial
  | _ => trivial

end Chain.Event

namespace Exchange

open Chain (Event)

/-- The content of the file that is served at a moment, if one is. -/
def servedAt? (d : Disk) : Event × Exchange → Option Bytes
  | (.reached _ (.edit e), y) => e.served? d y.context
  | _ => none

/-- The body that is written at a moment, if one is. -/
def bodyAt? (d : Disk) : Event × Exchange → Option Bytes
  | (.reached _ (.edit e), y) => e.body? d y.context
  | (.rescued _, _) => some (Bytes.ofText "500 internal server error")
  | _ => none

theorem bodyAt?_of_servedAt? {d : Disk} {v : Event × Exchange} {content : Bytes}
    (h : servedAt? d v = some content) : bodyAt? d v = some content := by
  obtain ⟨e, y⟩ := v
  cases e with
  | reached i a =>
    cases a with
    | edit change =>
      have hserved : change.served? d y.context = some content := h
      show change.body? d y.context = some content
      exact Edit.body?_of_served? hserved
    | _ => simp only [servedAt?, reduceCtorEq] at h
  | _ => simp only [servedAt?, reduceCtorEq] at h

/-- **Only serving a file changes what the answer tells of its length**: recovery's answer to a
panic does not. -/
theorem lengths_effect {d : Disk} (hdisk : d.Truthful) {e : Event} (he : e.LeavesLength)
    (x : Exchange) : (e.effect d x).context.lengths =
      ((servedAt? d (e, x)).map Bytes.told).getD x.context.lengths := by
  cases e with
  | started i => rfl
  | rescued i =>
    show x.context.writeInternalError.lengths = x.context.lengths
    exact x.context.lengths_writeData _ _ _
  | reached i a =>
    cases a with
    | edit change =>
      rw [context_effect_edit]
      exact Edit.lengths_apply hdisk x.context he
    | abort code? => cases code? <;> rfl
    | _ => rfl

theorem body_effect (d : Disk) (e : Event) (x : Exchange) :
    (e.effect d x).context.response.body =
      (bodyAt? d (e, x)).getD x.context.response.body := by
  cases e with
  | started i => rfl
  | rescued i => rfl
  | reached i a =>
    cases a with
    | edit change =>
      rw [context_effect_edit]
      exact change.body_apply d x.context
    | abort code? => cases code? <;> rfl
    | _ => rfl

/-! ## 4. What a run comes to -/

section

variable {d : Disk} {x y : Exchange} {vs : List (Event × Exchange)}

theorem Path.chain_eq (h : Path d x vs y) : y.context.chain = x.context.chain := by
  rw [h.eq_replay]
  exact (moves_replay d (vs.map Prod.fst) x).chain

/-- What is written over and over is what was written last. -/
theorem Path.last_write {α : Type} (read : Exchange → α) {write? : Event × Exchange → Option α}
    (h : Path d x vs y) (hstep : ∀ v ∈ vs, read (v.1.effect d v.2) = (write? v).getD (read v.2)) :
    read y = (vs.filterMap write?).getLast?.getD (read x) := by
  induction vs generalizing x with
  | nil => rw [h, List.filterMap_nil, List.getLast?_nil, Option.getD_none]
  | cons v vs ih =>
    obtain ⟨e, z⟩ := v
    obtain ⟨rfl, hrest⟩ := h
    have hlast := ih hrest fun w hw => hstep w (List.mem_cons_of_mem _ hw)
    rw [hlast, hstep (e, z) List.mem_cons_self, List.filterMap_cons]
    cases write? (e, z) with
    | none => rfl
    | some a => rw [List.getLast?_cons, Option.getD_some, Option.getD_some]

variable {rest : Exchange → Outcome} {restVisits : Exchange → List (Event × Exchange)}

theorem performVisits_ofChain (hof : ∀ y, ∀ v ∈ restVisits y, v.1.OfChain y.context.chain)
    (i : Nat) (x : Exchange) (a : Action) :
    ∀ v ∈ performVisits rest restVisits i x a, v.1.OfChain x.context.chain := by
  intro v hv
  cases a with
  | proceed => exact hof x v hv
  | guarded =>
    simp only [performVisits] at hv
    split at hv
    · rcases List.mem_append.mp hv with hv | hv
      · exact hof x v hv
      · obtain rfl := List.mem_singleton.mp hv
        trivial
    · exact hof x v hv
  | _ => cases hv

theorem performAllVisits_ofChain (hrest : ∀ y, Path d y (restVisits y) (rest y).exchange)
    (hof : ∀ y, ∀ v ∈ restVisits y, v.1.OfChain y.context.chain) (i : Nat) (as : List Action)
    (x : Exchange) (has : ∀ a ∈ as, ∃ h ∈ x.context.chain, a ∈ h.script) :
    ∀ v ∈ performAllVisits d rest restVisits i as x, v.1.OfChain x.context.chain := by
  induction as generalizing x with
  | nil =>
    intro v hv
    cases hv
  | cons a as ih =>
    intro v hv
    have hchain := (path_perform hrest i x a).chain_eq.trans (chain_effect d (.reached i a) x)
    simp only [performAllVisits, List.cons_append, List.mem_cons, List.mem_append] at hv
    rcases hv with rfl | hv | hv
    · exact has a List.mem_cons_self
    · exact performVisits_ofChain hof i x a v hv
    · split at hv
      · rw [← hchain]
        refine ih _ (fun b hb => ?_) v hv
        rw [hchain]
        exact has b (List.mem_cons_of_mem _ hb)
      · cases hv

/-- A run comes to actions of its chain only. -/
theorem runForVisits_ofChain (d : Disk) (fuel : Nat) (x : Exchange) :
    ∀ v ∈ runForVisits d fuel x, v.1.OfChain x.context.chain := by
  induction fuel generalizing x with
  | zero =>
    intro v hv
    cases hv
  | succ fuel ih =>
    intro v hv
    cases hget : x.context.chain[x.context.index]? with
    | none =>
      simp only [runForVisits, hget] at hv
      cases hv
    | some h =>
      have hmem : h ∈ x.context.chain := List.mem_of_getElem? hget
      let started := x.update fun c => { c with index := c.index + 1 }
      have hscript : Path d started _ _ :=
        path_performAll (path_runFor d fuel) x.context.index h.script started
      have hof : ∀ v ∈ performAllVisits d (runFor d fuel) (runForVisits d fuel) x.context.index
          h.script started, v.1.OfChain x.context.chain :=
        performAllVisits_ofChain (path_runFor d fuel) ih x.context.index h.script started
          fun a ha => ⟨h, hmem, ha⟩
      simp only [runForVisits, hget, List.cons_append, List.mem_cons, List.mem_append] at hv
      rcases hv with rfl | hv | hv
      · trivial
      · exact hof v hv
      · split at hv
        · have hchain : _ = x.context.chain := hscript.chain_eq
          exact hchain ▸ ih _ v hv
        · cases hv

end

/-! ## 5. The answer behind a run -/

/-- **What the answer tells of its length is the length of the last file that was served.** -/
theorem lengths_run {d : Disk} (hdisk : d.Truthful) {x : Exchange}
    (hleave : ∀ h ∈ x.context.chain, h.LeavesLength) : (x.run d).exchange.context.lengths =
      (((x.visits d).filterMap (servedAt? d)).getLast?.map Bytes.told).getD x.context.lengths := by
  have hstep : ∀ v ∈ x.visits d, (v.1.effect d v.2).context.lengths =
      ((servedAt? d v).map Bytes.told).getD v.2.context.lengths := by
    intro v hv
    exact lengths_effect hdisk ((runForVisits_ofChain d _ x v hv).leavesLength hleave) v.2
  have hpath : Path d x (x.visits d) (x.run d).exchange := path_runFor d _ x
  have hlast := hpath.last_write (fun y => y.context.lengths) hstep
  rwa [← List.map_filterMap, List.getLast?_map] at hlast

/-- **The body of the answer is the body that was written last.** -/
theorem body_run (d : Disk) (x : Exchange) : (x.run d).exchange.context.response.body =
    ((x.visits d).filterMap (bodyAt? d)).getLast?.getD x.context.response.body := by
  have hpath : Path d x (x.visits d) (x.run d).exchange := path_runFor d _ x
  exact hpath.last_write (fun y => y.context.response.body) fun v _ => body_effect d v.1 v.2

/-- **The length that an answer tells is that of the last file that was served, and its body is
what was written last.**  So the field is right exactly if the two are equally long; and it is right
when no body has been written behind the file. -/
theorem length_told {d : Disk} (hdisk : d.Truthful) {x : Exchange}
    (hfresh : x.context.lengths = []) (hleave : ∀ h ∈ x.context.chain, h.LeavesLength) :
    let answer := (x.run d).exchange.context
    let served? := ((x.visits d).filterMap (servedAt? d)).getLast?
    answer.finish.headers.values "content-length" = (served?.map Bytes.told).getD [] ∧
      answer.response.body =
        ((x.visits d).filterMap (bodyAt? d)).getLast?.getD x.context.response.body ∧
      ((∀ v ∈ answer.finish.headers.values "content-length",
          v = Bytes.ofLength answer.response.body.length) ↔
        ∀ content, served? = some content → content.length = answer.response.body.length) ∧
      ∀ before v content later, x.visits d = before ++ v :: later →
        servedAt? d v = some content → (∀ w ∈ later, bodyAt? d w = none) →
          answer.finish.headers.values "content-length" =
            [Bytes.ofLength answer.response.body.length] := by
  intro answer served?
  have hlengths : answer.finish.headers.values "content-length" =
      (served?.map Bytes.told).getD [] := by
    rw [Context.headers_finish, ← hfresh]
    exact lengths_run hdisk hleave
  have hbody := body_run d x
  refine ⟨hlengths, hbody, ?_, ?_⟩
  · rw [hlengths]
    cases served? with
    | none => simp
    | some content => simp [Bytes.told, Bytes.ofLength_inj]
  · intro before v content later hsplit hserved hquiet
    -- what is served is written, and nothing is written behind it
    have hunserved : later.filterMap (servedAt? d) = [] := by
      refine List.filterMap_eq_nil_iff.mpr fun w hw => ?_
      cases hw? : servedAt? d w with
      | none => rfl
      | some other => exact absurd (bodyAt?_of_servedAt? hw?) (by simp [hquiet w hw])
    have hunwritten : later.filterMap (bodyAt? d) = [] := List.filterMap_eq_nil_iff.mpr hquiet
    have hlast : served? = some content := by
      simp only [served?, hsplit, List.filterMap_append, List.filterMap_cons, hserved, hunserved,
        List.getLast?_append, List.getLast?_singleton, Option.some_or]
    have hwritten : answer.response.body = content := by
      rw [hbody, hsplit]
      simp only [List.filterMap_append, List.filterMap_cons, bodyAt?_of_servedAt? hserved,
        hunwritten, List.getLast?_append, List.getLast?_singleton, Option.some_or,
        Option.getD_some]
    rw [hlengths, hlast, hwritten, Option.map_some, Option.getD_some, Bytes.told]

/-- A disk with one file on it. -/
def oneFile : Disk where
  stat? p := if p = "a.txt" then some ⟨.regular, 5, some 0⟩ else none
  read? p := if p = "a.txt" then some (Bytes.ofText "hello") else none

theorem oneFile_truthful : oneFile.Truthful := by
  intro p s content hstat _ hread
  simp only [oneFile] at hstat hread
  split at hstat
  · rename_i hp
    rw [if_pos hp] at hread
    cases hstat
    cases hread
    decide
  · cases hstat

/-- A draft is written, and the file in its place: behind recovery, and with nothing to recover. -/
def draftThenFile : Chain :=
  [Handler.recovery "recovery", ⟨"draft", [.edit (.text 202 "draft"), .proceed]⟩,
    Handler.file "file" "a.txt"]

/-- The field of the answer is the length of the file. -/
theorem length_told_draftThenFile :
    oneFile.Truthful ∧ (atStart draftThenFile).context.lengths = [] ∧
      (∀ h ∈ (atStart draftThenFile).context.chain, h.LeavesLength) ∧
      ((atStart draftThenFile).run oneFile).exchange.context.finish.headers.values
        "content-length" = [Bytes.ofLength 5] := by
  have hleave : ∀ h ∈ (atStart draftThenFile).context.chain, h.LeavesLength := by
    intro h hh e he
    simp only [atStart, Context.meet, draftThenFile, List.mem_cons, List.not_mem_nil,
      or_false] at hh
    rcases hh with rfl | rfl | rfl
    · simp [Handler.recovery] at he
    · obtain rfl : e = .text 202 "draft" := by simpa using he
      trivial
    · obtain rfl : e = .file "a.txt" := by simpa [Handler.file] using he
      trivial
  obtain ⟨hvalues, -⟩ := length_told oneFile_truthful rfl hleave
  exact ⟨oneFile_truthful, rfl, hleave, hvalues.trans (by decide +kernel)⟩

/-- A handler serves the file and panics, and recovery answers. -/
def fileThenPanic : Chain :=
  [Handler.recovery "recovery", ⟨"file", [.edit (.file "a.txt"), .panic (.text "boom")]⟩]

/-- **The field can contradict the body.**  Recovery's answer is 25 octets long, and is told to be
as long as the file was. -/
theorem not_length_right :
    ¬ ∀ (d : Disk) (hs : Chain), d.Truthful → (∀ h ∈ hs, h.LeavesLength) →
      ∀ v ∈ ((atStart hs).run d).exchange.context.finish.headers.values "content-length",
        v = Bytes.ofLength ((atStart hs).run d).exchange.context.response.body.length := by
  intro hright
  have hleave : ∀ h ∈ fileThenPanic, h.LeavesLength := by
    intro h hh e he
    simp only [fileThenPanic, List.mem_cons, List.not_mem_nil, or_false] at hh
    rcases hh with rfl | rfl
    · simp [Handler.recovery] at he
    · obtain rfl : e = .file "a.txt" := by simpa using he
      trivial
  have hfield : ((atStart fileThenPanic).run oneFile).exchange.context.finish.headers.values
      "content-length" = [Bytes.ofLength 5] := by
    rw [Context.headers_finish]
    exact (lengths_run oneFile_truthful hleave).trans (by decide +kernel)
  have hbody :
      ((atStart fileThenPanic).run oneFile).exchange.context.response.body.length = 25 := by
    rw [body_run]
    decide +kernel
  have htold := hright oneFile fileThenPanic oneFile_truthful hleave (Bytes.ofLength 5)
    (hfield ▸ List.mem_cons_self)
  rw [hbody, Bytes.ofLength_inj] at htold
  omega

end Exchange
end Gatehouse
