/-
# A mount stays below its root

A mount decides on the text of the parameter alone whether it looks at the disk at all
(`Mount.offence?`), and if it does, it looks below its root alone (`Mount.consulted`): at the place
that the parameter names and at the index names there.

* `Mount.serve_of_offence`: **a forbidden step is refused, whatever is on the disk**;
* `Mount.serve_congr`: **disks that agree on the locations consulted are answered alike**;
* `Mount.serve_confined`: both, with where those locations lie and what each answer is: a regular
  file is answered with its content as long as the date of its last change can be written.
-/
import Gatehouse.Proofs.Context.Answer
import Gatehouse.Proofs.Path.Resolve
import Mathlib.Data.List.Find

namespace Gatehouse

/-! ## 1. Locations below another -/

namespace Disk

/-- What stands between a base and what is put below it. -/
def joint (base : String) : String := if base = "" ∨ Path.endsInSlash base then "" else "/"

/-- What is not rooted never takes the place of the base. -/
theorem below_eq {relative : String} (h : Path.isRooted relative = false) (base : String) :
    below base relative = base ++ joint base ++ relative := by
  unfold below joint
  rw [if_neg (by simp [h])]
  split
  · rw [String.append_empty]
  · rfl

/-- A location that ends in a slash is one with a slash put behind it. -/
theorem exists_of_endsInSlash {base : String} (h : Path.endsInSlash base = true) :
    ∃ b, base = b ++ "/" := by
  obtain ⟨cs, hcs⟩ : ∃ cs, base.toList = cs ++ ['/'] := by
    simpa [Path.endsInSlash, List.getLast?_eq_some_iff] using h
  refine ⟨String.ofList cs, ?_⟩
  rw [← String.toList_inj, String.toList_append, String.toList_ofList, hcs]
  rfl

/-- The names below a base come behind those of the base, whatever slash stands between. -/
theorem names_joint (base relative : String) :
    Path.names (base ++ joint base ++ relative) = Path.names base ++ Path.names relative := by
  unfold joint
  split
  · rename_i h
    rw [String.append_empty]
    rcases h with rfl | h
    · simp
    · obtain ⟨b, rfl⟩ := exists_of_endsInSlash h
      rw [Path.names_append, Path.names_append_slash]
  · exact Path.names_append base relative

theorem steps_below {relative : String} (h : Path.isRooted relative = false) (base : String) :
    steps (below base relative) = steps base ++ steps relative := by
  rw [below_eq h, steps, names_joint, List.filter_append]
  rfl

theorem isRooted_of_isProper {name : String} (h : Path.IsProper name) :
    Path.isRooted name = false := by
  rw [Path.isRooted, decide_eq_false_iff_not]
  exact fun hfirst => h.isName.2 (List.mem_of_head? hfirst)

theorem steps_of_isProper {name : String} (h : Path.IsProper name) : steps name = [name] := by
  rw [steps, Path.names_of_isName h.isName]
  simp [h.ne_dot]

end Disk

namespace Mount

theorem isRooted_relative (requested : String) : Path.isRooted (relative requested) = false := by
  rw [Path.isRooted, decide_eq_false_iff_not, relative, String.toList_ofList]
  intro hfirst
  have hslash := List.head?_dropWhile_not (· = '/') requested.toList
  rw [hfirst] at hslash
  simp at hslash

theorem names_ofList_dropWhile (cs : List Char) :
    Path.names (String.ofList (cs.dropWhile (· = '/'))) = Path.names (String.ofList cs) := by
  induction cs with
  | nil => rfl
  | cons c cs ih =>
    by_cases hc : c = '/'
    · subst hc
      have hcons : String.ofList ('/' :: cs) = "/" ++ String.ofList cs := by
        rw [← String.toList_inj, String.toList_append]
        simp
      rw [List.dropWhile_cons_of_pos (by simp), ih, hcons, Path.names_slash_append]
    · rw [List.dropWhile_cons_of_neg (by simpa using hc)]

/-- The slashes in front of a parameter lead nowhere. -/
theorem steps_relative (requested : String) :
    Disk.steps (relative requested) = Disk.steps requested := by
  rw [Disk.steps, relative, names_ofList_dropWhile, String.ofList_toList]
  rfl

/-! ## 2. What is looked at -/

/-- A step that is never served: one that climbs, or one to something hidden. -/
def forbids (m : Mount) (step : String) : Bool :=
  step = ".." || (!m.servesHidden && step.toList.head? = some '.')

/-- The first step of a parameter that is never served. -/
def offence? (m : Mount) (requested : String) : Option String :=
  (Disk.steps requested).find? m.forbids

/-- Why a step is not served. -/
def reason (step : String) : Refusal := if step = ".." then .traversal else .hidden

/-- The place that a parameter names below the root. -/
def place (m : Mount) (requested : String) : String := Disk.below m.root (relative requested)

/-- The locations that a mount may look at for a parameter: the place and the index names there. -/
def consulted (m : Mount) (requested : String) : List String :=
  m.place requested :: m.indexNames.map (Disk.below (m.place requested))

/-- A step is judged by what it is alone. -/
theorem judge_eq (m : Mount) (step : String) :
    m.judge step = if m.forbids step then some (reason step) else none := by
  unfold judge forbids reason
  by_cases hclimbs : step = ".."
  · simp [hclimbs]
  · simp [hclimbs]

theorem findSome?_judge (m : Mount) (requested : String) :
    (Disk.steps (relative requested)).findSome? m.judge =
      (m.offence? requested).map reason := by
  rw [steps_relative, offence?]
  induction Disk.steps requested with
  | nil => rfl
  | cons step steps ih =>
    rw [List.findSome?_cons, List.find?_cons, judge_eq]
    cases m.forbids step with
    | true => rfl
    | false => exact ih

/-- **A forbidden step is refused before anything is looked at.** -/
theorem resolve_of_offence {m : Mount} {requested step : String}
    (h : m.offence? requested = some step) (d : Disk) :
    m.resolve d requested = .error (reason step) := by
  simp only [resolve, findSome?_judge, h, Option.map_some]

/-- Without a forbidden step the disk decides. -/
theorem resolve_of_allowed {m : Mount} {requested : String} (h : m.offence? requested = none)
    (d : Disk) :
    m.resolve d requested =
      match d.stat? (m.place requested) with
      | none => .error .notFound
      | some s =>
        if s.kind = .folder then
          match (m.indexNames.map (Disk.below (m.place requested))).find? d.isRegular with
          | some page => .ok page
          | none => .error .noIndex
        else .ok (m.place requested) := by
  simp only [resolve, findSome?_judge, h, Option.map_none]
  rfl

section
variable {m : Mount} {requested : String} {d : Disk} {s : FileStat}
  (hallowed : m.offence? requested = none)
include hallowed

theorem resolve_missing (hstat : d.stat? (m.place requested) = none) :
    m.resolve d requested = .error .notFound := by
  rw [resolve_of_allowed hallowed, hstat]

theorem resolve_entry (hstat : d.stat? (m.place requested) = some s) (hkind : s.kind ≠ .folder) :
    m.resolve d requested = .ok (m.place requested) := by
  rw [resolve_of_allowed hallowed, hstat]
  exact if_neg hkind

/-- A folder stands for the first of its index names that is a regular file. -/
theorem resolve_indexed (hstat : d.stat? (m.place requested) = some s) (hkind : s.kind = .folder)
    {before behind : List String} {name : String} (hnames : m.indexNames = before ++ name :: behind)
    (hbefore : ∀ n ∈ before, d.isRegular (Disk.below (m.place requested) n) = false)
    (hname : d.isRegular (Disk.below (m.place requested) name) = true) :
    m.resolve d requested = .ok (Disk.below (m.place requested) name) := by
  have hfind : (m.indexNames.map (Disk.below (m.place requested))).find? d.isRegular =
      some (Disk.below (m.place requested) name) := by
    rw [List.find?_eq_some_iff_append, hnames, List.map_append, List.map_cons]
    refine ⟨hname, _, _, rfl, ?_⟩
    intro page hpage
    obtain ⟨n, hn, rfl⟩ := List.mem_map.mp hpage
    simp [hbefore n hn]
  rw [resolve_of_allowed hallowed, hstat]
  simp only [if_pos hkind, hfind]

theorem resolve_unindexed (hstat : d.stat? (m.place requested) = some s) (hkind : s.kind = .folder)
    (hnone : ∀ n ∈ m.indexNames, d.isRegular (Disk.below (m.place requested) n) = false) :
    m.resolve d requested = .error .noIndex := by
  have hfind : (m.indexNames.map (Disk.below (m.place requested))).find? d.isRegular = none := by
    rw [List.find?_eq_none]
    intro page hpage
    obtain ⟨n, hn, rfl⟩ := List.mem_map.mp hpage
    simp [hnone n hn]
  rw [resolve_of_allowed hallowed, hstat]
  simp only [if_pos hkind, hfind]

end

theorem mem_consulted_of_resolve {m : Mount} {requested location : String} {d : Disk}
    (h : m.resolve d requested = .ok location) : location ∈ m.consulted requested := by
  cases hoffence : m.offence? requested with
  | some step =>
    rw [resolve_of_offence hoffence] at h
    cases h
  | none =>
    rw [resolve_of_allowed hoffence] at h
    split at h
    · cases h
    · split at h
      · split at h
        · rename_i hpage
          cases h
          exact List.mem_cons_of_mem _ (List.mem_of_find?_eq_some hpage)
        · cases h
      · cases h
        exact List.mem_cons_self

/-- Two disks that show the same at every location that a mount may look at. -/
def Agree (m : Mount) (requested : String) (d d' : Disk) : Prop :=
  ∀ p ∈ m.consulted requested, d.stat? p = d'.stat? p ∧ d.read? p = d'.read? p

theorem resolve_congr {m : Mount} {requested : String} {d d' : Disk}
    (h : m.Agree requested d d') : m.resolve d requested = m.resolve d' requested := by
  cases hoffence : m.offence? requested with
  | some step => rw [resolve_of_offence hoffence, resolve_of_offence hoffence]
  | none =>
    have hplace := (h _ List.mem_cons_self).1
    have hpages : (m.indexNames.map (Disk.below (m.place requested))).find? d.isRegular =
        (m.indexNames.map (Disk.below (m.place requested))).find? d'.isRegular := by
      refine List.find?_congr fun page hpage => ?_
      simp only [Disk.isRegular, (h page (List.mem_cons_of_mem _ hpage)).1]
    rw [resolve_of_allowed hoffence, resolve_of_allowed hoffence, hplace, hpages]

/-! ## 3. What is answered -/

/-- The parameter that a context carries for a mount. -/
def requested (c : Context) : String := (c.param? parameterName).getD ""

theorem serve_of_ok {m : Mount} {d : Disk} {c : Context} {location : String}
    (h : m.resolve d (requested c) = .ok location) : m.serve d c = c.writeFile d location := by
  rw [serve, ← requested, h]

theorem serve_of_error {m : Mount} {d : Disk} {c : Context} {refusal : Refusal}
    (h : m.resolve d (requested c) = .error refusal) :
    m.serve d c = .ok (c.writeText refusal.status refusal.message) := by
  rw [serve, ← requested, h]

/-- **A forbidden step is answered the same on every disk.** -/
theorem serve_of_offence {m : Mount} {c : Context} {step : String}
    (h : m.offence? (requested c) = some step) (d : Disk) :
    m.serve d c = .ok (c.writeText 403 (reason step).message) := by
  have hstatus : (reason step).status = 403 := by
    unfold reason
    split <;> rfl
  rw [serve_of_error (resolve_of_offence h d), hstatus]

/-- **Disks that agree on the locations consulted are answered alike.** -/
theorem serve_congr {m : Mount} {c : Context} {d d' : Disk} (h : m.Agree (requested c) d d') :
    m.serve d c = m.serve d' c := by
  have hresolve := resolve_congr h
  cases hfound : m.resolve d (requested c) with
  | ok location =>
    obtain ⟨hstat, hread⟩ := h _ (mem_consulted_of_resolve hfound)
    rw [serve_of_ok hfound, serve_of_ok (hresolve.symm.trans hfound)]
    exact Context.writeFile_congr hstat hread c
  | error refusal => rw [serve_of_error hfound, serve_of_error (hresolve.symm.trans hfound)]

/-- What it means that a mount serves what is below its root and nothing else, for one context. -/
structure Confined (m : Mount) (c : Context) : Prop where
  /-- The first forbidden step decides, whatever is on the disk. -/
  refused : ∀ step, m.offence? (requested c) = some step → ∀ d, m.serve d c = .ok (c.writeText 403
    (if step = ".." then "403 forbidden: directory traversal not allowed"
      else "403 forbidden: hidden files not allowed"))
  /-- The place is the root with the parameter put behind it. -/
  place : m.place (requested c) = m.root ++ Disk.joint m.root ++ relative (requested c) ∧
    Disk.steps (m.place (requested c)) = Disk.steps m.root ++ Disk.steps (requested c)
  /-- An index page is one step below the place. -/
  page : ∀ name ∈ m.indexNames,
    Disk.below (m.place (requested c)) name =
        m.place (requested c) ++ Disk.joint (m.place (requested c)) ++ name ∧
      Disk.steps (Disk.below (m.place (requested c)) name) =
        Disk.steps (m.place (requested c)) ++ [name]
  /-- Nothing but the place and its index pages is looked at. -/
  consults : ∀ d d', m.Agree (requested c) d d' → m.serve d c = m.serve d' c
  missing : m.offence? (requested c) = none → ∀ d, d.stat? (m.place (requested c)) = none →
    m.serve d c = .ok (c.writeText 404 "404 page not found")
  entry : m.offence? (requested c) = none → ∀ d s, d.stat? (m.place (requested c)) = some s →
    s.kind ≠ .folder → m.serve d c = c.writeFile d (m.place (requested c))
  /-- A folder is answered with the first of its index names that is a regular file. -/
  indexed : m.offence? (requested c) = none → ∀ d s, d.stat? (m.place (requested c)) = some s →
    s.kind = .folder → ∀ before name behind, m.indexNames = before ++ name :: behind →
    (∀ n ∈ before, d.isRegular (Disk.below (m.place (requested c)) n) = false) →
    d.isRegular (Disk.below (m.place (requested c)) name) = true →
    m.serve d c = c.writeFile d (Disk.below (m.place (requested c)) name)
  unindexed : m.offence? (requested c) = none → ∀ d s, d.stat? (m.place (requested c)) = some s →
    s.kind = .folder →
    (∀ n ∈ m.indexNames, d.isRegular (Disk.below (m.place (requested c)) n) = false) →
    m.serve d c = .ok (c.writeText 403 "403 forbidden: directory index is forbidden")
  /-- A regular file is answered with its content, if the date of its last change can be written. -/
  found : ∀ d location s content, d.stat? location = some s → s.kind = .regular →
    d.read? location = some content → s.HasDate →
    c.writeFile d location = .ok { c with response := c.fileResponse location s content }
  /-- It can be written for the years from 1970 to 9999.  Otherwise the handler panics, and nothing
  is served. -/
  undated : ∀ d location s content, d.stat? location = some s → s.kind = .regular →
    d.read? location = some content → ¬ s.HasDate → ∃ t why, s.modified? = some t ∧
      Calendar.httpDate t = .error why ∧ c.writeFile d location = .error (.text why.message)
  unreadable : ∀ d location s, d.stat? location = some s → s.kind = .regular →
    d.read? location = none →
    c.writeFile d location = .ok (c.writeText 500 "500 internal server error")
  notRegular : ∀ d location, d.isRegular location = false →
    c.writeFile d location = .ok (c.writeText 404 "404 page not found")

/-- **A mount is confined to its root.** -/
theorem serve_confined {m : Mount} (hindex : ∀ name ∈ m.indexNames, Path.IsProper name)
    (c : Context) : m.Confined c where
  refused step hoffence d := by
    rw [serve_of_offence hoffence d, reason]
    split <;> rfl
  place := by
    have hrelative := isRooted_relative (requested c)
    refine ⟨Disk.below_eq hrelative m.root, ?_⟩
    rw [Mount.place, Disk.steps_below hrelative, steps_relative]
  page name hname := by
    have hproper := hindex name hname
    have hrelative := Disk.isRooted_of_isProper hproper
    refine ⟨Disk.below_eq hrelative _, ?_⟩
    rw [Disk.steps_below hrelative, Disk.steps_of_isProper hproper]
  consults d d' := serve_congr
  missing hallowed d hstat := serve_of_error (resolve_missing hallowed hstat)
  entry hallowed d s hstat hkind := serve_of_ok (resolve_entry hallowed hstat hkind)
  indexed hallowed d s hstat hkind before name behind hnames hbefore hname :=
    serve_of_ok (resolve_indexed hallowed hstat hkind hnames hbefore hname)
  unindexed hallowed d s hstat hkind hnone :=
    serve_of_error (resolve_unindexed hallowed hstat hkind hnone)
  found d location s content hstat hkind hread hdate :=
    Context.writeFile_eq hstat hkind hread hdate c
  undated d location s content hstat hkind hread hdate := by
    obtain ⟨t, why, hmodified, hwhy⟩ := FileStat.undated_of_not_hasDate hdate
    have hpanic : s.panic? = some (.text why.message) := by simp [FileStat.panic?, hmodified, hwhy]
    exact ⟨t, why, hmodified, hwhy, Context.writeFile_undated hstat hkind hread hpanic c⟩
  unreadable d location s hstat hkind hread := Context.writeFile_unreadable hstat hkind hread c
  notRegular d location h := Context.writeFile_notRegular h c

/-- A mount without hidden files that knows two names of index pages. -/
def pages : Mount := ⟨"site", ["index.html", "index.htm"], false⟩

/-- A context that asks a mount for what a parameter names. -/
def asking (parameter : String) : Context :=
  (Context.fresh ⟨0, 0, 0⟩ ⟨Method.GET, "/", [], []⟩).meet "/*filepath"
    [(parameterName, parameter)] []

/-- A disk on which only the second index page is a file, last changed in 1994. -/
def pagesDisk : Disk where
  stat? p :=
    if p = "site/docs/" then some ⟨.folder, 0, some 0⟩
    else if p = "site/docs/index.html" then some ⟨.folder, 0, some 0⟩
    else if p = "site/docs/index.htm" then some ⟨.regular, 2, some 784111777000000000⟩
    else none
  read? p := if p = "site/docs/index.htm" then some [104, 105] else none

/-- The second page is served with its content, and climbing out is refused on every disk. -/
theorem serve_confined_pages :
    (∀ name ∈ pages.indexNames, Path.IsProper name) ∧
      (∃ c, pages.serve pagesDisk (asking "//docs/") = .ok c ∧ c.response.status = 200 ∧
        c.response.body = [104, 105]) ∧
      ∀ d, ∃ c, pages.serve d (asking "docs/.x/../../secret") = .ok c ∧
        c.response.status = 403 := by
  have hindex : ∀ name ∈ pages.indexNames, Path.IsProper name := by
    intro name hname
    simp only [pages, List.mem_cons, List.not_mem_nil, or_false] at hname
    rcases hname with rfl | rfl
    · exact ⟨⟨by decide, by decide⟩, by decide, by decide⟩
    · exact ⟨⟨by decide, by decide⟩, by decide, by decide⟩
  have hserve : pages.serve pagesDisk (asking "//docs/") =
      (asking "//docs/").writeFile pagesDisk "site/docs/index.htm" :=
    (serve_confined hindex (asking "//docs/")).indexed rfl pagesDisk ⟨.folder, 0, some 0⟩ rfl rfl
      ["index.html"] "index.htm" [] rfl (fun n hn => by rw [List.mem_singleton.mp hn]; rfl) rfl
  have hdate : FileStat.HasDate ⟨.regular, 2, some 784111777000000000⟩ := by
    rintro t ⟨⟩
    exact ⟨by decide, by decide⟩
  have hfound := (serve_confined hindex (asking "//docs/")).found pagesDisk "site/docs/index.htm"
    ⟨.regular, 2, some 784111777000000000⟩ [104, 105] rfl rfl rfl hdate
  refine ⟨hindex, ⟨_, hserve.trans hfound, rfl, rfl⟩, fun d => ?_⟩
  refine ⟨_, (serve_confined hindex (asking "docs/.x/../../secret")).refused ".x" rfl d, ?_⟩
  rw [Context.writeText_eq]

end Mount
end Gatehouse
