import SiteGate.Http.Service
import SiteGate.Proofs.Http.Guard
import SiteGate.Proofs.Http.StaticFiles

/-!
# Files that the lists name

The gate compares the path of a request with the restricted and the excluded paths as it is written,
and the file service finds the file by rules of its own. So a list keeps a file from the requests
whose path is the file's own, which are refused (`not_admitted_of_listed`). It keeps it from all
other requests as well (`listed_not_served`), but for one kind: those that come to the file by a
detour, over another path that leads to it and that no list names. The path of one slash, which
stands for an index file, is such a detour (`detour_of_index`, `not_listed_not_served`), and a path
that spells names, without escapes, never is (`not_detour_of_spelling`).

All of this holds for every file service, whatever times its files were written at.
-/

set_option autoImplicit false

namespace SiteGate.Http

open Config (Snapshot)
open SiteGate.Path (IsName below)

/-- A list names a file: an entry of the restricted or of the excluded paths is the path that spells
the names of the file, up to upper and lower case. -/
def Listed (s : Snapshot) (names : List Text) : Prop :=
  ∃ entry ∈ s.urlPaths.restrict ++ s.urlPaths.exclude,
    Text.lower entry = Text.lower (spelling names)

/-- Names lead from the public directory of a site to a file. -/
structure PublicFile (e : Engine) (names : List Text) (place : Place) (content : Bytes) : Prop where
  ne_nil : names ≠ []
  isName : ∀ n ∈ names, IsName n
  resolve : e.files.resolve (below e.publicFiles names) = .ok place
  file : e.files.at? place = some (.file content)

/-- A request comes to the file at a place by a detour: the file is read for it although the
request's path does not spell the names of the file, and no list names the request's path. -/
structure Detour (f : FileService) (e : Engine) (r : Incoming) (names : List Text)
    (place : Place) : Prop where
  reads : ∃ q, f.file? e.files e.publicFiles r.uri.path = some q ∧ e.files.resolve q = .ok place
  other : r.uri.path ≠ spelling names
  restrict : Gate.lists e.store.snapshot.urlPaths.restrict (Text.lower r.uri.path) = false
  exclude : Gate.lists e.store.snapshot.urlPaths.exclude (Text.lower r.uri.path) = false

/-- The answer to a request is not about a file: it is the same whatever the file holds, and with
the status 200 it has no content, or that of a file at another place. -/
structure NotServed (f : FileService) (e : Engine) (r : Incoming) (place : Place) : Prop where
  same : ∀ other, ({ e with files := e.files.put place (.file other) }.serveBy f.answer r).1 =
    (e.serveBy f.answer r).1
  elsewhere : (e.serveBy f.answer r).1.status = 200 →
    (e.serveBy f.answer r).1.body = [] ∨
      ∃ q, q ≠ place ∧ e.files.at? q = some (.file (e.serveBy f.answer r).1.body)

/-! ## The answer of a site -/

/-- The site answers with what the guard says, or else with what the file service says; where the
target has no path, what must have no content loses it here. -/
theorem serveBy_eq (service : Tree → Path → Incoming → Answer) (e : Engine) (r : Incoming) :
    (e.serveBy service r).1 =
      let a := (guard e.store.snapshot r).answer?.getD (service e.files e.publicFiles r)
      if r.uri.isRooted then a else a.sentFor r.method := rfl

/-- What is sent for a request is an answer as it is, or without its content. -/
theorem sentFor_cases (method : Text) (a : Answer) :
    a.sentFor method = { a with body := [] } ∨ a.sentFor method = a := by
  unfold Answer.sentFor
  split
  · exact .inl rfl
  · exact .inr rfl

/-- An answer of the guard with the status 200 has no content. -/
theorem body_of_guard {s : Snapshot} {r : Incoming} {a : Answer}
    (h : (guard s r).answer? = some a) (hstatus : a.status = 200) : a.body = [] := by
  cases hguard : guard s r with
  | blocked =>
    rw [hguard] at h
    exact congrArg Answer.body (Option.some.inj h).symm
  | maintenance =>
    rw [hguard] at h
    obtain rfl := Option.some.inj h
    exact absurd hstatus (by decide : 503 ≠ 200)
  | asked v =>
    rw [hguard] at h
    cases v with
    | allowed => cases h
    | denied status => exact congrArg Answer.body (Option.some.inj h).symm
    | redirected location =>
      obtain rfl := Option.some.inj h
      exact absurd hstatus (status_redirect location)

/-! ## Files that are kept -/

section

variable {f : FileService} {e : Engine} {r : Incoming} {s : Snapshot} {names : List Text} {place : Place}
  {content : Bytes}

/-- An entry that is a path but for the case of its letters does not begin as an error does. -/
theorem not_errorMark_of_lower {entry : Text} (hne : names ≠ [])
    (h : Text.lower entry = Text.lower (spelling names)) : ¬ Config.errorMark <+: entry := by
  rintro ⟨tail, rfl⟩
  obtain ⟨n, rest, rfl⟩ := List.exists_cons_of_ne_nil hne
  -- both first characters are their own lower case, and nothing before them is cased
  have hmark : (Text.lower (Config.errorMark ++ tail)).head? = some '~' := rfl
  have hslash : (Text.lower (spelling (n :: rest))).head? = some '/' := rfl
  rw [h, hslash] at hmark
  exact absurd hmark (by decide)

/-- A request for the path of a file that a list names is not admitted. -/
theorem not_admitted_of_listed {request : Gate.Request} (hne : names ≠ []) (hlisted : Listed s names)
    (hpath : request.path = spelling names) : ¬ Gate.Admitted s request := by
  intro hadmitted
  obtain ⟨entry, hentry, hlower⟩ := hlisted
  have hmark := not_errorMark_of_lower hne hlower
  rw [← hpath] at hlower
  have hlists : ∀ entries, entry ∈ entries →
      Gate.lists entries (Text.lower request.path) = true := fun _ h =>
    Gate.lists_eq_true_iff.mpr ⟨entry, h, hmark, hlower⟩
  obtain hrestrict | hexclude := List.mem_append.mp hentry
  · exact absurd (hlists _ hrestrict) (by simp [hadmitted.restrict])
  · exact absurd (hlists _ hexclude) (by simp [hadmitted.exclude])

/-- A request that the guard does not answer is one that the gate allows. -/
theorem allowed_of_passed (h : (guard s r).answer? = none) : Gate.verdict s r.view = .allowed :=
  verdict_of_asked (answer?_eq_none_iff.mp h)

/-- A request that passes is answered from a file that a list names only if it comes to it by a
detour. -/
theorem resolve_ne_of_passed (hfile : PublicFile e names place content)
    (hlisted : Listed e.store.snapshot names) (hdirect : ¬ Detour f e r names place)
    (hpassed : (guard e.store.snapshot r).answer? = none) {q : Path}
    (hq : f.file? e.files e.publicFiles r.uri.path = some q) : e.files.resolve q ≠ .ok place := by
  intro hresolve
  have hadmitted := Gate.admitted_of_allowed (allowed_of_passed hpassed)
  refine hdirect ⟨⟨q, hq, hresolve⟩, fun hpath => ?_, hadmitted.restrict, hadmitted.exclude⟩
  exact not_admitted_of_listed hfile.ne_nil hlisted hpath hadmitted

/-- An answer with the status 200, of the guard or else of the file service, is not the file. -/
theorem body_of_answer (hfile : PublicFile e names place content)
    (hlisted : Listed e.store.snapshot names) (hdirect : ¬ Detour f e r names place) {a : Answer}
    (ha : (guard e.store.snapshot r).answer?.getD (f.answer e.files e.publicFiles r) = a)
    (hstatus : a.status = 200) :
    a.body = [] ∨ ∃ q, q ≠ place ∧ e.files.at? q = some (.file a.body) := by
  cases hanswer : (guard e.store.snapshot r).answer? with
  | some own =>
    rw [hanswer] at ha
    obtain rfl : own = a := ha
    exact .inl (body_of_guard hanswer hstatus)
  | none =>
    rw [hanswer] at ha
    obtain rfl : f.answer e.files e.publicFiles r = a := ha
    refine (f.body hstatus).imp_right ?_
    rintro ⟨q, hq, hnode⟩
    obtain ⟨found, hresolve, hat⟩ := Tree.exists_of_node_file hnode
    refine ⟨found, ?_, hat⟩
    rintro rfl
    exact resolve_ne_of_passed hfile hlisted hdirect hanswer hq hresolve

/-- A path that spells names, without escapes, is no detour. -/
theorem not_detour_of_spelling (hfile : PublicFile e names place content) {names' : List Text}
    (hne : names' ≠ []) (hnames : ∀ n ∈ names', IsName n) (hplain : '%' ∉ spelling names')
    (hpath : r.uri.path = spelling names') : ¬ Detour f e r names place := by
  rintro ⟨⟨q, hq, hresolve⟩, hother, -, -⟩
  rw [hpath, f.named hne hnames hplain] at hq
  split at hq
  · cases hq
  · obtain rfl := Option.some.inj hq
    -- one place has one list of names, so the request asks for the path that the list holds
    obtain rfl : names' = names :=
      Tree.names_eq_of_resolve hfile.ne_nil hfile.isName hne hnames hfile.resolve hresolve
    exact hother hpath

/-- The path of one slash is a detour to the index file, unless a list names that path as well. -/
theorem detour_of_index (hdirectory : e.files.node e.publicFiles = .ok .directory)
    (hfile : PublicFile e ["index.html".toList] place content) (hpath : r.uri.path = ['/'])
    (hrestrict : Gate.lists e.store.snapshot.urlPaths.restrict ['/'] = false)
    (hexclude : Gate.lists e.store.snapshot.urlPaths.exclude ['/'] = false) :
    Detour f e r ["index.html".toList] place := by
  refine ⟨⟨_, hpath ▸ f.index hdirectory, hfile.resolve⟩, ?_, ?_, ?_⟩
  · rw [hpath]
    decide
  · rw [hpath]
    exact hrestrict
  · rw [hpath]
    exact hexclude

/-- A file that a list names is not served to a request that does not come to it by a detour. -/
theorem listed_not_served (hfile : PublicFile e names place content)
    (hlisted : Listed e.store.snapshot names) (hdirect : ¬ Detour f e r names place) :
    NotServed f e r place := by
  constructor
  · intro other
    have hpublic : ({ e with files := e.files.put place (.file other) } : Engine).publicFiles =
        e.publicFiles := rfl
    rw [serveBy_eq, serveBy_eq, hpublic]
    cases hanswer : (guard e.store.snapshot r).answer? with
    | some a => rfl
    | none =>
      have hserve : f.answer (e.files.put place (.file other)) e.publicFiles r =
          f.answer e.files e.publicFiles r :=
        f.congr (Tree.isDirectory_put_file hfile.file other) fun q hq =>
          Tree.node_put_file hfile.file other
            (resolve_ne_of_passed hfile hlisted hdirect hanswer hq)
      simp only [hserve]
  · rw [serveBy_eq]
    dsimp only
    split
    · exact body_of_answer hfile hlisted hdirect rfl
    · obtain hsent | hsent := sentFor_cases r.method
        ((guard e.store.snapshot r).answer?.getD (f.answer e.files e.publicFiles r))
      · rw [hsent]
        exact fun _ => .inl rfl
      · rw [hsent]
        exact body_of_answer hfile hlisted hdirect rfl

end

/-- A site with an index file that is among its excluded paths. -/
def indexSite : Tree :=
  ⟨[(["w".toList], .directory), (["w".toList, "appdata".toList], .directory),
    (["w".toList, "appdata".toList, ".cfg".toList], .directory),
    (["w".toList, "appdata".toList, ".cfg".toList, ".all".toList],
      .file (["HTTP\n", "allowed-methods GET\n", "URLPaths\n",
        "exclude-paths /index.html"].flatMap fun line => Text.encode line.toList)),
    (["w".toList, "wwwroot".toList], .directory),
    (["w".toList, "wwwroot".toList, "index.html".toList], .file (Text.encode "draft".toList))]⟩

/-- That site, running. -/
def indexEngine : Except FileFailure Engine :=
  (Engine.openAt indexSite .none "w".toList .standard false).1

/-- The names that lead to its index file. -/
def indexNames : List Text := ["index.html".toList]

/-- The place of its index file. -/
def indexPlace : Place := ["w".toList, "wwwroot".toList, "index.html".toList]

/-- A visitor's request for a path. -/
def visit (path : String) : Incoming :=
  ⟨"GET".toList, ⟨none, none, path.toList, none⟩, [], .v4 ⟨203, 0, 113, 7⟩ 40000⟩

/-- A list of that site names the index file, and a visitor of the site is shown the file. -/
theorem exists_indexEngine : ∃ e, indexEngine = .ok e ∧
    PublicFile e indexNames indexPlace (Text.encode "draft".toList) ∧
    Listed e.store.snapshot indexNames ∧
    (e.serve (visit "/")).1.status = 200 ∧
    (e.serve (visit "/")).1.body = Text.encode "draft".toList := by
  have hopen : indexEngine.toOption.any (fun e => decide
      ((e.files.resolve (below e.publicFiles indexNames)).toOption = some indexPlace ∧
        e.files.at? indexPlace = some (.file (Text.encode "draft".toList)) ∧
        spelling indexNames ∈ e.store.snapshot.urlPaths.exclude ∧
        (e.serve (visit "/")).1.status = 200 ∧
        (e.serve (visit "/")).1.body = Text.encode "draft".toList)) = true := by
    decide +kernel
  obtain ⟨e, he, hfacts⟩ := (Option.any_eq_true _ _).mp hopen
  obtain ⟨hresolve, hfile, hexclude, hstatus, hbody⟩ := of_decide_eq_true hfacts
  have hname : ∀ n ∈ indexNames, IsName n := by
    intro n hn
    obtain rfl := List.mem_singleton.mp hn
    exact ⟨by decide, by decide, by decide, by decide⟩
  exact ⟨e, toOption_eq_some_iff.mp he,
    ⟨by decide, hname, toOption_eq_some_iff.mp hresolve, hfile⟩,
    ⟨_, List.mem_append_right _ hexclude, rfl⟩, hstatus, hbody⟩

/-- The index file of that site is kept from a visitor who asks for it by its own path. -/
theorem listed_not_served_index : ∃ e, indexEngine = .ok e ∧
    PublicFile e indexNames indexPlace (Text.encode "draft".toList) ∧
    Listed e.store.snapshot indexNames ∧
    ¬ Detour (siteFiles fun _ => Engine.dayOfFiles) e (visit "/index.html") indexNames indexPlace ∧
    NotServed (siteFiles fun _ => Engine.dayOfFiles) e (visit "/index.html") indexPlace := by
  obtain ⟨e, hopen, hfile, hlisted, -⟩ := exists_indexEngine
  have hdirect : ¬ Detour (siteFiles fun _ => Engine.dayOfFiles) e (visit "/index.html")
      indexNames indexPlace :=
    not_detour_of_spelling hfile hfile.ne_nil hfile.isName (by decide) (by decide +kernel)
  exact ⟨e, hopen, hfile, hlisted, hdirect, listed_not_served hfile hlisted hdirect⟩

/-- A file that a list names may be shown to visitors. -/
theorem not_listed_not_served :
    ¬ ∀ (files : Tree) (metrics : Metrics) (root : Path) (settings : Config.Settings)
      (concurrent : Bool) (e : Engine) (names : List Text) (place : Place) (content : Bytes)
      (r : Incoming), (Engine.openAt files metrics root settings concurrent).1 = .ok e →
      PublicFile e names place content → Listed e.store.snapshot names →
      ¬ ((e.serve r).1.status = 200 ∧ (e.serve r).1.body = content) := by
  intro h
  obtain ⟨e, hopen, hfile, hlisted, hserved⟩ := exists_indexEngine
  exact h _ _ _ _ _ e _ _ _ (visit "/") hopen hfile hlisted hserved

end SiteGate.Http
