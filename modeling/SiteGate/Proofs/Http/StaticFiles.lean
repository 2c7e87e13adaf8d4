import SiteGate.Http.StaticFiles
import SiteGate.Proofs.Files.Below
import SiteGate.Proofs.Text.Utf8

/-!
# What the file service reads

A request is answered from at most one file, whose path depends on the path of the request and on
where directories are (`servedPath?`). If a path spells names, a slash before each and no percent
sign among them, it is the file that these names lead to (`filePath?_spelling`). Two trees that
agree about directories and about that file give the same answer (`serveFile_congr`), and an answer
with the status 200 has no content or the content of that file (`body_of_serveFile`).
-/

set_option autoImplicit false

namespace SiteGate.Http

open SiteGate.Path (Component IsName below)

/-! ## Paths that spell names -/

/-- The path of a request that spells names: each has a slash before it. -/
def spelling (names : List Text) : Text := names.flatMap ('/' :: ·)

/-- A text without a percent sign has nothing to undo. -/
theorem unescape_of_not_mem {t : Text} (h : '%' ∉ t) : unescape t = Text.encode t := by
  induction t with
  | nil => rfl
  | cons c rest ih =>
    have hc : c ≠ '%' := fun heq => h (by simp [heq])
    have hrest := ih fun hmem => h (List.mem_cons_of_mem _ hmem)
    rw [unescape, hrest]
    · simp [Text.encode]
    · rintro a b more rfl
      exact absurd rfl hc

/-- Names behind a path that ends with a name. -/
theorem below_eq_append (base : Path) {names : List Text} (hnames : ∀ n ∈ names, IsName n)
    (hne : base ≠ []) (hslash : base.getLast? ≠ some '/') :
    below base names = base ++ spelling names := by
  induction names generalizing base with
  | nil => simp [below, spelling]
  | cons n rest ih =>
    have hn := hnames n (List.mem_cons_self ..)
    have hjoin : Path.join base n = base ++ '/' :: n := by simp [Path.join, hne, hslash]
    have hlast : (base ++ '/' :: n).getLast? ≠ some '/' := by
      rw [List.append_cons, List.getLast?_append_of_ne_nil _ hn.ne_nil]
      exact fun h => hn.slash (List.mem_of_getLast? h)
    have hrest := ih (base ++ '/' :: n) (fun m hm => hnames m (List.mem_cons_of_mem _ hm))
      (by simp) hlast
    rw [below, List.foldl_cons, hjoin, ← below, hrest]
    simp [spelling]

/-- A path that spells names does not end with a slash. -/
theorem getLast?_spelling {names : List Text} (hne : names ≠ []) (hnames : ∀ n ∈ names, IsName n) :
    (spelling names).getLast? ≠ some '/' := by
  obtain ⟨init, n, rfl⟩ := (List.eq_nil_or_concat' names).resolve_left hne
  have hn := hnames n (by simp)
  have hlast : (spelling (init ++ [n])).getLast? = n.getLast? := by
    rw [spelling, List.flatMap_append, List.flatMap_singleton, List.append_cons,
      List.getLast?_append_of_ne_nil _ hn.ne_nil]
  rw [hlast]
  exact fun h => hn.slash (List.mem_of_getLast? h)

/-- Joining names one by one gives the path below a directory. -/
theorem foldlM_names {f : Path → Component → Option Path}
    (hf : ∀ p n, f p (.name n) = some (Path.join p n)) (names : List Text) (p : Path) :
    (names.map Component.name).foldlM f p = some (below p names) := by
  induction names generalizing p with
  | nil => rfl
  | cons n rest ih =>
    rw [List.map_cons, List.foldlM_cons, hf]
    exact ih (Path.join p n)

/-- A path that spells names leads to what these names lead to. -/
theorem filePath?_spelling (directory : Path) {names : List Text} (hne : names ≠ [])
    (hnames : ∀ n ∈ names, IsName n) (hplain : '%' ∉ spelling names) :
    filePath? directory (spelling names) = some (below directory names) := by
  obtain ⟨n, rest, rfl⟩ := List.exists_cons_of_ne_nil hne
  have hn := hnames n (List.mem_cons_self ..)
  obtain ⟨c, more, hc⟩ := List.exists_cons_of_ne_nil hn.ne_nil
  have hslash : c ≠ '/' := fun heq => hn.slash (by simp [hc, heq])
  have htail : (spelling (n :: rest)).dropWhile (· = '/') = n ++ spelling rest := by
    simp [spelling, hc, hslash]
  have hread : Text.decode? (unescape (n ++ spelling rest)) = some (n ++ spelling rest) := by
    rw [unescape_of_not_mem, Text.decode?, Text.decode_encode]
    · simp
    · exact fun h => hplain (by simpa [spelling] using h)
  have hhead : (n ++ spelling rest).head? ≠ some '/' := by simp [hc, hslash]
  have hrest : ∀ m ∈ rest, IsName m := fun m hm => hnames m (List.mem_cons_of_mem _ hm)
  have hlast : n.getLast? ≠ some '/' := fun h => hn.slash (List.mem_of_getLast? h)
  have hcomponents : Path.components (n ++ spelling rest) = (n :: rest).map .name := by
    have hfirst : Path.components n = [.name n] := Path.components_join [] hn
    rw [← below_eq_append n hrest hn.ne_nil hlast, Path.components_below n hrest, hfirst]
    rfl
  rw [filePath?, htail, hread, Option.bind_some, if_neg hhead, hcomponents]
  exact foldlM_names (fun _ _ => rfl) (n :: rest) directory

/-! ## The file that is read -/

/-- The path of the file that is read for a request, if it comes to that. -/
def servedPath? (t : Tree) (directory : Path) (requested : Text) : Option Path :=
  (filePath? directory requested).bind fun p =>
    if t.node p = .ok .directory then
      if requested.getLast? = some '/' then some (Path.join p "index.html".toList) else none
    else some p

/-- A request is answered from the file that is read for it, or without a file. -/
theorem serveFile_cases (written : Path → Nat) (t : Tree) (directory : Path) (r : Incoming) :
    (∃ q, servedPath? t directory r.uri.path = some q ∧
      serveFile written t directory r = fileAnswer written t r q) ∨
    serveFile written t directory r = .bare 405 ∨ serveFile written t directory r = .bare 404 ∨
      serveFile written t directory r = slashAnswer r.uri := by
  unfold serveFile servedPath?
  by_cases hmethod : (r.method = "GET".toList || r.method = "HEAD".toList) = true
  · rw [if_pos hmethod]
    cases filePath? directory r.uri.path with
    | none => exact .inr (.inr (.inl rfl))
    | some p =>
      simp only [Option.bind_some, toOption_eq_some_iff]
      by_cases hdirectory : t.node p = .ok .directory
      · simp only [if_pos hdirectory]
        by_cases hslash : r.uri.path.getLast? = some '/'
        · simp only [if_pos hslash]
          exact .inl ⟨_, rfl, rfl⟩
        · exact .inr (.inr (.inr (if_neg hslash)))
      · simp only [if_neg hdirectory]
        exact .inl ⟨p, rfl, rfl⟩
  · rw [if_neg hmethod]
    exact .inr (.inl rfl)

/-- Two trees that agree about directories and about the file that is read give one answer. -/
theorem serveFile_congr {written : Path → Nat} {t t' : Tree} {directory : Path} {r : Incoming}
    (hdirectory : ∀ p, t'.node p = .ok .directory ↔ t.node p = .ok .directory)
    (hfile : ∀ q, servedPath? t directory r.uri.path = some q → t'.node q = t.node q) :
    serveFile written t' directory r = serveFile written t directory r := by
  have hanswer : ∀ q, servedPath? t directory r.uri.path = some q →
      fileAnswer written t' r q = fileAnswer written t r q := by
    intro q hq
    rw [fileAnswer, fileAnswer, hfile q hq]
  unfold servedPath? at hanswer
  unfold serveFile
  cases hpath : filePath? directory r.uri.path with
  | none => rfl
  | some p =>
    simp only [hpath, Option.bind_some] at hanswer
    simp only [toOption_eq_some_iff, hdirectory]
    by_cases hp : t.node p = .ok .directory
    · simp only [if_pos hp] at hanswer ⊢
      by_cases hslash : r.uri.path.getLast? = some '/'
      · simp only [if_pos hslash] at hanswer ⊢
        rw [hanswer _ rfl]
      · simp only [if_neg hslash]
    · simp only [if_neg hp] at hanswer ⊢
      rw [hanswer _ rfl]

/-! ## Answers with the status 200 -/

section

variable {written : Path → Nat} {t : Tree} {r : Incoming} {p : Path}

/-- The whole of what lies at a path is its content, or nothing where none is sent. -/
theorem body_of_bytesAnswer {n : Node} (h : (bytesAnswer r p n 200 0 (sizeOf n)).status = 200) :
    (bytesAnswer r p n 200 0 (sizeOf n)).body = [] ∨
      n = .file (bytesAnswer r p n 200 0 (sizeOf n)).body := by
  cases n with
  | file content =>
    by_cases hhead : r.method = "HEAD".toList
    · exact .inl (if_pos hhead)
    · refine .inr (congrArg Node.file ?_)
      simp only [bytesAnswer, if_neg hhead, sizeOf, List.drop_zero, List.take_length]
  | directory =>
    by_cases hhead : r.method = "HEAD".toList
    · exact .inl (by simp only [bytesAnswer, if_pos hhead])
    · simp only [bytesAnswer, if_neg hhead] at h
      exact absurd h (by decide)

/-- No part of a file is sent with the status 200. -/
theorem status_bytesAnswer_part {n : Node} {first count : Nat} :
    (bytesAnswer r p n 206 first count).status ≠ 200 := by
  cases n with
  | file content => exact (by decide : 206 ≠ 200)
  | directory =>
    by_cases hhead : r.method = "HEAD".toList
    · simp only [bytesAnswer, if_pos hhead]
      decide
    · simp only [bytesAnswer, if_neg hhead]
      decide

/-- An answer that goes by the date alone has no content. -/
theorem body_of_datedAnswer? {time : Nat} {headers : List Header} {a : Answer}
    (h : datedAnswer? time headers = some a) : a.body = [] := by
  unfold datedAnswer? at h
  split at h
  · exact congrArg Answer.body (Option.some.inj h).symm
  · split at h
    · exact congrArg Answer.body (Option.some.inj h).symm
    · cases h

/-- An answer about a file with the status 200 has no content, or that of the file. -/
theorem body_of_fileAnswer (h : (fileAnswer written t r p).status = 200) :
    (fileAnswer written t r p).body = [] ∨ t.node p = .ok (.file (fileAnswer written t r p).body) := by
  unfold fileAnswer at h ⊢
  cases hnode : t.node p with
  | error e =>
    exact .inl rfl
  | ok n =>
    rw [hnode] at h
    cases hdated : datedAnswer? (written p) r.headers with
    | some a => exact .inl (body_of_datedAnswer? hdated)
    | none =>
      simp only [hdated, Option.getD_none, contentAnswer] at h ⊢
      cases hselection : selection r.headers (sizeOf n) with
      | whole =>
        simp only [hselection] at h ⊢
        exact (body_of_bytesAnswer h).imp_right fun hbody => congrArg Except.ok hbody
      | part first last =>
        simp only [hselection] at h
        exact absurd h status_bytesAnswer_part
      | several =>
        simp only [hselection] at h
        exact absurd h (by decide)
      | impossible => exact .inl rfl

end

/-- A redirect has another status than 200. -/
theorem status_redirect (location : Text) : (Answer.redirect location).status ≠ 200 := by
  unfold Answer.redirect
  split
  · exact (by decide : Gate.redirectStatus ≠ 200)
  · exact (by decide : 500 ≠ 200)

/-- A redirect to a path with a slash behind it has another status than 200. -/
theorem status_slashAnswer (u : Uri) : (slashAnswer u).status ≠ 200 := by
  unfold slashAnswer
  split
  · exact status_redirect _
  · exact (by decide : 500 ≠ 200)

/-- An answer of the file service with the status 200 has no content, or that of the file that is
read. -/
theorem body_of_serveFile {written : Path → Nat} {t : Tree} {directory : Path} {r : Incoming}
    (h : (serveFile written t directory r).status = 200) :
    (serveFile written t directory r).body = [] ∨
      ∃ q, servedPath? t directory r.uri.path = some q ∧
        t.node q = .ok (.file (serveFile written t directory r).body) := by
  obtain ⟨q, hq, hanswer⟩ | hanswer | hanswer | hanswer := serveFile_cases written t directory r
  · rw [hanswer] at h ⊢
    exact (body_of_fileAnswer h).imp_right fun hbody => ⟨q, hq, hbody⟩
  · exact .inl (congrArg Answer.body hanswer)
  · exact .inl (congrArg Answer.body hanswer)
  · rw [hanswer] at h
    exact absurd h (status_slashAnswer r.uri)

/-! ## File services -/

/-- A service that answers requests with the files of a directory. Each request is answered from one
file at most; what the answer says depends on no other file, and with the status 200 it has no
content or that of the file. The path of one slash is answered with the index file of the directory,
and a path that spells names, without escapes, with the file that they lead to, or with none if they
lead to a directory. -/
structure FileService where
  /-- The answer to a request, from the files and a directory of them. -/
  answer : Tree → Path → Incoming → Answer
  /-- The path of the file that is read for the path of a request, if it comes to that. -/
  file? : Tree → Path → Text → Option Path
  congr : ∀ {t t' : Tree} {directory : Path} {r : Incoming},
    (∀ p, t'.node p = .ok .directory ↔ t.node p = .ok .directory) →
    (∀ q, file? t directory r.uri.path = some q → t'.node q = t.node q) →
    answer t' directory r = answer t directory r
  body : ∀ {t : Tree} {directory : Path} {r : Incoming}, (answer t directory r).status = 200 →
    (answer t directory r).body = [] ∨ ∃ q, file? t directory r.uri.path = some q ∧
      t.node q = .ok (.file (answer t directory r).body)
  index : ∀ {t : Tree} {directory : Path}, t.node directory = .ok .directory →
    file? t directory ['/'] = some (Path.join directory "index.html".toList)
  named : ∀ {t : Tree} {directory : Path} {names : List Text}, names ≠ [] →
    (∀ n ∈ names, IsName n) → '%' ∉ spelling names →
    file? t directory (spelling names) =
      if t.node (below directory names) = .ok .directory then none
      else some (below directory names)

/-- The file service of a site. -/
def siteFiles (written : Path → Nat) : FileService where
  answer := serveFile written
  file? := servedPath?
  congr := serveFile_congr
  body := body_of_serveFile
  index := by
    intro t directory hdirectory
    have hpath : filePath? directory ['/'] = some directory := rfl
    rw [servedPath?, hpath, Option.bind_some, if_pos hdirectory]
    rfl
  named := by
    intro t directory names hne hnames hplain
    rw [servedPath?, filePath?_spelling directory hne hnames hplain, Option.bind_some,
      if_neg (getLast?_spelling hne hnames)]

end SiteGate.Http
