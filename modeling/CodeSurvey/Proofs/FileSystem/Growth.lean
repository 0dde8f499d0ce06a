import CodeSurvey.Proofs.FileSystem.Putting

/-!
# Growing file systems

A file system grows when files get new contents and free names become files and directories.
Whatever is there stays what it is, so a path that leads somewhere goes on leading there.

* `FileSystem.Admits.grows` : a file system grows by new directories and new contents of files;
* `FileSystem.Grows.locate` : a path leads to the same place afterwards;
* `FileSystem.Grows.canonical?` : the canonical path of a directory stays the same.
-/

namespace CodeSurvey

namespace FileSystem

/-- Files stay files and directories stay directories; there are the same links. -/
structure Grows (fs fs' : FileSystem) : Prop where
  workingDirectory : fs'.workingDirectory = fs.workingDirectory
  linkCount : Entry.linksOfEntries fs'.entries = Entry.linksOfEntries fs.entries
  link_iff (place : List String) (target : Path) :
    fs'.find? place = some (.link target) ↔ fs.find? place = some (.link target)
  file {place : List String} {content : List UInt8} (h : fs.find? place = some (.file content)) :
    ∃ content', fs'.find? place = some (.file content')
  isFolder {place : List String} (h : fs.IsFolder place) : fs'.IsFolder place

variable {fs fs' fs'' : FileSystem} {toTarget : Bool} {count : Nat} {here names : List String}
  {place : List String} {spot : Spot} {path : Path} {e : Entry}

theorem Grows.refl (fs : FileSystem) : Grows fs fs where
  workingDirectory := rfl
  linkCount := rfl
  link_iff _ _ := Iff.rfl
  file h := ⟨_, h⟩
  isFolder h := h

theorem Grows.trans (h : Grows fs fs') (h' : Grows fs' fs'') : Grows fs fs'' where
  workingDirectory := h'.workingDirectory.trans h.workingDirectory
  linkCount := h'.linkCount.trans h.linkCount
  link_iff place target := (h'.link_iff place target).trans (h.link_iff place target)
  file hfile := by
    obtain ⟨content, hcontent⟩ := h.file hfile
    exact h'.file hcontent
  isFolder hfolder := h'.isFolder (h.isFolder hfolder)

theorem Grows.linksNormal (hgrows : Grows fs fs') (h : fs.LinksNormal) : fs'.LinksNormal :=
  fun place target htarget => h place target ((hgrows.link_iff place target).1 htarget)

/-! ### Files and new directories -/

/-- The entry can be made at the place: it is a new directory or a file at a free place, or the
new contents of a file. -/
structure Admits (fs : FileSystem) (place : List String) (e : Entry) : Prop where
  kind : e = .directory [] ∨ ∃ content, e = .file content
  free : fs.find? place = none ∨ ∃ old new, fs.find? place = some (.file old) ∧ e = .file new

theorem admits_directory (h : fs.find? place = none) : fs.Admits place (.directory []) :=
  ⟨.inl rfl, .inl h⟩

theorem admits_file (h : fs.find? place = none ∨ ∃ old, fs.find? place = some (.file old))
    (content : List UInt8) : fs.Admits place (.file content) where
  kind := .inr ⟨content, rfl⟩
  free := h.imp_right fun ⟨old, hold⟩ => ⟨old, content, hold, rfl⟩

theorem Admits.bare_eq (h : fs.Admits place e) : e.bare = e := by
  rcases h.kind with rfl | ⟨content, rfl⟩ <;> rfl

theorem Admits.links_eq (h : fs.Admits place e) : e.links = 0 := by
  rcases h.kind with rfl | ⟨content, rfl⟩ <;> rfl

theorem Admits.not_link (h : fs.Admits place e) (target : Path) : e ≠ .link target := by
  rcases h.kind with rfl | ⟨content, rfl⟩ <;> exact Entry.noConfusion

/-- What stood there was nothing or a file. -/
theorem Admits.old (h : fs.Admits place e) :
    fs.find? place = none ∨ ∃ old, fs.find? place = some (.file old) :=
  h.free.imp_right fun ⟨old, _, hold, _⟩ => ⟨old, hold⟩

theorem Admits.not_isFolder (h : fs.Admits place e) : ¬ fs.IsFolder place := by
  rintro ⟨entries, hentries⟩
  rcases h.old with hnone | ⟨old, hold⟩
  · rw [hnone] at hentries
    cases hentries
  · rw [hold] at hentries
    cases hentries

/-- What is made at a place stands there, and at the other places there is what was there. -/
theorem Admits.bareAt?_put (h : fs.Admits place e) (hparent : fs.IsFolder place.dropLast)
    (other : List String) :
    (fs.put place e).bareAt? other = if other = place then some e else fs.bareAt? other :=
  FileSystem.bareAt?_put h.bare_eq hparent h.not_isFolder other

/-- A file system grows by what is made in it. -/
theorem Admits.grows (h : fs.Admits place e) : Grows fs (fs.put place e) := by
  by_cases hparent : fs.IsFolder place.dropLast
  swap
  · rw [put_eq_self hparent]
    exact .refl fs
  have hframe := h.bareAt?_put hparent
  have hlinks (old : Entry) (hold : fs.find? place = some old) : old.links = 0 := by
    rcases h.old with hnone | ⟨content, hfile⟩
    · rw [hnone] at hold
      cases hold
    · rw [hfile] at hold
      cases hold
      rfl
  refine ⟨rfl, linksOfEntries_put h.links_eq hlinks, fun other target => ?_,
    fun {other content} hfile => ?_, fun {other} hfolder => ?_⟩
  · rw [← bareAt?_eq_link_iff, ← bareAt?_eq_link_iff, hframe]
    split
    · next hother =>
      -- there was no link at the place, and there is none now
      rw [hother, bareAt?_eq_link_iff, Option.some.injEq]
      refine iff_of_false (h.not_link target) fun hlink => ?_
      have := hlinks _ hlink
      cases this
    · rfl
  · by_cases hother : other = place
    · obtain ⟨old, new, -, rfl⟩ := h.free.resolve_left (by rw [← hother, hfile]; simp)
      refine ⟨new, ?_⟩
      rw [← bareAt?_eq_file_iff, hframe, if_pos hother]
    · refine ⟨content, ?_⟩
      rw [← bareAt?_eq_file_iff, hframe, if_neg hother]
      exact bareAt?_eq_file_iff.2 hfile
  · have hother : other ≠ place := by
      rintro rfl
      exact h.not_isFolder hfolder
    rw [← bareAt?_eq_directory_iff, hframe, if_neg hother]
    exact bareAt?_eq_directory_iff.2 hfolder

/-! ### Paths -/

theorem Grows.exists_find? (hgrows : Grows fs fs') (h : fs.find? place = some e) :
    ∃ e', fs'.find? place = some e' := by
  cases e with
  | file content =>
    obtain ⟨content', h'⟩ := hgrows.file h
    exact ⟨_, h'⟩
  | link target => exact ⟨_, (hgrows.link_iff _ _).2 h⟩
  | directory entries =>
    obtain ⟨entries', h'⟩ := hgrows.isFolder ⟨entries, h⟩
    exact ⟨_, h'⟩

/-- Names lead to the same place afterwards. -/
theorem Grows.route (hgrows : Grows fs fs') (h : fs.Route toTarget count here names spot) :
    ∃ spot', fs'.Route toTarget count here names spot' ∧ spot'.place = spot.place := by
  induction h with
  | stay found =>
    obtain ⟨e', found'⟩ := hgrows.exists_find? found
    exact ⟨_, .stay found', rfl⟩
  | up _ ih =>
    obtain ⟨spot', hroute, hplace⟩ := ih
    exact ⟨spot', .up hroute, hplace⟩
  | @free here name proper found =>
    cases found' : fs'.find? (here ++ [name]) with
    | none => exact ⟨_, .free proper found', rfl⟩
    | some e =>
      cases e with
      | file content => exact ⟨_, .file proper found', rfl⟩
      | directory entries =>
        -- the way used to end at the free name, and now it ends in the new directory
        exact ⟨_, .down proper found' (.stay found'), rfl⟩
      | link target =>
        -- no name becomes a link
        rw [hgrows.link_iff, found] at found'
        cases found'
  | down proper found _ ih =>
    obtain ⟨spot', hroute, hplace⟩ := ih
    obtain ⟨entries', found'⟩ := hgrows.isFolder ⟨_, found⟩
    exact ⟨spot', .down proper found' hroute, hplace⟩
  | file proper found =>
    obtain ⟨content', found'⟩ := hgrows.file found
    exact ⟨_, .file proper found', rfl⟩
  | link proper found kept =>
    exact ⟨_, .link proper ((hgrows.link_iff _ _).2 found) kept, rfl⟩
  | through proper found followed _ ih =>
    obtain ⟨spot', hroute, hplace⟩ := ih
    exact ⟨spot', .through proper ((hgrows.link_iff _ _).2 found) followed hroute, hplace⟩

/-- **A path that leads somewhere leads there afterwards.** -/
theorem Grows.locate (hgrows : Grows fs fs') (h : fs.locate path = .ok spot) :
    ∃ spot', fs'.locate path = .ok spot' ∧ spot'.place = spot.place := by
  obtain ⟨count, hcount, hroute⟩ := locate_eq_ok_iff.1 h
  obtain ⟨spot', hroute', hplace⟩ := hgrows.route hroute
  refine ⟨spot', locate_eq_ok_iff.2 ⟨count, hcount, ?_⟩, hplace⟩
  rwa [hgrows.workingDirectory]

theorem Grows.locate_taken (hgrows : Grows fs fs') (h : fs.locate path = .ok (.taken place e)) :
    ∃ e', fs'.locate path = .ok (.taken place e') ∧ fs'.find? place = some e' := by
  obtain ⟨spot', hspot', hplace⟩ := hgrows.locate h
  obtain ⟨e', hfind⟩ := hgrows.exists_find? (find?_of_locate_taken h)
  cases spot' with
  | taken place' e'' =>
    obtain rfl : place' = place := hplace
    exact ⟨e'', hspot', find?_of_locate_taken hspot'⟩
  | vacant place' =>
    obtain rfl : place' = place := hplace
    rw [find?_of_locate_vacant hspot'] at hfind
    cases hfind

theorem Grows.find?_eq_none (hgrows : Grows fs fs') (h : fs'.find? place = none) :
    fs.find? place = none := by
  cases hfind : fs.find? place with
  | none => rfl
  | some e =>
    obtain ⟨e', hfind'⟩ := hgrows.exists_find? hfind
    rw [h] at hfind'
    cases hfind'

/-- A path that leads to a directory leads to it afterwards. -/
theorem Grows.locate_folder (hgrows : Grows fs fs') {entries : List (String × Entry)}
    (h : fs.locate path = .ok (.taken place (.directory entries))) :
    ∃ entries', fs'.locate path = .ok (.taken place (.directory entries')) := by
  obtain ⟨e', hplace', hfind'⟩ := hgrows.locate_taken h
  obtain ⟨entries', hentries'⟩ := hgrows.isFolder ⟨entries, find?_of_locate_taken h⟩
  rw [hfind'] at hentries'
  cases hentries'
  exact ⟨entries', hplace'⟩

/-- A path that leads to a file leads to it afterwards. -/
theorem Grows.locate_file (hgrows : Grows fs fs') {content : List UInt8}
    (h : fs.locate path = .ok (.taken place (.file content))) :
    ∃ content', fs'.locate path = .ok (.taken place (.file content')) := by
  obtain ⟨e', hplace', hfind'⟩ := hgrows.locate_taken h
  obtain ⟨content', hcontent'⟩ := hgrows.file (find?_of_locate_taken h)
  rw [hfind'] at hcontent'
  cases hcontent'
  exact ⟨content', hplace'⟩

theorem Grows.isDirectory (hgrows : Grows fs fs') (h : fs.isDirectory path = true) :
    fs'.isDirectory path = true := by
  obtain ⟨place, entries, hplace⟩ := exists_locate_of_isDirectory h
  obtain ⟨entries', hplace'⟩ := hgrows.locate_folder hplace
  rw [FileSystem.isDirectory, hplace']

theorem Grows.has (hgrows : Grows fs fs') (h : fs.has path = true) : fs'.has path = true := by
  obtain ⟨place, e, hplace⟩ := has_eq_true_iff.1 h
  obtain ⟨e', hplace', -⟩ := hgrows.locate_taken hplace
  exact has_eq_true_iff.2 ⟨place, e', hplace'⟩

/-- A path leads to what has been made where it leads. -/
theorem Admits.exists_locate_put (h : fs.Admits place e) (hparent : fs.IsFolder place.dropLast)
    (hspot : fs.locate path = .ok spot) (hplace : spot.place = place) :
    ∃ e', e'.bare = e ∧ (fs.put place e).locate path = .ok (.taken place e') := by
  obtain ⟨spot', hspot', hplace'⟩ := h.grows.locate hspot
  have hfind := find?_of_locate hspot'
  rw [hplace', hplace] at hfind
  have hbare := h.bareAt?_put hparent place
  rw [if_pos rfl, bareAt?, hfind] at hbare
  cases spot' with
  | taken place' e' =>
    obtain rfl : place' = place := hplace'.trans hplace
    exact ⟨e', Option.some.inj hbare, hspot'⟩
  | vacant place' => cases hbare

/-! ### Canonical paths -/

theorem Grows.canonicalPlace (hgrows : Grows fs fs')
    (onLink : List String → Path → Except (List String) (List String)) (here names : List String) :
    fs'.canonicalPlace onLink here names = fs.canonicalPlace onLink here names := by
  induction names generalizing here with
  | nil => rfl
  | cons name rest ih =>
    rw [FileSystem.canonicalPlace, FileSystem.canonicalPlace]
    split
    · exact ih _
    · dsimp only
      by_cases hlink : ∃ target, fs.find? (here ++ [name]) = some (.link target)
      · obtain ⟨target, htarget⟩ := hlink
        rw [htarget, (hgrows.link_iff _ _).2 htarget]
        dsimp only
        split
        · exact ih _
        · rfl
      · have hlink' : ∀ target, fs'.find? (here ++ [name]) ≠ some (.link target) :=
          fun target h => hlink ⟨target, (hgrows.link_iff _ _).1 h⟩
        split
        · next htarget => exact absurd htarget (hlink' _)
        · split
          · next htarget => exact absurd ⟨_, htarget⟩ hlink
          · exact ih _

theorem Grows.canonicalWithin (hgrows : Grows fs fs') (depth : Nat)
    (followed : List (List String)) :
    fs'.canonicalWithin depth followed = fs.canonicalWithin depth followed := by
  induction depth generalizing followed with
  | zero => exact funext fun here => funext (hgrows.canonicalPlace _ here)
  | succ depth ih =>
    funext here names
    simp only [FileSystem.canonicalWithin, ih]
    exact hgrows.canonicalPlace _ here names

/-- The canonical path of a directory stays the same. -/
theorem Grows.canonical? (hgrows : Grows fs fs') {root : Path}
    (h : fs.canonical? path = some root) (hroot : fs.isDirectory root = true) :
    fs'.canonical? path = some root := by
  have hcanonical : fs'.canonical path = fs.canonical path := by
    simp only [canonical, hgrows.linkCount, hgrows.workingDirectory, hgrows.canonicalWithin]
  have hroot' : fs.canonical path = root := by
    rw [FileSystem.canonical?] at h
    split at h <;> cases h
    rfl
  obtain ⟨place, entries, hplace⟩ := exists_locate_of_isDirectory (hgrows.isDirectory hroot)
  rw [FileSystem.canonical?, hcanonical, hroot', hplace]

end FileSystem

end CodeSurvey
