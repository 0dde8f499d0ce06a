import CodeSurvey.FileSystem.Change
import CodeSurvey.Proofs.FileSystem.Growth

/-!
# What saving a file changes

To save a file is to make the directories missing above it and to write it.  Each step lets the
file system grow, and no step touches another file.

* `FileSystem.laysWay_makeDirectories` : making directories makes those that are missing on the
  way of the path, and nothing else;
* `FileSystem.laysWay_of_save` : so does an attempt to save a file that fails;
* `FileSystem.exists_save_iff` : when an attempt does not fail;
* `FileSystem.exists_saved` : what has been saved is in the file that the path leads to, and no
  other file has changed.
-/

namespace CodeSurvey

namespace FileSystem

/-- The path with other names behind its anchor. -/
def along (path : Path) (names : List String) : Path := { path with parts := names }

/-- There are the same files, with the same bytes. -/
def SameFiles (fs fs' : FileSystem) : Prop :=
  ∀ place content, fs'.find? place = some (.file content) ↔ fs.find? place = some (.file content)

/-- The directory at the place is new: names that the path begins with lead to it, and have led to
nothing before. -/
def IsNewFolder (fs fs' : FileSystem) (path : Path) (place : List String) : Prop :=
  fs.find? place = none ∧ ∃ names, names <+: path.parts ∧ fs.has (along path names) = false ∧
    ∃ entries, fs'.locate (along path names) = .ok (.taken place (.directory entries))

/-- Nothing is different but that directories are there which were missing on the way of the
path. -/
structure LaysWay (path : Path) (fs fs' : FileSystem) : Prop where
  grows : Grows fs fs'
  sameFiles : SameFiles fs fs'
  folder {place : List String} (h : fs'.IsFolder place) :
    fs.IsFolder place ∨ IsNewFolder fs fs' path place
  wellFormed (hfs : fs.WellFormed) (hlinks : fs.LinksNormal) (hpath : path.Normal) : fs'.WellFormed

/-- The content is in the file at the place, where the path leads, and nothing else is different
but that directories are there which were missing on the way of the path. -/
structure Saved (path : Path) (content : List UInt8) (place : List String)
    (fs fs' : FileSystem) : Prop where
  grows : Grows fs fs'
  /-- The path leads to the file. -/
  locate : fs'.locate path = .ok (.taken place (.file content))
  /-- There was nothing at the place, or a file. -/
  before : fs.find? place = none ∨ ∃ old, fs.find? place = some (.file old)
  sameFiles {other : List String} (h : other ≠ place) (bytes : List UInt8) :
    fs'.find? other = some (.file bytes) ↔ fs.find? other = some (.file bytes)
  folder {other : List String} (h : fs'.IsFolder other) :
    fs.IsFolder other ∨ IsNewFolder fs fs' path.parent other
  /-- The directory that the file is in has been there or has been made. -/
  parent : fs'.isDirectory path.parent = true

/-- The path leads to a free name or to a file, so it can be opened for writing. -/
def IsWritable (fs : FileSystem) (path : Path) : Prop :=
  ∃ place, fs.locate path = .ok (.vacant place) ∨
    ∃ old, fs.locate path = .ok (.taken place (.file old))

/-- The directories that are missing above the path can be made, and then the path leads to a free
name or to a file. -/
def IsSavable (fs : FileSystem) (path : Path) : Prop :=
  ∃ fs', fs.makeDirectories path.parent = (fs', none) ∧ fs'.IsWritable path

variable {fs fs' fs'' : FileSystem} {path : Path} {place names : List String}
  {content : List UInt8} {error : FileError}

theorem IsNewFolder.grows (h : IsNewFolder fs fs' path place) (hgrows : Grows fs' fs'') :
    IsNewFolder fs fs'' path place := by
  obtain ⟨hfree, names, hnames, hmissing, entries, hnew⟩ := h
  exact ⟨hfree, names, hnames, hmissing, hgrows.locate_folder hnew⟩

/-! ### Making directories -/

theorem LaysWay.refl (path : Path) (fs : FileSystem) : LaysWay path fs fs where
  grows := .refl fs
  sameFiles _ _ := Iff.rfl
  folder h := .inl h
  wellFormed hfs _ _ := hfs

theorem LaysWay.trans (h : LaysWay path fs fs') (h' : LaysWay path fs' fs'') :
    LaysWay path fs fs'' where
  grows := h.grows.trans h'.grows
  sameFiles place content := (h'.sameFiles place content).trans (h.sameFiles place content)
  folder {place} hfolder := by
    rcases h'.folder hfolder with hfolder' | ⟨hfree, names, hnames, hmissing, hnew⟩
    · exact (h.folder hfolder').imp_right fun hnew => hnew.grows h'.grows
    · -- what leads nowhere later has led nowhere before
      have hmissing' : fs.has (along path names) = false := by
        by_contra hhas
        rw [h.grows.has (by simpa using hhas)] at hmissing
        cases hmissing
      exact .inr ⟨h.grows.find?_eq_none hfree, names, hnames, hmissing', hnew⟩
  wellFormed hfs hlinks hpath :=
    h'.wellFormed (h.wellFormed hfs hlinks hpath) (h.grows.linksNormal hlinks) hpath

/-- A path leads to the directory that has been made where it led to a free name. -/
theorem exists_locate_put_directory (h : fs.locate path = .ok (.vacant place))
    (hparent : fs.IsFolder place.dropLast) : ∃ entries,
      (fs.put place (.directory [])).locate path = .ok (.taken place (.directory entries)) := by
  have hmakes := admits_directory (find?_of_locate_vacant h)
  obtain ⟨e, hbare, hlocate⟩ := hmakes.exists_locate_put hparent h rfl
  obtain ⟨entries, rfl⟩ := Entry.bare_eq_directory_iff.1 hbare
  exact ⟨entries, hlocate⟩

/-- One directory is made at a free name. -/
theorem laysWay_put (hnames : names <+: path.parts)
    (h : fs.locate (along path names) = .ok (.vacant place)) :
    LaysWay path fs (fs.put place (.directory [])) := by
  by_cases hparent : fs.IsFolder place.dropLast
  swap
  · rw [put_eq_self hparent]
    exact .refl path fs
  have hfree := find?_of_locate_vacant h
  have hmakes := admits_directory hfree
  have hframe := hmakes.bareAt?_put hparent
  refine ⟨hmakes.grows, fun other content => ?_, fun {other} hfolder => ?_,
    fun hfs hlinks hpath => ?_⟩
  · rw [← bareAt?_eq_file_iff, ← bareAt?_eq_file_iff, hframe]
    split
    · next hother =>
      rw [hother, bareAt?_eq_none_iff.2 hfree]
      simp
    · rfl
  · by_cases hother : other = place
    · subst hother
      have hmissing : fs.has (along path names) = false := by rw [has, h]
      exact .inr ⟨hfree, names, hnames, hmissing, exists_locate_put_directory h hparent⟩
    · rw [← bareAt?_eq_directory_iff, hframe, if_neg hother, bareAt?_eq_directory_iff] at hfolder
      exact .inl hfolder
  · have hnormal : (along path names).Normal := fun name hname => hpath name (hnames.mem hname)
    exact hfs.put (isName_of_locate_vacant hlinks hnormal h) (.directory .nil (by simp) (by simp))

/-- An attempt to make a directory makes it at a free name, finds it, or fails. -/
theorem ensureDirectory_cases (fs : FileSystem) (path : Path) :
    (∃ place, fs.locate path = .ok (.vacant place) ∧
      fs.ensureDirectory path = (fs.put place (.directory []), none)) ∨
    (fs.isDirectory path = true ∧ fs.ensureDirectory path = (fs, none)) ∨
    ∃ error, fs.ensureDirectory path = (fs, some error) := by
  rw [ensureDirectory]
  cases hmake : fs.makeDirectory path with
  | ok changed =>
    rw [makeDirectory] at hmake
    split at hmake
    · cases hmake
    · split at hmake <;> cases hmake
      next place hplace => exact .inl ⟨place, locate_of_locateLink_vacant hplace, rfl⟩
  | error e =>
    dsimp only
    split
    · next hthere => exact .inr (.inl ⟨hthere.2, rfl⟩)
    · exact .inr (.inr ⟨e, rfl⟩)

theorem laysWay_ensureDirectory (hnames : names <+: path.parts) :
    LaysWay path fs (fs.ensureDirectory (along path names)).1 := by
  rcases fs.ensureDirectory_cases (along path names) with
    ⟨place, hplace, hmade⟩ | ⟨-, hmade⟩ | ⟨error, hmade⟩
  · rw [hmade]
    exact laysWay_put hnames hplace
  · rw [hmade]
    exact .refl path fs
  · rw [hmade]
    exact .refl path fs

/-- The path leads to a directory, or to a name that is free but in no directory, so that nothing
can be made there. -/
def IsLaid (fs : FileSystem) (path : Path) : Prop :=
  fs.isDirectory path = true ∨ ∃ place, fs.locate path = .ok (.vacant place)

theorem isLaid_of_ensureDirectory (h : fs.ensureDirectory path = (fs', none)) :
    fs'.IsLaid path := by
  rcases fs.ensureDirectory_cases path with ⟨place, hplace, hmade⟩ | ⟨hdir, hmade⟩ | ⟨_, hmade⟩
  · rw [hmade] at h
    cases h
    by_cases hparent : fs.IsFolder place.dropLast
    · obtain ⟨entries, hlocate⟩ := exists_locate_put_directory hplace hparent
      refine .inl ?_
      rw [isDirectory, hlocate]
    · rw [put_eq_self hparent]
      exact .inr ⟨place, hplace⟩
  · rw [hmade] at h
    cases h
    exact .inl hdir
  · rw [hmade] at h
    cases h

/-- A directory that is there is not made again. -/
theorem ensureDirectory_of_isDirectory (h : fs.isDirectory path = true) :
    fs.ensureDirectory path = (fs, none) := by
  obtain ⟨place, entries, hplace⟩ := exists_locate_of_isDirectory h
  obtain ⟨count, hcount, hroute⟩ := locate_eq_ok_iff.1 hplace
  obtain ⟨count', hcount', place', e, hroute'⟩ := hroute.exists_taken rfl
  have hlink := locateLink_eq_ok_iff.2 ⟨count', Nat.le_trans hcount' hcount, hroute'⟩
  have hmake : fs.makeDirectory path = .error ⟨.alreadyThere, path⟩ := by
    rw [makeDirectory]
    cases path.parts with
    | nil => rfl
    | cons name rest => simp only [hlink]
  simp [ensureDirectory, hmake, h]

/-- By the names of the path from last to first: each attempt and all that have been made before
the last one lay the way. -/
theorem laysWay_ensureDirectories (fs : FileSystem) {reversedNames : List String}
    (hnames : reversedNames.reverse <+: path.parts) :
    LaysWay path fs (fs.ensureDirectories path.anchor reversedNames).1 := by
  induction reversedNames generalizing fs with
  | nil => exact laysWay_ensureDirectory hnames
  | cons name above ih =>
    have habove : above.reverse <+: path.parts :=
      List.IsPrefix.trans (by rw [List.reverse_cons]; exact List.prefix_append _ _) hnames
    have hstep (fs : FileSystem) : LaysWay path fs
        (fs.ensureDirectory (along path (name :: above).reverse)).1 :=
      laysWay_ensureDirectory hnames
    have hfirst := hstep fs
    rw [along] at hfirst
    rw [ensureDirectories]
    split
    · next hmade => rw [hmade] at hfirst; exact hfirst
    · next fs₁ e hmade =>
      rw [hmade] at hfirst
      -- after a failure the directories above come first, and then there is another attempt
      have hway := hfirst.trans (ih fs₁ habove)
      split
      · split
        · next hlaid => rw [hlaid] at hway; exact hway.trans (hstep _)
        · next hlaid => rw [hlaid] at hway; exact hway
      · exact hfirst

theorem isLaid_of_ensureDirectories {anchor : Anchor} {reversedNames : List String}
    (h : fs.ensureDirectories anchor reversedNames = (fs', none)) :
    fs'.IsLaid ⟨anchor, reversedNames.reverse⟩ := by
  cases reversedNames with
  | nil => exact isLaid_of_ensureDirectory h
  | cons name above =>
    rw [ensureDirectories] at h
    split at h
    · next hmade => cases h; exact isLaid_of_ensureDirectory hmade
    · split at h
      · split at h
        · exact isLaid_of_ensureDirectory h
        · cases h
      · cases h

/-- **Making directories makes those that are missing on the way of the path, and nothing else.** -/
theorem laysWay_makeDirectories (fs : FileSystem) (path : Path) :
    LaysWay path fs (fs.makeDirectories path).1 :=
  laysWay_ensureDirectories fs (by simp)

theorem isLaid_of_makeDirectories (h : fs.makeDirectories path = (fs', none)) :
    fs'.IsLaid path := by
  have hlaid := isLaid_of_ensureDirectories h
  rwa [List.reverse_reverse] at hlaid

theorem makeDirectories_of_isDirectory (h : fs.isDirectory path = true) :
    fs.makeDirectories path = (fs, none) := by
  have hmake := ensureDirectory_of_isDirectory h
  obtain ⟨anchor, parts⟩ := path
  rw [makeDirectories]
  dsimp only
  cases hreversed : parts.reverse with
  | nil =>
    obtain rfl : parts = [] := by simpa using hreversed
    exact hmake
  | cons name above =>
    rw [ensureDirectories, ← hreversed, List.reverse_reverse, hmake]

/-! ### Writing -/

theorem exists_parts_eq (h : path.parts ≠ []) :
    ∃ name, path.parts = path.parent.parts ++ [name] :=
  ⟨path.parts.getLast h, (List.dropLast_concat_getLast h).symm⟩

theorem parts_ne_nil_of_locate_vacant (h : fs.locate path = .ok (.vacant place)) :
    path.parts ≠ [] := by
  intro hnil
  obtain ⟨count, -, hroute⟩ := locate_eq_ok_iff.1 h
  rw [hnil] at hroute
  cases hroute

/-- A path that leads somewhere has no parent that leads to a free name. -/
theorem not_locate_parent_vacant {spot : Spot} (h : fs.locate path = .ok spot) :
    fs.locate path.parent ≠ .ok (.vacant place) := by
  intro hparent
  have hparts : path.parts ≠ [] := by
    intro hnil
    exact parts_ne_nil_of_locate_vacant hparent (by rw [Path.parent, hnil]; rfl)
  obtain ⟨name, hname⟩ := exists_parts_eq hparts
  obtain ⟨count, -, hroute⟩ := locate_eq_ok_iff.1 h
  obtain ⟨count', -, hroute'⟩ := locate_eq_ok_iff.1 hparent
  rw [hname] at hroute
  exact hroute'.not_append_of_vacant (List.cons_ne_nil _ _) hroute

/-- A free name that a path from a directory leads to is free in a directory. -/
theorem isFolder_of_locate_vacant (h : fs.locate path = .ok (.vacant place))
    (hparent : fs.isDirectory path.parent = true) : fs.IsFolder place.dropLast := by
  obtain ⟨above, entries, habove⟩ := exists_locate_of_isDirectory hparent
  obtain ⟨name, hname⟩ := exists_parts_eq (parts_ne_nil_of_locate_vacant h)
  obtain ⟨count, -, hroute⟩ := locate_eq_ok_iff.1 h
  obtain ⟨count', -, hroute'⟩ := locate_eq_ok_iff.1 habove
  rw [hname] at hroute
  -- the way goes on from the directory, and stays in directories
  obtain ⟨rest, -, honward⟩ := (hroute'.append_iff (.inl (List.cons_ne_nil _ _))).1 hroute
  exact honward.isFolder_of_vacant ⟨entries, find?_of_locate_taken habove⟩

/-- What can be written after the directories have been made is made at a free name of a
directory, or in a file. -/
theorem exists_of_write (hlaid : fs.IsLaid path.parent)
    (h : fs.write path content = (fs', none)) :
    fs.isDirectory path.parent = true ∧ ∃ spot, fs.locate path = .ok spot ∧
      fs.IsFolder spot.place.dropLast ∧ fs.Admits spot.place (.file content) ∧
      fs' = fs.put spot.place (.file content) := by
  have hparent {spot : Spot} (hspot : fs.locate path = .ok spot) :
      fs.isDirectory path.parent = true :=
    hlaid.resolve_right fun ⟨_, hplace⟩ => not_locate_parent_vacant hspot hplace
  rw [write] at h
  split at h
  · next place hplace =>
    cases h
    have hfree := find?_of_locate_vacant hplace
    exact ⟨hparent hplace, .vacant place, hplace, isFolder_of_locate_vacant hplace (hparent hplace),
      admits_file (.inl hfree) content, rfl⟩
  · next place old hplace =>
    cases h
    have hold : fs.find? place = some (.file old) := find?_of_locate_taken hplace
    exact ⟨hparent hplace, .taken place _, hplace, isFolder_dropLast hold,
      admits_file (.inr ⟨old, hold⟩) content, rfl⟩
  · cases h
  · cases h
  · cases h

theorem write_error (h : fs.write path content = (fs', some error)) : fs' = fs := by
  rw [write] at h
  split at h <;> cases h <;> rfl

theorem exists_write_iff :
    (∃ fs', fs.write path content = (fs', none)) ↔ fs.IsWritable path := by
  unfold write IsWritable
  split
  · next place hplace => simp [hplace]
  · next place old hplace => simp [hplace]
  · next place entries hplace => simp [hplace]
  · next place target hplace => simp [hplace]
  · next obstacle hplace => simp [hplace]

/-! ### Saving -/

/-- **A file can be saved when the directories missing above it can be made and the path does not
lead to a directory**, whatever its content is. -/
theorem exists_save_iff : (∃ fs', fs.save path content = (fs', none)) ↔ fs.IsSavable path := by
  unfold save IsSavable
  rcases fs.makeDirectories path.parent with ⟨fs₁, _ | e⟩
  · simp [exists_write_iff]
  · simp

/-- In a directory that is there nothing has to be made. -/
theorem isSavable_iff_of_isDirectory (h : fs.isDirectory path.parent = true) :
    fs.IsSavable path ↔ fs.IsWritable path := by
  rw [IsSavable, makeDirectories_of_isDirectory h]
  simp

/-- **A failed attempt to save a file leaves all files as they are.** -/
theorem laysWay_of_save (h : fs.save path content = (fs', some error)) :
    LaysWay path.parent fs fs' := by
  have hway := fs.laysWay_makeDirectories path.parent
  rw [save] at h
  split at h
  · next hmade =>
    rw [hmade] at hway
    rw [write_error h]
    exact hway
  · next hmade =>
    rw [hmade] at hway
    cases h
    exact hway

/-- The file is written after the directories above it have been made. -/
theorem exists_of_save (h : fs.save path content = (fs', none)) :
    ∃ fs₁ spot, LaysWay path.parent fs fs₁ ∧ fs₁.isDirectory path.parent = true ∧
      fs₁.locate path = .ok spot ∧ fs₁.IsFolder spot.place.dropLast ∧
      fs₁.Admits spot.place (.file content) ∧ fs' = fs₁.put spot.place (.file content) := by
  have hway := fs.laysWay_makeDirectories path.parent
  rw [save] at h
  split at h
  · next fs₁ hmade =>
    rw [hmade] at hway
    obtain ⟨hparent, spot, hwritten⟩ := exists_of_write (isLaid_of_makeDirectories hmade) h
    exact ⟨fs₁, spot, hway, hparent, hwritten⟩
  · cases h

/-- **What has been saved is in the file that the path leads to, and no other file has changed.** -/
theorem exists_saved (h : fs.save path content = (fs', none)) :
    ∃ place, Saved path content place fs fs' := by
  obtain ⟨fs₁, spot, hway, hparent, hspot, hfolder, hmakes, rfl⟩ := exists_of_save h
  have hframe := hmakes.bareAt?_put hfolder
  refine ⟨spot.place, hway.grows.trans hmakes.grows, ?_, ?_, fun {other} hother bytes => ?_,
    fun {other} hother => ?_, hmakes.grows.isDirectory hparent⟩
  · obtain ⟨e, hbare, hlocate⟩ := hmakes.exists_locate_put hfolder hspot rfl
    rwa [Entry.bare_eq_file_iff.1 hbare] at hlocate
  · refine hmakes.old.imp hway.grows.find?_eq_none ?_
    rintro ⟨old, hold⟩
    exact ⟨old, (hway.sameFiles _ _).1 hold⟩
  · rw [← bareAt?_eq_file_iff, hframe, if_neg hother, bareAt?_eq_file_iff]
    exact hway.sameFiles other bytes
  · have hne : other ≠ spot.place := by
      rintro rfl
      rw [← bareAt?_eq_directory_iff, hframe, if_pos rfl] at hother
      cases hother
    rw [← bareAt?_eq_directory_iff, hframe, if_neg hne, bareAt?_eq_directory_iff] at hother
    exact (hway.folder hother).imp_right fun hnew => hnew.grows hmakes.grows

/-- Saving again puts the new content in the same file, and does nothing else. -/
theorem Saved.save_eq (h : Saved path content place fs fs') (content' : List UInt8) :
    fs'.save path content' = (fs'.put place (.file content'), none) := by
  rw [save, makeDirectories_of_isDirectory h.parent]
  dsimp only
  rw [write, h.locate]

/-- A file system stays well formed when paths in normal form are used. -/
theorem WellFormed.save (hfs : fs.WellFormed) (hlinks : fs.LinksNormal) (hpath : path.Normal)
    (h : fs.save path content = (fs', none)) : fs'.WellFormed := by
  obtain ⟨fs₁, spot, hway, -, hspot, -, hmakes, rfl⟩ := exists_of_save h
  have hparent : path.parent.Normal := fun name hname => hpath name (List.dropLast_subset _ hname)
  have hfs₁ := hway.wellFormed hfs hlinks hparent
  refine hfs₁.put ?_ (.file content)
  cases spot with
  | vacant place => exact isName_of_locate_vacant (hway.grows.linksNormal hlinks) hpath hspot
  | taken place e =>
    intro name hname
    obtain ⟨above, rfl⟩ := List.getLast?_eq_some_iff.1 hname
    exact hfs₁.isName (find?_of_locate_taken hspot)

end FileSystem

end CodeSurvey
