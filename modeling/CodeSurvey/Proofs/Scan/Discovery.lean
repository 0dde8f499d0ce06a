import CodeSurvey.Proofs.FileSystem.PathText
import CodeSurvey.Scan.Discovery
import Mathlib.Data.List.Lex
import Mathlib.Data.List.Sort
import Mathlib.Data.String.Basic

/-!
# What a discovery finds

A directory is *visited* from the one it lies in when it is a directory there, no link, and its
name is not excluded.

* `FileSystem.wellFounded_visited` : there is no infinite way down through visited directories;
* `Discovery.eq_ofDirectory_iff` : there is one discovery that goes through every directory by the
  paths of its entries and calls itself for the visited ones;
* `Discovery.finds_ofDirectory` : a discovery has every directory that is reached, before what is
  below it and after those beside it with smaller names, and every source file in them.
-/

namespace CodeSurvey

/-! ### Order -/

namespace Discovery

section Order

variable {α β : Type}

theorem insertByName_eq (new : String × α) (l : List (String × α)) :
    insertByName new l = l.orderedInsert (fun a b => a.1 ≤ b.1) new := by
  induction l with
  | nil => rfl
  | cons next rest ih => rw [insertByName, List.orderedInsert_cons, ih]

theorem sortByName_eq (l : List (String × α)) :
    sortByName l = l.insertionSort (fun a b => a.1 ≤ b.1) := by
  rw [sortByName, List.insertionSort]
  exact congrArg (fun f => l.foldr f []) (funext fun new => funext (insertByName_eq new))

theorem perm_sortByName (l : List (String × α)) : (sortByName l).Perm l := by
  rw [sortByName_eq]
  exact List.perm_insertionSort _ l

theorem mem_sortByName {l : List (String × α)} {p : String × α} : p ∈ sortByName l ↔ p ∈ l :=
  (perm_sortByName l).mem_iff

/-- Sorting by names does not look at what is named. -/
theorem sortByName_map (f : String × α → β) (l : List (String × α)) :
    sortByName (l.map fun p => (p.1, f p)) = (sortByName l).map fun p => (p.1, f p) := by
  rw [sortByName_eq, sortByName_eq]
  exact (List.map_insertionSort (fun a b => a.1 ≤ b.1) (fun a b => a.1 ≤ b.1)
    (fun p => (p.1, f p)) l fun _ _ _ _ => Iff.rfl).symm

/-- Where no name stands twice the names increase after sorting. -/
theorem pairwise_sortByName {l : List (String × α)} (h : (l.map (·.1)).Nodup) :
    (sortByName l).Pairwise fun a b => a.1 < b.1 := by
  have hle : (sortByName l).Pairwise fun a b => a.1 ≤ b.1 := by
    have : Std.Total fun a b : String × α => a.1 ≤ b.1 := ⟨fun a b => le_total a.1 b.1⟩
    have : IsTrans (String × α) fun a b => a.1 ≤ b.1 := ⟨fun _ _ _ => le_trans⟩
    rw [sortByName_eq]
    exact List.pairwise_insertionSort _ l
  have hne : (sortByName l).Pairwise fun a b => a.1 ≠ b.1 :=
    List.pairwise_map.1 (((perm_sortByName l).map Prod.fst).nodup_iff.2 h)
  exact hle.imp₂ (fun _ _ => lt_of_le_of_ne) hne

end Order

end Discovery

/-! ### Directories that are visited -/

/-- The entry is a link. -/
def Entry.isLink : Entry → Bool
  | link _ => true
  | _ => false

namespace FileSystem

variable {fs : FileSystem} {exclude : List String} {path : Path} {name : String}
  {names : List String} {entries : List (String × Entry)}

/-- The directory at the path has a directory of that name in it, which is not excluded. -/
def Visits (fs : FileSystem) (exclude : List String) (path : Path) (name : String) : Prop :=
  ∃ entries inner, fs.list path = .ok entries ∧ (name, Entry.directory inner) ∈ entries ∧
    name ∉ exclude

/-- The names lead from the directory at the path through visited directories. -/
def Reaches (fs : FileSystem) (exclude : List String) : Path → List String → Prop
  | path, [] => fs.isDirectory path = true
  | path, name :: rest => fs.Visits exclude path name ∧ Reaches fs exclude (path.child name) rest

/-- The directory at the path has an entry of that name in it which is no directory, nor a link to
one, and whose extension is supported. -/
def IsSource (fs : FileSystem) (path : Path) (name : String) : Prop :=
  ∃ entries entry, fs.list path = .ok entries ∧ (name, entry) ∈ entries ∧
    fs.isDirectory (path.child name) = false ∧ Analyzer.supports (Path.extensionOf name) = true

theorem visits_iff (h : fs.list path = .ok entries) : fs.Visits exclude path name ↔
    (∃ inner, (name, Entry.directory inner) ∈ entries) ∧ name ∉ exclude := by
  simp [Visits, h]

theorem isSource_iff (h : fs.list path = .ok entries) : fs.IsSource path name ↔
    (∃ entry, (name, entry) ∈ entries) ∧ fs.isDirectory (path.child name) = false ∧
      Analyzer.supports (Path.extensionOf name) = true := by
  simp [IsSource, h]

theorem visits_iff_of_mem (exclude : List String) (hfs : fs.WellFormed)
    (h : fs.list path = .ok entries) {entry : Entry} (he : (name, entry) ∈ entries) :
    fs.Visits exclude path name ↔
      fs.isDirectory (path.child name) = true ∧ ¬ (entry.isLink ∨ name ∈ exclude) := by
  rw [visits_iff h]
  simp only [(hfs.list h).mem_iff he]
  cases entry with
  | file content => simp [isDirectory_child_of_file hfs h he]
  | link target => simp [Entry.isLink]
  | directory inner => simp [isDirectory_child_of_directory hfs h he, Entry.isLink]

theorem Visits.isName (hfs : fs.WellFormed) (h : fs.Visits exclude path name) : IsName name := by
  obtain ⟨entries, inner, hlist, hname, -⟩ := h
  exact (hfs.list hlist).isName hname

theorem Visits.exists_list (hfs : fs.WellFormed) (h : fs.Visits exclude path name) :
    ∃ inner, fs.list (path.child name) = .ok inner := by
  obtain ⟨entries, inner, hlist, hname, -⟩ := h
  exact ⟨inner, list_child hfs hlist hname⟩

/-- **There is no infinite way down through visited directories.** -/
theorem wellFounded_visited (hfs : fs.WellFormed) (exclude : List String) :
    WellFounded fun below above =>
      ∃ name, fs.Visits exclude above name ∧ below = above.child name := by
  -- What a visited directory lists is a part of what the one above lists.
  let size (path : Path) : Nat := (fs.list path).toOption.elim 0 sizeOf
  refine Subrelation.wf (fun {below above} => ?_) (measure size).wf
  rintro ⟨name, ⟨entries, inner, hlist, hname, -⟩, rfl⟩
  have hbelow := list_child hfs hlist hname
  have hsize : sizeOf (name, Entry.directory inner) < sizeOf entries := List.sizeOf_lt_of_mem hname
  simp only [Prod.mk.sizeOf_spec, Entry.directory.sizeOf_spec] at hsize
  simp only [WellFoundedRelation.rel, InvImage, size, hlist, hbelow, Except.toOption, Option.elim]
  omega

theorem Reaches.isName (hfs : fs.WellFormed) (h : fs.Reaches exclude path names) :
    ∀ name ∈ names, IsName name := by
  induction names generalizing path with
  | nil => simp
  | cons first rest ih =>
    rw [List.forall_mem_cons]
    exact ⟨h.1.isName hfs, ih h.2⟩

/-- The directories reached are the one at the path and those visited from directories reached. -/
theorem reaches_concat (hfs : fs.WellFormed) : fs.Reaches exclude path (names ++ [name]) ↔
    fs.Reaches exclude path names ∧ fs.Visits exclude (path.descend names) name := by
  induction names generalizing path with
  | nil =>
    rw [List.nil_append, Path.descend_nil, Reaches, Reaches, Reaches, isDirectory_eq_true_iff,
      isDirectory_eq_true_iff, and_comm (b := fs.Visits exclude path name), and_congr_right_iff]
    intro h
    obtain ⟨entries, inner, hlist, -⟩ := id h
    exact ⟨fun _ => ⟨entries, hlist⟩, fun _ => h.exists_list hfs⟩
  | cons first rest ih =>
    rw [List.cons_append, Reaches, Reaches, ih, Path.descend_cons, and_assoc]

end FileSystem

/-! ### One directory after the other -/

theorem bind_eq_ok_iff {α β ε : Type} {x : Except ε α} {f : α → Except ε β} {b : β} :
    x >>= f = .ok b ↔ ∃ a, x = .ok a ∧ f a = .ok b := by
  cases x with
  | error e => simp [bind, Except.bind]
  | ok a => simp [bind, Except.bind]

/-- Results are taken together to the values of all of them. -/
theorem mapM_eq_ok_iff {α β ε : Type} {f : α → Except ε β} {l : List α} {values : List β} :
    l.mapM f = .ok values ↔ l.map f = values.map .ok := by
  induction l generalizing values with
  | nil => cases values <;> simp [pure, Except.pure]
  | cons a l ih =>
    simp only [List.mapM_cons, bind_eq_ok_iff, ih, pure, Except.pure, Except.ok.injEq]
    cases values with
    | nil => simp
    | cons b bs => simp

theorem exists_mapM_eq_ok {α β ε : Type} {f : α → Except ε β} {l : List α}
    (h : ∀ a ∈ l, ∃ b, f a = .ok b) : ∃ values, l.mapM f = .ok values := by
  induction l with
  | nil => exact ⟨[], rfl⟩
  | cons a l ih =>
    rw [List.forall_mem_cons] at h
    obtain ⟨b, hb⟩ := h.1
    obtain ⟨values, hvalues⟩ := ih h.2
    refine ⟨b :: values, mapM_eq_ok_iff.2 ?_⟩
    rw [List.map_cons, List.map_cons, hb, mapM_eq_ok_iff.1 hvalues]

theorem mapM_congr {α β ε : Type} {f g : α → Except ε β} {l : List α}
    (h : ∀ a ∈ l, f a = g a) : l.mapM f = l.mapM g := by
  induction l with
  | nil => rfl
  | cons a l ih =>
    rw [List.forall_mem_cons] at h
    rw [List.mapM_cons, List.mapM_cons, h.1, ih h.2]

namespace Discovery

variable {fs : FileSystem} {exclude : List String} {directory : Path} {name : String}
  {entries : List (String × Entry)}

/-- What an entry adds, found out by its path; `recurse` goes through the visited directories. -/
def partOf (fs : FileSystem) (exclude : List String) (recurse : Path → Except FileError Discovery)
    (directory : Path) (e : String × Entry) : Except FileError (String × Contribution) :=
  if fs.isDirectory (directory.child e.1) then
    if e.2.isLink ∨ e.1 ∈ exclude then .ok (e.1, .nothing)
    else (recurse (directory.child e.1)).map fun found => (e.1, .directory found)
  else .ok (e.1, ofName directory e.1)

/-- The discovery of one directory by the paths of its entries. -/
def levelOf (fs : FileSystem) (exclude : List String) (recurse : Path → Except FileError Discovery)
    (directory : Path) : Except FileError Discovery := do
  let entries ← fs.list directory
  let parts ← (sortByName entries).mapM (partOf fs exclude recurse directory)
  return together directory parts

theorem ofEntries_eq_map (fs : FileSystem) (exclude : List String) (directory : Path)
    (entries : List (String × Entry)) : ofEntries fs exclude directory entries =
      entries.map fun e => (e.1, ofEntry fs exclude directory e.1 e.2) := by
  induction entries with
  | nil => rfl
  | cons e rest ih => rw [ofEntries, List.map_cons, ih]

theorem ofDirectory_eq_ok (h : fs.list directory = .ok entries) (exclude : List String) :
    ofDirectory fs exclude directory = .ok (together directory
      ((sortByName entries).map fun e => (e.1, ofEntry fs exclude directory e.1 e.2))) := by
  rw [ofDirectory, h]
  simp only [ofEntries_eq_map, sortByName_map]

/-- What an entry adds is what its path says it adds. -/
theorem partOf_ofDirectory (exclude : List String) (hfs : fs.WellFormed)
    (hlist : fs.list directory = .ok entries) {entry : Entry} (he : (name, entry) ∈ entries) :
    partOf fs exclude (ofDirectory fs exclude) directory (name, entry) =
      .ok (name, ofEntry fs exclude directory name entry) := by
  cases entry with
  | file content =>
    have hdir := FileSystem.isDirectory_child_of_file hfs hlist he
    simp only [partOf, hdir, Bool.false_eq_true, if_false, ofEntry]
  | link target =>
    cases hdir : fs.isDirectory (directory.child name) <;>
      simp [partOf, hdir, ofEntry, Entry.isLink]
  | directory inner =>
    have hdir := FileSystem.isDirectory_child_of_directory hfs hlist he
    have hbelow := FileSystem.list_child hfs hlist he
    simp only [partOf, hdir, if_true, Entry.isLink, Bool.false_eq_true, false_or, ofEntry,
      ofDirectory, hbelow]
    split <;> rfl

theorem ofDirectory_eq_levelOf (hfs : fs.WellFormed) (exclude : List String) (directory : Path) :
    ofDirectory fs exclude directory =
      levelOf fs exclude (ofDirectory fs exclude) directory := by
  cases hlist : fs.list directory with
  | error e => rw [ofDirectory, levelOf, hlist]; rfl
  | ok entries =>
    have hparts : (sortByName entries).mapM (partOf fs exclude (ofDirectory fs exclude) directory) =
        .ok ((sortByName entries).map fun e => (e.1, ofEntry fs exclude directory e.1 e.2)) := by
      rw [mapM_eq_ok_iff, List.map_map]
      exact List.map_congr_left fun e he =>
        partOf_ofDirectory exclude hfs hlist (mem_sortByName.1 he)
    rw [ofDirectory_eq_ok hlist, levelOf, hlist]
    simp only [bind, Except.bind, hparts]
    rfl

/-- One level of a discovery calls the discovery for the visited directories only. -/
theorem levelOf_congr (hfs : fs.WellFormed) {f g : Path → Except FileError Discovery}
    (h : ∀ name, fs.Visits exclude directory name →
      f (directory.child name) = g (directory.child name)) :
    levelOf fs exclude f directory = levelOf fs exclude g directory := by
  rw [levelOf, levelOf]
  cases hlist : fs.list directory with
  | error e => rfl
  | ok entries =>
    have hpart (e : String × Entry) (he : e ∈ sortByName entries) :
        partOf fs exclude f directory e = partOf fs exclude g directory e := by
      have hvisits := FileSystem.visits_iff_of_mem exclude hfs hlist (mem_sortByName.1 he)
      rw [partOf, partOf]
      split
      · next hdir =>
        split
        · rfl
        · next hinto => rw [h e.1 (hvisits.2 ⟨hdir, hinto⟩)]
      · rfl
    simp only [bind, Except.bind, mapM_congr hpart]

/-- **There is one discovery that goes through every directory by the paths of its entries**: that
passes over links to directories and excluded directories, calls itself for the other directories
and takes what is no directory for a source file if its extension is supported. -/
theorem eq_ofDirectory_iff (hfs : fs.WellFormed) (exclude : List String)
    (f : Path → Except FileError Discovery) :
    f = ofDirectory fs exclude ↔ ∀ path, f path = levelOf fs exclude f path := by
  constructor
  · rintro rfl path
    exact ofDirectory_eq_levelOf hfs exclude path
  · intro hf
    funext path
    have hwell := FileSystem.wellFounded_visited hfs exclude
    induction path using hwell.induction with
    | h path ih =>
      rw [hf, ofDirectory_eq_levelOf hfs]
      exact levelOf_congr hfs fun name hvisits => ih _ ⟨name, hvisits, rfl⟩

/-- How an entry takes part in the discovery of its directory. -/
inductive Adds (fs : FileSystem) (exclude : List String) (directory : Path) (name : String) :
    Contribution → Prop
  | nothing (visits : ¬ fs.Visits exclude directory name) (source : ¬ fs.IsSource directory name) :
      Adds fs exclude directory name .nothing
  | source (visits : ¬ fs.Visits exclude directory name) (source : fs.IsSource directory name) :
      Adds fs exclude directory name (.source ⟨directory, name⟩)
  | directory {found : Discovery} (visits : fs.Visits exclude directory name)
      (source : ¬ fs.IsSource directory name)
      (below : ofDirectory fs exclude (directory.child name) = .ok found) :
      Adds fs exclude directory name (.directory found)

theorem adds_ofEntry (hfs : fs.WellFormed) (hlist : fs.list directory = .ok entries)
    {entry : Entry} (he : (name, entry) ∈ entries) :
    Adds fs exclude directory name (ofEntry fs exclude directory name entry) := by
  have hpart := partOf_ofDirectory exclude hfs hlist he
  have hvisits := FileSystem.visits_iff_of_mem exclude hfs hlist he
  have hsource : fs.IsSource directory name ↔ fs.isDirectory (directory.child name) = false ∧
      Analyzer.supports (Path.extensionOf name) = true := by
    rw [FileSystem.isSource_iff hlist, and_iff_right ⟨entry, he⟩]
  -- split as the program does, by what the path says, instead of by the kind of the entry
  rw [partOf] at hpart
  split at hpart
  · next hdir =>
    split at hpart
    · next hskip =>
      obtain ⟨-, hadds⟩ := Prod.mk.inj (Except.ok.inj hpart)
      rw [← hadds]
      exact .nothing (fun h => (hvisits.1 h).2 hskip) (by simp [hsource, hdir])
    · next hinto =>
      cases hfound : ofDirectory fs exclude (directory.child name) with
      | error e =>
        rw [hfound] at hpart
        cases hpart
      | ok found =>
        rw [hfound] at hpart
        obtain ⟨-, hadds⟩ := Prod.mk.inj (Except.ok.inj hpart)
        rw [← hadds]
        exact .directory (hvisits.2 ⟨hdir, hinto⟩) (by simp [hsource, hdir]) hfound
  · next hdir =>
    obtain ⟨-, hadds⟩ := Prod.mk.inj (Except.ok.inj hpart)
    rw [← hadds, ofName]
    split
    · next hext => exact .source (by simp [hvisits, hdir]) (by simp [hsource, hdir, hext])
    · next hext => exact .nothing (by simp [hvisits, hdir]) (by simp [hsource, hext])

/-! ### All directories -/

/-- Directories with the names of those below, and source files, as the program lists them. -/
structure Orderly (fs : FileSystem) (exclude : List String)
    (directories : List (Path × List String)) (sources : List SourceFile) : Prop where
  /-- A directory comes before those below it and after those beside it with smaller names. -/
  preorder : directories.Pairwise fun a b => a.1.parts < b.1.parts
  /-- Each directory is with the names of those that are visited from it. -/
  subfolders (d : Path × List String) (h : d ∈ directories) :
    d.2.Pairwise (· < ·) ∧ ∀ below, below ∈ d.2 ↔ fs.Visits exclude d.1 below
  /-- The source files of one directory come in the order of their names. -/
  ordered : sources.Pairwise fun f g => f.directory = g.directory → f.name < g.name

/-- What the entry of that name brings into the discovery of its directory. -/
structure Contributes (fs : FileSystem) (exclude : List String) (directory : Path) (name : String)
    (c : Contribution) : Prop extends Orderly fs exclude c.directories c.sources where
  isDirectory_iff : c.isDirectory = true ↔ fs.Visits exclude directory name
  /-- The directories are the visited one of that name and those reached from it. -/
  mem_directories (path : Path) : path ∈ c.directories.map (·.1) ↔
    ∃ rest, fs.Reaches exclude directory (name :: rest) ∧ directory.descend (name :: rest) = path
  mem_sources (f : SourceFile) : f ∈ c.sources ↔ fs.IsSource f.directory f.name ∧
    (f = ⟨directory, name⟩ ∨ f.directory ∈ c.directories.map (·.1))

/-- What a discovery of a directory has. -/
structure Finds (fs : FileSystem) (exclude : List String) (directory : Path) (d : Discovery) :
    Prop extends Orderly fs exclude d.directories d.sources where
  self_mem : directory ∈ d.directories.map (·.1)
  mem_directories (path : Path) : path ∈ d.directories.map (·.1) ↔
    ∃ names, fs.Reaches exclude directory names ∧ directory.descend names = path
  mem_sources (f : SourceFile) : f ∈ d.sources ↔ fs.IsSource f.directory f.name ∧
    f.directory ∈ d.directories.map (·.1)

theorem Adds.contributes {c : Contribution} (h : Adds fs exclude directory name c)
    (hbelow : ∀ found, fs.Visits exclude directory name →
      ofDirectory fs exclude (directory.child name) = .ok found →
      Finds fs exclude (directory.child name) found) :
    Contributes fs exclude directory name c := by
  have hreach (hno : ¬ fs.Visits exclude directory name) (rest : List String) :
      ¬ fs.Reaches exclude directory (name :: rest) := fun h => hno h.1
  rcases h with ⟨hno, hsource⟩ | ⟨hno, hsource⟩ | ⟨hvisits, hsource, hfound⟩
  · exact
    { preorder := .nil
      subfolders := by simp [Contribution.directories]
      ordered := .nil
      isDirectory_iff := by simp [Contribution.isDirectory, hno]
      mem_directories := by simp [Contribution.directories, hreach hno]
      mem_sources := by
        simp only [Contribution.sources, Contribution.directories, List.map_nil, List.not_mem_nil,
          or_false, false_iff, not_and]
        rintro f hf rfl
        exact hsource hf }
  · exact
    { preorder := .nil
      subfolders := by simp [Contribution.directories]
      ordered := List.pairwise_singleton _ _
      isDirectory_iff := by simp [Contribution.isDirectory, hno]
      mem_directories := by simp [Contribution.directories, hreach hno]
      mem_sources := by
        simp only [Contribution.sources, Contribution.directories, List.map_nil, List.not_mem_nil,
          or_false, List.mem_singleton, iff_and_self]
        rintro f rfl
        exact hsource }
  · have hfinds := hbelow _ hvisits hfound
    exact
    { hfinds.toOrderly with
      isDirectory_iff := by simp [Contribution.isDirectory, hvisits]
      mem_directories := fun path => by
        simp only [Path.descend_cons, FileSystem.Reaches, hvisits, true_and]
        exact hfinds.mem_directories path
      mem_sources := fun f => by
        rw [Contribution.sources, hfinds.mem_sources]
        refine and_congr_right fun hf => ⟨.inr, ?_⟩
        rintro (rfl | h)
        · exact absurd hf hsource
        · exact h }

section Together

variable {parts : List (String × Contribution)} (hlist : fs.list directory = .ok entries)
  (hsorted : parts.Pairwise fun a b => a.1 < b.1)
  (hparts : ∀ part ∈ parts, Contributes fs exclude directory part.1 part.2)
  (hall : ∀ e ∈ entries, e.1 ∈ parts.map (·.1))

theorem mem_directories_together {path : Path} :
    path ∈ (together directory parts).directories.map (·.1) ↔
      path = directory ∨ ∃ part ∈ parts, path ∈ part.2.directories.map (·.1) := by
  simp only [together, List.map_cons, List.mem_cons, List.map_flatMap, List.mem_flatMap]

include hparts in
theorem exists_descend_eq {part : String × Contribution} (h : part ∈ parts) {path : Path}
    (hpath : path ∈ part.2.directories.map (·.1)) :
    ∃ rest, directory.descend (part.1 :: rest) = path := by
  obtain ⟨rest, -, hrest⟩ := ((hparts part h).mem_directories path).1 hpath
  exact ⟨rest, hrest⟩

include hlist hparts hall in
theorem mem_directories_together_iff (path : Path) :
    path ∈ (together directory parts).directories.map (·.1) ↔
      ∃ names, fs.Reaches exclude directory names ∧ directory.descend names = path := by
  rw [mem_directories_together]
  constructor
  · rintro (rfl | ⟨part, hpart, hpath⟩)
    · exact ⟨[], FileSystem.isDirectory_eq_true_iff.2 ⟨entries, hlist⟩, Path.descend_nil _⟩
    · obtain ⟨rest, hreach, hrest⟩ := ((hparts part hpart).mem_directories path).1 hpath
      exact ⟨_, hreach, hrest⟩
  · rintro ⟨names, hreach, rfl⟩
    cases names with
    | nil => exact .inl (Path.descend_nil _)
    | cons name rest =>
      obtain ⟨⟨inner, hname⟩, -⟩ := (FileSystem.visits_iff hlist).1 hreach.1
      obtain ⟨part, hpart, rfl⟩ := List.mem_map.1 (hall _ hname)
      exact .inr ⟨part, hpart, ((hparts part hpart).mem_directories _).2 ⟨rest, hreach, rfl⟩⟩

include hsorted hparts in
theorem preorder_together :
    (together directory parts).directories.Pairwise fun a b => a.1.parts < b.1.parts := by
  rw [together, List.pairwise_cons, List.pairwise_flatMap]
  have hpath {part : String × Contribution} (hpart : part ∈ parts) {d : Path × List String}
      (hd : d ∈ part.2.directories) : ∃ rest, d.1.parts = directory.parts ++ part.1 :: rest := by
    obtain ⟨rest, hrest⟩ := exists_descend_eq hparts hpart (List.mem_map_of_mem hd)
    exact ⟨rest, by rw [← hrest]; rfl⟩
  -- the directory comes before everything below it, and two parts differ in the first name
  refine ⟨fun d hd => ?_, fun part hpart => (hparts part hpart).preorder, ?_⟩
  · obtain ⟨part, hpart, hd⟩ := List.mem_flatMap.1 hd
    obtain ⟨rest, hrest⟩ := hpath hpart hd
    rw [hrest]
    simpa using List.append_left_lt (List.nil_lt_cons part.1 rest)
  · refine hsorted.imp_of_mem fun {a b} ha hb hab d hd e he => ?_
    obtain ⟨rest, hrest⟩ := hpath ha hd
    obtain ⟨rest', hrest'⟩ := hpath hb he
    rw [hrest, hrest']
    exact List.append_left_lt (List.cons_lt_cons_iff.2 (.inl hab))

include hlist hsorted hparts hall in
theorem subfolders_together (d : Path × List String)
    (h : d ∈ (together directory parts).directories) :
    d.2.Pairwise (· < ·) ∧ ∀ below, below ∈ d.2 ↔ fs.Visits exclude d.1 below := by
  rcases List.mem_cons.1 h with rfl | h
  · refine ⟨List.pairwise_map.2 (hsorted.filter _), fun below => ?_⟩
    simp only [List.mem_map, List.mem_filter]
    constructor
    · rintro ⟨part, ⟨hpart, hdir⟩, rfl⟩
      exact (hparts part hpart).isDirectory_iff.1 hdir
    · intro hvisits
      obtain ⟨⟨inner, hname⟩, -⟩ := (FileSystem.visits_iff hlist).1 hvisits
      obtain ⟨part, hpart, rfl⟩ := List.mem_map.1 (hall _ hname)
      exact ⟨part, ⟨hpart, (hparts part hpart).isDirectory_iff.2 hvisits⟩, rfl⟩
  · obtain ⟨part, hpart, hd⟩ := List.mem_flatMap.1 h
    exact (hparts part hpart).subfolders d hd

include hlist hparts hall in
theorem mem_sources_together (f : SourceFile) : f ∈ (together directory parts).sources ↔
    fs.IsSource f.directory f.name ∧
      f.directory ∈ (together directory parts).directories.map (·.1) := by
  rw [mem_directories_together, together, List.mem_flatMap]
  constructor
  · rintro ⟨part, hpart, hf⟩
    obtain ⟨hsource, rfl | hf⟩ := ((hparts part hpart).mem_sources f).1 hf
    · exact ⟨hsource, .inl rfl⟩
    · exact ⟨hsource, .inr ⟨part, hpart, hf⟩⟩
  · rintro ⟨hsource, rfl | ⟨part, hpart, hf⟩⟩
    · obtain ⟨⟨entry, hname⟩, -⟩ := (FileSystem.isSource_iff hlist).1 hsource
      obtain ⟨part, hpart, hpname⟩ := List.mem_map.1 (hall _ hname)
      refine ⟨part, hpart, ((hparts part hpart).mem_sources f).2 ⟨hsource, .inl ?_⟩⟩
      rw [hpname]
    · exact ⟨part, hpart, ((hparts part hpart).mem_sources f).2 ⟨hsource, .inr hf⟩⟩

include hsorted hparts in
theorem ordered_together : (together directory parts).sources.Pairwise
    fun f g => f.directory = g.directory → f.name < g.name := by
  rw [together, List.pairwise_flatMap]
  refine ⟨fun part hpart => (hparts part hpart).ordered, ?_⟩
  -- A source file lies in the directory itself or below it, by way of the name of its part.
  have hplace {part : String × Contribution} (hpart : part ∈ parts) {f : SourceFile}
      (hf : f ∈ part.2.sources) : ∃ names, directory.descend names = f.directory ∧
        (names = [] ∧ f.name = part.1 ∨ names.head? = some part.1) := by
    rcases (((hparts part hpart).mem_sources f).1 hf).2 with rfl | hbelow
    · exact ⟨[], Path.descend_nil _, .inl ⟨rfl, rfl⟩⟩
    · obtain ⟨rest, hrest⟩ := exists_descend_eq hparts hpart hbelow
      exact ⟨part.1 :: rest, hrest, .inr rfl⟩
  refine hsorted.imp_of_mem fun {a b} ha hb hab f hf g hg heq => ?_
  obtain ⟨names, hnames, hcase⟩ := hplace ha hf
  obtain ⟨names', hnames', hcase'⟩ := hplace hb hg
  obtain rfl : names = names' := Path.descend_inj.1 (by rw [hnames, hnames', heq])
  rcases hcase with ⟨hnil, hname⟩ | hhead <;> rcases hcase' with ⟨hnil', hname'⟩ | hhead'
  · rwa [hname, hname']
  · simp [hnil] at hhead'
  · simp [hnil'] at hhead
  · exact absurd (Option.some.inj (hhead.symm.trans hhead')) hab.ne

include hlist hsorted hparts hall in
theorem finds_together : Finds fs exclude directory (together directory parts) where
  self_mem := mem_directories_together.2 (.inl rfl)
  mem_directories := mem_directories_together_iff hlist hparts hall
  preorder := preorder_together hsorted hparts
  subfolders := subfolders_together hlist hsorted hparts hall
  mem_sources := mem_sources_together hlist hparts hall
  ordered := ordered_together hsorted hparts

end Together

/-- **A discovery has what it should have**: every directory that is reached, in the order in
which the program visits them, and every source file in them. -/
theorem finds_ofDirectory (hfs : fs.WellFormed) {d : Discovery}
    (h : ofDirectory fs exclude directory = .ok d) : Finds fs exclude directory d := by
  have hwell := FileSystem.wellFounded_visited hfs exclude
  induction directory using hwell.induction generalizing d with
  | h directory ih =>
    cases hlist : fs.list directory with
    | error e =>
      rw [ofDirectory, hlist] at h
      cases h
    | ok entries =>
      rw [ofDirectory_eq_ok hlist] at h
      cases h
      refine finds_together hlist ?_ ?_ ?_
      · exact List.pairwise_map.2 (pairwise_sortByName (hfs.list hlist).nodup)
      · intro part hpart
        obtain ⟨e, he, rfl⟩ := List.mem_map.1 hpart
        refine (adds_ofEntry hfs hlist (mem_sortByName.1 he)).contributes ?_
        exact fun found hvisits hfound => ih _ ⟨e.1, hvisits, rfl⟩ hfound
      · intro e he
        exact List.mem_map.2 ⟨_, List.mem_map_of_mem (mem_sortByName.2 he), rfl⟩

end Discovery

end CodeSurvey
