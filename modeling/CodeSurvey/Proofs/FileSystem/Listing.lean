import CodeSurvey.FileSystem.Follow

/-!
# Directories found by their paths

A file system is well formed when every directory in it has entries with proper names and no name
twice.  In a well-formed file system a path to a directory can be led on by the name of an entry:

* `FileSystem.resumes_follow` : a path that leads to a directory goes on from there, whatever
  links it has followed on the way;
* `FileSystem.list_child` : the path of a directory followed by the name of a directory in it leads
  to the latter;
* `FileSystem.isDirectory_child_of_directory`, `FileSystem.isDirectory_child_of_file` : the path of
  an entry that is no link leads to a directory exactly when the entry is one.
-/

namespace CodeSurvey

/-- A text that can be the name of an entry of a directory. -/
structure IsName (name : String) : Prop where
  ne_empty : name ≠ ""
  ne_dot : name ≠ "."
  ne_dotdot : name ≠ ".."
  no_slash : '/' ∉ name.toList

instance (name : String) : Decidable (IsName name) :=
  decidable_of_iff (name ≠ "" ∧ name ≠ "." ∧ name ≠ ".." ∧ '/' ∉ name.toList)
    ⟨fun ⟨a, b, c, d⟩ => ⟨a, b, c, d⟩, fun ⟨a, b, c, d⟩ => ⟨a, b, c, d⟩⟩

namespace Entry

/-- In an entry and below it every directory has entries with proper names, each name once. -/
inductive WellFormed : Entry → Prop
  | file (content : List UInt8) : WellFormed (.file content)
  | link (target : Path) : WellFormed (.link target)
  | directory {entries : List (String × Entry)} (nodup : (entries.map (·.1)).Nodup)
      (names : ∀ e ∈ entries, IsName e.1) (below : ∀ e ∈ entries, WellFormed e.2) :
      WellFormed (.directory entries)

variable {e : Entry} {entries : List (String × Entry)} {name : String}

namespace WellFormed

theorem nodup (h : (Entry.directory entries).WellFormed) : (entries.map (·.1)).Nodup := by
  cases h with
  | directory nodup _ _ => exact nodup

theorem isName (h : (Entry.directory entries).WellFormed) (he : (name, e) ∈ entries) :
    IsName name := by
  cases h with
  | directory _ names _ => exact names _ he

theorem entry (h : (Entry.directory entries).WellFormed) (he : (name, e) ∈ entries) :
    e.WellFormed := by
  cases h with
  | directory _ _ below => exact below _ he

theorem lookup_eq_some_iff (h : (Entry.directory entries).WellFormed) :
    entries.lookup name = some e ↔ (name, e) ∈ entries := lookup_eq_some_iff_mem h.nodup

theorem mem_iff (h : (Entry.directory entries).WellFormed) (he : (name, e) ∈ entries)
    {e' : Entry} : (name, e') ∈ entries ↔ e = e' := by
  rw [← h.lookup_eq_some_iff, h.lookup_eq_some_iff.2 he, Option.some.injEq]

end WellFormed

/-! ### Going down -/

theorem descend_append (a b : List String) (e : Entry) :
    e.descend (a ++ b) = (e.descend a).bind (descend b) := by
  induction a generalizing e with
  | nil => rfl
  | cons name a ih =>
    cases e with
    | file | link => rfl
    | directory entries =>
      rw [List.cons_append, descend, descend]
      cases entries.lookup name with
      | none => rfl
      | some below => exact ih below

theorem WellFormed.descend (h : e.WellFormed) {place : List String} {below : Entry}
    (hbelow : e.descend place = some below) : below.WellFormed := by
  induction place generalizing e with
  | nil => exact Option.some.inj hbelow ▸ h
  | cons name place ih =>
    cases e with
    | file | link => cases hbelow
    | directory entries =>
      rw [Entry.descend] at hbelow
      obtain ⟨next, hnext, hbelow⟩ := Option.bind_eq_some_iff.1 hbelow
      exact ih (h.entry (h.lookup_eq_some_iff.1 hnext)) hbelow

end Entry

namespace FileSystem

variable {fs : FileSystem} {path : Path} {entries inner : List (String × Entry)} {name : String}
  {entry : Entry} {place : List String}
  {onLink : List String → List String → Except Obstacle Spot}

/-- Every directory of a file system has entries with proper names, each name once. -/
def WellFormed (fs : FileSystem) : Prop := (Entry.directory fs.entries).WellFormed

theorem find?_concat (h : fs.find? place = some (.directory entries)) :
    fs.find? (place ++ [name]) = entries.lookup name := by
  have hplace : (Entry.directory fs.entries).descend place = some (.directory entries) := h
  rw [find?, Entry.descend_append, hplace, Option.bind_some, Entry.descend]
  cases entries.lookup name <;> rfl

/-! ### Following a path and going on from its end -/

/-- What a way to follow names arrives at stands there. -/
def Arrives (fs : FileSystem) (way : List String → List String → Except Obstacle Spot) : Prop :=
  ∀ here names place entry, way here names = .ok (.taken place entry) →
    fs.find? place = some entry

/-- Where a way to follow names leads to a directory, further names are followed from there. -/
def Resumes (fs : FileSystem) (way : List String → List String → Except Obstacle Spot) : Prop :=
  ∀ here names place entries, way here names = .ok (.taken place (.directory entries)) →
    ∃ onLink, ∀ rest, way here (names ++ rest) = fs.advance true onLink place rest

theorem arrives_advance (h : fs.Arrives onLink) : fs.Arrives (fs.advance true onLink) := by
  intro here names place entry hway
  induction names generalizing here with
  | nil =>
    rw [advance] at hway
    split at hway
    · next found => cases hway; exact found
    · cases hway
  | cons name rest ih =>
    rw [advance] at hway
    split at hway
    · exact ih _ hway
    · dsimp only at hway
      split at hway
      · split at hway <;> cases hway
      · exact ih _ hway
      · next content found =>
        split at hway
        · cases hway; exact found
        · cases hway
      · next target found =>
        rw [if_neg (by simp)] at hway
        exact h _ _ _ _ hway

theorem resumes_advance (h : fs.Resumes onLink) : fs.Resumes (fs.advance true onLink) := by
  intro here names place entries hway
  induction names generalizing here with
  | nil =>
    rw [advance] at hway
    split at hway
    · cases hway; exact ⟨onLink, fun rest => rfl⟩
    · cases hway
  | cons name tail ih =>
    rw [advance] at hway
    split at hway
    · next hup =>
      obtain ⟨onLink', hrest⟩ := ih _ hway
      refine ⟨onLink', fun rest => ?_⟩
      rw [List.cons_append, advance, if_pos hup, hrest]
    · next hdown =>
      dsimp only at hway
      split at hway
      · split at hway <;> cases hway
      · next below found =>
        obtain ⟨onLink', hrest⟩ := ih _ hway
        refine ⟨onLink', fun rest => ?_⟩
        rw [List.cons_append, advance, if_neg hdown]
        simp only [found, hrest]
      · -- a file is no directory
        split at hway <;> cases hway
      · next target found =>
        -- the names behind the link go on behind those of its target
        rw [if_neg (by simp)] at hway
        obtain ⟨onLink', hrest⟩ := h _ _ _ _ hway
        refine ⟨onLink', fun rest => ?_⟩
        rw [List.cons_append, advance, if_neg hdown]
        simp only [found, Bool.not_true, Bool.false_eq_true, and_false, if_false,
          ← List.append_assoc, hrest]

theorem arrives_follow (fs : FileSystem) (budget : Nat) : fs.Arrives (fs.follow true budget) := by
  induction budget with
  | zero => exact arrives_advance fun _ _ _ _ h => by cases h
  | succ budget ih => exact arrives_advance ih

/-- A path that leads to a directory goes on from there, whatever links it has followed. -/
theorem resumes_follow (fs : FileSystem) (budget : Nat) : fs.Resumes (fs.follow true budget) := by
  induction budget with
  | zero => exact resumes_advance fun _ _ _ _ h => by cases h
  | succ budget ih => exact resumes_advance ih

/-! ### Listing -/

theorem list_eq_ok_iff : fs.list path = .ok entries ↔
    ∃ place, fs.locate path = .ok (.taken place (.directory entries)) := by
  rw [list]
  constructor
  · intro h
    split at h <;> cases h
    exact ⟨_, ‹_›⟩
  · rintro ⟨place, h⟩
    rw [h]

theorem isDirectory_eq_true_iff :
    fs.isDirectory path = true ↔ ∃ entries, fs.list path = .ok entries := by
  simp only [list_eq_ok_iff, isDirectory]
  constructor
  · intro h
    split at h
    · exact ⟨_, _, ‹_›⟩
    · cases h
  · rintro ⟨entries, place, h⟩
    rw [h]

theorem WellFormed.list (hfs : fs.WellFormed) (h : fs.list path = .ok entries) :
    (Entry.directory entries).WellFormed := by
  obtain ⟨place, hplace⟩ := list_eq_ok_iff.1 h
  exact Entry.WellFormed.descend hfs (arrives_follow fs _ _ _ _ _ hplace)

/-- The path of an entry of a directory leads on from the place of the directory. -/
theorem locate_child (h : fs.list path = .ok entries) (name : String) :
    ∃ onLink place, fs.find? place = some (.directory entries) ∧
      fs.locate (path.child name) = fs.advance true onLink place [name] := by
  obtain ⟨place, hplace⟩ := list_eq_ok_iff.1 h
  obtain ⟨onLink, hrest⟩ := resumes_follow fs _ _ _ _ _ hplace
  exact ⟨onLink, place, arrives_follow fs _ _ _ _ _ hplace, hrest [name]⟩

/-- A directory in a directory is found under its path. -/
theorem list_child (hfs : fs.WellFormed) (h : fs.list path = .ok entries)
    (hname : (name, .directory inner) ∈ entries) : fs.list (path.child name) = .ok inner := by
  have hwell := hfs.list h
  obtain ⟨onLink, place, hplace, hlocate⟩ := locate_child h name
  have hfind : fs.find? (place ++ [name]) = some (.directory inner) := by
    rw [find?_concat hplace]
    exact hwell.lookup_eq_some_iff.2 hname
  refine list_eq_ok_iff.2 ⟨place ++ [name], ?_⟩
  rw [hlocate, advance, if_neg (hwell.isName hname).ne_dotdot]
  simp only [hfind, advance]

theorem isDirectory_child_of_directory (hfs : fs.WellFormed) (h : fs.list path = .ok entries)
    (hname : (name, .directory inner) ∈ entries) : fs.isDirectory (path.child name) = true :=
  isDirectory_eq_true_iff.2 ⟨inner, list_child hfs h hname⟩

theorem isDirectory_child_of_file (hfs : fs.WellFormed) (h : fs.list path = .ok entries)
    {content : List UInt8} (hname : (name, .file content) ∈ entries) :
    fs.isDirectory (path.child name) = false := by
  have hwell := hfs.list h
  obtain ⟨onLink, place, hplace, hlocate⟩ := locate_child h name
  have hfind : fs.find? (place ++ [name]) = some (.file content) := by
    rw [find?_concat hplace]
    exact hwell.lookup_eq_some_iff.2 hname
  rw [isDirectory, hlocate, advance, if_neg (hwell.isName hname).ne_dotdot]
  simp only [hfind, if_true]

end FileSystem

end CodeSurvey
