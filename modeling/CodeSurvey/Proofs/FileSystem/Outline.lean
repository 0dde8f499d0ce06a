import CodeSurvey.Proofs.FileSystem.Listing
import Mathlib.Data.List.Basic

/-!
# What does not depend on the bytes of files

The outline of a file system is what is left of it without the bytes in its files.  Where a path
leads, which entries are directories and what they list is a matter of the outline.

* `FileSystem.locate_outline` : a path leads to the same place in the outline;
* `FileSystem.outline_put` : new bytes in a file leave the outline as it is;
* `FileSystem.read_put` : and are read by the paths that lead to the file, and by no other.
-/

namespace CodeSurvey

/-! ### Outlines of entries -/

namespace Entry

mutual

/-- An entry without the bytes of the files in it. -/
def outline : Entry → Entry
  | file _ => file []
  | link target => link target
  | directory entries => directory (outlines entries)

/-- The entries of a directory without the bytes of files. -/
def outlines : List (String × Entry) → List (String × Entry)
  | [] => []
  | (name, entry) :: rest => (name, outline entry) :: outlines rest

end

variable {place : List String} {entries : List (String × Entry)} {old new : List UInt8}

theorem lookup_outlines (entries : List (String × Entry)) (name : String) :
    (outlines entries).lookup name = (entries.lookup name).map outline := by
  induction entries with
  | nil => rfl
  | cons e rest ih =>
    obtain ⟨first, entry⟩ := e
    rw [outlines, List.lookup_cons, List.lookup_cons]
    cases name == first with
    | true => rfl
    | false => exact ih

theorem descend_outline (place : List String) (e : Entry) :
    e.outline.descend place = (e.descend place).map outline := by
  induction place generalizing e with
  | nil => rfl
  | cons name rest ih =>
    cases e with
    | file content => rfl
    | link target => rfl
    | directory entries =>
      rw [outline, descend, descend, lookup_outlines]
      cases entries.lookup name with
      | none => rfl
      | some below => exact ih below

/-! ### New bytes in a file -/

theorem outlines_assign {name : String} {e e' : Entry} (h : entries.lookup name = some e)
    (he : e'.outline = e.outline) : outlines (assign name e' entries) = outlines entries := by
  induction entries with
  | nil => cases h
  | cons first rest ih =>
    obtain ⟨key, entry⟩ := first
    rw [List.lookup_cons] at h
    by_cases hkey : key = name
    · obtain rfl : entry = e := by simpa [hkey] using h
      simp only [assign, hkey, if_true, outlines, he]
    · have hne : (name == key) = false := by simpa using Ne.symm hkey
      rw [hne] at h
      simp only [assign, hkey, if_false, outlines, ih h]

/-- To put something at a place in a directory is to put it there in the entry on the way. -/
theorem put_cons {name : String} {rest : List String} {below : List (String × Entry)}
    (hrest : rest ≠ []) (h : entries.lookup name = some (.directory below)) (e : Entry) :
    put e (name :: rest) entries = assign name (.directory (put e rest below)) entries := by
  cases rest with
  | nil => exact absurd rfl hrest
  | cons second rest => simp only [put, h]

/-- What stands at the end of a list of names stands in a directory on the way to it. -/
theorem exists_of_descend_cons {name : String} {rest : List String} {e : Entry}
    (hrest : rest ≠ []) (h : (directory entries).descend (name :: rest) = some e) :
    ∃ below, entries.lookup name = some (.directory below) ∧
      (directory below).descend rest = some e := by
  rw [descend] at h
  obtain ⟨next, hnext, hbelow⟩ := Option.bind_eq_some_iff.1 h
  cases next with
  | directory below => exact ⟨below, hnext, hbelow⟩
  | file content | link target =>
    cases rest with
    | nil => exact absurd rfl hrest
    | cons second rest => cases hbelow

theorem outlines_put (h : (directory entries).descend place = some (.file old)) :
    outlines (put (.file new) place entries) = outlines entries := by
  induction place generalizing entries with
  | nil => rfl
  | cons name rest ih =>
    rcases eq_or_ne rest [] with rfl | hrest
    · rw [descend] at h
      obtain ⟨e, he, heq⟩ := Option.bind_eq_some_iff.1 h
      obtain rfl : e = .file old := by simpa [descend] using heq
      exact outlines_assign he rfl
    · obtain ⟨below, hbelow, hfile⟩ := exists_of_descend_cons hrest h
      rw [put_cons hrest hbelow]
      exact outlines_assign hbelow (by rw [outline, outline, ih hfile])

/-- What is put at a place stands there. -/
theorem descend_put_self (h : (directory entries).descend place = some (.file old)) (e : Entry) :
    (directory (put e place entries)).descend place = some e := by
  induction place generalizing entries with
  | nil => cases h
  | cons name rest ih =>
    rcases eq_or_ne rest [] with rfl | hrest
    · rw [put, descend, lookup_assign_self]
      rfl
    · obtain ⟨below, hbelow, hfile⟩ := exists_of_descend_cons hrest h
      rw [put_cons hrest hbelow, descend, lookup_assign_self]
      exact ih hfile

/-- Other files keep their bytes. -/
theorem descend_put_of_ne (h : (directory entries).descend place = some (.file old)) (e : Entry)
    {other : List String} (hother : other ≠ place) {content : List UInt8}
    (hcontent : (directory entries).descend other = some (.file content)) :
    (directory (put e place entries)).descend other = some (.file content) := by
  induction place generalizing entries other with
  | nil => exact hcontent
  | cons name rest ih =>
    cases other with
    | nil => cases hcontent
    | cons name' rest' =>
      rw [descend] at hcontent ⊢
      rcases eq_or_ne name' name with rfl | hname
      · have hne : rest' ≠ rest := fun heq => hother (heq ▸ rfl)
        rcases eq_or_ne rest [] with rfl | hrest
        · -- there is nothing below the file
          rw [descend] at h
          obtain ⟨next, hnext, heq⟩ := Option.bind_eq_some_iff.1 h
          obtain rfl : next = .file old := by simpa [descend] using heq
          rw [hnext, Option.bind_some] at hcontent
          cases rest' with
          | nil => exact absurd rfl hne
          | cons second rest' => cases hcontent
        · obtain ⟨below, hbelow, hfile⟩ := exists_of_descend_cons hrest h
          rw [hbelow, Option.bind_some] at hcontent
          rw [put_cons hrest hbelow, lookup_assign_self, Option.bind_some]
          exact ih hfile hne hcontent
      · -- another entry of the directory
        have hkeep : (put e (name :: rest) entries).lookup name' = entries.lookup name' := by
          rcases eq_or_ne rest [] with rfl | hrest
          · exact lookup_assign_of_ne hname _ _
          · obtain ⟨below, hbelow, -⟩ := exists_of_descend_cons hrest h
            rw [put_cons hrest hbelow]
            exact lookup_assign_of_ne hname _ _
        rwa [hkeep]

end Entry

/-- The spot in the outline. -/
def Spot.outline : Spot → Spot
  | taken place entry => taken place entry.outline
  | vacant place => vacant place

/-- Two spots with one outline are entries at one place, or the same. -/
theorem Spot.taken_or_eq_of_map_outline_eq {result result' : Except Obstacle Spot}
    (h : result'.map outline = result.map outline) :
    (∃ place entry entry', result = .ok (taken place entry) ∧
      result' = .ok (taken place entry') ∧ entry'.outline = entry.outline) ∨
    (∀ place entry, result ≠ .ok (taken place entry)) ∧ result' = result := by
  rcases result with obstacle | ⟨place, entry⟩ | free <;>
    rcases result' with obstacle' | ⟨place', entry'⟩ | free'
  all_goals simp only [Except.map, outline, Except.ok.injEq, Except.error.injEq, taken.injEq,
    vacant.injEq, reduceCtorEq] at h
  · exact .inr ⟨by simp, h ▸ rfl⟩
  · obtain ⟨rfl, houtline⟩ := h
    exact .inl ⟨_, entry, entry', rfl, rfl, houtline⟩
  · exact .inr ⟨by simp, h ▸ rfl⟩

namespace FileSystem

variable {fs : FileSystem} {path : Path} {place : List String} {old new : List UInt8}
  {onLink : List String → List String → Except Obstacle Spot}

/-- A file system without the bytes of its files. -/
def outline (fs : FileSystem) : FileSystem := { fs with entries := Entry.outlines fs.entries }

theorem find?_outline (fs : FileSystem) (place : List String) :
    fs.outline.find? place = (fs.find? place).map Entry.outline :=
  Entry.descend_outline place (.directory fs.entries)

theorem advance_outline (fs : FileSystem) (toTarget : Bool)
    (onLink : List String → List String → Except Obstacle Spot) (here names : List String) :
    fs.outline.advance toTarget (fun here names => (onLink here names).map Spot.outline) here names =
      (fs.advance toTarget onLink here names).map Spot.outline := by
  induction names generalizing here with
  | nil =>
    rw [advance, advance, find?_outline]
    cases fs.find? here <;> rfl
  | cons name rest ih =>
    rw [advance, advance]
    split
    · exact ih _
    · dsimp only
      rw [find?_outline]
      cases fs.find? (here ++ [name]) with
      | none => dsimp only [Option.map_none]; split <;> rfl
      | some entry =>
        cases entry with
        | directory entries => exact ih _
        | file content => dsimp only [Option.map_some, Entry.outline]; split <;> rfl
        | link target => dsimp only [Option.map_some, Entry.outline]; split <;> rfl

theorem follow_outline (fs : FileSystem) (toTarget : Bool) (budget : Nat) :
    fs.outline.follow toTarget budget =
      fun here names => (fs.follow toTarget budget here names).map Spot.outline := by
  induction budget with
  | zero =>
    funext here names
    exact fs.advance_outline toTarget (fun _ _ => .error .tooManyLinks) here names
  | succ budget ih =>
    funext here names
    rw [follow, ih]
    exact fs.advance_outline toTarget _ here names

/-- A path leads to the same place in the outline. -/
theorem locate_outline (fs : FileSystem) (path : Path) :
    fs.outline.locate path = (fs.locate path).map Spot.outline := by
  rw [locate, follow_outline]
  rfl

theorem isDirectory_outline (fs : FileSystem) (path : Path) :
    fs.outline.isDirectory path = fs.isDirectory path := by
  rw [isDirectory, isDirectory, locate_outline]
  rcases fs.locate path with obstacle | ⟨place, entry⟩ | place
  · rfl
  · cases entry <;> rfl
  · rfl

theorem list_outline (fs : FileSystem) (path : Path) :
    fs.outline.list path = (fs.list path).map Entry.outlines := by
  rw [list, list, locate_outline]
  rcases fs.locate path with obstacle | ⟨place, entry⟩ | place
  · rfl
  · cases entry <;> rfl
  · rfl

/-! ### Reading after a change -/

/-- New bytes in a file leave the outline as it is. -/
theorem outline_put (h : fs.find? place = some (.file old)) (new : List UInt8) :
    (fs.put place (.file new)).outline = fs.outline := by
  rw [outline, outline, put, Entry.outlines_put h]

/-- The path leads to the entry at the place. -/
def leadsTo (fs : FileSystem) (path : Path) (place : List String) : Bool :=
  match fs.locate path with
  | .ok (.taken found _) => found = place
  | _ => false

theorem find?_put_self (h : fs.find? place = some (.file old)) (e : Entry) :
    (fs.put place e).find? place = some e := Entry.descend_put_self h e

theorem find?_put_of_ne (h : fs.find? place = some (.file old)) (e : Entry)
    {other : List String} (hother : other ≠ place) {content : List UInt8}
    (hcontent : fs.find? other = some (.file content)) :
    (fs.put place e).find? other = some (.file content) :=
  Entry.descend_put_of_ne h e hother hcontent

/-- After a change of a file a path leads to an entry with the same outline at the same place, or,
if it led to no entry, where it led before. -/
theorem locate_put (h : fs.find? place = some (.file old)) (new : List UInt8) (path : Path) :
    (∃ found entry entry', fs.locate path = .ok (.taken found entry) ∧
      (fs.put place (.file new)).locate path = .ok (.taken found entry') ∧
      entry'.outline = entry.outline) ∨
    (∀ found entry, fs.locate path ≠ .ok (.taken found entry)) ∧
      (fs.put place (.file new)).locate path = fs.locate path := by
  refine Spot.taken_or_eq_of_map_outline_eq ?_
  rw [← locate_outline, ← locate_outline, outline_put h]

/-- New bytes in a file are read by the paths that lead to it; by the others what was read
before. -/
theorem read_put (h : fs.find? place = some (.file old)) (new : List UInt8) (path : Path) :
    (fs.put place (.file new)).read path =
      if fs.leadsTo path place then .ok new else fs.read path := by
  rcases locate_put h new path with ⟨found, entry, entry', hpath, hpath', houtline⟩ | ⟨hnone, hsame⟩
  · have hfind : fs.find? found = some entry := arrives_follow _ _ _ _ _ _ hpath
    have hfind' : (fs.put place (.file new)).find? found = some entry' :=
      arrives_follow _ _ _ _ _ _ hpath'
    rw [read, read, leadsTo, hpath, hpath']
    rcases eq_or_ne found place with rfl | hfound
    · rw [find?_put_self h] at hfind'
      cases hfind'
      simp
    · -- entries with one outline are of one kind, and another file has the bytes it had
      cases entry with
      | file content =>
        rw [find?_put_of_ne h _ hfound hfind] at hfind'
        cases hfind'
        simp [hfound]
      | link target =>
        cases entry' <;> cases houtline
        simp [hfound]
      | directory entries =>
        cases entry' with
        | directory entries' => simp [hfound]
        | file | link => cases houtline
  · have hleads : fs.leadsTo path place = false := by
      rw [leadsTo]
      split
      · next hpath => exact absurd hpath (hnone _ _)
      · rfl
    rw [hleads, read, read, hsame]
    rfl

end FileSystem

end CodeSurvey
