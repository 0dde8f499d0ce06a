import CodeSurvey.Proofs.FileSystem.Outline
import CodeSurvey.Proofs.FileSystem.Routes

/-!
# What putting an entry changes

An entry without contents of its own is put in a directory, in the place of nothing or of an entry
that is no directory.  Then nothing else changes, except that the directories on the way list
something else.

* `FileSystem.bareAt?_put` : at every other place there is what was there, up to what directories
  list;
* `FileSystem.put_eq_self`, `FileSystem.put_of_find?` : where there is no directory around the
  place, or the entry stands there already, nothing changes at all;
* `FileSystem.linksOfEntries_put`, `FileSystem.WellFormed.put` : no links come or go, and the file
  system stays well formed.
-/

namespace CodeSurvey

theorem assign_of_lookup {α : Type} {key : String} {value : α} {l : List (String × α)}
    (h : l.lookup key = some value) : assign key value l = l := by
  induction l with
  | nil => cases h
  | cons p l ih =>
    obtain ⟨k, v⟩ := p
    rw [List.lookup_cons] at h
    by_cases hk : k = key
    · obtain rfl : v = value := by simpa [hk] using h
      rw [assign, if_pos hk, hk]
    · have hne : (key == k) = false := by simpa using Ne.symm hk
      rw [hne] at h
      rw [assign, if_neg hk, ih h]

namespace Entry

/-- The entry without what a directory lists. -/
def bare : Entry → Entry
  | directory _ => directory []
  | e => e

variable {e old : Entry} {entries : List (String × Entry)} {place other : List String}
  {name : String}

@[simp] theorem bare_eq_file_iff {content : List UInt8} :
    e.bare = file content ↔ e = file content := by
  cases e <;> simp [bare]

@[simp] theorem bare_eq_link_iff {target : Path} : e.bare = link target ↔ e = link target := by
  cases e <;> simp [bare]

theorem bare_eq_directory_iff : e.bare = directory [] ↔ ∃ entries, e = directory entries := by
  cases e <;> simp [bare]

/-- Nothing is below an entry that is no directory, or lists nothing. -/
theorem descend_cons_of_bare (h : e.bare = e) (name : String) (rest : List String) :
    e.descend (name :: rest) = none := by
  cases e with
  | file content | link target => rfl
  | directory entries =>
    obtain rfl : [] = entries := by simpa [bare] using h
    rfl

theorem descend_assign_cons (entries : List (String × Entry)) (name key : String) (e : Entry)
    (rest : List String) : (directory (assign name e entries)).descend (key :: rest) =
      if key = name then e.descend rest else (directory entries).descend (key :: rest) := by
  rw [descend, descend]
  by_cases hkey : key = name
  · rw [if_pos hkey, hkey, lookup_assign_self]
    rfl
  · rw [if_neg hkey, lookup_assign_of_ne hkey]

/-- A place below a name has a directory around it when the name is that of a directory. -/
theorem exists_of_descend_dropLast {rest : List String} {inner : List (String × Entry)}
    (hrest : rest ≠ [])
    (h : (directory entries).descend (name :: rest).dropLast = some (directory inner)) :
    ∃ below, entries.lookup name = some (directory below) ∧
      (directory below).descend rest.dropLast = some (directory inner) := by
  rw [List.dropLast_cons_of_ne_nil hrest, descend] at h
  obtain ⟨next, hnext, hbelow⟩ := Option.bind_eq_some_iff.1 h
  cases next with
  | directory below => exact ⟨below, hnext, hbelow⟩
  | file content | link target =>
    cases hdrop : rest.dropLast with
    | nil => rw [hdrop] at hbelow; cases hbelow
    | cons second tail => rw [hdrop] at hbelow; cases hbelow

/-! ### What stands where -/

/-- **Where there is no directory around the place nothing changes.** -/
theorem put_eq_self
    (h : ∀ inner, (directory entries).descend place.dropLast ≠ some (directory inner)) :
    put e place entries = entries := by
  induction place generalizing entries with
  | nil => rfl
  | cons name rest ih =>
    rcases eq_or_ne rest [] with rfl | hrest
    · exact absurd rfl (h entries)
    · cases hname : entries.lookup name with
      | none =>
        cases rest with
        | nil => exact absurd rfl hrest
        | cons second rest => simp only [put, hname]
      | some next =>
        cases next with
        | file content | link target =>
          cases rest with
          | nil => exact absurd rfl hrest
          | cons second rest => simp only [put, hname]
        | directory below =>
          have hbelow : put e rest below = below := by
            refine ih fun inner hinner => h inner ?_
            rw [List.dropLast_cons_of_ne_nil hrest, descend, hname]
            exact hinner
          rw [put_cons hrest hname, hbelow, assign_of_lookup hname]

/-- Where the entry stands already nothing changes. -/
theorem put_of_descend (h : (directory entries).descend place = some e) :
    put e place entries = entries := by
  induction place generalizing entries with
  | nil => rfl
  | cons name rest ih =>
    rcases eq_or_ne rest [] with rfl | hrest
    · rw [descend] at h
      obtain ⟨next, hnext, heq⟩ := Option.bind_eq_some_iff.1 h
      obtain rfl : next = e := by simpa [descend] using heq
      exact assign_of_lookup hnext
    · obtain ⟨below, hbelow, hentry⟩ := exists_of_descend_cons hrest h
      rw [put_cons hrest hbelow, ih hentry, assign_of_lookup hbelow]

/-- What is put at a place stands there, and at the other places there is what was there, up to
what directories list. -/
theorem map_bare_descend_put (he : e.bare = e)
    (hparent : ∃ inner, (directory entries).descend place.dropLast = some (directory inner))
    (hold : ∀ inner, (directory entries).descend place ≠ some (directory inner)) :
    ((directory (put e place entries)).descend other).map bare =
      if other = place then some e else ((directory entries).descend other).map bare := by
  induction place generalizing entries other with
  | nil => exact absurd rfl (hold entries)
  | cons name rest ih =>
    cases other with
    | nil => rw [if_neg (by simp)]; rfl
    | cons key tail =>
      rcases eq_or_ne rest [] with rfl | hrest
      · rw [put, descend_assign_cons]
        by_cases hkey : key = name
        · subst hkey
          rw [if_pos rfl]
          cases tail with
          | nil => simp [descend, he]
          | cons second tail =>
            -- neither below the new entry nor below the old one there is anything
            rw [if_neg (by simp), descend_cons_of_bare he, descend]
            cases hnext : entries.lookup key with
            | none => rfl
            | some next =>
              cases next with
              | file content | link target => rfl
              | directory below =>
                exact absurd (by rw [descend, hnext]; rfl) (hold below)
        · rw [if_neg hkey, if_neg (by simp [hkey])]
      · obtain ⟨inner, hinner⟩ := hparent
        obtain ⟨below, hbelow, hparent⟩ := exists_of_descend_dropLast hrest hinner
        rw [put_cons hrest hbelow, descend_assign_cons]
        by_cases hkey : key = name
        · subst hkey
          rw [if_pos rfl, ih ⟨inner, hparent⟩ (fun inner' h => hold inner' ?_)]
          · simp only [List.cons.injEq, true_and, descend, hbelow, Option.bind_some]
          · rw [descend, hbelow]
            exact h
        · rw [if_neg hkey, if_neg (by simp [hkey])]

/-! ### Links and well-formedness -/

theorem linksOfEntries_assign (hold : ∀ old, entries.lookup name = some old → old.links = e.links)
    (he : entries.lookup name = none → e.links = 0) :
    linksOfEntries (assign name e entries) = linksOfEntries entries := by
  induction entries with
  | nil => simp [assign, linksOfEntries, he rfl]
  | cons first rest ih =>
    obtain ⟨key, entry⟩ := first
    by_cases hkey : key = name
    · have hlinks : entry.links = e.links := hold entry (by simp [hkey])
      rw [assign, if_pos hkey, linksOfEntries, linksOfEntries, hlinks]
    · have hne : (name == key) = false := by simpa using Ne.symm hkey
      rw [List.lookup_cons, hne] at hold he
      rw [assign, if_neg hkey, linksOfEntries, linksOfEntries, ih hold he]

/-- No links come or go with an entry without links in the place of one without links. -/
theorem linksOfEntries_put (he : e.links = 0)
    (hold : ∀ old, (directory entries).descend place = some old → old.links = 0) :
    linksOfEntries (put e place entries) = linksOfEntries entries := by
  induction place generalizing entries with
  | nil => rfl
  | cons name rest ih =>
    rcases eq_or_ne rest [] with rfl | hrest
    · refine linksOfEntries_assign (fun old h => ?_) fun _ => he
      rw [he]
      exact hold old (by rw [descend, h]; rfl)
    · cases hname : entries.lookup name with
      | none =>
        -- below a free name, or one that is not that of a directory, nothing is put
        rw [put_eq_self fun inner h => ?_]
        rw [List.dropLast_cons_of_ne_nil hrest, descend, hname] at h
        cases h
      | some next =>
        cases next with
        | file content | link target =>
          rw [put_eq_self fun inner h => ?_]
          obtain ⟨below, hbelow, -⟩ := exists_of_descend_dropLast hrest h
          rw [hname] at hbelow
          cases hbelow
        | directory below =>
          have hbelow : linksOfEntries (put e rest below) = linksOfEntries below := by
            refine ih fun old h => hold old ?_
            rw [descend, hname]
            exact h
          rw [put_cons hrest hname]
          refine linksOfEntries_assign (fun old h => ?_) fun h => ?_
          · rw [hname] at h
            cases h
            rw [links, links, hbelow]
          · rw [hname] at h
            cases h

theorem mem_assign {p : String × Entry} (h : p ∈ assign name e entries) :
    p = (name, e) ∨ p ∈ entries := by
  induction entries with
  | nil => exact .inl (List.mem_singleton.1 h)
  | cons first rest ih =>
    obtain ⟨key, entry⟩ := first
    rw [assign] at h
    split at h
    · exact (List.mem_cons.1 h).imp_right (List.mem_cons_of_mem _)
    · rcases List.mem_cons.1 h with rfl | h
      · exact .inr List.mem_cons_self
      · exact (ih h).imp_right (List.mem_cons_of_mem _)

theorem WellFormed.assign (h : (Entry.directory entries).WellFormed) (hname : IsName name)
    (he : e.WellFormed) : (Entry.directory (CodeSurvey.assign name e entries)).WellFormed := by
  refine .directory ?_ (fun p hp => ?_) fun p hp => ?_
  · rw [keys_assign]
    split
    · exact h.nodup
    · next hnew =>
      have hfresh : ∀ key ∈ entries.map (·.1), ∀ new ∈ [name], key ≠ new := by
        rintro key hkey new hname rfl
        exact hnew (List.mem_singleton.1 hname ▸ hkey)
      exact List.nodup_append.2 ⟨h.nodup, by simp, hfresh⟩
  · rcases mem_assign hp with rfl | hp
    · exact hname
    · exact h.isName hp
  · rcases mem_assign hp with rfl | hp
    · exact he
    · exact h.entry hp

theorem WellFormed.put (h : (Entry.directory entries).WellFormed)
    (hname : ∀ name ∈ place.getLast?, IsName name) (he : e.WellFormed) :
    (Entry.directory (Entry.put e place entries)).WellFormed := by
  induction place generalizing entries with
  | nil => exact h
  | cons name rest ih =>
    rcases eq_or_ne rest [] with rfl | hrest
    · exact h.assign (hname name rfl) he
    · by_cases hbelow : ∃ below, entries.lookup name = some (Entry.directory below)
      · obtain ⟨below, hbelow⟩ := hbelow
        have hmem := h.lookup_eq_some_iff.1 hbelow
        rw [put_cons hrest hbelow]
        refine h.assign (h.isName hmem) (ih (h.entry hmem) fun last hlast => hname last ?_)
        rwa [List.getLast?_cons_of_ne_nil hrest]
      · rwa [put_eq_self fun inner hinner => ?_]
        obtain ⟨below, hlookup, -⟩ := exists_of_descend_dropLast hrest hinner
        exact hbelow ⟨below, hlookup⟩

end Entry

namespace FileSystem

variable {fs : FileSystem} {place other : List String} {e : Entry}

/-- What stands at a place, without what a directory lists. -/
def bareAt? (fs : FileSystem) (place : List String) : Option Entry :=
  (fs.find? place).map Entry.bare

theorem bareAt?_eq_none_iff : fs.bareAt? place = none ↔ fs.find? place = none := by
  simp [bareAt?]

theorem bareAt?_eq_file_iff {content : List UInt8} :
    fs.bareAt? place = some (.file content) ↔ fs.find? place = some (.file content) := by
  simp [bareAt?]

theorem bareAt?_eq_link_iff {target : Path} :
    fs.bareAt? place = some (.link target) ↔ fs.find? place = some (.link target) := by
  simp [bareAt?]

theorem bareAt?_eq_directory_iff :
    fs.bareAt? place = some (.directory []) ↔ fs.IsFolder place := by
  simp only [bareAt?, Option.map_eq_some_iff, Entry.bare_eq_directory_iff, IsFolder]
  constructor
  · rintro ⟨_, hfind, entries, rfl⟩
    exact ⟨entries, hfind⟩
  · rintro ⟨entries, hfind⟩
    exact ⟨_, hfind, entries, rfl⟩

/-- **What is put in a directory, not in the place of one, stands there, and at every other place
there is what was there**, up to what directories list. -/
theorem bareAt?_put (he : e.bare = e) (hparent : fs.IsFolder place.dropLast)
    (hold : ¬ fs.IsFolder place) (other : List String) :
    (fs.put place e).bareAt? other = if other = place then some e else fs.bareAt? other :=
  Entry.map_bare_descend_put he hparent fun inner h => hold ⟨inner, h⟩

/-- Where there is no directory around the place nothing changes. -/
theorem put_eq_self (hparent : ¬ fs.IsFolder place.dropLast) (e : Entry) :
    fs.put place e = fs := by
  rw [put, Entry.put_eq_self fun inner h => hparent ⟨inner, h⟩]

/-- Where the entry stands already nothing changes. -/
theorem put_of_find? (h : fs.find? place = some e) : fs.put place e = fs := by
  rw [put, Entry.put_of_descend h]

theorem linksOfEntries_put (he : e.links = 0)
    (hold : ∀ old, fs.find? place = some old → old.links = 0) :
    Entry.linksOfEntries (fs.put place e).entries = Entry.linksOfEntries fs.entries :=
  Entry.linksOfEntries_put he hold

theorem WellFormed.put (hfs : fs.WellFormed) (hname : ∀ name ∈ place.getLast?, IsName name)
    (he : e.WellFormed) : (fs.put place e).WellFormed :=
  Entry.WellFormed.put hfs hname he

end FileSystem

end CodeSurvey
