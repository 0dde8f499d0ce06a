import CodeSurvey.Proofs.FileSystem.Listing
import CodeSurvey.Proofs.FileSystem.PathReading

/-!
# The ways of paths

`FileSystem.Route` is the way that a path takes, as a relation: names lead from a place to a spot
by a number of links.  It has one rule for each thing that can stand under the next name, so what
holds of all ways is proved by one induction.

* `FileSystem.follow_eq_ok_iff` : names are followed to a spot exactly when a way leads there, by
  no more links than are allowed;
* `FileSystem.Route.append_iff` : a way that passes a directory goes on from there;
* `FileSystem.Route.find?_spot`, `FileSystem.Route.isFolder_of_vacant` : a way ends at what stands
  there, or at a free name of a directory.
-/

namespace CodeSurvey

/-- The place of a spot. -/
def Spot.place : Spot → List String
  | taken place _ => place
  | vacant place => place

/-- What stands at a spot. -/
def Spot.entry? : Spot → Option Entry
  | taken _ entry => some entry
  | vacant _ => none

namespace Entry

theorem links_le_linksOfEntries {entries : List (String × Entry)} {name : String} {e : Entry}
    (h : entries.lookup name = some e) : e.links ≤ linksOfEntries entries := by
  induction entries with
  | nil => cases h
  | cons first rest ih =>
    obtain ⟨key, entry⟩ := first
    rw [List.lookup_cons] at h
    rw [linksOfEntries]
    split at h
    · cases h
      omega
    · have hrest := ih h
      omega

/-- A part of an entry has no more links in it. -/
theorem links_le_of_descend {place : List String} {e below : Entry}
    (h : e.descend place = some below) : below.links ≤ e.links := by
  induction place generalizing e with
  | nil => exact (Option.some.inj h) ▸ Nat.le_refl _
  | cons name rest ih =>
    cases e with
    | file content | link target => cases h
    | directory entries =>
      rw [descend] at h
      obtain ⟨next, hnext, hbelow⟩ := Option.bind_eq_some_iff.1 h
      exact Nat.le_trans (ih hbelow) (links_le_linksOfEntries hnext)

end Entry

namespace FileSystem

/-! ### Places of directories -/

/-- There is a directory at the place. -/
def IsFolder (fs : FileSystem) (place : List String) : Prop :=
  ∃ entries, fs.find? place = some (.directory entries)

section Folders

variable {fs : FileSystem} {place : List String}

theorem isFolder_nil (fs : FileSystem) : fs.IsFolder [] := ⟨fs.entries, rfl⟩

/-- Only in a directory there is something to go on to. -/
theorem isFolder_of_find?_append {below : List String} {e : Entry} (hbelow : below ≠ [])
    (h : fs.find? (place ++ below) = some e) : fs.IsFolder place := by
  rw [find?, Entry.descend_append] at h
  obtain ⟨next, hnext, hrest⟩ := Option.bind_eq_some_iff.1 h
  obtain ⟨name, rest, rfl⟩ := List.exists_cons_of_ne_nil hbelow
  cases next with
  | directory entries => exact ⟨entries, hnext⟩
  | file content | link target => cases hrest

/-- What stands somewhere has a directory around it. -/
theorem isFolder_dropLast {e : Entry} (h : fs.find? place = some e) :
    fs.IsFolder place.dropLast := by
  rcases List.eq_nil_or_concat place with rfl | ⟨above, name, rfl⟩
  · exact isFolder_nil fs
  · rw [List.concat_eq_append] at h ⊢
    rw [List.dropLast_concat]
    exact isFolder_of_find?_append (List.cons_ne_nil _ _) h

theorem IsFolder.dropLast (h : fs.IsFolder place) : fs.IsFolder place.dropLast := by
  obtain ⟨entries, hentries⟩ := h
  exact isFolder_dropLast hentries

theorem IsFolder.of_append {below : List String} (h : fs.IsFolder (place ++ below)) :
    fs.IsFolder place := by
  by_cases hbelow : below = []
  · rwa [hbelow, List.append_nil] at h
  · obtain ⟨entries, hentries⟩ := h
    exact isFolder_of_find?_append hbelow hentries

theorem IsFolder.start (h : fs.IsFolder place) (path : Path) : fs.IsFolder (start place path) := by
  unfold FileSystem.start
  split
  · exact isFolder_nil fs
  · exact h

end Folders

/-! ### Ways -/

/-- The names lead from the place `here` to the spot, by way of `count` links.  A link under the
last name is followed only if `toTarget` holds. -/
inductive Route (fs : FileSystem) (toTarget : Bool) :
    (count : Nat) → List String → List String → Spot → Prop
  | stay {here : List String} {entry : Entry} (found : fs.find? here = some entry) :
      Route fs toTarget 0 here [] (.taken here entry)
  | up {count : Nat} {here rest : List String} {spot : Spot}
      (onward : Route fs toTarget count here.dropLast rest spot) :
      Route fs toTarget count here (".." :: rest) spot
  | free {here : List String} {name : String} (proper : name ≠ "..")
      (found : fs.find? (here ++ [name]) = none) :
      Route fs toTarget 0 here [name] (.vacant (here ++ [name]))
  | down {count : Nat} {here rest : List String} {name : String}
      {entries : List (String × Entry)} {spot : Spot} (proper : name ≠ "..")
      (found : fs.find? (here ++ [name]) = some (.directory entries))
      (onward : Route fs toTarget count (here ++ [name]) rest spot) :
      Route fs toTarget count here (name :: rest) spot
  | file {here : List String} {name : String} {content : List UInt8} (proper : name ≠ "..")
      (found : fs.find? (here ++ [name]) = some (.file content)) :
      Route fs toTarget 0 here [name] (.taken (here ++ [name]) (.file content))
  | link {here : List String} {name : String} {target : Path} (proper : name ≠ "..")
      (found : fs.find? (here ++ [name]) = some (.link target)) (kept : toTarget = false) :
      Route fs toTarget 0 here [name] (.taken (here ++ [name]) (.link target))
  | through {count : Nat} {here rest : List String} {name : String} {target : Path} {spot : Spot}
      (proper : name ≠ "..") (found : fs.find? (here ++ [name]) = some (.link target))
      (followed : rest ≠ [] ∨ toTarget = true)
      (onward : Route fs toTarget count (start here target) (target.parts ++ rest) spot) :
      Route fs toTarget (count + 1) here (name :: rest) spot

variable {fs : FileSystem} {toTarget : Bool} {count budget : Nat} {here names rest : List String}
  {name : String} {spot : Spot} {path : Path} {place : List String}

/-! ### Ways and following -/

/-- Where `onLink` goes ways of less than `limit` links, a way of at most `limit` links is gone. -/
theorem exists_route_of_advance {limit : Nat}
    {onLink : List String → List String → Except Obstacle Spot}
    (honLink : ∀ here names spot, onLink here names = .ok spot →
      ∃ count < limit, fs.Route toTarget count here names spot)
    (h : fs.advance toTarget onLink here names = .ok spot) :
    ∃ count ≤ limit, fs.Route toTarget count here names spot := by
  -- by the names still to go: a link ends the recursion and hands over to `onLink`
  induction names generalizing here with
  | nil =>
    rw [advance] at h
    split at h
    · next found => cases h; exact ⟨0, Nat.zero_le _, .stay found⟩
    · cases h
  | cons name rest ih =>
    rw [advance] at h
    split at h
    · next hup =>
      obtain ⟨count, hcount, onward⟩ := ih h
      exact ⟨count, hcount, hup ▸ .up onward⟩
    · next proper =>
      dsimp only at h
      split at h
      · next found =>
        split at h
        · next hrest => cases h; subst hrest; exact ⟨0, Nat.zero_le _, .free proper found⟩
        · cases h
      · next found =>
        obtain ⟨count, hcount, onward⟩ := ih h
        exact ⟨count, hcount, .down proper found onward⟩
      · next found =>
        split at h
        · next hrest => cases h; subst hrest; exact ⟨0, Nat.zero_le _, .file proper found⟩
        · cases h
      · next found =>
        split at h
        · next hkept =>
          obtain ⟨rfl, htarget⟩ := hkept
          cases h
          exact ⟨0, Nat.zero_le _, .link proper found (by simpa using htarget)⟩
        · next hfollowed =>
          -- the link that is followed counts in addition to those behind it
          obtain ⟨count, hcount, onward⟩ := honLink _ _ _ h
          have hfollowed' : rest ≠ [] ∨ toTarget = true := by
            by_cases hrest : rest = []
            · exact .inr (by simpa [hrest] using hfollowed)
            · exact .inl hrest
          exact ⟨count + 1, hcount, .through proper found hfollowed' onward⟩

theorem exists_route_of_follow (h : fs.follow toTarget budget here names = .ok spot) :
    ∃ count ≤ budget, fs.Route toTarget count here names spot := by
  induction budget generalizing here names spot with
  | zero => exact exists_route_of_advance (fun _ _ _ hlink => by cases hlink) h
  | succ budget ih =>
    refine exists_route_of_advance (fun here names spot hlink => ?_) h
    obtain ⟨count, hcount, hroute⟩ := ih hlink
    exact ⟨count, Nat.lt_succ_of_le hcount, hroute⟩

theorem Route.follow_eq (h : fs.Route toTarget count here names spot) (hcount : count ≤ budget) :
    fs.follow toTarget budget here names = .ok spot := by
  induction h generalizing budget with
  | stay found => cases budget <;> simp only [follow, advance, found]
  | up _ ih =>
    have honward := ih hcount
    cases budget <;> simpa only [follow, advance, if_true] using honward
  | free proper found =>
    cases budget <;> simp only [follow, advance, proper, found, if_true, if_false]
  | down proper found _ ih =>
    have honward := ih hcount
    cases budget <;> simpa only [follow, advance, proper, found, if_false] using honward
  | file proper found =>
    cases budget <;> simp only [follow, advance, proper, found, if_true, if_false]
  | link proper found kept =>
    cases budget <;> simp [follow, advance, proper, found, kept]
  | @through count here rest name target spot proper found followed _ ih =>
    obtain ⟨budget, rfl⟩ : ∃ b, budget = b + 1 := ⟨budget - 1, by omega⟩
    have honward := ih (Nat.le_of_succ_le_succ hcount)
    have hfollowed : ¬ (rest = [] ∧ (!toTarget) = true) := by
      rintro ⟨hrest, htarget⟩
      rcases followed with hne | htrue
      · exact hne hrest
      · simp [htrue] at htarget
    rw [follow, advance, if_neg proper]
    simp only [found]
    rw [if_neg hfollowed, honward]

/-- **Names are followed to a spot exactly when a way leads there**, by no more links than are
allowed. -/
theorem follow_eq_ok_iff : fs.follow toTarget budget here names = .ok spot ↔
    ∃ count ≤ budget, fs.Route toTarget count here names spot :=
  ⟨exists_route_of_follow, fun ⟨_, hcount, h⟩ => h.follow_eq hcount⟩

theorem locate_eq_ok_iff : fs.locate path = .ok spot ↔
    ∃ count ≤ linkLimit, fs.Route true count (start fs.workingDirectory path) path.parts spot :=
  follow_eq_ok_iff

theorem locateLink_eq_ok_iff : fs.locateLink path = .ok spot ↔
    ∃ count ≤ linkLimit, fs.Route false count (start fs.workingDirectory path) path.parts spot :=
  follow_eq_ok_iff

theorem has_eq_true_iff :
    fs.has path = true ↔ ∃ place e, fs.locate path = .ok (.taken place e) := by
  rw [has]
  constructor
  · intro h
    split at h
    · exact ⟨_, _, ‹_›⟩
    · cases h
  · rintro ⟨place, e, h⟩
    rw [h]

theorem exists_locate_of_isDirectory (h : fs.isDirectory path = true) :
    ∃ place entries, fs.locate path = .ok (.taken place (.directory entries)) := by
  obtain ⟨entries, hlist⟩ := isDirectory_eq_true_iff.1 h
  obtain ⟨place, hplace⟩ := list_eq_ok_iff.1 hlist
  exact ⟨place, entries, hplace⟩

theorem read_eq_ok_iff {bytes : List UInt8} :
    fs.read path = .ok bytes ↔ ∃ place, fs.locate path = .ok (.taken place (.file bytes)) := by
  rw [read]
  constructor
  · intro h
    split at h <;> cases h
    exact ⟨_, ‹_›⟩
  · rintro ⟨place, h⟩
    rw [h]

/-! ### Where ways end -/

/-- A way ends at what stands there. -/
theorem Route.find?_spot (h : fs.Route toTarget count here names spot) :
    fs.find? spot.place = spot.entry? := by
  induction h with
  | stay found | free _ found | file _ found | link _ found _ => exact found
  | up _ ih | down _ _ _ ih | through _ _ _ _ ih => exact ih

/-- A way from a directory that ends at a free name has a directory around it. -/
theorem Route.isFolder_of_vacant (h : fs.Route toTarget count here names (.vacant place))
    (hhere : fs.IsFolder here) : fs.IsFolder place.dropLast := by
  generalize hspot : Spot.vacant place = spot at h
  induction h with
  | stay | file | link => cases hspot
  | up _ ih => exact ih hhere.dropLast hspot
  | free _ _ =>
    cases hspot
    rwa [List.dropLast_concat]
  | down _ found _ ih => exact ih ⟨_, found⟩ hspot
  | @through _ _ _ _ target _ _ _ _ _ ih =>
    -- a target starts at the root or at the directory that the link is in
    exact ih (hhere.start target) hspot

/-- Where there is no link at the end it does not matter whether it is followed. -/
theorem Route.toTarget_of_ne_link (h : fs.Route false count here names spot)
    (hspot : ∀ target, spot.entry? ≠ some (.link target)) :
    fs.Route true count here names spot := by
  induction h with
  | stay found => exact .stay found
  | up _ ih => exact .up (ih hspot)
  | free proper found => exact .free proper found
  | down proper found _ ih => exact .down proper found (ih hspot)
  | file proper found => exact .file proper found
  | @link _ _ target _ _ _ => exact absurd rfl (hspot target)
  | through proper found _ _ ih => exact .through proper found (.inr rfl) (ih hspot)

theorem find?_of_locate (h : fs.locate path = .ok spot) : fs.find? spot.place = spot.entry? := by
  obtain ⟨count, -, hroute⟩ := locate_eq_ok_iff.1 h
  exact hroute.find?_spot

theorem find?_of_locate_taken {e : Entry} (h : fs.locate path = .ok (.taken place e)) :
    fs.find? place = some e := find?_of_locate h

theorem find?_of_locate_vacant (h : fs.locate path = .ok (.vacant place)) :
    fs.find? place = none := find?_of_locate h

/-- A path that leads to a free name does so whether or not a link at the end is followed. -/
theorem locate_of_locateLink_vacant (h : fs.locateLink path = .ok (.vacant place)) :
    fs.locate path = .ok (.vacant place) := by
  obtain ⟨count, hcount, hroute⟩ := locateLink_eq_ok_iff.1 h
  exact locate_eq_ok_iff.2 ⟨count, hcount, hroute.toTarget_of_ne_link fun _ h => by cases h⟩

/-- A way to an entry ends at an entry when a link at the end is not followed. -/
theorem Route.exists_taken (h : fs.Route true count here names spot) {e : Entry}
    (hspot : spot.entry? = some e) :
    ∃ count' ≤ count, ∃ place e', fs.Route false count' here names (.taken place e') := by
  induction h with
  | stay found => exact ⟨0, Nat.le_refl _, _, _, .stay found⟩
  | up _ ih =>
    obtain ⟨count', hcount, place, e', hroute⟩ := ih hspot
    exact ⟨count', hcount, place, e', .up hroute⟩
  | free => cases hspot
  | down proper found _ ih =>
    obtain ⟨count', hcount, place, e', hroute⟩ := ih hspot
    exact ⟨count', hcount, place, e', .down proper found hroute⟩
  | file proper found => exact ⟨0, Nat.le_refl _, _, _, .file proper found⟩
  | link _ _ kept => cases kept
  | @through _ _ rest _ _ _ proper found _ _ ih =>
    by_cases hrest : rest = []
    · -- the link at the end is itself the entry
      subst hrest
      exact ⟨0, Nat.zero_le _, _, _, .link proper found rfl⟩
    · obtain ⟨count', hcount, place, e', hroute⟩ := ih hspot
      exact ⟨count' + 1, Nat.succ_le_succ hcount, place, e',
        .through proper found (.inl hrest) hroute⟩

/-! ### The names on the way -/

/-- The targets of all links are paths in normal form. -/
def LinksNormal (fs : FileSystem) : Prop :=
  ∀ place target, fs.find? place = some (.link target) → target.Normal

/-- Without links all their targets are in normal form. -/
theorem linksNormal_of_links_eq_zero (h : Entry.linksOfEntries fs.entries = 0) :
    fs.LinksNormal := by
  intro place target htarget
  have hle := Entry.links_le_of_descend htarget
  rw [Entry.links, Entry.links, h] at hle
  omega

theorem WellFormed.isName (hfs : fs.WellFormed) {e : Entry}
    (h : fs.find? (here ++ [name]) = some e) : IsName name := by
  have hhere := isFolder_dropLast h
  rw [List.dropLast_concat] at hhere
  obtain ⟨entries, hentries⟩ := hhere
  have hdirectory := Entry.WellFormed.descend hfs hentries
  rw [find?_concat hentries] at h
  exact hdirectory.isName (hdirectory.lookup_eq_some_iff.1 h)

/-- A way to an entry goes by names that entries can have, and by `..`. -/
theorem Route.isComponent (hfs : fs.WellFormed) (h : fs.Route toTarget count here names spot)
    {e : Entry} (hspot : spot.entry? = some e) : ∀ name ∈ names, Path.IsComponent name := by
  induction h with
  | stay => simp
  | up _ ih =>
    have hup : Path.IsComponent ".." := ⟨by decide, by decide, by decide⟩
    exact List.forall_mem_cons.2 ⟨hup, ih hspot⟩
  | free => cases hspot
  | down _ found _ ih => exact List.forall_mem_cons.2 ⟨(hfs.isName found).isComponent, ih hspot⟩
  | file _ found | link _ found _ =>
    exact List.forall_mem_singleton.2 (hfs.isName found).isComponent
  | through _ found _ _ ih =>
    exact List.forall_mem_cons.2
      ⟨(hfs.isName found).isComponent, (List.forall_mem_append.1 (ih hspot)).2⟩

/-- A free name that paths in normal form lead to can be the name of an entry. -/
theorem Route.isName_of_vacant (hlinks : fs.LinksNormal)
    (h : fs.Route toTarget count here names (.vacant place))
    (hnames : ∀ name ∈ names, Path.IsComponent name) : ∀ name ∈ place.getLast?, IsName name := by
  generalize hspot : Spot.vacant place = spot at h
  induction h with
  | stay | file | link => cases hspot
  | up _ ih => exact ih (List.forall_mem_cons.1 hnames).2 hspot
  | free proper _ =>
    cases hspot
    have hname := List.forall_mem_singleton.1 hnames
    rw [List.getLast?_concat]
    rintro _ ⟨⟩
    exact ⟨hname.ne_empty, hname.ne_dot, proper, hname.no_slash⟩
  | down _ _ _ ih => exact ih (List.forall_mem_cons.1 hnames).2 hspot
  | through _ found _ _ ih =>
    have htarget := hlinks _ _ found
    exact ih (List.forall_mem_append.2 ⟨htarget, (List.forall_mem_cons.1 hnames).2⟩) hspot

/-- A path that leads to an entry is in normal form. -/
theorem WellFormed.normal (hfs : fs.WellFormed) {e : Entry}
    (h : fs.locate path = .ok (.taken place e)) : path.Normal := by
  obtain ⟨count, -, hroute⟩ := locate_eq_ok_iff.1 h
  exact hroute.isComponent hfs rfl

theorem isName_of_locate_vacant (hlinks : fs.LinksNormal) (hpath : path.Normal)
    (h : fs.locate path = .ok (.vacant place)) : ∀ name ∈ place.getLast?, IsName name := by
  obtain ⟨count, -, hroute⟩ := locate_eq_ok_iff.1 h
  exact hroute.isName_of_vacant hlinks hpath

/-! ### Going on -/

theorem Route.up_iff : fs.Route toTarget count here (".." :: rest) spot ↔
    fs.Route toTarget count here.dropLast rest spot := by
  refine ⟨fun h => ?_, .up⟩
  cases h with
  | up onward => exact onward
  | free proper | down proper | file proper | link proper | through proper =>
    exact absurd rfl proper

theorem Route.down_iff {entries : List (String × Entry)} (proper : name ≠ "..")
    (found : fs.find? (here ++ [name]) = some (.directory entries)) :
    fs.Route toTarget count here (name :: rest) spot ↔
      fs.Route toTarget count (here ++ [name]) rest spot := by
  refine ⟨fun h => ?_, .down proper found⟩
  cases h with
  | up => exact absurd rfl proper
  | down _ _ onward => exact onward
  | free _ found' | file _ found' | link _ found' | through _ found' =>
    rw [found] at found'
    cases found'

theorem Route.through_iff {target : Path} (proper : name ≠ "..")
    (found : fs.find? (here ++ [name]) = some (.link target))
    (followed : rest ≠ [] ∨ toTarget = true) :
    fs.Route toTarget count here (name :: rest) spot ↔ ∃ count', count = count' + 1 ∧
      fs.Route toTarget count' (start here target) (target.parts ++ rest) spot := by
  constructor
  · intro h
    cases h with
    | up => exact absurd rfl proper
    | link _ _ kept =>
      rcases followed with hne | htrue
      · exact absurd rfl hne
      · rw [kept] at htrue
        cases htrue
    | through _ found' _ onward =>
      rw [found] at found'
      cases found'
      exact ⟨_, rfl, onward⟩
    | free _ found' | down _ found' | file _ found' =>
      rw [found] at found'
      cases found'
  · rintro ⟨count', rfl, onward⟩
    exact .through proper found followed onward

/-- **A way that passes a directory goes on from there.** -/
theorem Route.append_iff {n : Nat} {entries : List (String × Entry)}
    (h : fs.Route true n here names (.taken place (.directory entries)))
    (hrest : rest ≠ [] ∨ toTarget = true) :
    fs.Route toTarget count here (names ++ rest) spot ↔
      ∃ m, count = n + m ∧ fs.Route toTarget m place rest spot := by
  generalize hspot : Spot.taken place (.directory entries) = passed at h
  induction h generalizing count with
  | stay => cases hspot; simp
  | up _ ih => rw [List.cons_append, up_iff, ih hspot]
  | free | file | link => cases hspot
  | down proper found _ ih => rw [List.cons_append, down_iff proper found, ih hspot]
  | @through _ _ tail _ _ _ proper found _ _ ih =>
    -- names that are still to go come behind those of the target, so the link is followed
    have hfollowed : tail ++ rest ≠ [] ∨ toTarget = true :=
      hrest.imp_left fun hne => by simp [hne]
    rw [List.cons_append, through_iff proper found hfollowed, ← List.append_assoc]
    simp only [ih hspot]
    constructor
    · rintro ⟨_, rfl, m, rfl, onward⟩
      exact ⟨m, by omega, onward⟩
    · rintro ⟨m, rfl, onward⟩
      exact ⟨_, by omega, m, rfl, onward⟩

/-- No way goes on from a free name. -/
theorem Route.not_append_of_vacant {n : Nat} (h : fs.Route true n here names (.vacant place))
    (hrest : rest ≠ []) : ¬ fs.Route toTarget count here (names ++ rest) spot := by
  generalize hspot : Spot.vacant place = passed at h
  induction h generalizing count with
  | stay | file | link => cases hspot
  | up _ ih => rw [List.cons_append, up_iff]; exact ih hspot
  | free proper found =>
    intro hroute
    cases hroute with
    | up => exact absurd rfl proper
    | free | file | link => exact absurd rfl hrest
    | down _ found' | through _ found' =>
      rw [found] at found'
      cases found'
  | down proper found _ ih => rw [List.cons_append, down_iff proper found]; exact ih hspot
  | through proper found _ _ ih =>
    rw [List.cons_append, through_iff proper found (.inl (by simp [hrest])), ← List.append_assoc]
    rintro ⟨_, -, onward⟩
    exact ih hspot onward

end FileSystem

end CodeSurvey
