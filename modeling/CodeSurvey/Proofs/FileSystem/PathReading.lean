import CodeSurvey.Proofs.FileSystem.PathText

/-!
# Reading the texts of paths

A path in normal form is read back from its text (`Path.ofString_toString`), and all paths that are
read are in normal form (`Path.normal_ofString`).  So a directory can be scanned by the key under
which it is reported.
-/

namespace CodeSurvey

/-! ### Normal forms -/

/-- A component that is kept when a path is read. -/
structure Path.IsComponent (part : String) : Prop where
  ne_empty : part ≠ ""
  ne_dot : part ≠ "."
  no_slash : '/' ∉ part.toList

theorem IsName.isComponent {name : String} (h : IsName name) : Path.IsComponent name :=
  ⟨h.ne_empty, h.ne_dot, h.no_slash⟩

namespace Path

/-- The path is in normal form. -/
def Normal (p : Path) : Prop := ∀ part ∈ p.parts, IsComponent part

variable {p q : Path} {names : List String}

theorem Normal.descend (hp : p.Normal) (hnames : ∀ name ∈ names, IsName name) :
    (p.descend names).Normal :=
  List.forall_mem_append.2 ⟨hp, fun name hname => (hnames name hname).isComponent⟩

theorem Normal.join (hp : p.Normal) (hq : q.Normal) : (p.join q).Normal := by
  rw [Path.join]
  split
  · exact List.forall_mem_append.2 ⟨hp, hq⟩
  · exact hq

/-! ### Splitting at slashes -/

theorem splitSlashes_eq_splitOn (cs : List Char) : splitSlashes cs = cs.splitOn '/' := by
  induction cs with
  | nil => rw [List.splitOn_nil, splitSlashes]
  | cons c rest ih =>
    rw [splitSlashes, ih, List.splitOn_cons_eq_if_modifyHead]
    by_cases hc : c = '/'
    · simp [hc]
    · obtain ⟨part, parts, hsplit⟩ := List.exists_cons_of_ne_nil (List.splitOn_ne_nil '/' rest)
      simp [hc, hsplit]

theorem no_slash_of_mem_splitSlashes {cs part : List Char} (h : part ∈ splitSlashes cs) :
    '/' ∉ part := by
  induction cs generalizing part with
  | nil =>
    obtain rfl := List.mem_singleton.1 h
    simp
  | cons c rest ih =>
    rw [splitSlashes] at h
    split at h
    · rcases List.mem_cons.1 h with rfl | h
      · simp
      · exact ih h
    · next hc =>
      -- the character goes in front of the first part of the rest
      split at h
      · obtain rfl := List.mem_singleton.1 h
        simp [Ne.symm hc]
      · next first parts hsplit =>
        rcases List.mem_cons.1 h with rfl | h
        · have hfirst := ih (hsplit ▸ List.mem_cons_self)
          simp [hfirst, Ne.symm hc]
        · exact ih (hsplit ▸ List.mem_cons_of_mem _ h)

/-- A path that is read is in normal form. -/
theorem normal_ofString (text : String) : (ofString text).Normal := by
  intro part hpart
  obtain ⟨cs, hcs, rfl⟩ := List.mem_map.1 hpart
  obtain ⟨hcs, hkept⟩ := List.mem_filter.1 hcs
  obtain ⟨hempty, hdot⟩ : cs ≠ [] ∧ cs ≠ ['.'] := by simpa using hkept
  refine ⟨fun h => hempty ?_, fun h => hdot ?_, ?_⟩
  · simpa using congrArg String.toList h
  · simpa using congrArg String.toList h
  · rw [String.toList_ofList]
    exact no_slash_of_mem_splitSlashes hcs

/-! ### The text of a normal path -/

/-- The number of slashes that an anchor is written with. -/
def slashes : Anchor → Nat
  | .relative => 0
  | .root => 1
  | .doubleRoot => 2

theorem toList_anchorText (a : Anchor) :
    (anchorText a).toList = List.replicate (slashes a) '/' := by
  cases a <;> rfl

theorem anchorOfSlashes_slashes (a : Anchor) : anchorOfSlashes (slashes a) = a := by
  cases a <;> rfl

theorem splitSlashes_replicate_append (n : Nat) (cs : List Char) :
    splitSlashes (List.replicate n '/' ++ cs) = List.replicate n [] ++ splitSlashes cs := by
  induction n with
  | zero => rfl
  | succ n ih =>
    rw [List.replicate_succ, List.cons_append, splitSlashes, if_pos rfl, ih, List.replicate_succ,
      List.cons_append]

theorem Normal.splitSlashes_joined (h : p.Normal) (hparts : p.parts ≠ []) :
    splitSlashes (joined p.parts) = p.parts.map (·.toList) := by
  rw [splitSlashes_eq_splitOn, joined]
  refine List.splitOn_intercalate '/' (fun l hl => ?_) (by simpa using hparts)
  obtain ⟨part, hpart, rfl⟩ := List.mem_map.1 hl
  exact (h part hpart).no_slash

/-- No component is lost, since none is empty or a dot. -/
theorem Normal.filter_splitSlashes (h : p.Normal) :
    ((splitSlashes (joined p.parts)).filter fun part => part ≠ [] ∧ part ≠ ['.']) =
      p.parts.map (·.toList) := by
  rcases eq_or_ne p.parts [] with hnil | hparts
  · rw [hnil]
    rfl
  · rw [h.splitSlashes_joined hparts, List.filter_eq_self]
    intro l hl
    obtain ⟨part, hpart, rfl⟩ := List.mem_map.1 hl
    have hempty : part.toList ≠ [] := fun hnil =>
      (h part hpart).ne_empty (String.toList_inj.1 hnil)
    have hdot : part.toList ≠ ['.'] := fun hdot =>
      (h part hpart).ne_dot (String.toList_inj.1 hdot)
    simp [hempty, hdot]

/-- A joined text begins with no slash. -/
theorem Normal.takeWhile_joined (h : p.Normal) :
    (joined p.parts).takeWhile (· = '/') = [] := by
  cases hjoined : joined p.parts with
  | nil => rfl
  | cons c rest =>
    have hparts : p.parts ≠ [] := by
      intro hnil
      rw [hnil] at hjoined
      cases hjoined
    have hc : c ≠ '/' := by
      rintro rfl
      -- an empty part would stand before the slash
      have hsplit := h.splitSlashes_joined hparts
      rw [hjoined, splitSlashes, if_pos rfl] at hsplit
      obtain ⟨part, parts, hcons⟩ := List.exists_cons_of_ne_nil hparts
      rw [hcons, List.map_cons] at hsplit
      have hempty : part = "" := String.toList_inj.1 (List.cons.inj hsplit).1.symm
      exact (h part (hcons ▸ List.mem_cons_self)).ne_empty hempty
    simp [hc]

/-- **A path in normal form is read back from its text.** -/
theorem ofString_toString (h : p.Normal) : ofString (toString p) = p := by
  by_cases hdot : p.anchor = .relative ∧ p.parts = []
  · obtain ⟨anchor, parts⟩ := p
    obtain ⟨rfl, rfl⟩ : anchor = .relative ∧ parts = [] := hdot
    decide
  · have htext := toList_toString hdot
    rw [toList_anchorText] at htext
    have hslashes : ((toString p).toList.takeWhile (· = '/')).length = slashes p.anchor := by
      rw [htext, List.takeWhile_append_of_pos (by simp), h.takeWhile_joined]
      simp
    have hparts : ((splitSlashes (toString p).toList).filter
        fun part => part ≠ [] ∧ part ≠ ['.']) = p.parts.map (·.toList) := by
      rw [htext, splitSlashes_replicate_append, List.filter_append, h.filter_splitSlashes]
      simp
    rw [ofString, hslashes, hparts, anchorOfSlashes_slashes]
    simp

/-! ### Paths below a path -/

/-- The path is `p` or lies below `p`. -/
def isWithin (q p : Path) : Bool := q.anchor = p.anchor ∧ p.parts <+: q.parts

theorem isWithin_iff : q.isWithin p = true ↔ ∃ names, q = p.descend names := by
  obtain ⟨anchor, parts⟩ := q
  simp only [isWithin, decide_eq_true_eq, descend, mk.injEq]
  constructor
  · rintro ⟨rfl, names, rfl⟩
    exact ⟨names, rfl, rfl⟩
  · rintro ⟨names, rfl, rfl⟩
    exact ⟨rfl, names, rfl⟩

theorem descend_append (p : Path) (above below : List String) :
    p.descend (above ++ below) = (p.descend above).descend below := by
  simp [descend]

end Path

end CodeSurvey
