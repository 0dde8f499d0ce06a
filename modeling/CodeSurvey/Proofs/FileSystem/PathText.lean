import CodeSurvey.Proofs.FileSystem.Listing
import Mathlib.Data.List.Basic

/-!
# The texts of the paths below a directory

The report of a project names directories by the texts of their paths.  `Path.descend` leads on
from a path by several names; where these are names that entries can have, the text of the path
tells which they are (`Path.toString_descend_inj`), whatever path it started from.
-/

namespace CodeSurvey

namespace Path

/-- The path that leads on from `p` by the names. -/
def descend (p : Path) (names : List String) : Path := { p with parts := p.parts ++ names }

@[simp] theorem descend_nil (p : Path) : p.descend [] = p := by
  rw [descend, List.append_nil]

theorem descend_cons (p : Path) (name : String) (rest : List String) :
    p.descend (name :: rest) = (p.child name).descend rest := by
  simp [descend, child]

@[simp] theorem descend_inj {p : Path} {a b : List String} : p.descend a = p.descend b ↔ a = b := by
  simp [descend]

/-! ### Names joined by slashes -/

/-- The characters of the names with a slash between any two. -/
def joined (names : List String) : List Char := ['/'].intercalate (names.map (·.toList))

theorem joined_append_cons {names : List String} (h : names ≠ []) (name : String)
    (rest : List String) :
    joined (names ++ name :: rest) = joined names ++ '/' :: joined (name :: rest) := by
  induction names with
  | nil => exact absurd rfl h
  | cons first names ih =>
    cases names with
    | nil => simp [joined, List.intercalate_cons_cons]
    | cons second names =>
      have ih := ih (by simp)
      simp only [joined, List.cons_append, List.map_cons, List.intercalate_cons_cons] at ih ⊢
      rw [ih]
      simp

/-- Names without slashes can be told from their joined text. -/
theorem splitOn_joined {names : List String} (hnames : ∀ name ∈ names, IsName name)
    (h : names ≠ []) : List.splitOn '/' (joined names) = names.map (·.toList) := by
  refine List.splitOn_intercalate '/' (fun l hl => ?_) (by simpa using h)
  obtain ⟨name, hname, rfl⟩ := List.mem_map.1 hl
  exact (hnames name hname).no_slash

/-- A joined text without slashes is one of the names. -/
theorem exists_toList_eq_joined {names : List String} (hnames : ∀ name ∈ names, IsName name)
    (h : names ≠ []) (hslash : '/' ∉ joined names) : ∃ name, IsName name ∧
      name.toList = joined names := by
  have hsplit := splitOn_joined hnames h
  have hone : List.splitOn '/' (joined names) = [joined names] := by
    have hback := @List.splitOn_intercalate _ [joined names] _ _ '/' (by simpa using hslash)
      (by simp)
    rwa [List.intercalate_singleton] at hback
  rw [hone] at hsplit
  obtain ⟨name, rfl, hname⟩ := List.map_eq_singleton_iff.1 hsplit.symm
  exact ⟨name, hnames name (by simp), hname⟩

theorem joined_ne_nil {names : List String} (hnames : ∀ name ∈ names, IsName name)
    (h : names ≠ []) : joined names ≠ [] := by
  intro hnil
  obtain ⟨name, hname, htext⟩ := exists_toList_eq_joined hnames h (by simp [hnil])
  rw [hnil] at htext
  exact hname.ne_empty (String.toList_inj.1 htext)

theorem joined_ne_dot {names : List String} (hnames : ∀ name ∈ names, IsName name)
    (h : names ≠ []) : joined names ≠ ['.'] := by
  intro hdot
  obtain ⟨name, hname, htext⟩ := exists_toList_eq_joined hnames h (by simp [hdot])
  rw [hdot] at htext
  exact hname.ne_dot (String.toList_inj.1 htext)

theorem joined_inj {a b : List String} (ha : ∀ name ∈ a, IsName name)
    (hb : ∀ name ∈ b, IsName name) (hane : a ≠ []) (hbne : b ≠ []) (h : joined a = joined b) :
    a = b := by
  have hmap : a.map (·.toList) = b.map (·.toList) := by
    rw [← splitOn_joined ha hane, ← splitOn_joined hb hbne, h]
  exact List.map_injective_iff.2 (fun _ _ => String.toList_inj.1) hmap

/-! ### Texts of paths -/

theorem toList_toString {p : Path} (h : ¬ (p.anchor = .relative ∧ p.parts = [])) :
    (toString p).toList = (anchorText p.anchor).toList ++ joined p.parts := by
  have htext : toString p = anchorText p.anchor ++ "/".intercalate p.parts := if_neg h
  rw [htext, String.toList_append, String.toList_intercalate]
  rfl

theorem toList_toString_descend (p : Path) {names : List String} (h : names ≠ []) :
    (toString (p.descend names)).toList =
      (anchorText p.anchor).toList ++ joined (p.parts ++ names) :=
  toList_toString fun hdot => h (List.append_eq_nil_iff.1 hdot.2).2

/-- What lies below a path has another text than the path. -/
theorem toString_ne_toString_descend (p : Path) {names : List String}
    (hnames : ∀ name ∈ names, IsName name) (h : names ≠ []) :
    toString p ≠ toString (p.descend names) := by
  intro heq
  have hbelow := toList_toString_descend p h
  rw [← heq] at hbelow
  by_cases hdot : p.anchor = .relative ∧ p.parts = []
  · have htext : toString p = "." := if_pos hdot
    rw [htext, hdot.1, hdot.2, List.nil_append] at hbelow
    exact joined_ne_dot hnames h (by simpa [anchorText] using hbelow.symm)
  · rw [toList_toString hdot, List.append_cancel_left_eq] at hbelow
    rcases eq_or_ne p.parts [] with hparts | hparts
    · rw [hparts, List.nil_append] at hbelow
      exact joined_ne_nil hnames h hbelow.symm
    · obtain ⟨name, rest, rfl⟩ := List.exists_cons_of_ne_nil h
      rw [joined_append_cons hparts, List.self_eq_append_right] at hbelow
      cases hbelow

/-- **No two paths below another one share a text.** -/
theorem toString_descend_inj {p : Path} {a b : List String} (ha : ∀ name ∈ a, IsName name)
    (hb : ∀ name ∈ b, IsName name) (h : toString (p.descend a) = toString (p.descend b)) :
    a = b := by
  rcases eq_or_ne a [] with rfl | hane
  · rw [descend_nil] at h
    by_contra hne
    exact toString_ne_toString_descend p hb (Ne.symm hne) h
  · rcases eq_or_ne b [] with rfl | hbne
    · rw [descend_nil] at h
      exact absurd h.symm (toString_ne_toString_descend p ha hane)
    · have htext := congrArg String.toList h
      rw [toList_toString_descend p hane, toList_toString_descend p hbne,
        List.append_cancel_left_eq] at htext
      rcases eq_or_ne p.parts [] with hparts | hparts
      · rw [hparts, List.nil_append, List.nil_append] at htext
        exact joined_inj ha hb hane hbne htext
      · obtain ⟨name, rest, rfl⟩ := List.exists_cons_of_ne_nil hane
        obtain ⟨name', rest', rfl⟩ := List.exists_cons_of_ne_nil hbne
        rw [joined_append_cons hparts, joined_append_cons hparts,
          List.append_cancel_left_eq] at htext
        exact joined_inj ha hb hane hbne (List.cons.inj htext).2

end Path

end CodeSurvey
