import CodeSurvey.Text.Blank
import Mathlib.Data.List.TakeWhile

/-!
# What trimming takes off

To trim a text is to cut it in three: blank characters in front, the trimmed text, and blank
characters behind, where the trimmed text neither begins nor ends with one.  There is one way to
do so (`Text.trim_eq_iff`).
-/

namespace CodeSurvey

namespace Text

/-- The blank characters, one by one. -/
def blanks : List Char :=
  ['\t', '\n', '\x0B', '\x0C', '\r', '\x1C', '\x1D', '\x1E', '\x1F', ' ', '\u0085', '\u00A0',
    '\u1680', '\u2000', '\u2001', '\u2002', '\u2003', '\u2004', '\u2005', '\u2006', '\u2007',
    '\u2008', '\u2009', '\u200A', '\u2028', '\u2029', '\u202F', '\u205F', '\u3000']

/-- The text `inner` is `text` without the blank characters at its two ends: nothing else is
missing, and no blank character is left there. -/
def Trims (text inner : String) : Prop :=
  ∃ before after : List Char, text.toList = before ++ (inner.toList ++ after) ∧
    (∀ c ∈ before ++ after, c ∈ blanks) ∧
    (∀ c ∈ inner.toList.head?, c ∉ blanks) ∧ ∀ c ∈ inner.toList.getLast?, c ∉ blanks

theorem isBlank_iff {c : Char} : isBlank c = true ↔ c ∈ blanks := by
  have hchar : ∀ d : Char, c = d ↔ c.toNat = d.toNat := fun d => Char.toNat_inj.symm
  simp only [blanks, List.mem_cons, List.not_mem_nil, or_false, hchar, Char.reduceToNat]
  simp only [isBlank, Bool.or_eq_true, Bool.and_eq_true, decide_eq_true_eq, beq_iff_eq]
  omega

/-- Blank characters are dropped up to the first character that is not blank. -/
theorem dropWhile_isBlank_append {before rest : List Char}
    (hbefore : ∀ c ∈ before, isBlank c = true) (hrest : ∀ c ∈ rest.head?, isBlank c = false) :
    (before ++ rest).dropWhile isBlank = rest := by
  rw [List.dropWhile_append_of_pos hbefore]
  cases rest with
  | nil => rfl
  | cons c rest => simp [hrest c rfl]

theorem head?_dropWhile_isBlank (l : List Char) :
    ∀ c ∈ (l.dropWhile isBlank).head?, isBlank c = false := by
  intro c hc
  have h := List.head?_dropWhile_not isBlank l
  rw [Option.mem_def.1 hc] at h
  simpa using h

theorem trims_trim (text : String) : Trims text (trim text) := by
  unfold Trims
  simp only [← isBlank_iff, Bool.not_eq_true]
  -- the blanks in front, then those behind in what is left
  let front := text.toList.takeWhile isBlank
  let rest := text.toList.dropWhile isBlank
  let behind := (rest.reverse.takeWhile isBlank).reverse
  have hrest : rest = (trim text).toList ++ behind := by
    have hback := List.takeWhile_append_dropWhile (p := isBlank) (l := rest.reverse)
    rw [trim, String.toList_ofList, ← List.reverse_append, hback, List.reverse_reverse]
  refine ⟨front, behind, ?_, fun c hc => ?_, fun c hc => ?_, fun c hc => ?_⟩
  · rw [← hrest, List.takeWhile_append_dropWhile]
  · rcases List.mem_append.1 hc with hc | hc
    · exact List.mem_takeWhile_imp hc
    · exact List.mem_takeWhile_imp (List.mem_reverse.1 hc)
  · refine head?_dropWhile_isBlank text.toList c ?_
    show c ∈ rest.head?
    rw [hrest, List.head?_append, Option.mem_def.1 hc]
    rfl
  · rw [trim, String.toList_ofList, List.getLast?_reverse] at hc
    exact head?_dropWhile_isBlank _ c hc

/-- **Trimming takes off the blank characters at the two ends of a text, all of them and nothing
else.** -/
theorem trim_eq_iff {text inner : String} : trim text = inner ↔ Trims text inner := by
  constructor
  · intro h
    exact h ▸ trims_trim text
  · rintro ⟨before, after, htext, hblank, hfirst, hlast⟩
    simp only [← isBlank_iff, Bool.not_eq_true] at hblank hfirst hlast
    have hbefore : ∀ c ∈ before, isBlank c = true := fun c hc => hblank c (by simp [hc])
    have hafter : ∀ c ∈ after, isBlank c = true := fun c hc => hblank c (by simp [hc])
    cases hinner : inner.toList with
    | nil =>
      have hall : text.toList.dropWhile isBlank = [] := by
        have hdropped : ((before ++ after) ++ []).dropWhile isBlank = [] :=
          dropWhile_isBlank_append hblank (by simp)
        simpa [htext, hinner] using hdropped
      rw [trim, hall, ← String.ofList_toList (s := inner), hinner]
      rfl
    | cons c rest =>
      have hfront : text.toList.dropWhile isBlank = inner.toList ++ after := by
        rw [htext]
        refine dropWhile_isBlank_append hbefore fun d hd => hfirst d ?_
        simpa [hinner] using hd
      have hback : (inner.toList ++ after).reverse.dropWhile isBlank = inner.toList.reverse := by
        rw [List.reverse_append]
        refine dropWhile_isBlank_append (fun d hd => hafter d (List.mem_reverse.1 hd)) ?_
        rwa [List.head?_reverse]
      rw [trim, hfront, hback, List.reverse_reverse, String.ofList_toList]

end Text

end CodeSurvey
