import CodeSurvey.Report.Json
import Mathlib.Data.List.Basic
import Mathlib.Tactic.IntervalCases
import Mathlib.Tactic.SplitIfs

/-!
# What JSON texts say

`Json.Says` is the grammar of JSON for the documents that reports are made of: strings with all
their escapes, integers, lists and objects, with spaces anywhere between the parts.  The further
values that JSON has (fractions, truth values and the null value) are no documents here.

A string is a sequence of UTF-16 code units: an escape stands for one unit, and a character above
U+FFFF for two.  So the escapes of two surrogates say the same as the character itself.

* `Json.says_render` : a document as it is laid out is a JSON text that says the document;
* `Json.isAscii_render` : it has ASCII characters only.
-/

namespace CodeSurvey

namespace Json

/-! ### Strings -/

/-- What the letters behind a backslash stand for. -/
def shortEscapes : List (Char × Char) :=
  [('"', '"'), ('\\', '\\'), ('/', '/'), ('b', '\x08'), ('f', '\x0C'), ('n', '\n'), ('r', '\r'),
    ('t', '\t')]

/-- The value of a hexadecimal digit. -/
def hexDigit? (c : Char) : Option Nat :=
  if '0' ≤ c ∧ c ≤ '9' then some (c.toNat - 0x30)
  else if 'a' ≤ c ∧ c ≤ 'f' then some (c.toNat - 0x57)
  else if 'A' ≤ c ∧ c ≤ 'F' then some (c.toNat - 0x37)
  else none

/-- The code unit that four hexadecimal digits spell. -/
def unit? (a b c d : Char) : Option Nat := do
  return 0x1000 * (← hexDigit? a) + 0x100 * (← hexDigit? b) + 0x10 * (← hexDigit? c) +
    (← hexDigit? d)

/-- The characters between the quotes of a string say a sequence of code units. -/
inductive SaysUnits : List Char → List Nat → Prop
  | nil : SaysUnits [] []
  /-- Any character stands for itself, except for control characters, the quote and the
  backslash. -/
  | plain {c : Char} {body : List Char} {us : List Nat} (hcontrol : ' ' ≤ c) (hquote : c ≠ '"')
      (hbackslash : c ≠ '\\') (rest : SaysUnits body us) : SaysUnits (c :: body) (units c ++ us)
  | short {letter c : Char} {body : List Char} {us : List Nat} (h : (letter, c) ∈ shortEscapes)
      (rest : SaysUnits body us) : SaysUnits ('\\' :: letter :: body) (c.toNat :: us)
  | unit {a b c d : Char} {n : Nat} {body : List Char} {us : List Nat} (h : unit? a b c d = some n)
      (rest : SaysUnits body us) : SaysUnits ('\\' :: 'u' :: a :: b :: c :: d :: body) (n :: us)

/-- The characters of a string with its quotes. -/
inductive SaysString : List Char → String → Prop
  | quotes {body : List Char} {s : String} (h : SaysUnits body (s.toList.flatMap units)) :
      SaysString ('"' :: body ++ ['"']) s

/-! ### Numbers -/

/-- A natural number in decimal digits, without zeros in front. -/
structure SaysNat (text : List Char) (n : Nat) : Prop where
  ne_nil : text ≠ []
  digits : ∀ c ∈ text, c.isDigit = true
  no_leading_zero : text.head? = some '0' → text = ['0']
  value : Nat.ofDigitChars 10 text 0 = n

/-- An integer, which may have a minus sign. -/
inductive SaysInt : List Char → Int → Prop
  | plain {text : List Char} {n : Nat} (h : SaysNat text n) : SaysInt text n
  | minus {text : List Char} {n : Nat} (h : SaysNat text n) : SaysInt ('-' :: text) (-n)

/-! ### Documents -/

/-- The spaces that may stand between the parts of a text. -/
def isSpace (c : Char) : Bool := c == ' ' || c == '\t' || c == '\n' || c == '\r'

/-- Nothing but spaces. -/
def IsGap (text : List Char) : Prop := ∀ c ∈ text, isSpace c = true

/-- What a part of a text says. -/
inductive Part where
  | value (document : Json)
  | member (member : String × Json)
  /-- The items of a list behind the first of them, up to the closing bracket. -/
  | moreItems (items : List Json)
  /-- The members of an object behind the first of them, up to the closing bracket. -/
  | moreMembers (members : List (String × Json))

/-- The grammar of JSON. -/
inductive Says : List Char → Part → Prop
  | text {t : List Char} {s : String} (h : SaysString t s) : Says t (.value (.text s))
  | number {t : List Char} {n : Int} (h : SaysInt t n) : Says t (.value (.number n))
  | noItems {gap : List Char} (hgap : IsGap gap) :
      Says ('[' :: gap ++ [']']) (.value (.list []))
  | items {gap first more : List Char} {item : Json} {items : List Json} (hgap : IsGap gap)
      (hfirst : Says first (.value item)) (hmore : Says more (.moreItems items)) :
      Says ('[' :: gap ++ first ++ more) (.value (.list (item :: items)))
  | endItems {gap : List Char} (hgap : IsGap gap) : Says (gap ++ [']']) (.moreItems [])
  | moreItems {before gap next more : List Char} {item : Json} {items : List Json}
      (hbefore : IsGap before) (hgap : IsGap gap) (hnext : Says next (.value item))
      (hmore : Says more (.moreItems items)) :
      Says (before ++ ',' :: gap ++ next ++ more) (.moreItems (item :: items))
  | noMembers {gap : List Char} (hgap : IsGap gap) :
      Says ('\x7b' :: gap ++ ['\x7d']) (.value (.object []))
  | members {gap first more : List Char} {member : String × Json}
      {members : List (String × Json)} (hgap : IsGap gap) (hfirst : Says first (.member member))
      (hmore : Says more (.moreMembers members)) :
      Says ('\x7b' :: gap ++ first ++ more) (.value (.object (member :: members)))
  | endMembers {gap : List Char} (hgap : IsGap gap) : Says (gap ++ ['\x7d']) (.moreMembers [])
  | moreMembers {before gap next more : List Char} {member : String × Json}
      {members : List (String × Json)} (hbefore : IsGap before) (hgap : IsGap gap)
      (hnext : Says next (.member member)) (hmore : Says more (.moreMembers members)) :
      Says (before ++ ',' :: gap ++ next ++ more) (.moreMembers (member :: members))
  | member {name before gap t : List Char} {key : String} {value : Json}
      (hname : SaysString name key) (hbefore : IsGap before) (hgap : IsGap gap)
      (hvalue : Says t (.value value)) :
      Says (name ++ before ++ ':' :: gap ++ t) (.member (key, value))

/-- A whole text that says a document. -/
inductive IsText (s : String) (document : Json) : Prop
  | around {before t after : List Char} (hbefore : IsGap before) (h : Says t (.value document))
      (hafter : IsGap after) (htext : s.toList = before ++ t ++ after) : IsText s document

/-! ### Escaped strings -/

theorem hexDigit?_digitChar {d : Nat} (h : d < 16) : hexDigit? (Nat.digitChar d) = some d := by
  interval_cases d <;> rfl

/-- The digits of a code unit spell it. -/
theorem exists_unitDigits_eq {n : Nat} (h : n < 0x10000) :
    ∃ a b c d, unitDigits n = [a, b, c, d] ∧ unit? a b c d = some n := by
  refine ⟨_, _, _, _, rfl, ?_⟩
  have hdigit (m : Nat) : hexDigit? (Nat.digitChar (m % 16)) = some (m % 16) :=
    hexDigit?_digitChar (Nat.mod_lt m (by decide))
  simp only [unit?, hdigit, Option.bind_eq_bind, Option.bind_some, Option.pure_def,
    Option.some.injEq]
  omega

theorem lt_of_mem_units {c : Char} {n : Nat} (h : n ∈ units c) : n < 0x10000 := by
  have hc : c.toNat < 0x110000 := by
    rcases c.valid with hc | ⟨-, hc⟩
    · exact Nat.lt_trans hc (by decide)
    · exact hc
  simp only [units] at h
  split at h
  · rw [List.mem_singleton] at h
    omega
  · simp only [List.mem_cons, List.not_mem_nil, or_false] at h
    omega

theorem saysUnits_escapes {us vs : List Nat} {body : List Char} (h : ∀ n ∈ us, n < 0x10000)
    (rest : SaysUnits body vs) : SaysUnits (us.flatMap unitEscape ++ body) (us ++ vs) := by
  induction us with
  | nil => exact rest
  | cons n us ih =>
    rw [List.forall_mem_cons] at h
    obtain ⟨a, b, c, d, hdigits, hunit⟩ := exists_unitDigits_eq h.1
    simp only [List.flatMap_cons, unitEscape, hdigits, List.cons_append, List.nil_append]
    exact .unit hunit (ih h.2)

/-- A character escaped or not says its code units. -/
theorem saysUnits_escapedChar (c : Char) {body : List Char} {us : List Nat}
    (rest : SaysUnits body us) : SaysUnits (escapedChar c ++ body) (units c ++ us) := by
  have hshort {letter : Char} (h : (letter, c) ∈ shortEscapes) (hunits : units c = [c.toNat]) :
      SaysUnits (['\\', letter] ++ body) (units c ++ us) := by
    rw [hunits]
    exact .short h rest
  unfold escapedChar
  split_ifs with h₁ h₂ h₃ h₄ h₅ h₆ h₇ h₈
  · subst h₁; exact hshort (by decide) rfl
  · subst h₂; exact hshort (by decide) rfl
  · subst h₃; exact hshort (by decide) rfl
  · subst h₄; exact hshort (by decide) rfl
  · subst h₅; exact hshort (by decide) rfl
  · subst h₆; exact hshort (by decide) rfl
  · subst h₇; exact hshort (by decide) rfl
  · exact .plain h₈.1 h₁ h₂ rest
  · exact saysUnits_escapes (fun n => lt_of_mem_units) rest

theorem saysUnits_escaped (cs : List Char) :
    SaysUnits (cs.flatMap escapedChar) (cs.flatMap units) := by
  induction cs with
  | nil => exact .nil
  | cons c cs ih => exact saysUnits_escapedChar c ih

theorem saysString_stringText (s : String) : SaysString (stringText s).toList s := by
  rw [stringText, String.toList_ofList]
  exact .quotes (saysUnits_escaped s.toList)

/-! ### Written numbers -/

theorem head?_toDigits_ne {n : Nat} (h : n ≠ 0) : (Nat.toDigits 10 n).head? ≠ some '0' := by
  induction n using Nat.strong_induction_on with
  | h n ih =>
    rcases lt_or_ge n 10 with hlt | hge
    · rw [Nat.toDigits_of_lt_base hlt, List.head?_cons]
      interval_cases n
      · exact absurd rfl h
      all_goals decide
    · -- the first digit is that of the number without its last digit
      rw [Nat.toDigits_of_base_le (by decide) hge, List.head?_append_of_ne_nil _ Nat.toDigits_ne_nil]
      exact ih (n / 10) (by omega) (by omega)

theorem saysNat_toDigits (n : Nat) : SaysNat (Nat.toDigits 10 n) n where
  ne_nil := Nat.toDigits_ne_nil
  digits c hc := Nat.isDigit_of_mem_toDigits (by decide) (by decide) hc
  no_leading_zero hzero := by
    rcases eq_or_ne n 0 with rfl | hn
    · rfl
    · exact absurd hzero (head?_toDigits_ne hn)
  value := Nat.ofDigitChars_ten_toDigits

theorem saysInt_toString (n : Int) : SaysInt (toString n).toList n := by
  rw [Int.toString_eq_repr, Int.repr_eq_if]
  split
  · next h =>
    rw [Nat.repr_eq_ofList_toDigits, String.toList_ofList]
    have hplain := SaysInt.plain (saysNat_toDigits n.toNat)
    rwa [Int.toNat_of_nonneg h] at hplain
  · next h =>
    have hminus := SaysInt.minus (saysNat_toDigits (-n).toNat)
    rw [Int.toNat_of_nonneg (by omega), Int.neg_neg] at hminus
    simpa [Nat.repr_eq_ofList_toDigits] using hminus

/-! ### Layout -/

theorem isGap_nil : IsGap [] := by simp [IsGap]

theorem isGap_space : IsGap [' '] := by simp [IsGap, isSpace]

theorem isGap_newline (depth : Nat) : IsGap (newline depth).toList := by
  intro c hc
  simp only [newline, String.toList_append, String.toList_ofList, List.mem_append,
    List.mem_replicate] at hc
  rcases hc with hc | ⟨-, rfl⟩
  · obtain rfl : c = '\n' := by simpa using hc
    rfl
  · rfl

mutual

/-- A document says itself as it is laid out. -/
theorem says_renderAt (depth : Nat) : (document : Json) →
    Says (renderAt depth document).toList (.value document)
  | .text s => by
    rw [renderAt]
    exact .text (saysString_stringText s)
  | .number n => by
    rw [renderAt]
    exact .number (saysInt_toString n)
  | .list [] => by
    rw [renderAt]
    exact .noItems isGap_nil
  | .list (item :: items) => by
    have hmore := says_renderItems (depth + 1) items _ (isGap_newline depth)
    have h := Says.items (isGap_newline (depth + 1)) (says_renderAt (depth + 1) item) hmore
    rw [renderAt]
    simpa only [String.toList_append, String.reduceToList, List.append_assoc, List.cons_append,
      List.nil_append] using h
  | .object [] => by
    rw [renderAt]
    exact .noMembers isGap_nil
  | .object (member :: members) => by
    have hmore := says_renderMembers (depth + 1) members _ (isGap_newline depth)
    have h := Says.members (isGap_newline (depth + 1)) (says_renderMember (depth + 1) member) hmore
    rw [renderAt]
    simpa only [String.toList_append, String.reduceToList, List.append_assoc, List.cons_append,
      List.nil_append] using h

theorem says_renderMember (depth : Nat) : (member : String × Json) →
    Says (renderMember depth member).toList (.member member)
  | (key, value) => by
    have h := Says.member (saysString_stringText key) isGap_nil isGap_space
      (says_renderAt depth value)
    rw [renderMember]
    simpa only [String.toList_append, String.reduceToList, List.append_assoc, List.cons_append,
      List.nil_append] using h

theorem says_renderItems (depth : Nat) : (items : List Json) → ∀ gap, IsGap gap →
    Says ((renderItems depth items).toList ++ (gap ++ [']'])) (.moreItems items)
  | [], gap, hgap => by
    rw [renderItems]
    exact .endItems hgap
  | item :: items, gap, hgap => by
    have h := Says.moreItems isGap_nil (isGap_newline depth) (says_renderAt depth item)
      (says_renderItems depth items gap hgap)
    rw [renderItems]
    simpa only [String.toList_append, String.reduceToList, List.append_assoc, List.cons_append,
      List.nil_append] using h

theorem says_renderMembers (depth : Nat) : (members : List (String × Json)) → ∀ gap, IsGap gap →
    Says ((renderMembers depth members).toList ++ (gap ++ ['\x7d'])) (.moreMembers members)
  | [], gap, hgap => by
    rw [renderMembers]
    exact .endMembers hgap
  | member :: members, gap, hgap => by
    have h := Says.moreMembers isGap_nil (isGap_newline depth) (says_renderMember depth member)
      (says_renderMembers depth members gap hgap)
    rw [renderMembers]
    simpa only [String.toList_append, String.reduceToList, List.append_assoc, List.cons_append,
      List.nil_append] using h

end

/-- **A document as it is laid out is a JSON text of that document.** -/
theorem says_render (document : Json) : IsText document.render document :=
  .around isGap_nil (says_renderAt 0 document) isGap_nil (by simp [render])

/-! ### ASCII -/

/-- Only ASCII characters. -/
def IsAscii (text : List Char) : Prop := ∀ c ∈ text, c.toNat < 0x80

theorem isAscii_append {t u : List Char} : IsAscii (t ++ u) ↔ IsAscii t ∧ IsAscii u := by
  simp only [IsAscii, List.mem_append, or_imp, forall_and]

theorem isAscii_digitChar (d : Nat) : (Nat.digitChar (d % 16)).toNat < 0x80 := by
  have h : d % 16 < 16 := Nat.mod_lt d (by decide)
  interval_cases d % 16 <;> decide

theorem isAscii_unitEscape (n : Nat) : IsAscii (unitEscape n) := by
  simp [IsAscii, unitEscape, unitDigits, isAscii_digitChar]

theorem isAscii_escapedChar (c : Char) : IsAscii (escapedChar c) := by
  unfold escapedChar
  split_ifs with _ _ _ _ _ _ _ h
  rotate_left 7
  · have hle : c.toNat ≤ '~'.toNat := h.2
    simpa [IsAscii] using Nat.lt_of_le_of_lt hle (by decide)
  · intro d hd
    obtain ⟨n, -, hd⟩ := List.mem_flatMap.1 hd
    exact isAscii_unitEscape n d hd
  all_goals simp [IsAscii]

theorem isAscii_stringText (s : String) : IsAscii (stringText s).toList := by
  rw [stringText, String.toList_ofList, isAscii_append, ← List.singleton_append, isAscii_append]
  refine ⟨⟨by simp [IsAscii], fun c hc => ?_⟩, by simp [IsAscii]⟩
  obtain ⟨d, -, hc⟩ := List.mem_flatMap.1 hc
  exact isAscii_escapedChar d c hc

theorem SaysNat.isAscii {text : List Char} {n : Nat} (h : SaysNat text n) : IsAscii text := by
  intro c hc
  have hle : c.toNat ≤ '9'.toNat := (Char.isDigit_iff_toNat.1 (h.digits c hc)).2
  exact Nat.lt_of_le_of_lt hle (by decide)

theorem SaysInt.isAscii {text : List Char} {n : Int} (h : SaysInt text n) : IsAscii text := by
  cases h with
  | plain h => exact h.isAscii
  | minus h => exact List.forall_mem_cons.2 ⟨by decide, h.isAscii⟩

theorem IsGap.isAscii {text : List Char} (h : IsGap text) : IsAscii text := by
  intro c hc
  have hspace := h c hc
  simp only [isSpace, Bool.or_eq_true, beq_iff_eq] at hspace
  obtain ((rfl | rfl) | rfl) | rfl := hspace <;> decide

mutual

theorem isAscii_renderAt (depth : Nat) : (document : Json) →
    IsAscii (renderAt depth document).toList
  | .text s => by
    rw [renderAt]
    exact isAscii_stringText s
  | .number n => by
    rw [renderAt]
    exact (saysInt_toString n).isAscii
  | .list [] | .object [] => by
    rw [renderAt]
    simp [IsAscii]
  | .list (item :: items) => by
    have hopen := (isGap_newline (depth + 1)).isAscii
    have hclose := (isGap_newline depth).isAscii
    have hitem := isAscii_renderAt (depth + 1) item
    have hitems := isAscii_renderItems (depth + 1) items
    rw [renderAt]
    simp only [String.toList_append, isAscii_append, hopen, hclose, hitem, hitems]
    simp [IsAscii]
  | .object (member :: members) => by
    have hopen := (isGap_newline (depth + 1)).isAscii
    have hclose := (isGap_newline depth).isAscii
    have hmember := isAscii_renderMember (depth + 1) member
    have hmembers := isAscii_renderMembers (depth + 1) members
    rw [renderAt]
    simp only [String.toList_append, isAscii_append, hopen, hclose, hmember, hmembers]
    simp [IsAscii]

theorem isAscii_renderMember (depth : Nat) : (member : String × Json) →
    IsAscii (renderMember depth member).toList
  | (key, value) => by
    have hvalue := isAscii_renderAt depth value
    rw [renderMember]
    simp only [String.toList_append, isAscii_append, isAscii_stringText, hvalue]
    simp [IsAscii]

theorem isAscii_renderItems (depth : Nat) : (items : List Json) →
    IsAscii (renderItems depth items).toList
  | [] => by
    rw [renderItems]
    simp [IsAscii]
  | item :: items => by
    have hgap := (isGap_newline depth).isAscii
    have hitem := isAscii_renderAt depth item
    have hitems := isAscii_renderItems depth items
    rw [renderItems]
    simp only [String.toList_append, isAscii_append, hgap, hitem, hitems]
    simp [IsAscii]

theorem isAscii_renderMembers (depth : Nat) : (members : List (String × Json)) →
    IsAscii (renderMembers depth members).toList
  | [] => by
    rw [renderMembers]
    simp [IsAscii]
  | member :: members => by
    have hgap := (isGap_newline depth).isAscii
    have hmember := isAscii_renderMember depth member
    have hmembers := isAscii_renderMembers depth members
    rw [renderMembers]
    simp only [String.toList_append, isAscii_append, hgap, hmember, hmembers]
    simp [IsAscii]

end

/-- **A document as it is laid out has ASCII characters only.** -/
theorem isAscii_render (document : Json) : IsAscii document.render.toList :=
  isAscii_renderAt 0 document

end Json

end CodeSurvey
