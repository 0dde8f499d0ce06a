import CodeSurvey.Proofs.Report.JsonText
import Mathlib.Data.List.TakeWhile

/-!
# Reading JSON texts

`Json.read?` reads a text from left to right and gives the document that it says.  Each part of
the grammar has a reader, which takes the part off the beginning of a text and returns what is
left.

* `Json.read?_eq_some_iff` : the texts that are read are the JSON texts, each as the document that
  it says;
* `Json.read?_render` : what has been laid out is read back.
-/

namespace CodeSurvey

namespace Json

/-! ### Readers -/

/-- What follows a mark, before which there may be a gap. -/
def after? (mark : Char) (cs : List Char) : Option (List Char) :=
  match cs.dropWhile isSpace with
  | c :: rest => if c = mark then some rest else none
  | [] => none

/-- Reads the code units of a string up to the closing quote. -/
def readUnits : List Char → Option (List Nat × List Char)
  | [] => none
  | '"' :: rest => some ([], rest)
  | '\\' :: 'u' :: a :: b :: c :: d :: rest => do
    let n ← unit? a b c d
    let (us, rest) ← readUnits rest
    return (n :: us, rest)
  | '\\' :: letter :: rest => do
    let c ← shortEscapes.lookup letter
    let (us, rest) ← readUnits rest
    return (c.toNat :: us, rest)
  | c :: rest => do
    guard (' ' ≤ c ∧ c ≠ '\\')
    let (us, rest) ← readUnits rest
    return (units c ++ us, rest)

/-- The characters that a sequence of code units stands for.  A surrogate stands for something
only as one of a pair. -/
def characters? : List Nat → Option (List Char)
  | [] => some []
  | n :: rest =>
    if n < 0xD800 ∨ 0xE000 ≤ n ∧ n < 0x10000 then (characters? rest).map (Char.ofNat n :: ·)
    else
      match rest with
      | [] => none
      | low :: rest =>
        if 0xD800 ≤ n ∧ n < 0xDC00 ∧ 0xDC00 ≤ low ∧ low < 0xE000 then
          (characters? rest).map
            (Char.ofNat (0x10000 + 0x400 * (n - 0xD800) + (low - 0xDC00)) :: ·)
        else none

/-- Reads a string. -/
def readString : List Char → Option (String × List Char)
  | '"' :: rest => do
    let (us, rest) ← readUnits rest
    let cs ← characters? us
    return (String.ofList cs, rest)
  | _ => none

/-- Reads a natural number. -/
def readNat (cs : List Char) : Option (Nat × List Char) :=
  let digits := cs.takeWhile Char.isDigit
  if digits = [] ∨ digits.head? = some '0' ∧ digits ≠ ['0'] then none
  else some (Nat.ofDigitChars 10 digits 0, cs.dropWhile Char.isDigit)

/-- Reads an integer. -/
def readInt : List Char → Option (Int × List Char)
  | '-' :: rest => do
    let (n, rest) ← readNat rest
    return (-n, rest)
  | cs => do
    let (n, rest) ← readNat cs
    return (n, rest)

mutual

/-- Reads a document.  What is nested in each other may be `depth` deep at most. -/
def readValue : (depth : Nat) → List Char → Option (Json × List Char)
  | 0, _ => none
  | depth + 1, cs =>
    match cs with
    | '"' :: _ => do
      let (s, rest) ← readString cs
      return (.text s, rest)
    | '[' :: rest =>
      match after? ']' rest with
      | some rest => some (.list [], rest)
      | none => do
        let (item, rest) ← readValue depth (rest.dropWhile isSpace)
        let (items, rest) ← readItems depth rest
        return (.list (item :: items), rest)
    | '\x7b' :: rest =>
      match after? '\x7d' rest with
      | some rest => some (.object [], rest)
      | none => do
        let (member, rest) ← readMember depth (rest.dropWhile isSpace)
        let (members, rest) ← readMembers depth rest
        return (.object (member :: members), rest)
    | _ => do
      let (n, rest) ← readInt cs
      return (.number n, rest)

/-- Reads the items of a list behind the first of them, up to the closing bracket. -/
def readItems : (depth : Nat) → List Char → Option (List Json × List Char)
  | 0, _ => none
  | depth + 1, cs =>
    match after? ']' cs with
    | some rest => some ([], rest)
    | none => do
      let rest ← after? ',' cs
      let (item, rest) ← readValue depth (rest.dropWhile isSpace)
      let (items, rest) ← readItems depth rest
      return (item :: items, rest)

/-- Reads a member of an object. -/
def readMember : (depth : Nat) → List Char → Option ((String × Json) × List Char)
  | 0, _ => none
  | depth + 1, cs => do
    let (key, rest) ← readString cs
    let rest ← after? ':' rest
    let (value, rest) ← readValue depth (rest.dropWhile isSpace)
    return ((key, value), rest)

/-- Reads the members of an object behind the first of them, up to the closing bracket. -/
def readMembers : (depth : Nat) → List Char → Option (List (String × Json) × List Char)
  | 0, _ => none
  | depth + 1, cs =>
    match after? '\x7d' cs with
    | some rest => some ([], rest)
    | none => do
      let rest ← after? ',' cs
      let (member, rest) ← readMember depth (rest.dropWhile isSpace)
      let (members, rest) ← readMembers depth rest
      return (member :: members, rest)

end

/-- The document that a text says. -/
def read? (text : String) : Option Json := do
  let cs := text.toList.dropWhile isSpace
  let (document, rest) ← readValue cs.length cs
  guard (rest.dropWhile isSpace = [])
  return document

/-! ### Gaps and marks -/

variable {cs rest gap body digits : List Char} {us : List Nat} {mark c : Char} {s : String}

theorem dropWhile_gap_append (hgap : IsGap gap) :
    (gap ++ cs).dropWhile isSpace = cs.dropWhile isSpace := List.dropWhile_append_of_pos hgap

theorem dropWhile_gap_append_cons (hgap : IsGap gap) (hc : isSpace c = false) :
    (gap ++ c :: rest).dropWhile isSpace = c :: rest := by
  rw [dropWhile_gap_append hgap, List.dropWhile_cons_of_neg (by simp [hc])]

theorem isGap_takeWhile (cs : List Char) : IsGap (cs.takeWhile isSpace) :=
  List.all_eq_true.1 List.all_takeWhile

theorem exists_gap_append (cs : List Char) : ∃ gap, IsGap gap ∧ cs = gap ++ cs.dropWhile isSpace :=
  ⟨_, isGap_takeWhile cs, List.takeWhile_append_dropWhile.symm⟩

theorem after?_mark (hgap : IsGap gap) (hmark : isSpace mark = false) :
    after? mark (gap ++ mark :: rest) = some rest := by
  rw [after?, dropWhile_gap_append_cons hgap hmark]
  exact if_pos rfl

theorem after?_other (hgap : IsGap gap) (hc : isSpace c = false) (hne : c ≠ mark) :
    after? mark (gap ++ c :: rest) = none := by
  rw [after?, dropWhile_gap_append_cons hgap hc]
  exact if_neg hne

theorem exists_of_after?_eq_some (h : after? mark cs = some rest) :
    ∃ gap, IsGap gap ∧ cs = gap ++ mark :: rest := by
  obtain ⟨gap, hgap, hcs⟩ := exists_gap_append cs
  rw [after?] at h
  split at h
  · next c tail hdrop =>
    rw [hdrop] at hcs
    split at h
    · next hmark =>
      cases h
      exact ⟨gap, hgap, hmark ▸ hcs⟩
    · cases h
  · cases h

/-! ### Strings -/

theorem lookup_shortEscapes {letter : Char} :
    shortEscapes.lookup letter = some c ↔ (letter, c) ∈ shortEscapes :=
  lookup_eq_some_iff_mem (by decide)

theorem readUnits_append_quote (h : SaysUnits body us) :
    readUnits (body ++ '"' :: rest) = some (us, rest) := by
  induction h with
  | nil => rfl
  | plain hcontrol hquote hbackslash _ ih =>
    rw [List.cons_append, readUnits, ih]
    · simp [hcontrol, hbackslash]
    all_goals simp_all
  | @short letter _ _ _ h _ ih =>
    have hletter : letter ≠ 'u' := by
      rintro rfl
      simp [shortEscapes] at h
    rw [List.cons_append, List.cons_append, readUnits, lookup_shortEscapes.2 h, ih]
    · rfl
    · simp [hletter]
  | unit h _ ih => simp [readUnits, h, ih]

theorem exists_of_readUnits_eq_some (h : readUnits cs = some (us, rest)) :
    ∃ body, SaysUnits body us ∧ cs = body ++ '"' :: rest := by
  fun_induction readUnits cs generalizing us with
  | case1 => cases h
  | case2 tail =>
    cases h
    exact ⟨[], .nil, rfl⟩
  | case3 a b c d tail ih =>
    obtain ⟨n, hn, h⟩ := Option.bind_eq_some_iff.1 h
    obtain ⟨⟨vs, _⟩, htail, h⟩ := Option.bind_eq_some_iff.1 h
    cases h
    obtain ⟨body, hbody, rfl⟩ := ih htail
    exact ⟨_, .unit hn hbody, rfl⟩
  | case4 letter tail _ ih =>
    obtain ⟨c, hc, h⟩ := Option.bind_eq_some_iff.1 h
    obtain ⟨⟨vs, _⟩, htail, h⟩ := Option.bind_eq_some_iff.1 h
    cases h
    obtain ⟨body, hbody, rfl⟩ := ih htail
    exact ⟨_, .short (lookup_shortEscapes.1 hc) hbody, rfl⟩
  | case5 c tail hquote _ _ ih =>
    obtain ⟨_, hc, h⟩ := Option.bind_eq_some_iff.1 h
    obtain ⟨⟨vs, _⟩, htail, h⟩ := Option.bind_eq_some_iff.1 h
    cases h
    obtain ⟨body, hbody, rfl⟩ := ih htail
    have hplain : ' ' ≤ c ∧ c ≠ '\\' := by
      by_contra hno
      simp [guard, hno] at hc
    exact ⟨_, .plain hplain.1 hquote hplain.2 hbody, rfl⟩

theorem characters?_scalar {n : Nat} (h : n < 0xD800 ∨ 0xE000 ≤ n ∧ n < 0x10000)
    (us : List Nat) : characters? (n :: us) = (characters? us).map (Char.ofNat n :: ·) := by
  rw [characters?.eq_def]
  exact if_pos h

theorem characters?_surrogates {n low : Nat}
    (h : 0xD800 ≤ n ∧ n < 0xDC00 ∧ 0xDC00 ≤ low ∧ low < 0xE000) (us : List Nat) :
    characters? (n :: low :: us) = (characters? us).map
      (Char.ofNat (0x10000 + 0x400 * (n - 0xD800) + (low - 0xDC00)) :: ·) := by
  rw [characters?.eq_def]
  dsimp only
  rw [if_neg (by omega), if_pos h]

theorem characters?_flatMap_units (cs : List Char) : characters? (cs.flatMap units) = some cs := by
  induction cs with
  | nil => rfl
  | cons c cs ih =>
    have hvalid : c.toNat < 0xD800 ∨ 0xDFFF < c.toNat ∧ c.toNat < 0x110000 := c.valid
    rw [List.flatMap_cons, units]
    split
    · next hsmall =>
      rw [List.singleton_append, characters?_scalar (by omega), ih, Option.map_some,
        Char.ofNat_toNat]
    · next hlarge =>
      -- above U+FFFF the two units are surrogates, which keep ten bits each
      have hback : 0x10000 + 0x400 * (0xD800 + (c.toNat - 0x10000) / 0x400 - 0xD800) +
          (0xDC00 + (c.toNat - 0x10000) % 0x400 - 0xDC00) = c.toNat := by omega
      rw [List.cons_append, List.singleton_append, characters?_surrogates (by omega), hback, ih,
        Option.map_some, Char.ofNat_toNat]

theorem toNat_ofNat {n : Nat} (h : n < 0xD800 ∨ 0xDFFF < n ∧ n < 0x110000) :
    (Char.ofNat n).toNat = n := by
  rw [Char.ofNat, dif_pos h]
  rfl

theorem eq_of_characters?_eq_some (h : characters? us = some cs) : us = cs.flatMap units := by
  fun_induction characters? us generalizing cs with
  | case1 =>
    cases h
    rfl
  | case2 n tail hn ih =>
    obtain ⟨cs', hcs', rfl⟩ := Option.map_eq_some_iff.1 h
    have hvalid : (Char.ofNat n).toNat = n := toNat_ofNat (by omega)
    have hunits : units (Char.ofNat n) = [n] := by
      rw [units, hvalid, if_pos (by omega)]
    rw [List.flatMap_cons, hunits, ← ih hcs']
    rfl
  | case3 n hn => cases h
  | case4 n hn low tail hpair ih =>
    obtain ⟨cs', hcs', rfl⟩ := Option.map_eq_some_iff.1 h
    have hvalid : (Char.ofNat (0x10000 + 0x400 * (n - 0xD800) + (low - 0xDC00))).toNat =
        0x10000 + 0x400 * (n - 0xD800) + (low - 0xDC00) := toNat_ofNat (by omega)
    have hunits : units (Char.ofNat (0x10000 + 0x400 * (n - 0xD800) + (low - 0xDC00))) =
        [n, low] := by
      rw [units, hvalid, if_neg (by omega)]
      simp only [List.cons.injEq, and_true]
      omega
    rw [List.flatMap_cons, hunits, ← ih hcs']
    rfl
  | case5 => cases h

/-- A string is read as what it says. -/
theorem readString_eq_some_iff :
    readString cs = some (s, rest) ↔ ∃ t, SaysString t s ∧ cs = t ++ rest := by
  constructor
  · intro h
    rw [readString.eq_def] at h
    split at h
    · next tail =>
      obtain ⟨⟨us, _⟩, hunits, h⟩ := Option.bind_eq_some_iff.1 h
      obtain ⟨chars, hchars, h⟩ := Option.bind_eq_some_iff.1 h
      cases h
      obtain ⟨body, hbody, rfl⟩ := exists_of_readUnits_eq_some hunits
      rw [eq_of_characters?_eq_some hchars, ← String.toList_ofList (l := chars)] at hbody
      exact ⟨_, .quotes hbody, by simp⟩
    · cases h
  · rintro ⟨_, ⟨hbody⟩, rfl⟩
    simp [readString, readUnits_append_quote hbody, characters?_flatMap_units]

/-! ### Numbers -/

/-- A number ends before a text that begins with no digit. -/
def EndsNumber (rest : List Char) : Prop := ∀ c ∈ rest.head?, c.isDigit = false

theorem takeWhile_digits_append (hdigits : ∀ c ∈ digits, c.isDigit = true)
    (hrest : EndsNumber rest) : (digits ++ rest).takeWhile Char.isDigit = digits := by
  rw [List.takeWhile_append_of_pos hdigits]
  cases rest with
  | nil => simp
  | cons c rest => simp [hrest c rfl]

theorem readNat_append {n : Nat} (h : SaysNat digits n) (hrest : EndsNumber rest) :
    readNat (digits ++ rest) = some (n, rest) := by
  have htake := takeWhile_digits_append h.digits hrest
  have hdrop : (digits ++ rest).dropWhile Char.isDigit = rest := by
    have happend := List.takeWhile_append_dropWhile (p := Char.isDigit) (l := digits ++ rest)
    rwa [htake, List.append_cancel_left_eq] at happend
  rw [readNat, htake, hdrop, if_neg, h.value]
  rintro (hnil | ⟨hzero, hne⟩)
  · exact h.ne_nil hnil
  · exact hne (h.no_leading_zero hzero)

theorem exists_of_readNat_eq_some {n : Nat} (h : readNat cs = some (n, rest)) :
    ∃ t, SaysNat t n ∧ cs = t ++ rest := by
  rw [readNat] at h
  split at h
  · cases h
  · next hdigits =>
    rw [not_or, not_and, not_not] at hdigits
    cases h
    exact ⟨_, ⟨hdigits.1, List.all_eq_true.1 List.all_takeWhile, hdigits.2, rfl⟩,
      List.takeWhile_append_dropWhile.symm⟩

/-- An integer is read up to the last of its digits. -/
theorem readInt_append {n : Int} (h : SaysInt digits n) (hrest : EndsNumber rest) :
    readInt (digits ++ rest) = some (n, rest) := by
  cases h with
  | plain h =>
    obtain ⟨c, tail, rfl⟩ := List.exists_cons_of_ne_nil h.ne_nil
    have hc : c ≠ '-' := by
      rintro rfl
      exact absurd (h.digits '-' List.mem_cons_self) (by decide)
    have hnat := readNat_append h hrest
    rw [List.cons_append] at hnat ⊢
    rw [readInt, hnat]
    · rfl
    · simpa using hc
  | minus h => simp [readInt, readNat_append h hrest]

theorem exists_of_readInt_eq_some {n : Int} (h : readInt cs = some (n, rest)) :
    ∃ t, SaysInt t n ∧ cs = t ++ rest := by
  rw [readInt.eq_def] at h
  split at h
  · obtain ⟨⟨m, _⟩, hm, h⟩ := Option.bind_eq_some_iff.1 h
    cases h
    obtain ⟨t, ht, rfl⟩ := exists_of_readNat_eq_some hm
    exact ⟨_, .minus ht, rfl⟩
  · obtain ⟨⟨m, _⟩, hm, h⟩ := Option.bind_eq_some_iff.1 h
    cases h
    obtain ⟨t, ht, rfl⟩ := exists_of_readNat_eq_some hm
    exact ⟨_, .plain ht, rfl⟩

/-! ### Documents -/

/-- The reader of a part takes it off the beginning of a text. -/
def Part.IsRead (depth : Nat) (cs rest : List Char) : Part → Prop
  | value document => readValue depth cs = some (document, rest)
  | member m => readMember depth cs = some (m, rest)
  | moreItems items => readItems depth cs = some (items, rest)
  | moreMembers members => readMembers depth cs = some (members, rest)

/-- All readers that go at most `depth` deep take off only what says the part that they read. -/
def Sound (depth : Nat) : Prop :=
  ∀ (p : Part) (cs rest : List Char), p.IsRead depth cs rest → ∃ t, Says t p ∧ cs = t ++ rest

namespace Sound

variable {depth : Nat}

theorem after_gap (h : Sound depth) {p : Part} (hread : p.IsRead depth (cs.dropWhile isSpace) rest) :
    ∃ gap t, IsGap gap ∧ Says t p ∧ cs = gap ++ (t ++ rest) := by
  obtain ⟨gap, hgap, hcs⟩ := exists_gap_append cs
  obtain ⟨t, ht, hdrop⟩ := h p _ _ hread
  exact ⟨gap, t, hgap, ht, hdrop ▸ hcs⟩

theorem value (h : Sound depth) {document : Json}
    (hread : readValue (depth + 1) cs = some (document, rest)) :
    ∃ t, Says t (.value document) ∧ cs = t ++ rest := by
  rw [readValue.eq_def] at hread
  dsimp only at hread
  split at hread
  · obtain ⟨⟨s, _⟩, hs, hread⟩ := Option.bind_eq_some_iff.1 hread
    cases hread
    obtain ⟨t, ht, hcs⟩ := readString_eq_some_iff.1 hs
    exact ⟨t, .text ht, hcs⟩
  · split at hread
    · next hclose =>
      cases hread
      obtain ⟨gap, hgap, rfl⟩ := exists_of_after?_eq_some hclose
      exact ⟨_, .noItems hgap, by simp⟩
    · obtain ⟨⟨item, _⟩, hitem, hread⟩ := Option.bind_eq_some_iff.1 hread
      obtain ⟨⟨items, _⟩, hitems, hread⟩ := Option.bind_eq_some_iff.1 hread
      cases hread
      obtain ⟨gap, t, hgap, ht, rfl⟩ := h.after_gap (p := .value item) hitem
      obtain ⟨u, hu, rfl⟩ := h (.moreItems items) _ _ hitems
      exact ⟨_, .items hgap ht hu, by simp⟩
  · split at hread
    · next hclose =>
      cases hread
      obtain ⟨gap, hgap, rfl⟩ := exists_of_after?_eq_some hclose
      exact ⟨_, .noMembers hgap, by simp⟩
    · obtain ⟨⟨m, _⟩, hmember, hread⟩ := Option.bind_eq_some_iff.1 hread
      obtain ⟨⟨members, _⟩, hmembers, hread⟩ := Option.bind_eq_some_iff.1 hread
      cases hread
      obtain ⟨gap, t, hgap, ht, rfl⟩ := h.after_gap (p := .member m) hmember
      obtain ⟨u, hu, rfl⟩ := h (.moreMembers members) _ _ hmembers
      exact ⟨_, .members hgap ht hu, by simp⟩
  · obtain ⟨⟨n, _⟩, hn, hread⟩ := Option.bind_eq_some_iff.1 hread
    cases hread
    obtain ⟨t, ht, hcs⟩ := exists_of_readInt_eq_some hn
    exact ⟨t, .number ht, hcs⟩

theorem member (h : Sound depth) {m : String × Json}
    (hread : readMember (depth + 1) cs = some (m, rest)) :
    ∃ t, Says t (.member m) ∧ cs = t ++ rest := by
  rw [readMember] at hread
  obtain ⟨⟨key, _⟩, hkey, hread⟩ := Option.bind_eq_some_iff.1 hread
  obtain ⟨tail, hcolon, hread⟩ := Option.bind_eq_some_iff.1 hread
  obtain ⟨⟨value, _⟩, hvalue, hread⟩ := Option.bind_eq_some_iff.1 hread
  cases hread
  obtain ⟨name, hname, rfl⟩ := readString_eq_some_iff.1 hkey
  obtain ⟨before, hbefore, rfl⟩ := exists_of_after?_eq_some hcolon
  obtain ⟨gap, t, hgap, ht, rfl⟩ := h.after_gap (p := .value value) hvalue
  exact ⟨_, .member hname hbefore hgap ht, by simp⟩

theorem moreItems (h : Sound depth) {items : List Json}
    (hread : readItems (depth + 1) cs = some (items, rest)) :
    ∃ t, Says t (.moreItems items) ∧ cs = t ++ rest := by
  rw [readItems] at hread
  split at hread
  · next hclose =>
    cases hread
    obtain ⟨gap, hgap, rfl⟩ := exists_of_after?_eq_some hclose
    exact ⟨_, .endItems hgap, by simp⟩
  · obtain ⟨tail, hcomma, hread⟩ := Option.bind_eq_some_iff.1 hread
    obtain ⟨⟨item, _⟩, hitem, hread⟩ := Option.bind_eq_some_iff.1 hread
    obtain ⟨⟨items, _⟩, hitems, hread⟩ := Option.bind_eq_some_iff.1 hread
    cases hread
    obtain ⟨before, hbefore, rfl⟩ := exists_of_after?_eq_some hcomma
    obtain ⟨gap, t, hgap, ht, rfl⟩ := h.after_gap (p := .value item) hitem
    obtain ⟨u, hu, rfl⟩ := h (.moreItems items) _ _ hitems
    exact ⟨_, .moreItems hbefore hgap ht hu, by simp⟩

theorem moreMembers (h : Sound depth) {members : List (String × Json)}
    (hread : readMembers (depth + 1) cs = some (members, rest)) :
    ∃ t, Says t (.moreMembers members) ∧ cs = t ++ rest := by
  rw [readMembers] at hread
  split at hread
  · next hclose =>
    cases hread
    obtain ⟨gap, hgap, rfl⟩ := exists_of_after?_eq_some hclose
    exact ⟨_, .endMembers hgap, by simp⟩
  · obtain ⟨tail, hcomma, hread⟩ := Option.bind_eq_some_iff.1 hread
    obtain ⟨⟨m, _⟩, hmember, hread⟩ := Option.bind_eq_some_iff.1 hread
    obtain ⟨⟨members, _⟩, hmembers, hread⟩ := Option.bind_eq_some_iff.1 hread
    cases hread
    obtain ⟨before, hbefore, rfl⟩ := exists_of_after?_eq_some hcomma
    obtain ⟨gap, t, hgap, ht, rfl⟩ := h.after_gap (p := .member m) hmember
    obtain ⟨u, hu, rfl⟩ := h (.moreMembers members) _ _ hmembers
    exact ⟨_, .moreMembers hbefore hgap ht hu, by simp⟩

end Sound

/-- What is read off a text says what is read. -/
theorem sound (depth : Nat) : Sound depth := by
  induction depth with
  | zero =>
    intro p cs rest hread
    cases p <;> cases hread
  | succ depth ih =>
    intro p cs rest hread
    cases p with
    | value document => exact ih.value hread
    | member m => exact ih.member hread
    | moreItems items => exact ih.moreItems hread
    | moreMembers members => exact ih.moreMembers hread

/-! ### All texts are read -/

/-- A text that begins neither with a space nor with the mark. -/
def BeginsApartFrom (mark : Char) (t : List Char) : Prop :=
  ∃ c tail, t = c :: tail ∧ isSpace c = false ∧ c ≠ mark

section Beginnings

variable {t : List Char}

theorem BeginsApartFrom.dropWhile_eq (h : BeginsApartFrom mark t) (hgap : IsGap gap) :
    (gap ++ (t ++ rest)).dropWhile isSpace = t ++ rest := by
  obtain ⟨c, tail, rfl, hc, -⟩ := h
  exact dropWhile_gap_append_cons hgap hc

theorem BeginsApartFrom.after?_eq_none (h : BeginsApartFrom mark t) (hgap : IsGap gap) :
    after? mark (gap ++ (t ++ rest)) = none := by
  obtain ⟨c, tail, rfl, hc, hmark⟩ := h
  exact after?_other hgap hc hmark

theorem isDigit_eq_false_of_isSpace (h : isSpace c = true) : c.isDigit = false := by
  simp only [isSpace, Bool.or_eq_true, beq_iff_eq] at h
  obtain ((rfl | rfl) | rfl) | rfl := h <;> decide

theorem SaysInt.exists_eq_cons {n : Int} (h : SaysInt t n) :
    ∃ c tail, t = c :: tail ∧ (c = '-' ∨ c.isDigit = true) := by
  cases h with
  | plain h =>
    obtain ⟨c, tail, rfl⟩ := List.exists_cons_of_ne_nil h.ne_nil
    exact ⟨c, tail, rfl, .inr (h.digits c List.mem_cons_self)⟩
  | minus h => exact ⟨'-', _, rfl, .inl rfl⟩

theorem SaysInt.beginsApartFrom {n : Int} (h : SaysInt t n) : BeginsApartFrom ']' t := by
  obtain ⟨c, tail, rfl, hc⟩ := h.exists_eq_cons
  refine ⟨c, tail, rfl, Bool.eq_false_iff.2 fun hspace => ?_, ?_⟩
  · rcases hc with rfl | hdigit
    · exact absurd hspace (by decide)
    · rw [isDigit_eq_false_of_isSpace hspace] at hdigit
      cases hdigit
  · rintro rfl
    exact absurd hc (by decide)

theorem SaysString.exists_eq_cons (h : SaysString t s) : ∃ tail, t = '"' :: tail := by
  obtain ⟨-⟩ := h
  exact ⟨_, rfl⟩

theorem Says.beginsApartFrom_of_value {document : Json} (h : Says t (.value document)) :
    BeginsApartFrom ']' t := by
  cases h with
  | text h =>
    obtain ⟨tail, rfl⟩ := h.exists_eq_cons
    exact ⟨'"', tail, rfl, by decide, by decide⟩
  | number h => exact h.beginsApartFrom
  | noItems | items => exact ⟨'[', _, rfl, by decide, by decide⟩
  | noMembers | members => exact ⟨'\x7b', _, rfl, by decide, by decide⟩

theorem Says.beginsApartFrom_of_member {m : String × Json} (h : Says t (.member m)) :
    BeginsApartFrom '\x7d' t := by
  cases h with
  | member hname =>
    obtain ⟨tail, rfl⟩ := hname.exists_eq_cons
    exact ⟨'"', _, rfl, by decide, by decide⟩

theorem endsNumber_gap_append_cons (hgap : IsGap gap) (hc : c.isDigit = false) :
    EndsNumber (gap ++ c :: rest) := by
  cases gap with
  | nil =>
    rintro _ ⟨⟩
    exact hc
  | cons space gap =>
    rintro _ ⟨⟩
    exact isDigit_eq_false_of_isSpace (hgap space List.mem_cons_self)

theorem endsNumber_gap (hgap : IsGap gap) : EndsNumber gap := fun c hc =>
  isDigit_eq_false_of_isSpace (hgap c (List.mem_of_mem_head? hc))

theorem Says.endsNumber_of_moreItems {items : List Json} (h : Says t (.moreItems items)) :
    EndsNumber (t ++ rest) := by
  cases h with
  | endItems hgap =>
    rw [List.append_assoc]
    exact endsNumber_gap_append_cons hgap (by decide)
  | moreItems hbefore =>
    simp only [List.append_assoc, List.cons_append]
    exact endsNumber_gap_append_cons hbefore (by decide)

theorem Says.endsNumber_of_moreMembers {members : List (String × Json)}
    (h : Says t (.moreMembers members)) : EndsNumber (t ++ rest) := by
  cases h with
  | endMembers hgap =>
    rw [List.append_assoc]
    exact endsNumber_gap_append_cons hgap (by decide)
  | moreMembers hbefore =>
    simp only [List.append_assoc, List.cons_append]
    exact endsNumber_gap_append_cons hbefore (by decide)

theorem Says.ne_nil {p : Part} (h : Says t p) : t ≠ [] := by
  cases p with
  | value document =>
    obtain ⟨c, tail, rfl, -⟩ := h.beginsApartFrom_of_value
    simp
  | member m =>
    obtain ⟨c, tail, rfl, -⟩ := h.beginsApartFrom_of_member
    simp
  | moreItems items => cases h <;> simp
  | moreMembers members => cases h <;> simp

end Beginnings

/-- All readers that go at most `depth` deep take off what says the part that they read, if it is
no longer than that. -/
def Complete (depth : Nat) : Prop :=
  ∀ (p : Part) (t rest : List Char), Says t p → t.length ≤ depth → EndsNumber rest →
    p.IsRead depth (t ++ rest) rest

namespace Complete

variable {depth : Nat} {t : List Char}

theorem value (h : Complete depth) {document : Json} (ht : Says t (.value document))
    (hdepth : t.length ≤ depth + 1) (hrest : EndsNumber rest) :
    readValue (depth + 1) (t ++ rest) = some (document, rest) := by
  cases ht with
  | text ht =>
    have hread := readString_eq_some_iff.2 ⟨t, ht, (rfl : t ++ rest = _)⟩
    obtain ⟨tail, rfl⟩ := ht.exists_eq_cons
    rw [List.cons_append] at hread ⊢
    simp [readValue, hread]
  | number ht =>
    have hread := readInt_append ht hrest
    obtain ⟨c, tail, rfl, hc⟩ := ht.exists_eq_cons
    rw [List.cons_append] at hread ⊢
    rw [readValue, hread]
    · rfl
    -- no other value begins with a digit or a minus sign
    all_goals
      intro _ heq
      obtain ⟨rfl, -⟩ := List.cons.inj heq
      exact absurd hc (by decide)
  | @noItems gap hgap =>
    have hclose : after? ']' (gap ++ ']' :: rest) = some rest := after?_mark hgap rfl
    simp [readValue, hclose]
  | @items gap first more item items hgap hfirst hmore =>
    have hbegin := hfirst.beginsApartFrom_of_value
    have hopen : after? ']' (gap ++ (first ++ (more ++ rest))) = none := hbegin.after?_eq_none hgap
    have hitem : readValue depth (first ++ (more ++ rest)) = some (item, more ++ rest) :=
      h _ first _ hfirst (by grind) hmore.endsNumber_of_moreItems
    have hitems : readItems depth (more ++ rest) = some (items, rest) :=
      h _ more _ hmore (by grind) hrest
    simp [readValue, hopen, hbegin.dropWhile_eq hgap, hitem, hitems]
  | @noMembers gap hgap =>
    have hclose : after? '\x7d' (gap ++ '\x7d' :: rest) = some rest := after?_mark hgap rfl
    simp [readValue, hclose]
  | @members gap first more m members hgap hfirst hmore =>
    have hbegin := hfirst.beginsApartFrom_of_member
    have hopen : after? '\x7d' (gap ++ (first ++ (more ++ rest))) = none :=
      hbegin.after?_eq_none hgap
    have hmember : readMember depth (first ++ (more ++ rest)) = some (m, more ++ rest) :=
      h _ first _ hfirst (by grind) hmore.endsNumber_of_moreMembers
    have hmembers : readMembers depth (more ++ rest) = some (members, rest) :=
      h _ more _ hmore (by grind) hrest
    simp [readValue, hopen, hbegin.dropWhile_eq hgap, hmember, hmembers]

theorem member (h : Complete depth) {m : String × Json} (ht : Says t (.member m))
    (hdepth : t.length ≤ depth + 1) (hrest : EndsNumber rest) :
    readMember (depth + 1) (t ++ rest) = some (m, rest) := by
  cases ht with
  | @member name before gap value key document hname hbefore hgap hvalue =>
    have hkey := readString_eq_some_iff.2
      ⟨name, hname, (rfl : name ++ (before ++ ':' :: (gap ++ (value ++ rest))) = _)⟩
    have hcolon : after? ':' (before ++ ':' :: (gap ++ (value ++ rest))) =
        some (gap ++ (value ++ rest)) := after?_mark hbefore rfl
    have hread : readValue depth (value ++ rest) = some (document, rest) :=
      h _ value _ hvalue (by grind) hrest
    simp [readMember, hkey, hcolon, hvalue.beginsApartFrom_of_value.dropWhile_eq hgap, hread]

theorem moreItems (h : Complete depth) {items : List Json} (ht : Says t (.moreItems items))
    (hdepth : t.length ≤ depth + 1) (hrest : EndsNumber rest) :
    readItems (depth + 1) (t ++ rest) = some (items, rest) := by
  cases ht with
  | @endItems gap hgap =>
    have hclose : after? ']' (gap ++ ']' :: rest) = some rest := after?_mark hgap rfl
    simp [readItems, hclose]
  | @moreItems before gap next more item items hbefore hgap hnext hmore =>
    have hopen : after? ']' (before ++ ',' :: (gap ++ (next ++ (more ++ rest)))) = none :=
      after?_other hbefore rfl (by decide)
    have hcomma : after? ',' (before ++ ',' :: (gap ++ (next ++ (more ++ rest)))) =
        some (gap ++ (next ++ (more ++ rest))) := after?_mark hbefore rfl
    have hitem : readValue depth (next ++ (more ++ rest)) = some (item, more ++ rest) :=
      h _ next _ hnext (by grind) hmore.endsNumber_of_moreItems
    have hitems : readItems depth (more ++ rest) = some (items, rest) :=
      h _ more _ hmore (by grind) hrest
    simp [readItems, hopen, hcomma, hnext.beginsApartFrom_of_value.dropWhile_eq hgap, hitem,
      hitems]

theorem moreMembers (h : Complete depth) {members : List (String × Json)}
    (ht : Says t (.moreMembers members)) (hdepth : t.length ≤ depth + 1)
    (hrest : EndsNumber rest) : readMembers (depth + 1) (t ++ rest) = some (members, rest) := by
  cases ht with
  | @endMembers gap hgap =>
    have hclose : after? '\x7d' (gap ++ '\x7d' :: rest) = some rest := after?_mark hgap rfl
    simp [readMembers, hclose]
  | @moreMembers before gap next more m members hbefore hgap hnext hmore =>
    have hopen : after? '\x7d' (before ++ ',' :: (gap ++ (next ++ (more ++ rest)))) = none :=
      after?_other hbefore rfl (by decide)
    have hcomma : after? ',' (before ++ ',' :: (gap ++ (next ++ (more ++ rest)))) =
        some (gap ++ (next ++ (more ++ rest))) := after?_mark hbefore rfl
    have hmember : readMember depth (next ++ (more ++ rest)) = some (m, more ++ rest) :=
      h _ next _ hnext (by grind) hmore.endsNumber_of_moreMembers
    have hmembers : readMembers depth (more ++ rest) = some (members, rest) :=
      h _ more _ hmore (by grind) hrest
    simp [readMembers, hopen, hcomma, hnext.beginsApartFrom_of_member.dropWhile_eq hgap, hmember,
      hmembers]

end Complete

/-- What says a part is taken off by the reader of the part. -/
theorem complete (depth : Nat) : Complete depth := by
  induction depth with
  | zero =>
    intro p t rest ht hdepth
    exact absurd (List.length_eq_zero_iff.1 (Nat.le_zero.1 hdepth)) ht.ne_nil
  | succ depth ih =>
    intro p t rest ht hdepth hrest
    cases p with
    | value document => exact ih.value ht hdepth hrest
    | member m => exact ih.member ht hdepth hrest
    | moreItems items => exact ih.moreItems ht hdepth hrest
    | moreMembers members => exact ih.moreMembers ht hdepth hrest

/-! ### Whole texts -/

/-- **The texts that are read are the JSON texts**, each as the document that it says. -/
theorem read?_eq_some_iff {document : Json} : read? s = some document ↔ IsText s document := by
  constructor
  · intro h
    obtain ⟨⟨_, after⟩, hread, h⟩ := Option.bind_eq_some_iff.1 h
    obtain ⟨_, hafter, h⟩ := Option.bind_eq_some_iff.1 h
    cases h
    have hgap : after.dropWhile isSpace = [] := by
      by_contra hne
      simp [guard, hne] at hafter
    obtain ⟨before, hbefore, htext⟩ := exists_gap_append s.toList
    obtain ⟨t, ht, hcs⟩ := sound _ (.value document) _ _ hread
    refine .around hbefore ht (List.dropWhile_eq_nil_iff.1 hgap) ?_
    rw [htext, hcs, List.append_assoc]
  · intro h
    cases h with
    | @around before t after hbefore ht hafter htext =>
      have hread : readValue (t ++ after).length (t ++ after) = some (document, after) :=
        complete _ _ t after ht (by simp) (endsNumber_gap hafter)
      have hend : after.dropWhile isSpace = [] := List.dropWhile_eq_nil_iff.2 hafter
      rw [read?, htext, List.append_assoc, ht.beginsApartFrom_of_value.dropWhile_eq hbefore]
      simp only [Option.bind_eq_bind, hread, Option.bind_some, hend]
      rfl

/-- A text says one document at most. -/
theorem IsText.unique {j k : Json} (hj : IsText s j) (hk : IsText s k) : j = k :=
  Option.some.inj ((read?_eq_some_iff.2 hj).symm.trans (read?_eq_some_iff.2 hk))

/-- What has been laid out is read back. -/
theorem read?_render (document : Json) : read? document.render = some document :=
  read?_eq_some_iff.2 (says_render document)

end Json

end CodeSurvey
