import CodeSurvey.Analysis.Script

/-!
# What the nodes of a script are

The walk of a script asks single nodes whether they declare a unit, whom they call and what they
import.  Here the answers are told by what has to stand in the tree: which kind of node, with which
children, has which text.

* `Script.OpensUnit` : a node is a unit on its own (`Script.unitName?_eq_some_iff`);
* `Script.Defines` : the units that a node defines when a statement defines all its variables at
  once (`Script.flatUnits_eq_iff`);
* `Script.Calls` : a node calls somebody (`Script.callee?_eq_some_iff`);
* `Script.Imports` : a node imports a module, whose name is freed from its quotes by
  `Script.Unquotes` (`Script.source?_eq_some_iff`, `Script.unquoted_eq_iff`).
-/

namespace CodeSurvey

namespace Node

variable {n child : Node} {field : String}

/-- The child is the first one that has the property. -/
def FirstChild (n : Node) (P : Node → Prop) (child : Node) : Prop :=
  ∃ before after, n.children = before ++ child :: after ∧ P child ∧ ∀ c ∈ before, ¬ P c

/-- The child is the first one that fills the field. -/
def Fills (n : Node) (field : String) (child : Node) : Prop :=
  n.FirstChild (fun c => c.field = some field) child

theorem find?_children_eq_some_iff {p : Node → Bool} :
    n.children.find? p = some child ↔ n.FirstChild (fun c => p c = true) child := by
  rw [List.find?_eq_some_iff_append, FirstChild]
  constructor
  · rintro ⟨hchild, before, after, hchildren, hbefore⟩
    exact ⟨before, after, hchildren, hchild, fun c hc => by simpa using hbefore c hc⟩
  · rintro ⟨before, after, hchildren, hchild, hbefore⟩
    exact ⟨hchild, before, after, hchildren, fun c hc => by simpa using hbefore c hc⟩

theorem childByField?_eq_some_iff : n.childByField? field = some child ↔ n.Fills field child := by
  rw [childByField?, find?_children_eq_some_iff, Fills]
  simp only [decide_eq_true_eq]

theorem head?_namedChildren_eq_some_iff :
    n.namedChildren.head? = some child ↔ n.FirstChild (fun c => c.named = true) child := by
  rw [namedChildren, List.head?_filter]
  exact find?_children_eq_some_iff

end Node

namespace Script

variable {s : Script} {n : Node} {name : String}

/-! ### Units -/

/-- The name of the declaration that a node is: a function or, where classes count, a class that
has a name. -/
def declarationName? (s : Script) (n : Node) : Option String :=
  if n.kind ∈ functionKinds ∨ (s.classesAsUnits ∧ n.kind ∈ classKinds) then
    (n.childByField? "name").map (·.text)
  else none

/-- The name of the unit that a node is: a function or, where classes count, a class that has a
name, or a declarator of a function. -/
def unitName? (s : Script) (n : Node) : Option String :=
  if n.kind ∈ functionKinds ∨ (s.classesAsUnits ∧ n.kind ∈ classKinds) then
    (n.childByField? "name").map (·.text)
  else declaratorUnit? n

/-- The declarators of functions among the named children of a statement that declares variables,
in order and each with its name. -/
def statedUnits (n : Node) : List (String × Node) :=
  if n.kind ∈ variableKinds then
    n.namedChildren.filterMap fun d => (declaratorUnit? d).map (·, d)
  else []

/-- The units that the flat reading defines at a node, each with the node that spans it. -/
def flatUnits (s : Script) (n : Node) : List (String × Node) :=
  (s.declarationName? n).toList.map (·, n) ++ statedUnits n

/-- A node declares a function or, where classes count, a class of the name. -/
inductive Declares (s : Script) : Node → String → Prop where
  | function {n identifier : Node}
      (hkind : n.kind = "function_declaration" ∨ n.kind = "generator_function_declaration")
      (hname : n.Fills "name" identifier) : Declares s n identifier.text
  | classUnit {n identifier : Node} (hclasses : s.classesAsUnits = true)
      (hkind : n.kind = "class_declaration" ∨ n.kind = "abstract_class_declaration")
      (hname : n.Fills "name" identifier) : Declares s n identifier.text

/-- A node declares a variable of the name, an identifier, and initialises it with a function. -/
inductive DeclaresVariable : Node → String → Prop where
  | intro {n identifier value : Node} (hkind : n.kind = "variable_declarator")
      (hname : n.Fills "name" identifier) (hidentifier : identifier.kind = "identifier")
      (hvalue : n.Fills "value" value)
      (hfunction : value.kind = "arrow_function" ∨ value.kind = "function_expression" ∨
        value.kind = "function" ∨ value.kind = "generator_function") :
      DeclaresVariable n identifier.text

/-- A node is a unit of the name on its own. -/
inductive OpensUnit (s : Script) (n : Node) (name : String) : Prop where
  | declaration (h : s.Declares n name)
  | declarator (h : DeclaresVariable n name)

/-- The units among the named children of a statement that declares variables: all that are
initialised with a function, in order. -/
inductive StatesUnits : List Node → List (String × Node) → Prop where
  | nil : StatesUnits [] []
  | unit {d : Node} {rest : List Node} {units : List (String × Node)} {name : String}
      (hnamed : d.named = true) (hunit : DeclaresVariable d name)
      (hrest : StatesUnits rest units) : StatesUnits (d :: rest) ((name, d) :: units)
  | other {d : Node} {rest : List Node} {units : List (String × Node)}
      (hother : d.named = true → ∀ name, ¬ DeclaresVariable d name)
      (hrest : StatesUnits rest units) : StatesUnits (d :: rest) units

/-- A node defines the units, each with the node that spans it, in the reading in which statements
define all their variables at once: a declaration defines itself, and a variable nothing of its
own. -/
inductive Defines (s : Script) (n : Node) : List (String × Node) → Prop where
  | declaration {name : String} (h : s.Declares n name) : Defines s n [(name, n)]
  | statement {units : List (String × Node)}
      (hkind : n.kind = "lexical_declaration" ∨ n.kind = "variable_declaration")
      (hunits : StatesUnits n.children units) : Defines s n units
  | nothing (hdeclares : ∀ name, ¬ s.Declares n name)
      (hkind : n.kind ≠ "lexical_declaration" ∧ n.kind ≠ "variable_declaration") : Defines s n []

theorem declarationName?_eq_some_iff : s.declarationName? n = some name ↔ s.Declares n name := by
  unfold declarationName?
  constructor
  · intro h
    split at h
    · next hkind =>
      obtain ⟨identifier, hname, rfl⟩ := Option.map_eq_some_iff.1 h
      have hname := Node.childByField?_eq_some_iff.1 hname
      rcases hkind with hkind | ⟨hclasses, hkind⟩
      · exact .function (by simpa [functionKinds] using hkind) hname
      · exact .classUnit hclasses (by simpa [classKinds] using hkind) hname
    · cases h
  · rintro (⟨hkind, hname⟩ | ⟨hclasses, hkind, hname⟩)
    · rw [if_pos (.inl (by simpa [functionKinds] using hkind)),
        Node.childByField?_eq_some_iff.2 hname, Option.map_some]
    · rw [if_pos (.inr ⟨hclasses, by simpa [classKinds] using hkind⟩),
        Node.childByField?_eq_some_iff.2 hname, Option.map_some]

theorem declaratorUnit?_eq_some_iff : declaratorUnit? n = some name ↔ DeclaresVariable n name := by
  unfold declaratorUnit?
  constructor
  · intro h
    split at h
    · next hkind =>
      split at h
      · next identifier value hname hvalue =>
        split at h
        · next hboth =>
          obtain rfl := Option.some.inj h
          exact .intro hkind (Node.childByField?_eq_some_iff.1 hname) hboth.1
            (Node.childByField?_eq_some_iff.1 hvalue)
            (by simpa [functionValueKinds] using hboth.2)
        · cases h
      · cases h
    · cases h
  · rintro ⟨hkind, hname, hidentifier, hvalue, hfunction⟩
    rw [if_pos hkind, Node.childByField?_eq_some_iff.2 hname,
      Node.childByField?_eq_some_iff.2 hvalue]
    exact if_pos ⟨hidentifier, by simpa [functionValueKinds] using hfunction⟩

theorem declarationName?_eq_none_iff :
    s.declarationName? n = none ↔ ∀ name, ¬ s.Declares n name := by
  simp only [Option.eq_none_iff_forall_ne_some, ne_eq, declarationName?_eq_some_iff]

theorem declaratorUnit?_eq_none_iff :
    declaratorUnit? n = none ↔ ∀ name, ¬ DeclaresVariable n name := by
  simp only [Option.eq_none_iff_forall_ne_some, ne_eq, declaratorUnit?_eq_some_iff]

theorem declaratorUnit?_eq_none (h : n.kind ≠ "variable_declarator") : declaratorUnit? n = none :=
  if_neg h

theorem declarationName?_eq_none (hfunction : n.kind ∉ functionKinds)
    (hclass : n.kind ∉ classKinds) : s.declarationName? n = none := by
  rw [declarationName?, if_neg (by simp [hfunction, hclass])]

/-- A unit is a declaration or a declarator, never both. -/
theorem toList_unitName? (n : Node) :
    (s.unitName? n).toList = (s.declarationName? n).toList ++ (declaratorUnit? n).toList := by
  rw [unitName?, declarationName?]
  split
  · next h =>
    have hkind : n.kind ≠ "variable_declarator" := by
      simp only [functionKinds, classKinds, List.mem_cons, List.not_mem_nil, or_false] at h
      rcases h with (h | h) | ⟨-, h | h⟩ <;> rw [h] <;> decide
    rw [declaratorUnit?_eq_none hkind, Option.toList_none, List.append_nil]
  · rfl

theorem unitName?_eq_some_iff : s.unitName? n = some name ↔ s.OpensUnit n name := by
  rw [← Option.mem_toList, toList_unitName?, List.mem_append, Option.mem_toList,
    Option.mem_toList, declarationName?_eq_some_iff, declaratorUnit?_eq_some_iff]
  constructor
  · rintro (h | h)
    · exact .declaration h
    · exact .declarator h
  · rintro (h | h)
    · exact .inl h
    · exact .inr h

theorem unitName?_eq_none_iff : s.unitName? n = none ↔ ∀ name, ¬ s.OpensUnit n name := by
  simp only [Option.eq_none_iff_forall_ne_some, ne_eq, unitName?_eq_some_iff]

/-- A node of another kind is no unit. -/
theorem unitName?_eq_none (h : n.kind ∉ functionKinds ++ classKinds ++ ["variable_declarator"]) :
    s.unitName? n = none := by
  simp only [List.mem_append, List.mem_singleton, not_or] at h
  obtain ⟨⟨hfunction, hclass⟩, hdeclarator⟩ := h
  rw [unitName?, if_neg (by simp [hfunction, hclass]), declaratorUnit?_eq_none hdeclarator]

theorem statedUnits_eq_nil (h : n.kind ∉ variableKinds) : statedUnits n = [] := if_neg h

/-- A node of another kind defines no units. -/
theorem flatUnits_eq_nil (h : n.kind ∉ functionKinds ++ classKinds ++ variableKinds) :
    s.flatUnits n = [] := by
  simp only [List.mem_append, not_or] at h
  obtain ⟨⟨hfunction, hclass⟩, hvariable⟩ := h
  rw [flatUnits, declarationName?_eq_none hfunction hclass, statedUnits_eq_nil hvariable]
  rfl

theorem filterMap_declaratorUnit?_eq_iff {l : List Node} {units : List (String × Node)} :
    ((l.filter (·.named)).filterMap fun d => (declaratorUnit? d).map (·, d)) = units ↔
      StatesUnits l units := by
  constructor
  · rintro rfl
    induction l with
    | nil => exact .nil
    | cons d rest ih =>
      by_cases hnamed : d.named = true
      · rw [List.filter_cons_of_pos hnamed, List.filterMap_cons]
        cases hunit : declaratorUnit? d with
        | none => exact .other (fun _ => declaratorUnit?_eq_none_iff.1 hunit) ih
        | some name => exact .unit hnamed (declaratorUnit?_eq_some_iff.1 hunit) ih
      · rw [List.filter_cons_of_neg hnamed]
        exact .other (fun h => absurd h hnamed) ih
  · intro h
    induction h with
    | nil => rfl
    | unit hnamed hunit _ ih =>
      rw [List.filter_cons_of_pos hnamed, List.filterMap_cons,
        declaratorUnit?_eq_some_iff.2 hunit, Option.map_some, ih]
    | @other d rest units hother _ ih =>
      by_cases hnamed : d.named = true
      · have hnone := declaratorUnit?_eq_none_iff.2 (hother hnamed)
        rw [List.filter_cons_of_pos hnamed, List.filterMap_cons, hnone, Option.map_none, ih]
      · rw [List.filter_cons_of_neg hnamed, ih]

/-- A declaration states no variables. -/
theorem Declares.kind_not_mem (h : s.Declares n name) : n.kind ∉ variableKinds := by
  rcases h with ⟨hkind | hkind, -⟩ | ⟨-, hkind | hkind, -⟩ <;> rw [hkind] <;> decide

theorem mem_variableKinds_iff :
    n.kind ∈ variableKinds ↔
      n.kind = "lexical_declaration" ∨ n.kind = "variable_declaration" := by
  simp [variableKinds]

theorem flatUnits_eq_iff {units : List (String × Node)} :
    s.flatUnits n = units ↔ s.Defines n units := by
  constructor
  · rintro rfl
    rw [flatUnits]
    cases hname : s.declarationName? n with
    | some name =>
      have hdeclares := declarationName?_eq_some_iff.1 hname
      rw [statedUnits_eq_nil hdeclares.kind_not_mem, List.append_nil]
      exact .declaration hdeclares
    | none =>
      rw [Option.toList_none, List.map_nil, List.nil_append]
      by_cases hkind : n.kind ∈ variableKinds
      · rw [statedUnits, if_pos hkind]
        exact .statement (mem_variableKinds_iff.1 hkind) (filterMap_declaratorUnit?_eq_iff.1 rfl)
      · rw [statedUnits_eq_nil hkind]
        exact .nothing (declarationName?_eq_none_iff.1 hname)
          (not_or.1 (mt mem_variableKinds_iff.2 hkind))
  · rintro (hdeclares | ⟨hkind, hunits⟩ | ⟨hdeclares, hkind⟩)
    · rw [flatUnits, declarationName?_eq_some_iff.2 hdeclares,
        statedUnits_eq_nil hdeclares.kind_not_mem]
      rfl
    · have hnone : s.declarationName? n = none := by
        refine declarationName?_eq_none ?_ ?_ <;> rcases hkind with hkind | hkind <;>
          rw [hkind] <;> decide
      rw [flatUnits, hnone, statedUnits, if_pos (mem_variableKinds_iff.2 hkind)]
      exact filterMap_declaratorUnit?_eq_iff.2 hunits
    · rw [flatUnits, declarationName?_eq_none_iff.2 hdeclares,
        statedUnits_eq_nil (mt mem_variableKinds_iff.1 (not_or.2 hkind))]
      rfl

/-! ### Calls -/

/-- Whom a call expression calls: the identifier that is called, or the property of the member
that is called. -/
inductive Targets (call : Node) : String → Prop where
  | plain {function : Node} (hfunction : call.Fills "function" function)
      (hkind : function.kind = "identifier") : Targets call function.text
  | member {function property : Node} (hfunction : call.Fills "function" function)
      (hkind : function.kind = "member_expression")
      (hproperty : function.Fills "property" property) : Targets call property.text

/-- Whom a node calls: it is a call expression or, where these count, it awaits one. -/
inductive Calls (s : Script) (n : Node) (callee : String) : Prop where
  | call (hkind : n.kind = "call_expression") (htarget : Targets n callee)
  | awaited {call : Node} (hunwrap : s.unwrapAwait = true) (hkind : n.kind = "await_expression")
      (hfirst : n.FirstChild (fun c => c.named = true) call)
      (hcall : call.kind = "call_expression") (htarget : Targets call callee)

theorem callTarget?_eq_some_iff {callee : String} :
    callTarget? n = some callee ↔ Targets n callee := by
  unfold callTarget?
  constructor
  · intro h
    split at h
    · cases h
    · next function hfunction =>
      have hfunction := Node.childByField?_eq_some_iff.1 hfunction
      split at h
      · next hmember =>
        obtain ⟨property, hproperty, rfl⟩ := Option.map_eq_some_iff.1 h
        exact .member hfunction hmember (Node.childByField?_eq_some_iff.1 hproperty)
      · split at h
        · next hidentifier =>
          obtain rfl := Option.some.inj h
          exact .plain hfunction hidentifier
        · cases h
  · rintro (⟨hfunction, hkind⟩ | ⟨hfunction, hkind, hproperty⟩)
    · simp [Node.childByField?_eq_some_iff.2 hfunction, hkind]
    · simp [Node.childByField?_eq_some_iff.2 hfunction, hkind,
        Node.childByField?_eq_some_iff.2 hproperty]

theorem callee?_eq_some_iff {callee : String} : s.callee? n = some callee ↔ s.Calls n callee := by
  unfold callee?
  constructor
  · intro h
    split at h
    · next hkind => exact .call hkind (callTarget?_eq_some_iff.1 h)
    · split at h
      · next hawait =>
        split at h
        · next call rest hnamed =>
          split at h
          · next hcall =>
            have hfirst : n.namedChildren.head? = some call := by rw [hnamed]; rfl
            exact .awaited hawait.1 hawait.2 (Node.head?_namedChildren_eq_some_iff.1 hfirst) hcall
              (callTarget?_eq_some_iff.1 h)
          · cases h
        · cases h
      · cases h
  · rintro (⟨hkind, htarget⟩ | ⟨hunwrap, hkind, hfirst, hcall, htarget⟩)
    · rw [if_pos hkind]
      exact callTarget?_eq_some_iff.2 htarget
    · have hhead := Node.head?_namedChildren_eq_some_iff.2 hfirst
      obtain ⟨rest, hnamed⟩ := List.head?_eq_some_iff.1 hhead
      simp [hkind, hunwrap, hnamed, hcall, callTarget?_eq_some_iff.2 htarget]

theorem Calls.kind {callee : String} (h : s.Calls n callee) :
    n.kind = "call_expression" ∨ n.kind = "await_expression" := by
  rcases h with ⟨hkind, -⟩ | ⟨-, hkind, -⟩
  · exact .inl hkind
  · exact .inr hkind

/-! ### Dependencies -/

/-- The text consists of `inner` between two equal quotes. -/
def IsQuoted (text : String) (inner : List Char) : Prop :=
  ∃ quote, (quote = '\'' ∨ quote = '"' ∨ quote = '\x60') ∧ text.toList = quote :: (inner ++ [quote])

/-- The text `inner` is what stands between the quotes of `text`, or `text` itself when it is not
quoted. -/
inductive Unquotes (text inner : String) : Prop where
  | quoted (h : IsQuoted text inner.toList)
  | bare (hbare : ∀ l, ¬ IsQuoted text l) (h : inner = text)

/-- A node imports the module: its source is that name, in quotes or without them. -/
inductive Imports (n : Node) (module : String) : Prop where
  | intro {source : Node} (hkind : n.kind = "import_statement") (hsource : n.Fills "source" source)
      (hmodule : Unquotes source.text module)

/-- The module that an import names. -/
def source? (n : Node) : Option String :=
  if n.kind = "import_statement" then (n.childByField? "source").map fun m => unquoted m.text
  else none

theorem source?_eq_none (h : n.kind ≠ "import_statement") : source? n = none := if_neg h

/-- One pair of quotes comes off, if both are the same. -/
theorem unquoted_of_isQuoted {text : String} {inner : List Char} (h : IsQuoted text inner) :
    unquoted text = String.ofList inner := by
  obtain ⟨quote, hquote, htext⟩ := h
  rw [unquoted, htext]
  cases hinner : inner ++ [quote] with
  | nil => simp at hinner
  | cons second rest =>
    have hlast : (second :: rest).getLast? = some quote := by rw [← hinner]; simp
    have hfront : (second :: rest).dropLast = inner := by rw [← hinner]; simp
    rw [← hfront]
    exact if_pos ⟨by simpa using hquote, hlast⟩

theorem unquoted_of_forall_not_isQuoted {text : String} (h : ∀ l, ¬ IsQuoted text l) :
    unquoted text = text := by
  unfold unquoted
  split
  · next first second rest htext =>
    refine if_neg fun ⟨hquote, hlast⟩ => ?_
    obtain ⟨inner, hinner⟩ := List.getLast?_eq_some_iff.1 hlast
    exact h inner ⟨first, by simpa using hquote, by rw [htext, hinner]⟩
  · rfl

/-- **A text is freed from the pair of equal quotes around it, if there is one.** -/
theorem unquoted_eq_iff {text inner : String} : unquoted text = inner ↔ Unquotes text inner := by
  constructor
  · rintro rfl
    by_cases h : ∃ l, IsQuoted text l
    · obtain ⟨l, hl⟩ := h
      refine .quoted ?_
      rwa [unquoted_of_isQuoted hl, String.toList_ofList]
    · exact .bare (not_exists.1 h) (unquoted_of_forall_not_isQuoted (not_exists.1 h))
  · rintro (h | ⟨hbare, rfl⟩)
    · rw [unquoted_of_isQuoted h, String.ofList_toList]
    · exact unquoted_of_forall_not_isQuoted hbare

theorem source?_eq_some_iff {module : String} : source? n = some module ↔ Imports n module := by
  unfold source?
  constructor
  · intro h
    split at h
    · next hkind =>
      obtain ⟨source, hsource, hmodule⟩ := Option.map_eq_some_iff.1 h
      exact .intro hkind (Node.childByField?_eq_some_iff.1 hsource) (unquoted_eq_iff.1 hmodule)
    · cases h
  · rintro ⟨hkind, hsource, hmodule⟩
    rw [if_pos hkind, Node.childByField?_eq_some_iff.2 hsource, Option.map_some,
      unquoted_eq_iff.2 hmodule]

end Script

end CodeSurvey
