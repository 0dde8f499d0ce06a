import CodeSurvey.Language.Naming
import CodeSurvey.Proofs.Syntax.Search

/-!
# The names of C functions

In a C definition the name stands inside of its declarator, wrapped in *layers*: pointers,
references, parentheses, arrays and functions around each other in any order.  Behind the name a
layer has parts of its own, such as the parameters of a function or the size of an array, and a
qualified name has scopes in front of its last identifier and may have template arguments behind
it.  All of them can contain identifiers.

The rule goes in to the outermost function declarator.  A name that stands directly in it is taken
as it is, of a qualified one the last identifier; of anything else the first identifier is taken.

* `Declarator.Declares.declaratorName?_eq` : where the rule looks for the name;
* `Declarator.Declares.identifiers_eq`, `Declarator.LastSegment.identifiers_eq` : the identifiers
  that stand in front of and behind the declared one;
* `Declarator.finds_of_declares` : **when the rule finds the declared name**, and what it takes
  instead when it does not;
* `Declarator.not_always_declared` : a method in parentheses is named after its parameter.
-/

namespace CodeSurvey

namespace Node

/-! ### Identifiers -/

/-- The identifiers of the tree in pre-order. -/
def identifiers (n : Node) : List Node := n.preorder.filter (·.kind = "identifier")

theorem identifiers_eq (n : Node) : n.identifiers =
    if n.kind = "identifier" then n :: n.children.flatMap identifiers
    else n.children.flatMap identifiers := by
  have hbelow : (forestPreorder n.children).filter (·.kind = "identifier") =
      n.children.flatMap identifiers := by
    rw [forestPreorder_eq_flatMap, List.filter_flatMap]
    rfl
  rw [identifiers, preorder_eq, List.filter_cons, hbelow]
  split
  · next h => rw [if_pos (by simpa using h)]
  · next h => rw [if_neg (by simpa using h)]

theorem identifiers_of_children {n c : Node} {before after : List Node}
    (hkind : n.kind ≠ "identifier") (hchildren : n.children = before ++ c :: after) :
    n.identifiers =
      before.flatMap identifiers ++ (c.identifiers ++ after.flatMap identifiers) := by
  rw [identifiers_eq, if_neg hkind, hchildren, List.flatMap_append, List.flatMap_cons]

theorem first?_identifier (n : Node) : n.first? "identifier" = n.identifiers.head? :=
  first?_eq_head? "identifier" n

theorem last?_identifier (n : Node) : n.last? "identifier" = n.identifiers.getLast? :=
  last?_eq_getLast? "identifier" n

end Node

namespace Declarator

open Node

/-! ### Declarators and names -/

/-- The kinds of declarators that have a field for what they are around. -/
def fieldKinds : List String := ["pointer_declarator", "array_declarator", "function_declarator"]

/-- The kinds of declarators that are around their last named child. -/
def bareKinds : List String := ["reference_declarator", "parenthesized_declarator"]

/-- The kinds of names. -/
def nameKinds : List String := ["identifier", "field_identifier", "qualified_identifier"]

/-- The declarator `d` is around `inner`, with `after` behind it.  In front of it there are marks
and qualifiers, which are no identifiers. -/
inductive Around (d inner : Node) (after : List Node) : Prop
  | field {before : List Node} (hkind : d.kind ∈ fieldKinds)
      (hchildren : d.children = before ++ inner :: after)
      (hfield : inner.field = some "declarator")
      (hbefore : ∀ c ∈ before, c.field ≠ some "declarator" ∧ c.identifiers = [])
  | bare {before : List Node} (hkind : d.kind ∈ bareKinds)
      (hchildren : d.children = before ++ inner :: after) (hnamed : inner.named = true)
      (hfield : inner.field ≠ some "declarator")
      (hbefore : ∀ c ∈ before, c.field ≠ some "declarator" ∧ c.identifiers = [])
      (hafter : ∀ c ∈ after, c.field ≠ some "declarator" ∧ c.named = false)

/-- A declarator on the way to a name, and what it has behind what it is around. -/
structure Layer where
  declarator : Node
  behind : List Node

/-- The declarator is that of a function. -/
def Layer.IsFunction (layer : Layer) : Prop := layer.declarator.kind = "function_declarator"

instance (layer : Layer) : Decidable layer.IsFunction := by
  unfold Layer.IsFunction; infer_instance

/-- The declarator `d` has the name `m` inside of these layers, the outermost first. -/
inductive Declares : Node → List Layer → Node → Prop
  | name {m : Node} (hkind : m.kind ∈ nameKinds) : Declares m [] m
  | around {d inner m : Node} {after : List Node} {layers : List Layer}
      (h : Around d inner after) (hm : Declares inner layers m) :
      Declares d (⟨d, after⟩ :: layers) m

/-- The layers inside of the outermost function declarator. -/
def inside (layers : List Layer) : List Layer :=
  (layers.dropWhile fun layer => ¬layer.IsFunction).tail

/-- What the layers have behind the name, from the inside out. -/
def behind (layers : List Layer) : List Node := layers.reverse.flatMap (·.behind)

/-- The name `n` ends with a segment of the identifier `id`.  In front of it are the scopes, and
behind it the template arguments. -/
inductive LastSegment : Node → List Node → Node → List Node → Prop
  | identifier {n : Node} (hkind : n.kind = "identifier") : LastSegment n [] n n.children
  | destructor {n id : Node} {before after : List Node} (hkind : n.kind = "destructor_name")
      (hchildren : n.children = before ++ id :: after) (hid : id.kind = "identifier") :
      LastSegment n before id (id.children ++ after)
  | within {n c id : Node} {before after front arguments : List Node}
      (hkind : n.kind ∈ ["qualified_identifier", "template_function"])
      (hchildren : n.children = before ++ c :: after) (hfield : c.field = some "name")
      (hbefore : ∀ b ∈ before, b.field ≠ some "name") (h : LastSegment c front id arguments) :
      LastSegment n (before ++ front) id (arguments ++ after)

/-- The name `m` has the scopes `front`, the identifier `id` and the template arguments
`arguments`. -/
inductive Names : Node → List Node → Node → List Node → Prop
  | plain {m : Node} (hkind : m.kind ∈ Language.memberNameKinds) : Names m [] m []
  | qualified {m id : Node} {front arguments : List Node} (hkind : m.kind = "qualified_identifier")
      (h : LastSegment m front id arguments) : Names m front id arguments

variable {d inner m n id : Node} {after front arguments : List Node} {layers : List Layer}

/-! ### The way in -/

theorem find?_field {before : List Node} {field : String} (hinner : inner.field = some field)
    (hbefore : ∀ c ∈ before, c.field ≠ some field) :
    (before ++ inner :: after).find? (·.field = some field) = some inner := by
  have hnone : before.find? (·.field = some field) = none := by
    simpa [List.find?_eq_none] using hbefore
  rw [List.find?_append, hnone, Option.none_or, List.find?_cons_of_pos (by simpa using hinner)]

theorem getLast?_named {before : List Node} (hinner : inner.named = true)
    (hafter : ∀ c ∈ after, c.named = false) :
    ((before ++ inner :: after).filter (·.named)).getLast? = some inner := by
  have hnone : after.filter (·.named) = [] := by simpa [List.filter_eq_nil_iff] using hafter
  rw [List.filter_append, List.filter_cons_of_pos hinner, hnone, List.getLast?_append]
  rfl

theorem Around.childByField?_eq (h : Around d inner after) :
    d.childByField? "declarator" = if d.kind ∈ fieldKinds then some inner else none := by
  cases h with
  | field hkind hchildren hfield hbefore =>
    rw [if_pos hkind, childByField?, hchildren]
    exact find?_field hfield fun c hc => (hbefore c hc).1
  | bare hkind hchildren hnamed hfield hbefore hafter =>
    have hother : d.kind ∉ fieldKinds := by
      simp only [bareKinds, List.mem_cons, List.not_mem_nil, or_false] at hkind
      rcases hkind with hk | hk <;> rw [hk] <;> decide
    rw [if_neg hother, childByField?, hchildren, List.find?_eq_none]
    intro c hc
    rw [List.mem_append, List.mem_cons] at hc
    rcases hc with hc | rfl | hc
    · simpa using (hbefore c hc).1
    · simpa using hfield
    · simpa using (hafter c hc).1

theorem Around.innerDeclarator?_eq (h : Around d inner after) :
    Language.innerDeclarator? d = some inner := by
  rw [Language.innerDeclarator?, h.childByField?_eq]
  cases h with
  | field hkind => rw [if_pos hkind]
  | bare hkind hchildren hnamed hfield hbefore hafter =>
    split
    · next hfound =>
      split at hfound
      · exact hfound.symm
      · cases hfound
    · rw [namedChildren, hchildren]
      exact getLast?_named hnamed fun c hc => (hafter c hc).2

theorem Around.kind_mem (h : Around d inner after) : d.kind ∈ fieldKinds ++ bareKinds := by
  cases h with
  | field hkind => exact List.mem_append_left _ hkind
  | bare hkind => exact List.mem_append_right _ hkind

/-- The kinds of declarators are none that the rule takes a name from. -/
theorem Around.kind_ne (h : Around d inner after) : d.kind ≠ "identifier" ∧
    d.kind ≠ "qualified_identifier" ∧ d.kind ∉ Language.memberNameKinds := by
  have hkind := h.kind_mem
  simp only [fieldKinds, bareKinds, List.cons_append, List.nil_append, List.mem_cons,
    List.not_mem_nil, or_false] at hkind
  rcases hkind with hk | hk | hk | hk | hk <;> rw [hk] <;> decide

theorem Around.identifiers_eq (h : Around d inner after) :
    d.identifiers = inner.identifiers ++ after.flatMap identifiers := by
  have hkind := h.kind_ne.1
  have hnone {before : List Node} (hbefore : ∀ c ∈ before, c.field ≠ some "declarator" ∧
      c.identifiers = []) : before.flatMap identifiers = [] :=
    List.flatMap_eq_nil_iff.2 fun c hc => (hbefore c hc).2
  cases h with
  | field _ hchildren _ hbefore =>
    rw [identifiers_of_children hkind hchildren, hnone hbefore, List.nil_append]
  | bare _ hchildren _ _ hbefore =>
    rw [identifiers_of_children hkind hchildren, hnone hbefore, List.nil_append]

/-- The identifiers of a declarator are those of its name and those behind it. -/
theorem Declares.identifiers_eq (h : Declares d layers m) :
    d.identifiers = m.identifiers ++ (behind layers).flatMap identifiers := by
  induction h with
  | name => simp [behind]
  | @around d inner m after layers h hm ih =>
    have hbehind : behind (⟨d, after⟩ :: layers) = behind layers ++ after := by simp [behind]
    rw [h.identifiers_eq, ih, hbehind, List.flatMap_append, List.append_assoc]

theorem LastSegment.identifiers_eq (h : LastSegment n front id arguments) :
    n.identifiers = front.flatMap identifiers ++ id :: arguments.flatMap identifiers := by
  induction h with
  | identifier hkind => rw [Node.identifiers_eq, if_pos hkind]; rfl
  | destructor hkind hchildren hid =>
    rw [identifiers_of_children (by rw [hkind]; decide) hchildren, Node.identifiers_eq, if_pos hid,
      List.flatMap_append]
    rfl
  | @within n c id before after front arguments hkind hchildren _ _ _ ih =>
    have hother : n.kind ≠ "identifier" := by
      simp only [List.mem_cons, List.not_mem_nil, or_false] at hkind
      rcases hkind with hk | hk <;> rw [hk] <;> decide
    rw [identifiers_of_children hother hchildren, ih]
    simp

/-! ### Where the rule looks -/

/-- The rule goes in to the outermost function declarator. -/
theorem Declares.functionDeclarator?_eq (h : Declares d layers m)
    (hfunction : ∃ layer ∈ layers, layer.IsFunction) :
    ∃ f inner, Language.functionDeclarator? d = some f ∧
      f.childByField? "declarator" = some inner ∧ Declares inner (inside layers) m := by
  induction h with
  | name => simp at hfunction
  | @around d inner m after layers h hm ih =>
    by_cases hd : d.kind = "function_declarator"
    · have hinside : inside (⟨d, after⟩ :: layers) = layers := by
        simp [inside, Layer.IsFunction, hd]
      refine ⟨d, inner, ?_, ?_, by rw [hinside]; exact hm⟩
      · rw [Language.functionDeclarator?, if_pos hd]
      · rw [h.childByField?_eq, hd]
        rfl
    · have hinside : inside (⟨d, after⟩ :: layers) = inside layers := by
        simp [inside, Layer.IsFunction, hd]
      have hskip : Language.functionDeclarator? d = Language.functionDeclarator? inner := by
        rw [Language.functionDeclarator?, if_neg hd, h.innerDeclarator?_eq]
      rw [hskip, hinside]
      refine ih ?_
      obtain ⟨layer, hlayer, hf⟩ := hfunction
      rcases List.mem_cons.1 hlayer with rfl | hlayer
      · exact absurd hf hd
      · exact ⟨layer, hlayer, hf⟩

/-- The rule takes the name from what the outermost function declarator is around. -/
theorem Declares.declaratorName?_eq (hn : n.childByField? "declarator" = some d)
    (h : Declares d layers m) (hfunction : ∃ layer ∈ layers, layer.IsFunction) :
    ∃ inner, Language.declaratorName? n = some inner ∧ Declares inner (inside layers) m := by
  obtain ⟨f, inner, hf, hinner, hm⟩ := h.functionDeclarator?_eq hfunction
  refine ⟨inner, ?_, hm⟩
  simp only [Language.declaratorName?, hn, hf, hinner]

/-- From a declarator the rule takes the first identifier. -/
theorem Declares.declaredName?_eq_head? (h : Declares d layers m) (hlayers : layers ≠ []) :
    Language.declaredName? d = d.identifiers.head?.map (·.text) := by
  cases h with
  | name => exact absurd rfl hlayers
  | around h hm =>
    obtain ⟨-, hqualified, hmember⟩ := h.kind_ne
    rw [Language.declaredName?, if_neg hqualified, if_neg hmember, first?_identifier]

/-! ### What the rule finds -/

/-- What the rule finds for a name with these scopes, identifier and template arguments, inside of
these layers. -/
structure Finds (found : Option String) (layers : List Layer) (m : Node) (front : List Node)
    (id : Node) (arguments : List Node) : Prop where
  /-- A name directly in the outermost function declarator is found unless there is an identifier in
  its template arguments, and a name further in unless it is that of a member or there is an
  identifier in its scopes. -/
  declared : (inside layers = [] → arguments.flatMap identifiers = []) →
    (inside layers ≠ [] → m.kind ≠ "field_identifier" ∧ front.flatMap identifiers = []) →
      found = some id.text
  /-- In the first case the last identifier of the template arguments is taken for it. -/
  argument : inside layers = [] → arguments.flatMap identifiers ≠ [] →
    found = (arguments.flatMap identifiers).getLast?.map (·.text)
  /-- For a member the first identifier in or behind it is taken in the second case, or none. -/
  member : inside layers ≠ [] → m.kind = "field_identifier" →
    found = ((m.children ++ behind (inside layers)).flatMap identifiers).head?.map (·.text)
  /-- Otherwise it is the first identifier of the scopes. -/
  scope : inside layers ≠ [] → front.flatMap identifiers ≠ [] →
    found = (front.flatMap identifiers).head?.map (·.text)

theorem Names.declaredName?_eq (h : Names m front id arguments) :
    Language.declaredName? m =
      some ((arguments.flatMap identifiers).getLast?.getD id).text := by
  cases h with
  | plain hkind =>
    have hqualified : m.kind ≠ "qualified_identifier" := by
      intro hk
      rw [hk] at hkind
      revert hkind
      decide
    rw [Language.declaredName?, if_neg hqualified, if_pos hkind]
    rfl
  | qualified hkind h =>
    rw [Language.declaredName?, if_pos hkind, last?_identifier, h.identifiers_eq,
      List.getLast?_append, List.getLast?_cons]
    rfl

/-- The first identifier of a name that is not a member's. -/
theorem Names.head?_identifiers (h : Names m front id arguments)
    (hmember : m.kind ≠ "field_identifier") :
    m.identifiers.head? = some ((front.flatMap identifiers).head?.getD id) := by
  cases h with
  | plain hkind =>
    have hidentifier : m.kind = "identifier" := by
      simpa [Language.memberNameKinds, hmember] using hkind
    rw [Node.identifiers_eq, if_pos hidentifier]
    rfl
  | qualified hkind h =>
    rw [h.identifiers_eq, List.head?_append]
    cases (front.flatMap identifiers).head? <;> rfl

/-- **The rule finds the declared name exactly in these places**, and what it takes for it in the
others is known. -/
theorem finds_of_declares {l : Language} (hl : l = .c ∨ l = .cpp)
    (hn : n.childByField? "declarator" = some d) (hd : Declares d layers m)
    (hfunction : ∃ layer ∈ layers, layer.IsFunction) (hm : Names m front id arguments) :
    Finds (l.functionName? n) layers m front id arguments := by
  obtain ⟨inner, hinner, hlayers⟩ := hd.declaratorName?_eq hn hfunction
  have hname : l.functionName? n = Language.declaredName? inner := by
    rcases hl with rfl | rfl <;> simp [Language.functionName?, hinner]
  have hdirect (h : inside layers = []) : Language.declaredName? inner =
      some ((arguments.flatMap identifiers).getLast?.getD id).text := by
    rw [h] at hlayers
    cases hlayers
    exact hm.declaredName?_eq
  have hnested (h : inside layers ≠ []) : Language.declaredName? inner =
      (m.identifiers.head?.or ((behind (inside layers)).flatMap identifiers).head?).map
        (·.text) := by
    rw [hlayers.declaredName?_eq_head? h, hlayers.identifiers_eq, List.head?_append]
  rw [hname]
  refine ⟨fun harguments hfront => ?_, fun h harguments => ?_, fun h hmember => ?_,
    fun h hfront => ?_⟩
  · by_cases h : inside layers = []
    · rw [hdirect h, harguments h]
      rfl
    · obtain ⟨hmember, hfront⟩ := hfront h
      rw [hnested h, hm.head?_identifiers hmember, hfront]
      rfl
  · obtain ⟨a, ha⟩ := Option.isSome_iff_exists.1 (List.getLast?_isSome.2 harguments)
    rw [hdirect h, ha]
    rfl
  · rw [hnested h, Node.identifiers_eq, if_neg (by rw [hmember]; decide), List.flatMap_append,
      List.head?_append]
  · have hmember : m.kind ≠ "field_identifier" := by
      cases hm with
      | plain => exact absurd rfl hfront
      | qualified hkind => rw [hkind]; decide
    obtain ⟨a, ha⟩ := Option.isSome_iff_exists.1 (List.isSome_head?.2 hfront)
    rw [hnested h, hm.head?_identifiers hmember, ha]
    rfl

/-! ### A name that is not found -/

/-- A token. -/
def token (text : String) : Node := { kind := text, named := false, text }

/-- The parameter list of one number with the name. -/
def oneParameter (name : String) : Node where
  kind := "parameter_list"
  field := some "parameters"
  children :=
    [token "(",
     { kind := "parameter_declaration"
       children :=
        [{ kind := "primitive_type", field := some "type", text := "int" },
         { kind := "identifier", field := some "declarator", text := name }] },
     token ")"]

/-- The declarator `name(int parameter)`. -/
def functionOf (name : Node) (parameter : String) : Node where
  kind := "function_declarator"
  field := some "declarator"
  children := [name, oneParameter parameter]

/-- The declarator `*inner`. -/
def pointerTo (inner : Node) : Node where
  kind := "pointer_declarator"
  children := [token "*", inner]

/-- The declarator `(inner)`. -/
def inParentheses (inner : Node) : Node where
  kind := "parenthesized_declarator"
  field := some "declarator"
  children := [token "(", inner, token ")"]

/-- The definition `int (*name(int x))(int y)` of a function that returns a function. -/
def functionReturning (name : Node) : Node where
  kind := "function_definition"
  children :=
    [{ kind := "primitive_type", field := some "type", text := "int" },
     functionOf (inParentheses (pointerTo (functionOf name "x"))) "y",
     { kind := "compound_statement", field := some "body" }]

/-- The layers of this definition. -/
def returningLayers (name : Node) : List Layer :=
  [⟨functionOf (inParentheses (pointerTo (functionOf name "x"))) "y", [oneParameter "y"]⟩,
   ⟨inParentheses (pointerTo (functionOf name "x")), [token ")"]⟩,
   ⟨pointerTo (functionOf name "x"), []⟩,
   ⟨functionOf name "x", [oneParameter "x"]⟩]

theorem declares_functionReturning (name : Node) (hkind : name.kind ∈ nameKinds)
    (hfield : name.field = some "declarator") :
    Declares (functionOf (inParentheses (pointerTo (functionOf name "x"))) "y")
      (returningLayers name) name := by
  have hmark (text : String) (hmark : text ≠ "identifier") :
      ∀ c ∈ [token text], c.field ≠ some "declarator" ∧ c.identifiers = [] := by
    simp [token, identifiers_eq, hmark]
  have hfunction (inner : Node) (parameter : String) (hinner : inner.field = some "declarator") :
      Around (functionOf inner parameter) inner [oneParameter parameter] :=
    @Around.field _ _ _ [] (by simp [functionOf, fieldKinds]) rfl hinner (by simp)
  have hpointer : Around (pointerTo (functionOf name "x")) (functionOf name "x") [] :=
    .field (by simp [pointerTo, fieldKinds]) rfl rfl (hmark "*" (by decide))
  have hparentheses : Around (inParentheses (pointerTo (functionOf name "x")))
      (pointerTo (functionOf name "x")) [token ")"] :=
    .bare (by simp [inParentheses, bareKinds]) rfl rfl (by simp [pointerTo]) (hmark "(" (by decide))
      (by simp [token])
  exact .around (hfunction _ "y" rfl)
    (.around hparentheses (.around hpointer (.around (hfunction name "x" hfield) (.name hkind))))

/-- The name of the member `eps`. -/
def memberName : Node := { kind := "field_identifier", field := some "declarator", text := "eps" }

/-- The declared name is not always found: in a class `int (*eps(int x))(int y)` is named `x`. -/
theorem not_always_declared : ¬ ∀ (l : Language) (n d m id : Node) (layers : List Layer)
    (front arguments : List Node), (l = .c ∨ l = .cpp) → n.childByField? "declarator" = some d →
      Declares d layers m → (∃ layer ∈ layers, layer.IsFunction) → Names m front id arguments →
      l.functionName? n = some id.text := by
  intro h
  have hname := h .cpp (functionReturning memberName) _ memberName memberName
    (returningLayers memberName) [] [] (.inr rfl) rfl
    (declares_functionReturning memberName (by decide) rfl) (by decide) (.plain (by decide))
  have hfound : Language.cpp.functionName? (functionReturning memberName) = some "x" := by
    decide +kernel
  rw [hname] at hfound
  revert hfound
  decide

/-- The template arguments `<&g>`. -/
def templateArguments : Node where
  kind := "template_argument_list"
  field := some "arguments"
  children :=
    [token "<",
     { kind := "pointer_expression"
       children :=
        [token "&", { kind := "identifier", field := some "argument", text := "g" }] },
     token ">"]

/-- The identifier `f` in a name. -/
def lastIdentifier : Node := { kind := "identifier", field := some "name", text := "f" }

/-- The scope `A::`. -/
def scopeMarks : List Node :=
  [{ kind := "namespace_identifier", field := some "scope", text := "A" }, token "::"]

/-- The name `A::f<&g>`. -/
def specializedName : Node where
  kind := "qualified_identifier"
  field := some "declarator"
  children := scopeMarks ++
    [{ kind := "template_function", field := some "name"
       children := [lastIdentifier, templateArguments] }]

theorem names_specializedName :
    Names specializedName scopeMarks lastIdentifier [templateArguments] := by
  have hlast : LastSegment lastIdentifier [] lastIdentifier [] := .identifier rfl
  have htemplate : LastSegment { kind := "template_function", field := some "name"
                                 children := [lastIdentifier, templateArguments] }
      [] lastIdentifier [templateArguments] :=
    @LastSegment.within _ _ _ [] _ _ _ (by decide) rfl rfl (by decide) hlast
  exact .qualified rfl (@LastSegment.within _ _ _ scopeMarks [] _ _ (by decide) rfl rfl (by decide)
    htemplate)

-- further in, the identifier of `int (*A::f<&g>(int x))(int y)` is found, as its scope has none
theorem finds_of_declares_specializedName :
    (functionReturning specializedName).childByField? "declarator" =
      some (functionOf (inParentheses (pointerTo (functionOf specializedName "x"))) "y") ∧
    Declares (functionOf (inParentheses (pointerTo (functionOf specializedName "x"))) "y")
      (returningLayers specializedName) specializedName ∧
    (∃ layer ∈ returningLayers specializedName, layer.IsFunction) ∧
    Names specializedName scopeMarks lastIdentifier [templateArguments] ∧
    Finds (Language.cpp.functionName? (functionReturning specializedName))
      (returningLayers specializedName) specializedName scopeMarks lastIdentifier
      [templateArguments] ∧
    Language.cpp.functionName? (functionReturning specializedName) = some "f" := by
  have hd := declares_functionReturning specializedName (by decide) rfl
  have hfunction : ∃ layer ∈ returningLayers specializedName, layer.IsFunction := by decide
  have hfinds := finds_of_declares (l := .cpp) (n := functionReturning specializedName)
    (.inr rfl) rfl hd hfunction names_specializedName
  have hfound : Language.cpp.functionName? (functionReturning specializedName) = some "f" :=
    hfinds.declared (fun h => absurd h (by decide)) fun _ => by decide
  exact ⟨rfl, hd, hfunction, names_specializedName, hfinds, hfound⟩

end Declarator

end CodeSurvey
