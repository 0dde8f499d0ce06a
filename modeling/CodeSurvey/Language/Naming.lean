import CodeSurvey.Language.Basic

/-!
# Names, bodies and callees

How the table-driven languages name what a definition defines, where its body is, and whom a
call calls.  `functionDeclarator?` is the one search that goes down more than a level: a C
declarator wraps the declared name in pointers, references, parentheses and arrays.
-/

namespace CodeSurvey

namespace Language

/-! ### Definitions -/

/-- The identifier in the field `name`, or else the first identifier of the tree. -/
def namedOrFirstIdentifier? (n : Node) : Option String :=
  match n.childByField? "name" with
  | some m => if m.kind = "identifier" then some m.text else (n.first? "identifier").map (·.text)
  | none => (n.first? "identifier").map (·.text)

/-- One step inwards from a declarator: the field `declarator`, or else the last named child. -/
def innerDeclarator? (n : Node) : Option Node :=
  match n.childByField? "declarator" with
  | some m => some m
  | none => n.namedChildren.getLast?

theorem size_lt_of_innerDeclarator? {n m : Node} (h : innerDeclarator? n = some m) :
    m.size < n.size := by
  have hm : m ∈ n.children := by
    unfold innerDeclarator? at h
    split at h
    · next hf => cases h; exact Node.mem_children_of_childByField? hf
    · exact (List.mem_filter.1 (List.mem_of_getLast? h)).1
  have := Node.size_le_forestSize hm
  rw [Node.size_eq n]; omega

/-- The first function declarator on the way inwards from a declarator. -/
def functionDeclarator? (n : Node) : Option Node :=
  if n.kind = "function_declarator" then some n
  else
    match _h : innerDeclarator? n with
    | some m => functionDeclarator? m
    | none => none
termination_by n.size
decreasing_by exact size_lt_of_innerDeclarator? _h

/-- The kinds of a plain or member name. -/
def memberNameKinds : List String := ["identifier", "field_identifier"]

/-- The name that a name node of a declarator declares: the last identifier of a qualified name,
the text of a plain one, the first identifier of anything else. -/
def declaredName? (n : Node) : Option String :=
  if n.kind = "qualified_identifier" then (n.last? "identifier").map (·.text)
  else if n.kind ∈ memberNameKinds then some n.text
  else (n.first? "identifier").map (·.text)

/-- The name node of a C definition: what the function declarator declares, or else the whole
declarator. -/
def declaratorName? (n : Node) : Option Node :=
  match n.childByField? "declarator" with
  | none => none
  | some d =>
    match functionDeclarator? d with
    | some f => f.childByField? "declarator"
    | none => some d

/-- The name that a definition defines. -/
def functionName? (l : Language) (n : Node) : Option String :=
  match l with
  | python | java => namedOrFirstIdentifier? n
  | cpp | c => (declaratorName? n).bind declaredName?
  | go => none

/-! ### Bodies -/

/-- The body of a C definition, if it is a block. -/
def blockBody (n : Node) : List Node :=
  match n.childByField? "body" with
  | some body => if body.kind = "compound_statement" then [body] else []
  | none => []

/-- The part of a definition that is read with the defined function as caller. -/
def functionBody (l : Language) (n : Node) : List Node :=
  match l with
  | python | java => n.children
  | cpp | c => blockBody n
  | go => []

theorem forestSize_functionBody_le (l : Language) (n : Node) :
    Node.forestSize (l.functionBody n) ≤ Node.forestSize n.children := by
  have hb : Node.forestSize (blockBody n) ≤ Node.forestSize n.children := by
    unfold blockBody
    split
    · next body h =>
      split
      · simpa using Node.size_le_forestSize (Node.mem_children_of_childByField? h)
      · simp
    · simp
  cases l <;> simp [functionBody, hb]

/-! ### Calls -/

/-- The callee of a Python call: the name that is called, or the attribute of what is called. -/
def attributeCallee? (n : Node) : Option String :=
  match n.children with
  | [] => none
  | target :: _ =>
    if target.kind = "attribute" then
      match target.childByField? "attribute" with
      | some member => if member.kind = "identifier" then some member.text else none
      | none => none
    else if target.kind = "identifier" then some target.text
    else none

/-- The kinds of member access. -/
def memberAccessKinds : List String := ["field_expression", "arrow_expression"]

/-- The callee of a C call: the name that is called, or the member at the end of an access. -/
def memberCallee? (n : Node) : Option String :=
  match n.children with
  | [] => none
  | target :: _ =>
    if target.kind ∈ memberAccessKinds then
      match target.children with
      | _ :: second :: rest =>
        let member := (second :: rest).getLast (by simp)
        if member.kind ∈ memberNameKinds then some member.text else none
      | _ => none
    else if target.kind = "identifier" then some target.text
    else none

/-- The name that a call calls.  A Java invocation is credited to its first identifier, which in
`a.b().c()` is `a`. -/
def callee? (l : Language) (n : Node) : Option String :=
  match l with
  | python => attributeCallee? n
  | java => (n.first? "identifier").map (·.text)
  | cpp | c => memberCallee? n
  | go => none

end Language

end CodeSurvey
