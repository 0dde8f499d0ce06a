import CodeSurvey.Proofs.Report.JsonReader

/-!
# Reading reports back

The reader of a report looks the parts of each document up by their keys: a location without a
line is one whose document lacks the key.  Objects are read as lists of members, so that the order
of directories, files and callers is read as well.

* `ProjectReport.ofJson?_toJson` : a report is read back from its document;
* `ProjectReport.render_readable` : and from its text, which is a JSON text of ASCII characters.
-/

namespace CodeSurvey

/-! ### Parts of documents -/

namespace Json

/-- The string that a document is. -/
def text? : Json → Option String
  | text value => some value
  | _ => none

/-- The integer that a document is. -/
def number? : Json → Option Int
  | number value => some value
  | _ => none

/-- The items of a list, all of one kind. -/
def listOf? {α : Type} (item? : Json → Option α) : Json → Option (List α)
  | list items => items.mapM item?
  | _ => none

/-- The members of an object whose values are all of one kind. -/
def objectOf? {α : Type} (value? : Json → Option α) : Json → Option (List (String × α))
  | object members => members.mapM fun m => (value? m.2).map (m.1, ·)
  | _ => none

/-- The value of an object under a key. -/
def get? (key : String) : Json → Option Json
  | object members => members.lookup key
  | _ => none

/-- The integer under a key, `some none` when there is no such key. -/
def optionalNumber? (key : String) (document : Json) : Option (Option Int) :=
  match document.get? key with
  | some value => value.number?.map some
  | none => some none

section Kinds

variable {α : Type} {write : α → Json} {read : Json → Option α}

theorem mapM_map_eq_some {β : Type} {write : α → β} {read : β → Option α}
    (h : ∀ a, read (write a) = some a) (as : List α) : (as.map write).mapM read = some as := by
  induction as with
  | nil => rfl
  | cons a as ih => simp [h, ih]

theorem listOf?_list (h : ∀ a, read (write a) = some a) (as : List α) :
    listOf? read (.list (as.map write)) = some as := mapM_map_eq_some h as

theorem objectOf?_object (h : ∀ a, read (write a) = some a) (members : List (String × α)) :
    objectOf? read (.object (members.map fun m => (m.1, write m.2))) = some members :=
  mapM_map_eq_some (fun m => by simp [h m.2]) members

theorem listOf?_texts (texts : List String) :
    listOf? text? (.list (texts.map .text)) = some texts :=
  listOf?_list (fun _ => rfl : ∀ s, text? (.text s) = some s) texts

end Kinds

end Json

/-! ### Reports -/

/-- The location of a document. -/
def Location.ofJson? (document : Json) : Option Location := do
  return {
    file := ← (← document.get? "file").text?
    startLine := ← document.optionalNumber? "startLine"
    endLine := ← document.optionalNumber? "endLine" }

/-- The call edge of a document. -/
def CallEdge.ofJson? (document : Json) : Option CallEdge := do
  return {
    name := ← (← document.get? "name").text?
    location := ← Location.ofJson? (← document.get? "location") }

/-- The report of a file of a document. -/
def FileReport.ofJson? (document : Json) : Option FileReport := do
  return {
    functions := ← (← document.get? "functions").listOf? Json.text?
    dependencies := ← (← document.get? "dependencies").listOf? Json.text?
    calls := ← (← document.get? "functionCalls").objectOf? (Json.listOf? CallEdge.ofJson?) }

/-- The report of a directory of a document. -/
def DirectoryReport.ofJson? (document : Json) : Option DirectoryReport := do
  return {
    files := ← (← document.get? "files").objectOf? FileReport.ofJson?
    subfolders := ← (← document.get? "subfolders").listOf? Json.text? }

/-- The report of a project of a document. -/
def ProjectReport.ofJson? (document : Json) : Option ProjectReport :=
  document.objectOf? DirectoryReport.ofJson?

/-- The report that a text says. -/
def ProjectReport.read? (text : String) : Option ProjectReport := do
  ProjectReport.ofJson? (← Json.read? text)

/-- A line is there when, and only when, its key is. -/
theorem Location.ofJson?_toJson (l : Location) : Location.ofJson? l.toJson = some l := by
  obtain ⟨file, startLine, endLine⟩ := l
  cases startLine <;> cases endLine <;> rfl

theorem CallEdge.ofJson?_toJson (e : CallEdge) : CallEdge.ofJson? e.toJson = some e := by
  have hlocation : Location.ofJson? e.location.toJson = some e.location :=
    Location.ofJson?_toJson e.location
  simp [CallEdge.ofJson?, CallEdge.toJson, Json.get?, List.lookup_cons, Json.text?, hlocation]

theorem FileReport.ofJson?_toJson (r : FileReport) : FileReport.ofJson? r.toJson = some r := by
  have hcalls := Json.objectOf?_object (Json.listOf?_list CallEdge.ofJson?_toJson) r.calls
  simp [FileReport.ofJson?, FileReport.toJson, Json.get?, List.lookup_cons, Json.listOf?_texts, hcalls]

theorem DirectoryReport.ofJson?_toJson (r : DirectoryReport) :
    DirectoryReport.ofJson? r.toJson = some r := by
  have hfiles := Json.objectOf?_object FileReport.ofJson?_toJson r.files
  simp [DirectoryReport.ofJson?, DirectoryReport.toJson, Json.get?, List.lookup_cons,
    Json.listOf?_texts, hfiles]

/-- A report is read back from its document. -/
theorem ProjectReport.ofJson?_toJson (r : ProjectReport) :
    ProjectReport.ofJson? (ProjectReport.toJson r) = some r :=
  Json.objectOf?_object DirectoryReport.ofJson?_toJson r

theorem ProjectReport.read?_render (r : ProjectReport) :
    ProjectReport.read? (ProjectReport.render r) = some r := by
  have hread := Json.read?_render (ProjectReport.toJson r)
  simp only [ProjectReport.read?, ProjectReport.render, hread, Option.bind_eq_bind,
    Option.bind_some, ProjectReport.ofJson?_toJson]

/-- **A written report can be read back**: its text has ASCII characters only, is a JSON text of
one document, the report's, and gives the report, which is the only one with this text. -/
theorem ProjectReport.render_readable (r : ProjectReport) :
    Json.IsAscii (ProjectReport.render r).toList ∧
      (∀ document, Json.IsText (ProjectReport.render r) document ↔
        document = ProjectReport.toJson r) ∧
      ProjectReport.read? (ProjectReport.render r) = some r ∧
      ∀ other, ProjectReport.render other = ProjectReport.render r → other = r := by
  have htext : Json.IsText (ProjectReport.render r) (ProjectReport.toJson r) :=
    Json.says_render (ProjectReport.toJson r)
  refine ⟨Json.isAscii_render _, fun document => ⟨fun h => h.unique htext, ?_⟩,
    ProjectReport.read?_render r, fun other h => ?_⟩
  · rintro rfl
    exact htext
  · -- what is read off the common text is both reports
    have hother := ProjectReport.read?_render other
    rw [h, ProjectReport.read?_render r] at hother
    exact (Option.some.inj hother).symm

end CodeSurvey
