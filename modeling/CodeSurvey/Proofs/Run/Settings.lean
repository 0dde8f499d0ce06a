import CodeSurvey.Proofs.Config.Loading
import CodeSurvey.Proofs.Run.Effect

/-!
# The settings after a run

The report may be written to the place of a configuration file.  A written report is no TOML
document, so it is passed over as if it were not there.

* `Config.found_of_report` : there are no settings in a report;
* `Config.load_of_saved` : the settings stay the same if the configuration files that can be read
  afterwards are those that could be read before, or the report at a place that was free.
-/

namespace CodeSurvey

/-! ### A report has no settings -/

/-- A text that begins with a brace is no document. -/
theorem Toml.parse_of_brace {text : String} {rest : List Char}
    (h : text.toList = '\x7b' :: rest) : Toml.parse text = none := by
  have hlines : unifyLines ('\x7b' :: rest) = '\x7b' :: unifyLines rest := rfl
  -- no key begins with a brace, so the first line is no statement
  have hstatements (steps : Nat) :
      statements (steps + 1) ('\x7b' :: unifyLines rest) = none := rfl
  rw [parse, h, hlines, hstatements]
  rfl

theorem ProjectReport.exists_render_eq (report : ProjectReport) :
    ∃ rest, (ProjectReport.render report ++ "\n").toList = '\x7b' :: rest := by
  cases report with
  | nil => exact ⟨_, rfl⟩
  | cons first rest =>
    rw [render, toJson, List.map_cons, Json.render, Json.renderAt]
    simp only [String.toList_append]
    exact ⟨_, rfl⟩

/-- The written report is read back as a text. -/
theorem decode?_reportContent (report : ProjectReport) :
    Text.decode? (reportContent report) = some (report.render ++ "\n") :=
  Text.decode?_encode report.isAscii_text

namespace Config

variable {fs fs' : FileSystem} {directory root output path : Path} {place : List String}
  {report : ProjectReport}

/-- **A report is passed over.** -/
theorem found_of_report (h : fs.read path = .ok (reportContent report)) :
    found fs path = .ok none := by
  obtain ⟨rest, hrest⟩ := report.exists_render_eq
  rw [found_of_read h, decode?_reportContent]
  dsimp only
  rw [Toml.parse_of_brace hrest]

/-- Every configuration file that can be read afterwards could be read before, and has the same
bytes, or is the file at the place, where nothing was found before. -/
def Kept (fs fs' : FileSystem) (root : Path) (place : List String) : Prop :=
  ∀ (source : Source) (bytes : List UInt8),
    fs'.read (root.child source.fileName) = .ok bytes →
      fs.read (root.child source.fileName) = .ok bytes ∨
        fs.has (root.child source.fileName) = false ∧
          fs'.leadsTo (root.child source.fileName) place = true

/-- **A report that is not written over a configuration file leaves the settings as they are.** -/
theorem load_of_saved (hsaved : FileSystem.Saved output (reportContent report) place fs fs')
    (hkept : Kept fs fs' root place) : (load fs' root).2 = (load fs root).2 := by
  refine load_congr fun source => ?_
  generalize hpath : root.child source.fileName = path
  have hkept := hkept source
  rw [hpath] at hkept
  cases hread' : fs'.read path with
  | error e' =>
    rw [found_of_read_error hread']
    cases hread : fs.read path with
    | error e => rw [found_of_read_error hread]
    | ok bytes =>
      -- what could be read can still be read
      obtain ⟨spot, hspot⟩ := FileSystem.read_eq_ok_iff.1 hread
      obtain ⟨bytes', hspot'⟩ := hsaved.grows.locate_file hspot
      rw [FileSystem.read_eq_ok_iff.2 ⟨spot, hspot'⟩] at hread'
      cases hread'
  | ok bytes =>
    rcases hkept bytes hread' with hread | ⟨hmissing, hleads⟩
    · rw [found_of_read hread', found_of_read hread]
    · obtain ⟨spot, hspot⟩ := FileSystem.read_eq_ok_iff.1 hread'
      obtain rfl : spot = place := by simpa [FileSystem.leadsTo, hspot] using hleads
      have hfile := FileSystem.find?_of_locate_taken hspot
      rw [FileSystem.find?_of_locate_taken hsaved.locate] at hfile
      cases hfile
      rw [found_of_report hread', found, hmissing]
      rfl

end Config

end CodeSurvey
