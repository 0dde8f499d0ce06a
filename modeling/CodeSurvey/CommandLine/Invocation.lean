import CodeSurvey.CommandLine.Switch
import CodeSurvey.Run
import CodeSurvey.Text.Integer

/-!
# Reading a command line

`Invocation.read` says what a command line asks for: the help text, a run, or nothing that can be
done, with the reason.  Switches take effect from left to right, so a request for help comes
before whatever is wrong to its right; only a word that is short for several spellings is refused
before all else, and words that are left over are refused after all else.
-/

namespace CodeSurvey

namespace CommandLine

/-- Why a command line is refused. -/
inductive Refusal where
  | ambiguous (word : String) (spellings : List String)
  | missingValue (s : Switch)
  | unexpectedValue (s : Switch) (value : String)
  | notInteger (s : Switch) (value : String)
  | leftOver (words : List String)
  | tooFewJobs
deriving DecidableEq, Repr, Inhabited

namespace Refusal

/-- A complaint about a switch. -/
def about (s : Switch) (complaint : String) : String :=
  "argument " ++ s.name ++ ": " ++ complaint

/-- The wording of a refusal. -/
def message : Refusal → String
  | ambiguous word spellings =>
    "ambiguous option: " ++ word ++ " could match " ++ ", ".intercalate spellings
  | missingValue s => about s "expected one argument"
  | unexpectedValue s value => about s ("ignored explicit argument " ++ Text.quoted value)
  | notInteger s value => about s ("invalid int value: " ++ Text.quoted value)
  | leftOver words => "unrecognized arguments: " ++ " ".intercalate words
  | tooFewJobs => "--jobs must be at least 1"

end Refusal

/-- What a command line asks for. -/
inductive Invocation where
  | help
  | refused (reason : Refusal)
  | run (arguments : RunArguments) (verbose : Bool)
deriving DecidableEq, Repr, Inhabited

/-! ### The switches of one word -/

/-- A switch with the value it was given. -/
abbrev Setting := Switch × Option String

/-- What one word with switches comes to: its switches in order, and a part that is left over. -/
structure Cluster where
  settings : List Setting
  leftOver : List String := []
  /-- The last switch takes its value from the next word. -/
  open? : Option Switch := none
deriving Repr, Inhabited

namespace Cluster

/-- A cluster with a switch in front. -/
def cons (s : Switch) (c : Cluster) : Cluster := { c with settings := (s, none) :: c.settings }

/-- The cluster of a switch with nothing attached. -/
def single (s : Switch) : Cluster :=
  if s.takesValue then { settings := [], open? := some s } else { settings := [(s, none)] }

/-- The switches of a word that begins with `s`, to which `text` is attached.  A switch that takes
no value may have further short ones attached to it, but no value. -/
def ofAttached (s : Switch) (isLong afterEquals : Bool) : List Char → Except Refusal Cluster
  | [] =>
    if s.takesValue then .ok { settings := [(s, some "")] } else .error (.unexpectedValue s "")
  | c :: rest =>
    let text := String.ofList (c :: rest)
    if s.takesValue then .ok { settings := [(s, some text)] }
    else if isLong ∨ afterEquals ∨ c = '-' then .error (.unexpectedValue s text)
    else
      match Switch.ofSpelling? (String.ofList ['-', c]) with
      | none => .ok { settings := [(s, none)], leftOver := ["-" ++ text] }
      | some next =>
        match rest with
        | [] => .ok (cons s (single next))
        | '=' :: value => (ofAttached next false true value).map (cons s)
        | d :: rest => (ofAttached next false false (d :: rest)).map (cons s)

/-- The switches of a word. -/
def ofSwitch (s : Switch) (isLong : Bool) : Option Attached → Except Refusal Cluster
  | none => .ok (single s)
  | some a => ofAttached s isLong a.afterEquals a.text

end Cluster

/-! ### All words -/

/-- What has been read of a command line. -/
structure Progress where
  arguments : RunArguments := {}
  verbose : Bool := false
  operand : Option String := none
  leftOver : List String := []
deriving Repr, Inhabited

/-- Why reading stops before the end. -/
inductive Stop where
  | help
  | refusal (reason : Refusal)
deriving Repr, Inhabited

namespace Progress

/-- Words that nothing can be done with. -/
def leave (p : Progress) (words : List String) : Progress :=
  { p with leftOver := p.leftOver ++ words }

/-- The effect of a switch. -/
def set (p : Progress) : Setting → Except Stop Progress
  | (.help, _) => .error .help
  | (.output, value) =>
    let path := Path.ofString (value.getD "")
    .ok { p with arguments := { p.arguments with output := some path } }
  | (.jobs, value) =>
    let text := value.getD ""
    match Text.readInt? text with
    | some n => .ok { p with arguments := { p.arguments with jobs := some n } }
    | none => .error (.refusal (.notInteger .jobs text))
  | (.flatContext, _) => .ok { p with arguments := { p.arguments with reading := some .flat } }
  | (.quiet, _) => .ok { p with arguments := { p.arguments with echo := false } }
  | (.verbose, _) => .ok { p with verbose := true }

/-- Goes through the words from left to right.  The first plain word that is no value is the
operand.  A marker belongs to the operand if it stands directly behind it (`atOperand`) or before
it. -/
def through (p : Progress) (atOperand : Bool) : List (String × Word) → Except Stop Progress
  | [] => .ok p
  | (text, .plain) :: rest =>
    match p.operand with
    | none => through { p with operand := some text } true rest
    | some _ => through (p.leave [text]) false rest
  | (text, .marker) :: rest =>
    if p.operand = none ∨ atOperand then through p false rest
    else through (p.leave [text]) false rest
  | (text, .unknown) :: rest => through (p.leave [text]) false rest
  | (text, .ambiguous spellings) :: _ => .error (.refusal (.ambiguous text spellings))
  | (_, .switch s isLong attached) :: rest =>
    match Cluster.ofSwitch s isLong attached with
    | .error reason => .error (.refusal reason)
    | .ok cluster =>
      match cluster.open?, rest with
      | none, rest =>
        match cluster.settings.foldlM set (p.leave cluster.leftOver) with
        | .ok p => through p false rest
        | .error stop => .error stop
      | some last, (value, .plain) :: rest =>
        match (cluster.settings ++ [(last, some value)]).foldlM set p with
        | .ok p => through p false rest
        | .error stop => .error stop
      | some last, _ => .error (.refusal (.missingValue last))

end Progress

namespace Invocation

/-- The first word that is short for several spellings. -/
def firstAmbiguous? (words : List (String × Word)) : Option Refusal :=
  words.findSome? fun
    | (text, .ambiguous spellings) => some (.ambiguous text spellings)
    | _ => none

/-- What has been asked for when all words have been read. -/
def ofProgress (p : Progress) : Invocation :=
  if p.leftOver ≠ [] then refused (.leftOver p.leftOver)
  else
    let directory := Path.ofString (p.operand.getD "")
    match p.arguments.jobs with
    | some n => if n < 1 then refused .tooFewJobs else run { p.arguments with directory } p.verbose
    | none => run { p.arguments with directory } p.verbose

/-- What the words of a command line ask for. -/
def read (words : List String) : Invocation :=
  let classified := Word.classify words
  match firstAmbiguous? classified with
  | some reason => refused reason
  | none =>
    match Progress.through {} false classified with
    | .ok p => ofProgress p
    | .error .help => help
    | .error (.refusal reason) => refused reason

end Invocation

end CommandLine

end CodeSurvey
