import RealmPlan.Command.Request
import RealmPlan.Document.Yaml
import RealmPlan.Observation.Codec
import RealmPlan.Plan.Json
import RealmPlan.Json.Printer
import RealmPlan.Service
import RealmPlan.Resource.Codec
import RealmPlan.Schema.Resource
import RealmPlan.Yaml.Writer

namespace RealmPlan.Command

-- What went wrong, and why, the outermost cause first.
structure Problem where
  message : String
  causes : List String := []
deriving DecidableEq

namespace Problem

-- Every line of a cause after the first stands below the start of the first.
def hang (start : String) (text : String) : String :=
  let margin := "\n" ++ String.ofList (List.replicate start.length ' ')
  start ++ margin.intercalate (text.splitOn "\n")

def numbered (causes : List String) : List String :=
  causes.zipIdx.map fun (cause, index) => hang (Text.padLeft 5 (toString index) ++ ": ") cause

def text (problem : Problem) : String :=
  let because := match problem.causes with
    | [] => []
    | [cause] => [hang "    " cause]
    | causes => numbered causes
  if because.isEmpty then "Error: " ++ problem.message
  else "Error: " ++ problem.message ++ "\n\nCaused by:\n" ++ "\n".intercalate because

end Problem

-- Files as texts, or why there is none.
abbrev Files := (path : String) → Except String String

def load {α : Type} (files : Files) (what path : String) (read : Yaml.View → Yaml.Following α) :
    Except Problem α := do
  let text ← (files path).mapError fun cause => { message := "Failed to read " ++ path, causes := [cause] }
  let failed (cause : String) : Problem :=
    { message := "Failed to parse " ++ what ++ " from " ++ path, causes := [cause] }
  let tree ← (Yaml.Tree.parse text).mapError fun fault => failed fault.message
  (tree.read read).mapError fun mismatch => failed mismatch.message

def loadResource (files : Files) (path : String) : Except Problem Resource :=
  load files "KeycloakClient" path Resource.read

def loadObservation (files : Files) (path : String) : Except Problem Observation :=
  load files "observed state" path Observation.read

-- Whether a resource may be planned, and if not, why it is planned all the same.
def gate (settings : Settings) (skipValidation : Bool) (path : String) (resource : Resource) :
    Except Problem (Option Refusal) :=
  match Violation.first? settings.maxRoles resource with
  | none => .ok none
  | some violation =>
    let refusal := Refusal.invalid violation
    if skipValidation then .ok (some refusal)
    else .error { message := "Refusing to plan " ++ path, causes := [refusal.message, violation.message] }

def planText (resource : Resource) (plan : Plan) : String :=
  let row (index : Nat) (entry : Plan.Entry) : String :=
    "  " ++ Text.padLeft 3 (toString (index + 1)) ++ ". " ++ Text.padRight 22 entry.kind.label ++ " " ++
      entry.message ++ "\n"
  "Plan for KeycloakClient " ++ resource.displayName ++ ":\n" ++
    String.join ((Plan.entries plan).zipIdx.map fun (entry, index) => row index entry) ++
    "\n" ++ (Plan.summary plan).text ++ "\n"

def planJson (resource : Resource) (plan : Plan) : Json :=
  .object [
    ("actions", .list ((Plan.entries plan).map (·.json))),
    ("client", .text resource.displayName),
    ("summary", (Plan.summary plan).json)]

def shown (output : OutputFormat) (resource : Resource) (plan : Plan) : String :=
  match output with
  | .text => planText resource plan
  | .json => (planJson resource plan).pretty ++ "\n"

def eventTarget : String := "kcctl::plan"

-- What a request prints, and what it says to the log before that.
abbrev Answer := Except Problem String × Service

def plan (files : Files) (settings : Settings) (service : Service) (desired : String)
    (observed : Option String) (output : OutputFormat) (skipValidation : Bool) : Answer :=
  let gated := do
    let resource ← loadResource files desired
    return (resource, ← gate settings skipValidation desired resource)
  match gated with
  | .error problem => (.error problem, service)
  | .ok (resource, refusal) =>
    let service := service.log <| refusal.toList.map fun refusal =>
      { level := .warn, target := eventTarget, message := "Planning despite " ++ refusal.message }
    let observation := match observed with
      | some path => loadObservation files path
      | none => .ok {}
    match observation with
    | .error problem => (.error problem, service)
    | .ok observation =>
      let (plan, service) := service.plan resource observation
      let service := if settings.metrics then service.recordPlan plan else service
      let size := plan.length
      let message := s!"Planned {size} actions for " ++ resource.displayName
      (.ok (shown output resource plan), service.log [{ level := .info, target := eventTarget, message }])

def validate (files : Files) (settings : Settings) (desired : String) : Except Problem String := do
  let resource ← loadResource files desired
  match Violation.first? settings.maxRoles resource with
  | none =>
    let count := resource.spec.roles.length
    return "✅ " ++ resource.displayName ++ s!" is valid ({count} roles)\n"
  | some violation =>
    let refusal := Refusal.invalid violation
    throw { message := "❌ " ++ desired ++ " (" ++ refusal.phase.word ++ "): " ++ refusal.message }

def answer (files : Files) (settings : Settings) (service : Service) : Request → Answer
  | .plan desired observed output skipValidation =>
    plan files settings service desired observed output skipValidation
  | .validate desired => (validate files settings desired, service)
  | .definition => (.ok (Yaml.write Resource.definition), service)

-- What a run of the command leaves: its exit code, its two outputs, and the log.
structure Outcome where
  exit : Nat
  output : String := ""
  complaint : String := ""
  log : List Log.Line := []

def usage : String :=
  "Usage: kcctl <plan|validate|crd> " ++
    "[--desired FILE] [--observed FILE] [--output FORMAT] [--skip-validation]"

def run (files : Files) (lookup? : String → Option String) (arguments : List String) : Outcome :=
  match Request.ofArguments? arguments with
  | none => { exit := 2, complaint := usage }
  | some request =>
    let settings := Settings.ofVariables lookup?
    let fresh : Service := { subscriber := some (settings.subscriber (lookup? "RUST_LOG")) }
    let (registered, service) := if settings.metrics then fresh.registration else (.ok (), fresh)
    match registered with
    | .error cause =>
      let problem : Problem := { message := "Failed to register metrics", causes := [cause] }
      { exit := 1, complaint := problem.text, log := service.lines }
    | .ok () =>
      match answer files settings service request with
      | (.ok output, service) => { exit := 0, output, log := service.lines }
      | (.error problem, service) => { exit := 1, complaint := problem.text, log := service.lines }

end RealmPlan.Command
