namespace RealmPlan.Command

inductive OutputFormat where
  | text
  | json
deriving DecidableEq, Repr, Inhabited

-- What the command line asks for.
inductive Request where
  -- The actions that lead from the observed state to the desired client.
  | plan (desired : String) (observed : Option String) (output : OutputFormat) (skipValidation : Bool)
  | validate (desired : String)
  -- The definition that a cluster needs before it keeps such clients.
  | definition
deriving DecidableEq, Repr

-- The files that a request names.
def Request.paths : Request → List String
  | .plan desired observed _ _ => desired :: observed.toList
  | .validate desired => [desired]
  | .definition => []

-- Options by name, each at most once.
structure Options where
  desired : Option String := none
  observed : Option String := none
  output : Option OutputFormat := none
  skipValidation : Bool := false

namespace Options

inductive Name where
  | desired
  | observed
  | output
  | skipValidation
deriving DecidableEq

def Name.ofLong? : String → Option Name
  | "desired" => some .desired
  | "observed" => some .observed
  | "output" => some .output
  | "skip-validation" => some .skipValidation
  | _ => none

def Name.ofShort? : Char → Option Name
  | 'd' => some .desired
  | 'o' => some .observed
  | _ => none

def outputFormat? : String → Option OutputFormat
  | "text" => some .text
  | "json" => some .json
  | _ => none

-- An option that was given before, or a value that cannot be one, is refused.
def set? (options : Options) (name : Name) (value : String) : Option Options :=
  match name with
  | .desired =>
    if options.desired.isSome || value.isEmpty then none else some { options with desired := some value }
  | .observed =>
    if options.observed.isSome || value.isEmpty then none else some { options with observed := some value }
  | .output =>
    if options.output.isSome then none
    else (outputFormat? value).map fun output => { options with output := some output }
  | .skipValidation => none

def skip? (options : Options) : Option Options :=
  if options.skipValidation then none else some { options with skipValidation := true }

-- An option as it is written: its name, and the value that is attached to it.
def written? (argument : String) : Option (Name × Option String) :=
  match argument.toList with
  | '-' :: '-' :: long =>
    let name := long.takeWhile (· != '=')
    let value := match long.drop name.length with
      | '=' :: value => some (String.ofList value)
      | _ => none
    (Name.ofLong? (String.ofList name)).map (·, value)
  | '-' :: short :: attached =>
    let value := match attached with
      | [] => none
      | '=' :: value => some (String.ofList value)
      | value => some (String.ofList value)
    (Name.ofShort? short).map (·, value)
  | _ => none

-- A value of its own must not look like an option; a lone dash does not.
def isValue (argument : String) : Bool := !argument.startsWith "-" || argument == "-"

def read? (allowed : List Name) (options : Options) : List String → Option Options
  | [] => some options
  | ["--"] => some options
  | argument :: rest =>
    match written? argument with
    | none => none
    | some (name, attached) =>
      if name ∉ allowed then none
      else match name, attached, rest with
        | .skipValidation, none, rest => (skip? options).bind (read? allowed · rest)
        | .skipValidation, some _, _ => none
        | name, some value, rest => (set? options name value).bind (read? allowed · rest)
        | name, none, value :: rest =>
          if isValue value then (set? options name value).bind (read? allowed · rest) else none
        | _, none, [] => none

end Options

-- Nothing for a wrong use of the command.
def Request.ofArguments? : List String → Option Request
  | "plan" :: arguments => do
    let options ← Options.read? [.desired, .observed, .output, .skipValidation] {} arguments
    return .plan (← options.desired) options.observed (options.output.getD .text) options.skipValidation
  | "validate" :: arguments => do
    let options ← Options.read? [.desired] {} arguments
    return .validate (← options.desired)
  | "crd" :: arguments => do
    let _ ← Options.read? [] {} arguments
    return .definition
  | _ => none

end RealmPlan.Command
