import ProviderBindings.Generation

/-!
The command line: one command, `generate`, with options that may be written long or short, short ones also
joined. An option without its value waits for the next argument, and what it then holds is checked when the
next option is met or the arguments end.
-/

namespace ProviderBindings

/-- Why arguments are refused, or what they ask for instead of a run. -/
inductive UsageError where
  | missingRequired
  | conflict
  | unknownArgument
  | invalidValue
  | valueValidation
  | tooManyValues
  | invalidSubcommand
  | help
  | version
  | helpOnMissing
  deriving DecidableEq, Repr

def UsageError.exitCode : UsageError → Nat
  | .help => 0
  | .version => 0
  | _ => 2

structure GenerateArgs where
  outDirectory : String
  modulePath : String
  force : Bool
  providers : List String
  schema : Option String
  terraform : String
  /-- In seconds. -/
  timeout : Nat
  deriving DecidableEq, Repr

namespace CommandLine

inductive ValueOption where
  | out
  | modulePath
  | provider
  | schema
  | terraform
  | timeout
  deriving DecidableEq, Repr

inductive Flag where
  | valued (o : ValueOption)
  | force
  | help
  deriving DecidableEq, Repr

def optionOfName? : String → Option Flag
  | "out" => some (.valued .out)
  | "module-path" => some (.valued .modulePath)
  | "provider" => some (.valued .provider)
  | "schema" => some (.valued .schema)
  | "terraform" => some (.valued .terraform)
  | "timeout" => some (.valued .timeout)
  | "force" => some .force
  | "help" => some .help
  | _ => none

def optionOfLetter? : Char → Option Flag
  | 'o' => some (.valued .out)
  | 'p' => some (.valued .provider)
  | 'f' => some .force
  | 'h' => some .help
  | _ => none

/-- The options read so far, and the one that was met last and is not settled yet. -/
structure Scan where
  out : Option String
  modulePath : Option String
  force : Bool
  providers : List String
  schema : Option String
  terraform : Option String
  timeout : Option Nat
  pending : Option (ValueOption × Option String)

namespace Scan

def empty : Scan := ⟨none, none, false, [], none, none, none, none⟩

def once {α : Type} (earlier : Option α) (value : Except UsageError α) (put : α → Scan) :
    Except UsageError Scan :=
  if earlier.isSome then .error .conflict else value.map put

def nonempty (value : String) : Except UsageError String :=
  if value.isEmpty then .error .invalidValue else .ok value

def timeoutLimit : Nat := Nat.pow 2 64 - 1

def isNumeral (digits : List Char) : Bool := !digits.isEmpty && digits.all Char.isDigit

def valueOf (digits : List Char) : Nat := digits.foldl (fun n c => 10 * n + (c.toNat - '0'.toNat)) 0

/-- A natural number that fits 64 bits, with an optional plus sign. -/
def seconds (value : String) : Except UsageError Nat :=
  let digits :=
    match value.toList with
    | '+' :: rest => rest
    | cs => cs
  if isNumeral digits && valueOf digits ≤ timeoutLimit then .ok (valueOf digits)
  else .error .valueValidation

def accept (s : Scan) (o : ValueOption) (value : String) : Except UsageError Scan :=
  match o with
  | .out => once s.out (nonempty value) fun v => { s with out := some v }
  | .modulePath => once s.modulePath (.ok value) fun v => { s with modulePath := some v }
  | .provider => .ok { s with providers := s.providers ++ [value] }
  | .schema => once s.schema (nonempty value) fun v => { s with schema := some v }
  | .terraform => once s.terraform (nonempty value) fun v => { s with terraform := some v }
  | .timeout => once s.timeout (seconds value) fun v => { s with timeout := some v }

def settle (s : Scan) : Except UsageError Scan :=
  match s.pending with
  | none => .ok s
  | some (_, none) => .error .invalidValue
  | some (o, some value) => ({ s with pending := none }).accept o value

def meet (s : Scan) (o : Flag) (attached : Option String) : Except UsageError Scan :=
  match o, attached with
  | .valued o, some value => do (← s.settle).accept o value
  | .valued o, none => do .ok { ← s.settle with pending := some (o, none) }
  | .force, some _ => .error .tooManyValues
  | .help, some _ => .error .tooManyValues
  | .force, none => do
      let s ← s.settle
      if s.force then .error .conflict else .ok { s with force := true }
  | .help, none => do
      let _ ← s.settle
      .error .help

def attachedTo : List Char → Option String
  | [] => none
  | '=' :: rest => some (String.ofList rest)
  | rest => some (String.ofList rest)

def meetLetters (s : Scan) : List Char → Except UsageError Scan
  | [] => .ok s
  | c :: rest =>
      match optionOfLetter? c with
      | none => .error .unknownArgument
      | some (.valued o) => s.meet (.valued o) (attachedTo rest)
      | some o => do (← s.meet o none).meetLetters rest

def meetLong (s : Scan) (cs : List Char) : Except UsageError Scan :=
  let (name, attached) :=
    match Text.splitAtFirst '=' cs with
    | some (name, value) => (name, some (String.ofList value))
    | none => (cs, none)
  match optionOfName? (String.ofList name) with
  | some o => s.meet o attached
  | none => .error .unknownArgument

def meetWord (s : Scan) (word : String) : Except UsageError Scan :=
  match s.pending with
  | some (o, none) => .ok { s with pending := some (o, some word) }
  | _ => .error .unknownArgument

/-- Reads arguments one after another; nothing may follow two dashes. -/
def read (s : Scan) : List String → Except UsageError Scan
  | [] => .ok s
  | word :: rest =>
      match word.toList with
      | ['-', '-'] => if rest.isEmpty then .ok s else .error .unknownArgument
      | '-' :: '-' :: cs => do (← s.meetLong cs).read rest
      | ['-'] => do (← s.meetWord word).read rest
      | '-' :: cs => do (← s.meetLetters cs).read rest
      | _ => do (← s.meetWord word).read rest

/-- The arguments as a whole: a schema file and a binary exclude each other, and the output directory and a
provider are required. -/
def finish (s : Scan) : Except UsageError GenerateArgs := do
  let s ← s.settle
  if s.schema.isSome && s.terraform.isSome then .error .conflict
  else
    match s.out, s.providers with
    | none, _ => .error .missingRequired
    | _, [] => .error .missingRequired
    | some out, providers =>
        .ok ⟨out, s.modulePath.getD ModulePath.standard.display, s.force, providers, s.schema,
          s.terraform.getD "terraform", s.timeout.getD (Request.standardTimeout / 1000)⟩

end Scan

def isCommand (word : String) : Bool := word = "generate" || word = "help"

/-- Arguments behind `help` must be commands, none below another one. -/
def helpError : List String → UsageError
  | [] => .help
  | [word] => if isCommand word then .help else .invalidSubcommand
  | _ => .invalidSubcommand

def refuse (word : String) (rest : List String) : UsageError :=
  match word.toList with
  | ['-', '-'] =>
      match rest with
      | [] => .helpOnMissing
      | next :: _ => if isCommand next then .unknownArgument else .invalidSubcommand
  | '-' :: '-' :: cs =>
      let name := String.ofList (cs.takeWhile (· ≠ '='))
      if name ≠ "help" ∧ name ≠ "version" then .unknownArgument
      else if cs.contains '=' then .tooManyValues
      else if name = "help" then .help
      else .version
  | '-' :: 'h' :: _ => .help
  | '-' :: 'V' :: _ => .version
  | '-' :: _ :: _ => .unknownArgument
  | _ => .invalidSubcommand

def parse : List String → Except UsageError GenerateArgs
  | [] => .error .helpOnMissing
  | word :: rest =>
      if word = "generate" then do (← Scan.empty.read rest).finish
      else if word = "help" then .error (helpError rest)
      else .error (refuse word rest)

end CommandLine

namespace GenerateArgs

inductive Fault where
  | config (e : ConfigError)
  | noTime
  deriving DecidableEq, Repr

def Fault.message : Fault → String
  | .config e => "error: " ++ e.message
  | .noTime => "error: --timeout must be at least one second"

def request (a : GenerateArgs) : Except Fault Request :=
  match parseProviderSpecs a.providers with
  | .error e => .error (.config e)
  | .ok providers =>
      match ModulePath.ofString? a.modulePath with
      | .error e => .error (.config e)
      | .ok mount =>
          if a.timeout = 0 then .error .noTime
          else .ok ⟨a.outDirectory, mount, a.force, providers, a.timeout * 1000⟩

def source (a : GenerateArgs) : SchemaSource :=
  match a.schema with
  | some path => .file path
  | none => .command a.terraform

end GenerateArgs

end ProviderBindings
