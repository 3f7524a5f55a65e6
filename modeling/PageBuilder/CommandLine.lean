import PageBuilder.CommandLine.Help
import PageBuilder.Form.Of
import PageBuilder.Form.Writer
import PageBuilder.Catalog.Writer
import PageBuilder.Page
import PageBuilder.Project.Basic
import PageBuilder.Site.Plan

/-!
# The command line

Arguments are read into a command (`Command.ofArguments?`), which is then carried out on the files
it names (`Command.run`).  Arguments count in their order: the first that is wrong makes
the whole line wrong, unless help was asked for before it.
-/

namespace PageBuilder

/-! ## Commands -/

/-- How a site is served. -/
structure ServeOptions where
  listen : String := "127.0.0.1:8080"
  uploads : String := "uploads"
  /-- Where projects are kept; in memory only if there is no such place. -/
  data : Option String := none
  plan : Plan := .free
deriving DecidableEq, Repr

/-- What a command line asks for. -/
inductive Command where
  /-- Help about a command, or about the program as a whole. -/
  | help (topic : Option String)
  | version
  | serve (options : ServeOptions)
  | render (input : String) (output : Option String)
  | components
  /-- The form of a new component of a kind. -/
  | form (typeName : String)
deriving DecidableEq, Repr

namespace Command

/-! ## Arguments -/

/-- What an argument is, where options are possible. -/
inductive Argument where
  | positional (value : String)
  /-- An option, its name with its hyphens, and the value that is attached to it, if there is
  one. -/
  | option (name : String) (value : Option String)
  /-- Two hyphens: what follows is positional. -/
  | separator
deriving DecidableEq, Repr

/-- Reads an argument.  A long option has its value after an equals sign; a short one right after
its letter, with or without an equals sign.  A single hyphen is no option. -/
def Argument.ofText (s : String) : Argument :=
  match s.toList with
  | ['-', '-'] => .separator
  | '-' :: '-' :: cs =>
      let name := "--" ++ String.ofList (cs.takeWhile (· != '='))
      match cs.dropWhile (· != '=') with
      | [] => .option name none
      | _ :: value => .option name (some (String.ofList value))
  | '-' :: c :: cs =>
      let name := String.ofList ['-', c]
      match cs with
      | [] => .option name none
      | '=' :: value => .option name (some (String.ofList value))
      | value => .option name (some (String.ofList value))
  | _ => .positional s

/-- What was found on a line: the positional values and the options with their values. -/
structure Arguments where
  positionals : List String := []
  options : List (String × String) := []
deriving DecidableEq, Repr

/-- What a command takes: how many values, the options, and which values may be given. -/
structure Signature where
  positionals : Nat
  /-- The names of each option, the one it is kept under first. -/
  options : List (List String)
  /-- Whether a value may be given for an option; a positional value has no name. -/
  accepts : String → String → Bool

/-- Whether an option asks for help. -/
def asksForHelp (name : String) (value : Option String) : Bool :=
  name = "-h" || (name = "--help" && value.isNone)

/-- Takes a positional value, if one more is expected. -/
def Signature.takePositional (sig : Signature) (found : Arguments) (value : String) :
    Option Arguments :=
  if found.positionals.length < sig.positionals && sig.accepts "" value then
    some { found with positionals := found.positionals ++ [value] }
  else none

/-- Takes an option, which may stand on a line once. -/
def Signature.takeOption (sig : Signature) (found : Arguments) (name value : String) :
    Option Arguments := do
  let key ← (← sig.options.find? (·.contains name)).head?
  if (found.options.lookup key).isNone && sig.accepts key value then
    some { found with options := found.options ++ [(key, value)] }
  else none

/-- What was found at the end of a line, if nothing is missing. -/
def Signature.finish (sig : Signature) (found : Arguments) : Option (Option Arguments) :=
  if found.positionals.length = sig.positionals then some (some found) else none

/-- Reads the arguments of a command.  The inner `none` stands for a request for help. -/
def Signature.read (sig : Signature) : Arguments → List String → Option (Option Arguments)
  | found, [] => sig.finish found
  | found, s :: rest =>
      match Argument.ofText s with
      | .positional value =>
          match sig.takePositional found value with
          | some found => sig.read found rest
          | none => none
      | .separator => (rest.foldlM sig.takePositional found).bind sig.finish
      | .option name value =>
          if asksForHelp name value then some none
          else
            match value, rest with
            | some value, rest =>
                match sig.takeOption found name value with
                | some found => sig.read found rest
                | none => none
            | none, [] => none
            | none, next :: rest =>
                match Argument.ofText next, sig.takeOption found name next with
                | .positional _, some found => sig.read found rest
                | _, _ => none

/-! ## Command lines -/

/-- What `serve` takes. -/
def serveSignature : Signature where
  positionals := 0
  options := [["--listen"], ["--upload-dir"], ["--data-dir"], ["--plan"]]
  accepts name value :=
    if name = "--plan" then (Plan.ofName? value).isSome
    else name = "--listen" || value != ""

/-- What `render` takes. -/
def renderSignature : Signature where
  positionals := 1
  options := [["--output", "-o"]]
  accepts _ value := value != ""

/-- What a command with some values and no options takes. -/
def plainSignature (positionals : Nat) : Signature where
  positionals
  options := []
  accepts _ _ := true

/-- The options of `serve`. -/
def serveOptions (found : Arguments) : ServeOptions :=
  let given (name : String) := found.options.lookup name
  { listen := (given "--listen").getD "127.0.0.1:8080"
    uploads := (given "--upload-dir").getD "uploads"
    data := given "--data-dir"
    plan := ((given "--plan").bind Plan.ofName?).getD .free }

/-- The names of the commands. -/
def names : List String := ["serve", "render", "components", "schema", "help"]

/-- The command with a name and arguments. -/
def ofName? (name : String) (arguments : List String) : Option Command := do
  let read (sig : Signature) (command : Arguments → Option Command) : Option Command := do
    match ← sig.read {} arguments with
    | none => some (.help (some name))
    | some found => command found
  match name with
  | "serve" => read serveSignature fun found => some (.serve (serveOptions found))
  | "render" =>
      read renderSignature fun found => do
        some (.render (← found.positionals.head?) (found.options.lookup "--output"))
  | "components" => read (plainSignature 0) fun _ => some .components
  | "schema" => read (plainSignature 1) fun found => do some (.form (← found.positionals.head?))
  | "help" =>
      match arguments with
      | [] => some (.help none)
      | [topic] => if topic ∈ names then some (.help (some topic)) else none
      | _ => none
  | _ => none

/-- The command of a line. -/
def ofArguments? : List String → Option Command
  | [] => none
  | s :: rest =>
      match Argument.ofText s with
      | .positional name => ofName? name rest
      | .separator => none
      | .option name value =>
          if asksForHelp name value then some (.help none)
          else if name = "-V" || (name = "--version" && value.isNone) then some .version
          else none

/-! ## Carrying out a command -/

/-- The files around a command. -/
structure Files where
  /-- The text of a file, if it can be read. -/
  read : String → Option String
  /-- Whether a text can be written to a file. -/
  isWritable : String → Bool

/-- What a command leaves behind. -/
structure Outcome where
  code : Nat
  /-- What is printed. -/
  output : String := ""
  /-- What went wrong. -/
  complaint : Option String := none
  /-- The file that is written, and its text. -/
  saved : Option (String × String) := none
deriving DecidableEq, Repr

/-- The outcome of a command that failed. -/
def Outcome.failed (e : Error) : Outcome := { code := 1, complaint := some e.message }

/-- The outcome of a line that is no command. -/
def Outcome.misuse : Outcome := { code := 2 }

/-- The page of a text: of a project, or of a list of components with the default settings. -/
def pageOfText (s : String) : Except Error String :=
  match Json.Shape.any.read s with
  | .error _ => .error .unreadableJson
  | .ok _ =>
      match Project.Record.shape.read s with
      | .ok r =>
          let p := r.project
          .ok (Page.html p.components p.settings)
      | .error _ =>
          match (Json.Shape.list Component.shape).read s with
          | .ok list => .ok (Page.html list {})
          | .error _ => .error .unreadableJson

/-- The text with blanks behind it, so that it is at least `width` long. -/
def padded (width : Nat) (s : String) : String :=
  s ++ String.ofList (List.replicate (width - s.length) ' ')

/-- The line of a kind in the list of kinds. -/
def kindLine (k : Kind) : String :=
  let lists := k.lists.map (·.name)
  "  " ++ padded 14 k.name ++ " " ++ k.label ++
    (if lists.isEmpty then "" else " [" ++ ", ".intercalate lists ++ "]") ++ "\n"

/-- The form of a new component of a kind. -/
def newForm (typeName : String) : Except Error PageBuilder.Form :=
  match Kind.ofName? typeName with
  | some kind => .ok (.of kind 1 kind.template)
  | none => .error (.unknownType typeName)

/-- The version of the program. -/
def versionText : String := "tessera 0.1.0\n"

/-- Carries out a command.  Nothing listens to a network here, so a site cannot be served. -/
def run (files : Files) : Command → Outcome
  | .help topic => { code := 0, output := helpText topic }
  | .version => { code := 0, output := versionText }
  | .serve options => .failed (.transport ("Failed to bind to " ++ options.listen))
  | .render input output =>
      match files.read input with
      | none => .failed .fileSystem
      | some s =>
          match pageOfText s with
          | .error e => .failed e
          | .ok html =>
              match output with
              | some path =>
                  if files.isWritable path then { code := 0, saved := some (path, html) }
                  else .failed .fileSystem
              | none => { code := 0, output := html }
  | .components => { code := 0, output := String.join (Kind.all.map kindLine) }
  | .form typeName =>
      match newForm typeName with
      | .ok f => { code := 0, output := f.toJson.indented 0 ++ "\n" }
      | .error e => .failed e

end Command

/-- Carries out a command line. -/
def runArguments (files : Command.Files) (arguments : List String) : Command.Outcome :=
  match Command.ofArguments? arguments with
  | some command => command.run files
  | none => .misuse

end PageBuilder
