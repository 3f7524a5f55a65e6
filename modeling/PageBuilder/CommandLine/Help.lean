/-!
# Help

How the program is used, as it is told to whoever asks for help (`Command.helpText`).
-/

namespace PageBuilder.Command

/-- How the program is used. -/
def generalHelp : String :=
  "Block-based page builder core: component catalog, renderer, chart geometry and editor forms\n" ++
    "\nUsage: tessera <COMMAND>\n\nCommands:\n" ++
    "  serve       Run the project API and preview server\n" ++
    "  render      Render a project file to a standalone HTML page\n" ++
    "  components  List component types\n" ++
    "  schema      Print the properties form of a component type as JSON\n" ++
    "  help        Print this message or the help of the given subcommand(s)\n" ++
    "\nOptions:\n  -h, --help     Print help\n  -V, --version  Print version\n"

/-- How `serve` is used. -/
def serveHelp : String :=
  "Run the project API and preview server\n\nUsage: tessera serve [OPTIONS]\n\nOptions:\n" ++
    "      --listen <LISTEN>          Address to listen on [default: 127.0.0.1:8080]\n" ++
    "      --upload-dir <UPLOAD_DIR>  Directory for uploaded images [default: uploads]\n" ++
    "      --data-dir <DATA_DIR>      " ++
    "Directory to persist projects in (in-memory when omitted)\n" ++
    "      --plan <PLAN>              Subscription plan, which sets the component limit " ++
    "[default: free] [possible values: free, pro]\n" ++
    "  -h, --help                     Print help\n"

/-- How `render` is used. -/
def renderHelp : String :=
  "Render a project file to a standalone HTML page\n\n" ++
    "Usage: tessera render [OPTIONS] <INPUT>\n\nArguments:\n" ++
    "  <INPUT>  Project JSON (`\x7bname, content, settings\x7d`) or an instance list\n" ++
    "\nOptions:\n  -o, --output <FILE>  Output file (stdout when omitted)\n" ++
    "  -h, --help           Print help\n"

/-- How `components` is used. -/
def componentsHelp : String :=
  "List component types\n\nUsage: tessera components\n\nOptions:\n  -h, --help  Print help\n"

/-- How `schema` is used. -/
def schemaHelp : String :=
  "Print the properties form of a component type as JSON\n\n" ++
    "Usage: tessera schema <TYPE_NAME>\n\nArguments:\n" ++
    "  <TYPE_NAME>  Component type name, e.g. \"hero\"\n" ++
    "\nOptions:\n  -h, --help  Print help\n"

/-- How `help` is used. -/
def helpHelp : String :=
  "Print this message or the help of the given subcommand(s)\n\n" ++
    "Usage: tessera help [COMMAND]...\n\n" ++
    "Arguments:\n  [COMMAND]...  Print help for the subcommand(s)\n"

/-- How a command is used, or the program as a whole. -/
def helpText : Option String → String
  | some "serve" => serveHelp
  | some "render" => renderHelp
  | some "components" => componentsHelp
  | some "schema" => schemaHelp
  | some "help" => helpHelp
  | _ => generalHelp

end PageBuilder.Command
