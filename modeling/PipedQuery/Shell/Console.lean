import PipedQuery.Engine
import PipedQuery.Shell.CommandLine
import PipedQuery.Shell.Listing
import PipedQuery.Shell.Paint
import PipedQuery.Text.Blank
import PipedQuery.Text.Cluster

/-!
The interactive shell. A line is a query, whose suggestions are listed, or a command to the shell
itself. What a line does is a function of the console before it and of the transport: the console
after it, the output and the requests made.
-/

set_option autoImplicit false
set_option relaxedAutoImplicit false

namespace PipedQuery.Shell

inductive Output where
  | line (text : String)
  | errorLine (text : String)
  | prompt (text : String)
  /-- The time that the query took; the host knows it. -/
  | elapsed
deriving DecidableEq

/-- An engine with the client that it fetches through. -/
structure Slot where
  engine : Engine
  client : Client
deriving DecidableEq

structure Console where
  connection : Connection
  client : Client
  slot : Slot
  format : Format
  showsTime : Bool := false
  coloured : Bool := false
deriving DecidableEq

/-- What one line does. -/
structure Turn where
  console : Console
  output : List Output := []
  requests : List HttpRequest := []
  /-- The engine that was given up, if one was. -/
  retired : Option Engine := none
  /-- The shell ends. -/
  ends : Bool := false

structure Transcript where
  exit : Nat
  output : List Output := []
  requests : List HttpRequest := []

def versionNumber : String := "0.1.0"

/-- The name of a position in messages. -/
def positionName : Position → String
  | .firstCommand => "FirstCommand"
  | .pipeCommand => "PipeCommand"
  | .fieldListContinuation => "FieldListContinuation"
  | .equalsAfterSource => "EqualsAfterSource"
  | .indexName => "IndexName"
  | .inlineIndexName keyword =>
    "InlineIndexName \x7b keyword: " ++ Json.quoted keyword ++ " \x7d"
  | .pipeSeparatorAfterIndex => "PipeSeparatorAfterIndex"
  | .sourceKeyword => "SourceKeyword"
  | .statsFunction => "StatsFunction"
  | .statsFieldArg => "StatsFieldArg"
  | .statsByKeyword => "StatsByKeyword"
  | .statsGroupField => "StatsGroupField"
  | .fieldsFirst => "FieldsFirst"
  | .dedupField => "DedupField"
  | .whereField => "WhereField"
  | .whereEquals => "WhereEquals"
  | .whereValue => "WhereValue"
  | .clauseComplete => "ClauseComplete"
  | .fieldListOrPipe => "FieldListOrPipe"
  | .none => "None"

/-- The commands that the help text explains. -/
def helpEntries : List (String × String) :=
  [("\\connect <host:port>", "Change cluster connection"),
    ("\\indices            ", "List indices offered for completion"),
    ("\\fields [index]     ", "List fields of an index (default: active)"),
    ("\\session            ", "Show the completion session state"),
    ("\\refresh            ", "Start a fresh session and refetch metadata"),
    ("\\format <fmt>       ", "Set output format (table|json|csv)"),
    ("\\timing             ", "Toggle completion timing display"),
    ("\\status             ", "Show cluster identity"),
    ("\\help               ", "Show this help message"),
    ("\\quit / \\q          ", "Exit the shell")]

namespace Slot

def new (client : Client) : Slot :=
  ⟨{}, client⟩

end Slot

namespace Console

/-- A console on a new engine. -/
def start (connection : Connection) (format : Format) (coloured : Bool) :
    Except ClientError Console := do
  let client ← Client.connect connection
  return { connection, client, slot := .new client, format, coloured }

/-- The same console at another address, on a new engine, and the old engine, which is closed so
that late answers are lost. -/
def reconnect (console : Console) (address : String) :
    Except ClientError (Console × Engine) := do
  let connection := { console.connection with baseUrl := baseUrl address }
  let client ← Client.connect connection
  return ({ console with connection, client, slot := .new client }, console.slot.engine.close)

def paint (console : Console) (style : Style) (text : String) : String :=
  style.paint console.coloured text

def complaint (console : Console) (text : String) : Output :=
  .errorLine (console.paint .error "Error:" ++ " " ++ text)

def address (console : Console) : String :=
  console.client.url.text

def engine (console : Console) : Engine :=
  console.slot.engine

def withEngine (console : Console) (engine : Engine) : Console :=
  { console with slot := { console.slot with engine } }

def gateway (console : Console) (transport : Transport) : Gateway :=
  console.slot.client.gateway transport

def sent (console : Console) (calls : List Request) : List HttpRequest :=
  calls.map console.slot.client.callRequest

def listing (console : Console) (listing : Listing) : Output :=
  .line (listing.render console.format)

/-- Lists the suggestions for a query. -/
def suggest (transport : Transport) (console : Console) (query : String) : Turn :=
  let served := console.engine.serve (console.gateway transport) query
  let shown := match served.batch.items with
    | [] =>
      .line (console.paint .faint
        ("No suggestions at " ++ positionName served.batch.position ++ "."))
    | items => console.listing (.ofSuggestions items)
  { console := console.withEngine served.engine
    output := shown :: (if console.showsTime then [.elapsed] else [])
    requests := console.sent served.calls }

/-- Lists the known indices, and asks for them first if there are none. -/
def showIndices (transport : Transport) (console : Console) : Turn :=
  let resolved :=
    if console.engine.catalog.indices.isEmpty then
      console.engine.resolve (console.gateway transport) [] [.indices]
    else ⟨console.engine, [], []⟩
  let shown := match resolved.engine.catalog.indices with
    | [] => console.complaint ("no indices available from " ++ console.address)
    | names => console.listing (.ofIndices names)
  { console := console.withEngine resolved.engine
    output := [shown]
    requests := console.sent resolved.calls }

/-- Lists the fields of an index, and asks for them first if they are not resident. -/
def showFieldsOf (transport : Transport) (console : Console) (index : String) : Turn :=
  let resolved :=
    if (console.engine.catalog.fieldsOf index).isSome then ⟨console.engine, [], []⟩
    else console.engine.resolve (console.gateway transport) [] [.fields index]
  let shown := match resolved.engine.catalog.fieldsOf index with
    | some fields => console.listing (.ofFields ⟨index, fields⟩)
    | none => console.complaint ("could not load fields for " ++ index)
  { console := console.withEngine resolved.engine
    output := [shown]
    requests := console.sent resolved.calls }

/-- Lists the fields of the named index, or of the active one. -/
def showFields (transport : Transport) (console : Console) (index : String) : Turn :=
  if index.isEmpty then
    match console.engine.session.activeIndex with
    | some active => console.showFieldsOf transport active
    | none => { console, output := [.line "No active index. Usage: \\fields <index>"] }
  else console.showFieldsOf transport index

def showStatus (transport : Transport) (console : Console) : Turn :=
  let shown := match console.client.info transport with
    | .ok info => console.listing (.ofCluster info)
    | .error error =>
      console.complaint
        ("Cluster at " ++ console.address ++ " is unreachable: " ++ error.message)
  { console, output := [shown], requests := [console.client.rootRequest] }

def changeAddress (console : Console) (address : String) : Turn :=
  if address.isEmpty then
    { console
      output := [.line ("Current connection: " ++ console.paint .address console.address),
        .line "Usage: \\connect <host:port>"] }
  else match console.reconnect address with
    | .ok (changed, retired) =>
      { console := changed
        output := [.line ("Connected to " ++ changed.address)]
        retired := some retired }
    | .error error => { console, output := [console.complaint error.message] }

def changeFormat (console : Console) (name : String) : Turn :=
  if name.isEmpty then
    { console
      output := [.line ("Current format: " ++ console.format.name),
        .line "Usage: \\format <table|json|csv>"] }
  else match Format.parse name with
    | .ok format =>
      { console := { console with format }, output := [.line ("Output format: " ++ format.name)] }
    | .error problem => { console, output := [console.complaint problem] }

def help (console : Console) : List Output :=
  let title := fun text ↦ Output.line (console.paint .title text)
  [.line "", title "  Meta-Commands", .line ""] ++
    helpEntries.map (fun (command, meaning) ↦
      .line ("  " ++ console.paint .command command ++ "  " ++ meaning)) ++
    [.line "", title "  Query Input", .line "",
      .line "  Type a PPL query. Tab completes the token under the cursor;",
      .line "  Enter lists every suggestion for the line as typed, including",
      .line "  trailing spaces.", .line ""]

/-- A command to the shell, which begins with a backslash. -/
def command (transport : Transport) (console : Console) (line : String) : Turn :=
  let (name, argument) := match Text.cutAtBlank line with
    | some (name, rest) => (name, Text.trim rest)
    | none => (line, "")
  match name with
  | "\\quit" | "\\q" => { console, output := [.line "Goodbye."], ends := true }
  | "\\help" | "\\h" | "\\?" => { console, output := console.help }
  | "\\connect" => console.changeAddress argument
  | "\\indices" => console.showIndices transport
  | "\\fields" => console.showFields transport argument
  | "\\session" => { console, output := [console.listing (.ofSession console.engine.session)] }
  | "\\refresh" =>
    { console := console.withEngine console.engine.reset
      output := [.line "Session reset. Metadata will be fetched again."] }
  | "\\timing" =>
    { console := { console with showsTime := !console.showsTime }
      output := [.line ("Timing display: " ++ if console.showsTime then "off" else "on")] }
  | "\\format" => console.changeFormat argument
  | "\\status" => console.showStatus transport
  | _ =>
    { console
      output := [console.complaint
        ("Unknown command: " ++ name ++ ". Type \\help for available commands.")] }

/-- One line of input. Blanks around a command do not count, those of a query do. -/
def turn (transport : Transport) (console : Console) (line : String) : Turn :=
  let trimmed := Text.trim line
  if trimmed.isEmpty then { console }
  else if Text.beginsWith "\\" trimmed then console.command transport trimmed
  else console.suggest transport line

/-- One line of the startup file. A query there only fills the catalog, and a command cannot end
the shell. -/
def startupTurn (transport : Transport) (console : Console) (line : String) : Turn :=
  let trimmed := Text.trim line
  if trimmed.isEmpty || Text.beginsWith "#" trimmed then { console }
  else if Text.beginsWith "\\" trimmed then
    { console.command transport trimmed with ends := false }
  else { console.suggest transport line with output := [] }

def banner (console : Console) : List Output :=
  let faint := console.paint .faint
  let key := console.paint .command
  [.line "", .line (console.paint .title "  PPL Autocomplete Shell"),
    .line ("  " ++ faint "Version:" ++ " " ++ versionNumber),
    .line ("  " ++ faint "Cluster:" ++ " " ++ console.address),
    .line ("  " ++ faint "Format: " ++ " " ++ console.format.name), .line "",
    .line ("  Press " ++ key "Tab" ++ " to complete, " ++ key "Enter" ++
      " to list suggestions, " ++ key "\\help" ++ " for help."), .line ""]

def prompt (console : Console) : Output :=
  .prompt (console.paint .prompt "ppl>" ++ " ")

/-- The startup lines, one after another. -/
def startup (transport : Transport) (console : Console) : List String → Turn
  | [] => { console }
  | line :: rest =>
    let first := console.startupTurn transport line
    let others := startup transport first.console rest
    { others with
      output := first.output ++ others.output
      requests := first.requests ++ others.requests }

/-- The input lines as they are typed, one after another, up to the end of the input or of the
shell. -/
def read (transport : Transport) (console : Console) : List String → Turn
  | [] => { console, output := [console.prompt, .line "Goodbye."], ends := true }
  | line :: rest =>
    let first := console.turn transport (Text.typed line)
    if first.ends then { first with output := console.prompt :: first.output }
    else
      let others := read transport first.console rest
      { others with
        output := console.prompt :: first.output ++ others.output
        requests := first.requests ++ others.requests }

end Console

/-- The lines of a text. A line feed ends a line, together with a carriage return before it. -/
def linesOf (text : String) : List String :=
  let dropReturn := fun (line : List Char) ↦
    if line.getLast? = some '\r' then line.dropLast else line
  match (Text.stretches '\n' text.toList).reverse with
  | [] => []
  | [] :: ended => ended.reverse.map fun line ↦ String.ofList (dropReturn line)
  | unended :: ended =>
    (ended.reverse.map fun line ↦ String.ofList (dropReturn line)) ++ [String.ofList unended]

/-- The default format and a warning, when the format is unknown. -/
def startFormat (options : Options) : Format × List Output :=
  match Format.parse (options.format.getD "table") with
  | .ok format => (format, [])
  | .error problem =>
    (.table, [.errorLine ("Warning: " ++ problem ++ ". Defaulting to table format.")])

def usage : List String :=
  ["Interactive PPL autocomplete shell", "", "Usage: ppl [OPTIONS]", "", "Options:",
    "      --host <HOST>          Cluster host name, optionally with an `http://` or `https://` scheme [default: localhost]",
    "      --port <PORT>          Cluster REST port [default: 9200]",
    "      --format <FORMAT>      Default output format (table, json, csv) [default: table]",
    "      --user <USER>          Username for HTTP Basic authentication",
    "      --password <PASSWORD>  Password for HTTP Basic authentication",
    "  -h, --help                 Print help",
    "  -V, --version              Print version"]

/-- A console for the options, with what is printed before it. -/
def begin (options : Options) (coloured : Bool) : Except (List Output) (Console × List Output) :=
  let (format, warnings) := startFormat options
  match Console.start options.connection format coloured with
  | .ok console => .ok (console, warnings ++ console.banner)
  | .error error =>
    .error (warnings ++
      [.errorLine (Style.error.paint coloured "Error:" ++ " " ++ error.message)])

/-- The program from its arguments to its end. -/
def run (transport : Transport) (coloured : Bool) (arguments : List String)
    (startupFile : Option String) (input : String) : Transcript :=
  match Options.parse {} arguments with
  | .misuse => { exit := 2 }
  | .version => { exit := 0, output := [.line ("ppl " ++ versionNumber)] }
  | .help => { exit := 0, output := usage.map .line }
  | .start options =>
    match begin options coloured with
    | .error output => { exit := 1, output }
    | .ok (console, opening) =>
      let started := console.startup transport (linesOf (startupFile.getD ""))
      let ended := started.console.read transport (linesOf input)
      { exit := 0
        output := opening ++ started.output ++ ended.output
        requests := started.requests ++ ended.requests }

end PipedQuery.Shell
