import PipedQuery.Proofs.BaseUrl
import PipedQuery.Proofs.Words
import PipedQuery.Shell.Completion
import PipedQuery.Shell.Console

/-!
The shell and its cluster. A console holds its connection three times: as it was given, as a
client, and as the client behind the engine that the completion shares. A line does one of a few
things to a console (`Step`), and all but one of them leave the three alone; the one is a
connection that was accepted, which replaces them together. So they agree after every line
(`Coherent.follows`), whatever the lines are and however the cluster answers them.
-/

set_option autoImplicit false
set_option relaxedAutoImplicit false

namespace PipedQuery.Shell

/-- The name of a command and its argument, which may be empty. -/
def commandOf (line : String) : String × String :=
  match Text.cutAtBlank line with
  | some (name, rest) => (name, Text.trim rest)
  | none => (line, "")

theorem commandOf_cases {line name argument : String}
    (hcommand : commandOf line = (name, argument)) :
    (∃ rest, Text.cutAtBlank line = some (name, rest) ∧ argument = Text.trim rest) ∨
      Text.cutAtBlank line = none ∧ line = name ∧ argument = "" := by
  unfold commandOf at hcommand
  split at hcommand
  next found rest hcut =>
    obtain ⟨rfl, rfl⟩ := Prod.mk.inj hcommand
    exact Or.inl ⟨rest, hcut, rfl⟩
  next hcut =>
    obtain ⟨rfl, rfl⟩ := Prod.mk.inj hcommand
    exact Or.inr ⟨hcut, rfl, rfl⟩

/-- A line begins with the name of its command. -/
theorem beginsWith_of_commandOf {line name argument lead : String}
    (hcommand : commandOf line = (name, argument)) (hname : Text.beginsWith lead name = true) :
    Text.beginsWith lead line = true := by
  rcases commandOf_cases hcommand with ⟨rest, hcut, -⟩ | ⟨-, rfl, -⟩
  · rw [Text.beginsWith_iff] at hname ⊢
    unfold Text.cutAtBlank at hcut
    split at hcut
    next => cases hcut
    next =>
      obtain ⟨rfl, -⟩ := Prod.mk.inj (Option.some.inj hcut)
      rw [String.toList_ofList] at hname
      exact hname.trans (List.takeWhile_prefix _)
  · exact hname

namespace Console

variable {transport : Transport} {console later : Console} {line name argument : String}

/-! ### What a line does -/

/-- What can happen to a console, at the replies of a transport. -/
inductive Step (transport : Transport) (console : Console) : Console → Prop
  | displays (format : Format) (showsTime : Bool) :
    Step transport console { console with format, showsTime }
  | serves (query : String) :
    Step transport console
      (console.withEngine (console.engine.serve (console.gateway transport) query).engine)
  | fetches (requests : List Request) :
    Step transport console
      (console.withEngine (console.engine.resolve (console.gateway transport) [] requests).engine)
  | selects (suggestion : Suggestion) :
    Step transport console (console.withEngine (console.engine.select suggestion).engine)
  | resets : Step transport console (console.withEngine console.engine.reset)
  | connects {address : String} {changed : Console} {retired : Engine} :
    console.reconnect address = .ok (changed, retired) → Step transport console changed

namespace Step

theorem stays (transport : Transport) (console : Console) : Step transport console console :=
  .displays console.format console.showsTime

theorem suggest (transport : Transport) (console : Console) (query : String) :
    Step transport console (console.suggest transport query).console :=
  .serves query

theorem showIndices (transport : Transport) (console : Console) :
    Step transport console (console.showIndices transport).console := by
  simp only [Console.showIndices]
  split
  · exact .fetches [.indices]
  · exact stays transport console

theorem showFieldsOf (transport : Transport) (console : Console) (index : String) :
    Step transport console (console.showFieldsOf transport index).console := by
  simp only [Console.showFieldsOf]
  split
  · exact stays transport console
  · exact .fetches [.fields index]

theorem showFields (transport : Transport) (console : Console) (index : String) :
    Step transport console (console.showFields transport index).console := by
  unfold Console.showFields
  split
  · split
    · exact showFieldsOf transport console _
    · exact stays transport console
  · exact showFieldsOf transport console index

theorem changeAddress (transport : Transport) (console : Console) (address : String) :
    Step transport console (console.changeAddress address).console := by
  unfold Console.changeAddress
  split
  · exact stays transport console
  · split
    next changed retired haccepted => exact .connects haccepted
    next => exact stays transport console

theorem changeFormat (transport : Transport) (console : Console) (name : String) :
    Step transport console (console.changeFormat name).console := by
  unfold Console.changeFormat
  split
  · exact stays transport console
  · split
    next format _ => exact .displays format console.showsTime
    next => exact stays transport console

theorem command (transport : Transport) (console : Console) (line : String) :
    Step transport console (console.command transport line).console := by
  simp only [Console.command]
  split
  · exact stays transport console
  · exact stays transport console
  · exact stays transport console
  · exact stays transport console
  · exact stays transport console
  · exact changeAddress transport console _
  · exact showIndices transport console
  · exact showFields transport console _
  · exact stays transport console
  · exact .resets
  · exact .displays console.format !console.showsTime
  · exact changeFormat transport console _
  · exact stays transport console
  · exact stays transport console

theorem turn (transport : Transport) (console : Console) (line : String) :
    Step transport console (console.turn transport line).console := by
  simp only [Console.turn]
  split
  · exact stays transport console
  · split
    · exact command transport console (Text.trim line)
    · exact suggest transport console line

theorem startupTurn (transport : Transport) (console : Console) (line : String) :
    Step transport console (console.startupTurn transport line).console := by
  unfold Console.startupTurn
  extract_lets trimmed
  split_ifs
  · exact stays transport console
  · dsimp only
    exact command transport console trimmed
  · dsimp only
    exact suggest transport console line

end Step

/-! ### Lines in turn -/

/-- The later console comes after lines of the startup file, lines of input and completions between
them, in any order. What answers may be another transport each time, among those allowed. -/
inductive Follows (allowed : Transport → Prop) (console : Console) : Console → Prop
  | here : Follows allowed console console
  | startupLine {later : Console} {transport : Transport} :
    Follows allowed console later → allowed transport → (line : String) →
      Follows allowed console (later.startupTurn transport line).console
  | inputLine {later : Console} {transport : Transport} :
    Follows allowed console later → allowed transport → (line : String) →
      Follows allowed console (later.turn transport line).console
  | completed {later : Console} {transport : Transport} {line : String} {place : Nat}
    {completion : Completion} :
    Follows allowed console later → allowed transport →
      Completion.atByte (later.gateway transport) later.engine line place = some completion →
      Follows allowed console (later.withEngine completion.engine)

section

variable {allowed : Transport → Prop} {motive : Console → Prop}

/-- A completion leaves the engine alone, or it serves a query and may take what was offered. -/
theorem keeps_completed {line : String} {place : Nat} {completion : Completion}
    (hsteps : ∀ {before after}, Step transport before after → motive before → motive after)
    (hcompletion :
      Completion.atByte (console.gateway transport) console.engine line place = some completion)
    (hconsole : motive console) : motive (console.withEngine completion.engine) := by
  obtain ⟨before, -, rfl⟩ := Option.map_eq_some_iff.mp hcompletion
  split
  · split_ifs
    · exact hconsole
    · exact hconsole
  · unfold Completion.ofQuery
    extract_lets served
    have hserved : motive (console.withEngine served.engine) := hsteps (.serves _) hconsole
    split
    · exact hsteps (.fetches _) (hsteps (.selects _) hserved)
    · exact hserved

/-- What every step keeps holds after all of them. -/
theorem Follows.invariant (hfollows : Follows allowed console later)
    (hsteps : ∀ {transport before after}, allowed transport → Step transport before after →
      motive before → motive after)
    (hconsole : motive console) : motive later := by
  induction hfollows with
  | here => exact hconsole
  | startupLine _ hallowed line ih => exact hsteps hallowed (.startupTurn _ _ line) ih
  | inputLine _ hallowed line ih => exact hsteps hallowed (.turn _ _ line) ih
  | completed _ hallowed hcompletion ih => exact keeps_completed (hsteps hallowed) hcompletion ih

/-- The startup file is such a sequence of lines. -/
theorem Follows.startup (hfollows : Follows allowed console later) (hallowed : allowed transport)
    (lines : List String) : Follows allowed console (later.startup transport lines).console := by
  induction lines generalizing later with
  | nil => exact hfollows
  | cons line rest ih =>
    have hrest := ih (hfollows.startupLine hallowed line)
    simpa only [Console.startup] using hrest

/-- The input is such a sequence of lines, up to its end or to that of the shell. -/
theorem Follows.read (hfollows : Follows allowed console later) (hallowed : allowed transport)
    (lines : List String) : Follows allowed console (later.read transport lines).console := by
  induction lines generalizing later with
  | nil => exact hfollows
  | cons line rest ih =>
    have hline := hfollows.inputLine hallowed (Text.typed line)
    have hrest := ih hline
    simp only [Console.read]
    split_ifs
    · simpa only using hline
    · simpa only using hrest

end

/-! ### The cluster of a console -/

/-- The connection, the client and the client behind the engine are about one URL, and what else
they hold is that of the start. -/
structure Coherent (start : Connection) (console : Console) : Prop where
  connection : console.connection = { start with baseUrl := console.connection.baseUrl }
  address : Url.parse console.connection.baseUrl = .ok console.client.url
  client : console.client = ⟨console.client.url, start.credentials, start.timeout, start.sampleSize⟩
  slot : console.slot.client = console.client

variable {start : Connection}

theorem Coherent.of_same (hcoherent : console.Coherent start)
    (hconnection : later.connection = console.connection) (hclient : later.client = console.client)
    (hslot : later.slot.client = console.slot.client) : later.Coherent start := by
  obtain ⟨hrest, haddress, hparts, hshared⟩ := hcoherent
  refine ⟨?_, ?_, ?_, ?_⟩
  · rw [hconnection, ← hrest]
  · rw [hconnection, hclient, haddress]
  · rw [hclient, ← hparts]
  · rw [hslot, hclient, hshared]

/-- A client that was accepted is put in all three places. -/
theorem Coherent.of_connect {connection : Connection} {client : Client}
    (hclient : Client.connect connection = .ok client)
    (hconnection : connection = { start with baseUrl := connection.baseUrl })
    (hlater : later.connection = connection ∧ later.client = client ∧ later.slot.client = client) :
    later.Coherent start := by
  obtain ⟨rfl, rfl, hslot⟩ := hlater
  obtain ⟨haddress, hparts⟩ := Client.connect_eq_ok hclient
  rw [hconnection] at hparts
  exact ⟨hconnection, haddress, hparts, hslot⟩

/-- The connection to another address, with all else unchanged. -/
def toward (console : Console) (address : String) : Connection :=
  { console.connection with baseUrl := baseUrl address }

/-- The console with a new connection, its client and a new engine. -/
def onto (console : Console) (connection : Connection) (client : Client) : Console :=
  { console with connection, client, slot := ⟨{}, client⟩ }

theorem reconnect_eq (console : Console) (address : String) :
    console.reconnect address = match Client.connect (console.toward address) with
      | .error error => .error error
      | .ok client => .ok (console.onto (console.toward address) client, console.engine.close) := by
  change (Client.connect (console.toward address) >>= fun client ↦
    pure (console.onto (console.toward address) client, console.engine.close)) = _
  cases Client.connect (console.toward address) <;> rfl

/-- A console that was reconnected has a client that was accepted, and a new engine. -/
theorem reconnect_eq_ok {address : String} {retired : Engine}
    (haccepted : console.reconnect address = .ok (later, retired)) :
    ∃ client, Client.connect (console.toward address) = .ok client ∧
      later = console.onto (console.toward address) client := by
  rw [reconnect_eq] at haccepted
  split at haccepted
  next => cases haccepted
  next client hclient =>
    obtain ⟨rfl, -⟩ := Prod.mk.inj (Except.ok.inj haccepted)
    exact ⟨client, hclient, rfl⟩

theorem Coherent.step (hcoherent : console.Coherent start)
    (hstep : Step transport console later) : later.Coherent start := by
  cases hstep with
  | displays format showsTime => exact hcoherent.of_same rfl rfl rfl
  | serves query => exact hcoherent.of_same rfl rfl rfl
  | fetches requests => exact hcoherent.of_same rfl rfl rfl
  | selects suggestion => exact hcoherent.of_same rfl rfl rfl
  | resets => exact hcoherent.of_same rfl rfl rfl
  | connects haccepted =>
    obtain ⟨client, hclient, rfl⟩ := reconnect_eq_ok haccepted
    refine .of_connect hclient ?_ ⟨rfl, rfl, rfl⟩
    rw [toward, hcoherent.connection]

theorem Coherent.follows {allowed : Transport → Prop} (hcoherent : console.Coherent start)
    (hfollows : Follows allowed console later) : later.Coherent start :=
  hfollows.invariant (fun _ hstep hbefore ↦ hbefore.step hstep) hcoherent

/-- What a line does that names an address to connect to. If the address is rejected, the console
stays as it is and no engine is given up. If it is accepted, the console goes on with a new
connection, its client and a new engine, and the engine that it gives up is the old one, closed. -/
def Connects (console : Console) (address : String) (turn : Turn) : Prop :=
  match Client.connect (console.toward address) with
  | .error _ => turn.console = console ∧ turn.retired = none
  | .ok client =>
    turn.console = console.onto (console.toward address) client ∧
      ∃ retired, turn.retired = some retired ∧ retired = console.engine.close ∧
        retired.closed = true

theorem connects_changeAddress (console : Console) {address : String} (haddress : address ≠ "") :
    console.Connects address (console.changeAddress address) := by
  have hsome : address.isEmpty = false := by simpa using haddress
  unfold Connects
  simp only [changeAddress, hsome, reconnect_eq]
  cases Client.connect (console.toward address) with
  | error error => exact ⟨rfl, rfl⟩
  | ok client => exact ⟨rfl, console.engine.close, rfl, rfl, rfl⟩

theorem command_connect (hcommand : commandOf line = ("\\connect", argument)) :
    console.command transport line = console.changeAddress argument := by
  rcases commandOf_cases hcommand with ⟨rest, hcut, rfl⟩ | ⟨hcut, rfl, rfl⟩
  · simp only [command, hcut]
  · simp only [command, hcut]

/-- A line with a command is run as one, also in the startup file. -/
theorem turn_of_commandOf (hcommand : commandOf (Text.trim line) = (name, argument))
    (hname : Text.beginsWith "\\" name = true) (transport : Transport) (console : Console) :
    console.turn transport line = console.command transport (Text.trim line) ∧
      console.startupTurn transport line =
        { console.command transport (Text.trim line) with ends := false } := by
  have hslash := beginsWith_of_commandOf hcommand hname
  obtain ⟨rest, hrest⟩ := Text.beginsWith_iff.mp hslash
  have hsome : (Text.trim line).isEmpty = false := by
    rw [← Bool.not_eq_true, String.isEmpty_iff, ← String.toList_eq_nil_iff, ← hrest]
    simp
  have hcomment : Text.beginsWith "#" (Text.trim line) = false := by
    simp [Text.beginsWith, ← hrest, Text.dropLead]
  constructor
  · simp [turn, hsome, hslash]
  · simp [startupTurn, hsome, hcomment, hslash]

theorem connects_turn {address : String}
    (hcommand : commandOf (Text.trim line) = ("\\connect", address)) (haddress : address ≠ "")
    (transport : Transport) (console : Console) :
    console.Connects address (console.turn transport line) ∧
      console.Connects address (console.startupTurn transport line) := by
  obtain ⟨hturn, hstartup⟩ := turn_of_commandOf hcommand rfl transport console
  have hconnects := console.connects_changeAddress haddress
  rw [hturn, hstartup, command_connect hcommand]
  refine ⟨hconnects, ?_⟩
  unfold Connects at hconnects ⊢
  exact hconnects

/-- A console begins with the connection of the options, its client and a new engine. -/
theorem begin_eq_ok {options : Options} {coloured : Bool} {opening : List Output}
    (hbegin : begin options coloured = .ok (console, opening)) :
    Client.connect options.connection = .ok console.client ∧
      console.connection = options.connection ∧ console.slot = ⟨{}, console.client⟩ := by
  unfold begin at hbegin
  generalize startFormat options = chosen at hbegin
  obtain ⟨format, warnings⟩ := chosen
  dsimp only at hbegin
  split at hbegin
  next opened hopened =>
    obtain ⟨rfl, -⟩ := Prod.mk.inj (Except.ok.inj hbegin)
    unfold Console.start at hopened
    cases hclient : Client.connect options.connection with
    | error error =>
      rw [hclient] at hopened
      cases hopened
    | ok client =>
      rw [hclient] at hopened
      obtain rfl := Except.ok.inj hopened
      exact ⟨rfl, rfl, rfl⟩
  next => cases hbegin

/-- The shell always talks to one cluster. After any lines since its start the connection, the
client and the client behind the engine are about one URL, with the credentials and the sizes of the
start; and a line that names another address changes all of them or, if the address is rejected,
nothing. -/
theorem one_cluster {options : Options} {coloured : Bool} {opening : List Output}
    {allowed : Transport → Prop} (hbegin : begin options coloured = .ok (console, opening))
    (hfollows : Follows allowed console later) :
    later.Coherent options.connection ∧
      ∀ (transport : Transport) (line address : String),
        commandOf (Text.trim line) = ("\\connect", address) → address ≠ "" →
          later.Connects address (later.turn transport line) ∧
            later.Connects address (later.startupTurn transport line) := by
  obtain ⟨hclient, hconnection, hslot⟩ := begin_eq_ok hbegin
  have hstart : console.Coherent options.connection :=
    .of_connect hclient rfl ⟨hconnection, rfl, by rw [hslot]⟩
  refine ⟨hstart.follows hfollows, ?_⟩
  intro transport line address hcommand haddress
  exact connects_turn hcommand haddress transport later

/-- A client of this machine. -/
def localClient (port : Nat) : Client where
  url :=
    { scheme := "http"
      host := some (.address6 [0, 0, 0, 0, 0, 0, 0, 1])
      port := some port
      path := .segments [""] }
  credentials := .basic "reader" "secret"
  timeout := 30000
  sampleSize := 10

def localConsole (port : Nat) : Console where
  connection :=
    { baseUrl := "http://[::1]:" ++ toString port, credentials := .basic "reader" "secret" }
  client := localClient port
  slot := .new (localClient port)
  format := .json

def localOptions : Options where
  host := some "http://[::1]"
  format := some "json"
  user := some "reader"
  password := some "secret"

theorem begin_localOptions :
    begin localOptions false = .ok (localConsole 9200, (localConsole 9200).banner) := by
  decide +kernel

/-- The console after a move to another port and a query there. -/
def movedConsole : Console :=
  { (localConsole 9300).withEngine { generation := 1 } with showsTime := true }

/-- The query and the display outlast an address that is rejected, and all of the connection has
moved. -/
theorem one_cluster_moved :
    begin localOptions false = .ok (localConsole 9200, (localConsole 9200).banner) ∧
      (((localConsole 9200).startup (fun _ ↦ .unreachable) ["\\timing"]).console.read
        (fun _ ↦ .silent) ["\\connect [::1]:9300", "source = ", "\\connect [::1"]).console =
          movedConsole ∧
      movedConsole.Coherent localOptions.connection ∧
      movedConsole.Connects "[::1]:9200"
        (movedConsole.turn (fun _ ↦ .silent) "\\connect [::1]:9200") := by
  have hmoved :
      (((localConsole 9200).startup (fun _ ↦ .unreachable) ["\\timing"]).console.read
        (fun _ ↦ .silent) ["\\connect [::1]:9300", "source = ", "\\connect [::1"]).console =
          movedConsole := by
    decide +kernel
  have hfollows : Follows (fun _ ↦ True) (localConsole 9200) movedConsole := by
    rw [← hmoved]
    exact (Follows.here.startup trivial _).read trivial _
  obtain ⟨hcoherent, hconnects⟩ := one_cluster begin_localOptions hfollows
  exact ⟨begin_localOptions, hmoved, hcoherent,
    (hconnects _ _ _ (by decide +kernel) (by decide)).1⟩

end Console
end PipedQuery.Shell
