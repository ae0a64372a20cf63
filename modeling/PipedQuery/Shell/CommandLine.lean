import PipedQuery.Connection
import PipedQuery.Text.Cut

/-!
The arguments of the program. Every option has a value, given after an equals sign or as the next
argument, and may stand once. The arguments are taken in order, and the first that is wrong, or
that asks for the version or for help, decides.
-/

set_option autoImplicit false
set_option relaxedAutoImplicit false

namespace PipedQuery.Shell

structure Options where
  host : Option String := none
  port : Option Nat := none
  format : Option String := none
  user : Option String := none
  password : Option String := none
deriving DecidableEq

/-- What the arguments ask for. -/
inductive Invocation where
  | start (options : Options)
  | version
  | help
  | misuse
deriving DecidableEq

/-- The URL of an address; one without a scheme is reached over plain HTTP. -/
def baseUrl (address : String) : String :=
  if Text.beginsWith "http://" address || Text.beginsWith "https://" address then address
  else "http://" ++ address

namespace Options

def digits? (chars : List Char) : Option Nat :=
  if chars.isEmpty ∨ !chars.all Char.isDigit then none
  else some (chars.foldl (fun value c ↦ value * 10 + (c.toNat - 48)) 0)

/-- A port number, with an optional sign. -/
def port? (text : String) : Option Nat :=
  let value := match text.toList with
    | '+' :: rest => digits? rest
    | '-' :: rest => (digits? rest).filter (· = 0)
    | chars => digits? chars
  value.filter (· < 65536)

/-- Sets an option that has no value yet. -/
def set (options : Options) (name value : String) : Option Options :=
  match name with
  | "--host" => if options.host.isSome then none else some { options with host := some value }
  | "--port" =>
    if options.port.isSome then none
    else (port? value).map fun port ↦ { options with port := some port }
  | "--format" =>
    if options.format.isSome then none else some { options with format := some value }
  | "--user" => if options.user.isSome then none else some { options with user := some value }
  | "--password" =>
    if options.password.isSome then none else some { options with password := some value }
  | _ => none

def names : List String := ["--host", "--port", "--format", "--user", "--password"]

/-- An argument that can be the value of the option before it. -/
def isValue (argument : String) : Bool :=
  argument = "-" || !Text.beginsWith "-" argument

/-- A password makes no sense without a user. -/
def finish (options : Options) : Invocation :=
  if options.password.isSome && options.user.isNone then .misuse else .start options

def parse (options : Options) : List String → Invocation
  | [] => options.finish
  | argument :: rest =>
    if argument = "--version" ∨ Text.beginsWith "-V" argument then .version
    else if argument = "--help" ∨ Text.beginsWith "-h" argument then .help
    else if argument = "--" then if rest.isEmpty then options.finish else .misuse
    else match Text.cut '=' argument with
      | some (name, value) =>
        match options.set name value with
        | some options => parse options rest
        | none => .misuse
      | none =>
        if names.contains argument then
          match rest with
          | value :: rest =>
            if isValue value then
              match options.set argument value with
              | some options => parse options rest
              | none => .misuse
            else .misuse
          | [] => .misuse
        else .misuse

def credentials (options : Options) : Credentials :=
  match options.user with
  | some username => .basic username (options.password.getD "")
  | none => .none

/-- The connection that the options describe. -/
def connection (options : Options) : Connection :=
  let host := options.host.getD "localhost"
  let port := options.port.getD 9200
  { baseUrl := baseUrl (host ++ ":" ++ toString port)
    credentials := options.credentials }

end Options
end PipedQuery.Shell
