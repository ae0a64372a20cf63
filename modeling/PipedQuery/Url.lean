import PipedQuery.Url.Host

/-!
URLs by their parts. The path of a URL that can be a base is a list of escaped segments; `child`
goes below it and `atRoot` replaces it. `parse` reads the text form, in which spellings of one
URL become the same value, and `text` writes it.
-/

set_option autoImplicit false
set_option relaxedAutoImplicit false

namespace PipedQuery

namespace Url

inductive Path where
  /-- Segments, each after a slash. -/
  | segments (list : List String)
  /-- A text without structure; such a URL is no base. -/
  | flat (text : String)
deriving DecidableEq

end Url

structure Url where
  scheme : String
  username : String := ""
  password : Option String := none
  host : Option Url.Host := none
  port : Option Nat := none
  path : Url.Path
  query : Option String := none
  fragment : Option String := none
deriving DecidableEq

namespace Url

/-! Schemes -/

def defaultPort (scheme : String) : Option Nat :=
  if scheme = "http" ∨ scheme = "ws" then some 80
  else if scheme = "https" ∨ scheme = "wss" then some 443
  else if scheme = "ftp" then some 21
  else none

/-- Schemes whose URLs always have a host and where a backslash counts as a slash. -/
def isSpecial (scheme : String) : Bool :=
  (defaultPort scheme).isSome || scheme = "file"

/-! Paths -/

def isDot (segment : String) : Bool :=
  [".", "%2e", "%2E"].contains segment

def isDotDot (segment : String) : Bool :=
  ["..", ".%2e", ".%2E", "%2e.", "%2E.", "%2e%2e", "%2e%2E", "%2E%2e", "%2E%2E"].contains segment

/-- The name of a drive: a letter and a colon, or a bar in its place. -/
def isDrive (name : List Char) : Bool :=
  match name with
  | [letter, mark] => letter.isAlpha && (mark = ':' || mark = '|')
  | _ => false

/-- The segments above the last one. A drive, also one before a backslash, is not left. -/
def parent (segments : List String) : List String :=
  if segments.getLast?.any fun last ↦ isDrive (last.toList.takeWhile (· ≠ '\\')) then segments
  else segments.dropLast

/-- Resolves `.` and `..`; one at the end leaves an empty segment. -/
def resolveDots (above : List String) : List String → List String
  | [] => above
  | [last] =>
    if isDotDot last then parent above ++ [""]
    else if isDot last then above ++ [""]
    else above ++ [last]
  | segment :: rest =>
    if isDotDot segment then resolveDots (parent above) rest
    else if isDot segment then resolveDots above rest
    else resolveDots (above ++ [segment]) rest

/-- Without an empty last segment, unless it is the only one. -/
def dropEmptyLast (segments : List String) : List String :=
  if segments = [""] then segments
  else if segments.getLast? = some "" then segments.dropLast
  else segments

def isIgnored (c : Char) : Bool :=
  c = '\t' || c = '\n' || c = '\r'

/-- Without tabs and line ends, which do not count anywhere. -/
def cleaned (text : List Char) : List Char :=
  text.filter (!isIgnored ·)

/-- A text as one segment. -/
def segment (scheme : String) (text : List Char) : String :=
  String.ofList (Percent.encode
    (if isSpecial scheme then Percent.inSegment else Percent.inPlainSegment) text)

/-- Appends a text as one segment. The texts `.` and `..` append nothing, and an empty root
gives way to the first segment. -/
def append (scheme : String) (segments : List String) (text : String) : List String :=
  if text = "." ∨ text = ".." then segments
  else
    let above := if segments = [""] then [] else segments
    let chars := cleaned text.toList
    if chars = ['.', '.'] then parent above ++ [""]
    else if chars = ['.'] then above ++ [""]
    else above ++ [segment scheme chars]

def isBase (url : Url) : Bool :=
  match url.path with
  | .segments _ => true
  | .flat _ => false

def segments (url : Url) : List String :=
  match url.path with
  | .segments list => list
  | .flat _ => []

/-- The URL with texts appended below its path, each as one segment. -/
def child (url : Url) (texts : List String) : Url :=
  { url with path := .segments (texts.foldl (append url.scheme) (dropEmptyLast url.segments)) }

/-- The URL with another path and query under the same host. -/
def atRoot (url : Url) (segments : List String) (query : Option String) : Url :=
  { url with path := .segments segments, query, fragment := none }

/-! Text form -/

def pathText : Path → String
  | .segments list => String.join (list.map ("/" ++ ·))
  | .flat text => text

def userInfo (url : Url) : String :=
  match url.password with
  | some password => url.username ++ ":" ++ password ++ "@"
  | none => if url.username.isEmpty then "" else url.username ++ "@"

def authority (url : Url) : String :=
  match url.host with
  | some host =>
    "//" ++ url.userInfo ++ host.text ++
      (match url.port with | some port => ":" ++ toString port | none => "")
  | none =>
    match url.path with
    | .segments ("" :: _ :: _) => "/."
    | _ => ""

def text (url : Url) : String :=
  url.scheme ++ ":" ++ url.authority ++ pathText url.path ++
    (match url.query with | some query => "?" ++ query | none => "") ++
    (match url.fragment with | some fragment => "#" ++ fragment | none => "")

/-- The text that an escaped one stands for, if its bytes are one. -/
def unescaped (text : String) : Option String :=
  String.fromUTF8? ⟨(Percent.decode text.toList).toArray⟩

/-- The URL as a request names it: without credentials that can be read as texts. Those with an
unreadable user name, or with nothing but an unreadable password, stay. -/
def named (url : Url) : Url :=
  match unescaped url.username, url.password.bind unescaped with
  | none, _ => url
  | some username, password =>
    if username.isEmpty && password.isNone then url
    else { url with username := "", password := none }

/-! Reading -/

def isControlOrSpace (c : Char) : Bool :=
  c.toNat ≤ 32

/-- Without controls and spaces at the ends. -/
def trimmed (text : List Char) : List Char :=
  let left := text.dropWhile isControlOrSpace
  (left.reverse.dropWhile isControlOrSpace).reverse

def isSchemeChar (c : Char) : Bool :=
  c.isAlphanum || c = '+' || c = '-' || c = '.'

/-- The scheme in lower case, and what follows its colon. -/
def cutScheme (chars : List Char) : Option (String × List Char) :=
  match chars with
  | first :: _ =>
    if first.isAlpha then
      match chars.dropWhile isSchemeChar with
      | ':' :: rest =>
        some (String.ofList ((chars.takeWhile isSchemeChar).map Char.toLower), rest)
      | _ => none
    else none
  | [] => none

def isSlash (special : Bool) (c : Char) : Bool :=
  c = '/' || (special && c = '\\')

/-- The end of the authority. -/
def endsAuthority (special : Bool) (c : Char) : Bool :=
  isSlash special c || c = '?' || c = '#'

/-- The text before and after the last occurrence of a mark. -/
def cutLast (mark : Char) (chars : List Char) : Option (List Char × List Char) :=
  (Text.cutFirst mark chars.reverse).map fun (after, before) ↦ (before.reverse, after.reverse)

/-- The host up to a colon outside brackets, and the rest. -/
def cutHost (bracketed : Bool) : List Char → List Char × List Char
  | [] => ([], [])
  | c :: rest =>
    if c = ':' ∧ !bracketed then ([], c :: rest)
    else
      let inside := if c = '[' then true else if c = ']' then false else bracketed
      let (host, left) := cutHost inside rest
      (c :: host, left)

/-- A port number after its colon; the default one of the scheme is left out. -/
def parsePort (scheme : String) (digits : List Char) : Except Defect (Option Nat) :=
  if digits.isEmpty then .ok none
  else if digits.all Char.isDigit then
    match Host.numeral 10 digits with
    | some port =>
      if 65535 < port then .error .badPort
      else .ok (if defaultPort scheme = some port then none else some port)
    | none => .error .badPort
  else .error .badPort

def queryText (special : Bool) (chars : List Char) : String :=
  String.ofList (Percent.encode (if special then Percent.inSpecialQuery else Percent.inQuery) chars)

/-- The query and the fragment that follow a path. -/
def tail (special : Bool) (chars : List Char) : Option String × Option String :=
  let fragment := match chars.dropWhile (· ≠ '#') with
    | _ :: rest => some (String.ofList (Percent.encode Percent.inFragment rest))
    | [] => none
  let query := match chars with
    | '?' :: rest => some (queryText special (rest.takeWhile (· ≠ '#')))
    | _ => none
  (query, fragment)

def isPathEnd (c : Char) : Bool :=
  c = '?' || c = '#'

/-- The stretches between slashes. -/
def stretches (special : Bool) (chars : List Char) : List (List Char) :=
  Text.stretches '/' (chars.map fun c ↦ if isSlash special c then '/' else c)

def escaped (raw : List Char) : String :=
  String.ofList (Percent.encode Percent.inPath raw)

def dropSlash (special : Bool) (chars : List Char) : List Char :=
  match chars with
  | c :: rest => if isSlash special c then rest else chars
  | [] => []

def parsePath (special : Bool) (chars : List Char) : List String :=
  resolveDots [] ((stretches special (dropSlash special chars)).map escaped)

/-- The credentials before the last `@` of an authority. -/
def parseUserInfo (chars : List Char) : String × Option String :=
  let safe := fun (part : List Char) ↦ String.ofList (Percent.encode Percent.inUserInfo part)
  match Text.cutFirst ':' chars with
  | some (user, []) => (safe user, none)
  | some (user, password) => (safe user, some (safe password))
  | none => (safe chars, none)

/-- What follows the two slashes of a URL with an authority. A backslash after the port begins
the path. -/
def parseAuthority (scheme : String) (chars : List Char) : Except Defect Url := do
  let special := isSpecial scheme
  let authority := chars.takeWhile (!endsAuthority special ·)
  let rest := chars.dropWhile (!endsAuthority special ·)
  let (info, place) := match cutLast '@' authority with
    | some (info, place) => (some info, place)
    | none => (none, authority)
  let (username, password) := parseUserInfo (info.getD [])
  let (hostText, portText) := cutHost false place
  let hostExpected := special || !portText.isEmpty || !username.isEmpty || password.isSome ||
    (info = some [] && !rest.isEmpty)
  if hostText.isEmpty && hostExpected then throw .emptyHost
  let host ← if special then Host.parse hostText else Host.parsePlain hostText
  let port ← parsePort scheme ((portText.drop 1).takeWhile (· ≠ '\\'))
  let pathChars := portText.dropWhile (· ≠ '\\') ++ rest.takeWhile (!isPathEnd ·)
  let (query, fragment) := tail special (rest.dropWhile (!isPathEnd ·))
  let path := if pathChars.isEmpty ∧ !special then [] else parsePath special pathChars
  return { scheme, username, password, host := some host, port, path := .segments path, query,
           fragment }

/-- Without empty segments at the root. -/
def collapseRoot : List String → List String
  | "" :: second :: rest => collapseRoot (second :: rest)
  | segments => segments

/-- A drive and what follows it in one segment, where a character that does not count parts
them. -/
def partedDrive (raw : List Char) : Option (List Char × List Char) :=
  match raw.dropWhile isIgnored with
  | [] => none
  | letter :: rest =>
    match rest.dropWhile isIgnored with
    | ':' :: mark :: below =>
      if letter.isAlpha && isIgnored mark && !(cleaned below).isEmpty then
        some ([letter, ':'], cleaned below)
      else none
    | _ => none

/-- Resolves the path of a file, in which characters that do not count are left. A drive at the
root is written with a colon, and one that is parted from what follows is a segment by itself.
The result tells whether a drive that was not parted stands at the root. -/
def resolveFile (above : List String) (isLocal : Bool) : List (List Char) → List String × Bool
  | [] => (above, isLocal)
  | raw :: rest =>
    let text := cleaned raw
    let segment := escaped text
    let closing := if rest.isEmpty then [""] else []
    match if above.isEmpty then partedDrive raw else none with
    | some (drive, below) => resolveFile [String.ofList drive, escaped below] isLocal rest
    | none =>
      if isDotDot segment then resolveFile (parent above ++ closing) isLocal rest
      else if isDot segment then resolveFile (above ++ closing) isLocal rest
      else if above.isEmpty && isDrive text then
        resolveFile [String.ofList (text.take 1 ++ [':'])] true rest
      else resolveFile (above ++ [segment]) isLocal rest

/-- The host of a file URL after its two slashes, and the text of its path. The local machine is
the empty host; a drive in place of a host belongs to the path. -/
def fileHost (chars : List Char) : Except Defect (Host × List Char) := do
  let name := cleaned (chars.takeWhile (!endsAuthority true ·))
  let rest := chars.dropWhile (!endsAuthority true ·)
  if isDrive name then return (.domain "", chars)
  else if name.isEmpty then return (.domain "", rest)
  else
    let host ← Host.parse name
    if host = .domain "localhost" then return (.domain "", rest)
    else return (host, dropSlash true rest)

/-- What follows the colon of a file URL, in which characters that do not count are left. A path
that begins with a drive is local. -/
def parseFile (chars : List Char) : Except Defect Url := do
  let once := chars.dropWhile isIgnored
  let twice := (dropSlash true once).dropWhile isIgnored
  let (host, rest) ←
    if once.head?.any (isSlash true) && twice.head?.any (isSlash true) then
      fileHost (dropSlash true twice)
    else .ok (.domain "", dropSlash true once)
  let (resolved, isLocal) := resolveFile [] false (stretches true (rest.takeWhile (!isPathEnd ·)))
  let (query, fragment) := tail true (cleaned (rest.dropWhile (!isPathEnd ·)))
  return { scheme := "file", host := some (if isLocal then .domain "" else host),
           path := .segments (collapseRoot resolved), query, fragment }

/-- What follows the colon of a URL whose scheme has no rules of its own. -/
def parsePlain (scheme : String) (chars : List Char) : Except Defect Url :=
  match chars with
  | '/' :: '/' :: rest => parseAuthority scheme rest
  | _ =>
    let pathChars := chars.takeWhile (!isPathEnd ·)
    let (query, fragment) := tail false (chars.dropWhile (!isPathEnd ·))
    let path : Path := match pathChars with
      | '/' :: _ => .segments (parsePath false pathChars)
      | _ => .flat (String.ofList (Percent.encode (fun _ ↦ false) pathChars))
    .ok { scheme, path, query, fragment }

def parse (source : String) : Except Defect Url :=
  let chars := trimmed source.toList
  match cutScheme (cleaned chars) with
  | none => .error .relative
  | some (scheme, rest) =>
    if scheme = "file" then parseFile ((chars.dropWhile (· ≠ ':')).drop 1)
    else if isSpecial scheme then parseAuthority scheme (rest.dropWhile (isSlash true))
    else parsePlain scheme rest

end Url
end PipedQuery
