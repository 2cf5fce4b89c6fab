/-
# PostgreSQL connection parameters

What a connection to a PostgreSQL server is opened with: a URL, or pairs of a name and a value
separated by white space.  Parameters that are not known, and values that their parameter cannot
have, are refused before anything is connected.
-/
import StepScript.Database.Target
import StepScript.Integer
import StepScript.Text.Utf8

namespace StepScript.Postgres

/-- Who connects to which database, with which password. -/
structure Login where
  user : Option String
  password : Option (List UInt8)
  database : Option String
  deriving DecidableEq, Repr

namespace Login

/-- Nothing is known. -/
def empty : Login := ⟨none, none, none⟩

/-! ## Escaped octets -/

/-- The value of a hexadecimal digit. -/
def hexValue? (octet : UInt8) : Option Nat :=
  let n := octet.toNat
  if 48 ≤ n && n ≤ 57 then some (n - 48)
  else if 97 ≤ n && n ≤ 102 then some (n - 87)
  else if 65 ≤ n && n ≤ 70 then some (n - 55)
  else none

/-- Octets with each percent sign and two hexadecimal digits replaced by the octet they name. -/
def unescape : List UInt8 → List UInt8
  | 0x25 :: high :: low :: rest =>
    match hexValue? high, hexValue? low with
    | some h, some l => UInt8.ofNat (h * 16 + l) :: unescape rest
    | _, _ => 0x25 :: unescape (high :: low :: rest)
  | octet :: rest => octet :: unescape rest
  | [] => []

/-- The octets of a part of a URL. -/
def octets (part : List Char) : List UInt8 :=
  unescape (Utf8.write (String.ofList part))

/-- The text of a part of a URL. -/
def decode? (part : List Char) : Option String :=
  Utf8.read? (octets part)

/-! ## Values of parameters -/

/-- Four numbers of eight bits, separated by points. -/
def isAddress4 (s : List Char) : Bool :=
  let parts := Text.fields '.' s
  parts.length = 4 && parts.all fun part =>
    part.length ≤ 3 && part.all Char.isDigit && (part.length ≤ 1 || part.head? != some '0') &&
      (readCount? 255 part).isSome

/-- The number of groups of sixteen bits in a list of groups, of which the last one may be an
address of the older kind. -/
def groupCount? (groups : List (List Char)) : Option Nat :=
  let isGroup (g : List Char) : Bool :=
    1 ≤ g.length && g.length ≤ 4 &&
      g.all fun c => (hexValue? c.toNat.toUInt8).isSome && c.toNat < 128
  match groups.getLast? with
  | none => some 0
  | some last =>
    if groups.dropLast.all isGroup then
      if isGroup last then some groups.length
      else if isAddress4 last then some (groups.length + 1)
      else none
    else none

/-- Eight groups of sixteen bits, a run of zeros left out at most once. -/
def isAddress6 (s : List Char) : Bool :=
  let groups (part : List Char) : List (List Char) :=
    if part.isEmpty then [] else Text.fields ':' part
  match Text.cut? [':', ':'] s with
  | none => groupCount? (groups s) = some 8
  | some (front, back) =>
    match groupCount? (groups front), groupCount? (groups back) with
    | some m, some n => m + n ≤ 7 && !front.contains '.'
    | _, _ => false

/-- Whether a value is a list of socket numbers; an empty one is the usual number. -/
def areSockets (value : List Char) : Bool :=
  (Text.fields ',' value).all fun number => number.isEmpty || (readCount? 65535 number).isSome

/-- Sets a parameter, unless there is none of this name or it cannot have the value. -/
def set? (l : Login) (name value : String) : Option Login :=
  let s := value.toList
  let check (holds : Bool) : Option Login := if holds then some l else none
  match name with
  | "user" => some { l with user := some value }
  | "password" => some { l with password := some (Utf8.write value) }
  | "dbname" => some { l with database := some value }
  | "options" | "application_name" | "host" => some l
  | "sslmode" | "channel_binding" => check (["disable", "prefer", "require"].contains value)
  | "sslnegotiation" => check (["postgres", "direct"].contains value)
  | "hostaddr" => check ((Text.fields ',' s).all fun a => isAddress4 a || isAddress6 a)
  | "port" => check (areSockets s)
  | "connect_timeout" | "tcp_user_timeout" | "keepalives_idle" | "keepalives_interval" =>
    check (readInteger? s).isSome
  | "keepalives" => check (readCount? 18446744073709551615 s).isSome
  | "keepalives_retries" => check (readCount? 4294967295 s).isSome
  | "target_session_attrs" => check (["any", "read-write", "read-only"].contains value)
  | "load_balance_hosts" => check (["disable", "random"].contains value)
  | _ => none

/-! ## URLs -/

/-- The part of a text in front of the first of some characters, and the rest from it on. -/
def upTo (ends : List Char) (s : List Char) : List Char × List Char :=
  s.span fun c => !ends.contains c

/-- Whether a host is acceptable: a path, or octets that hold a text. -/
def isHost (part : List Char) : Bool :=
  (octets part).head? = some 0x2F || (decode? part).isSome

/-- Whether a host with an optional socket number is acceptable. -/
def isServer (part : List Char) : Bool :=
  let split? : Option (List Char × Option (List Char)) :=
    match part with
    | '[' :: rest =>
      match Text.cut? [']'] rest with
      | some (host, ':' :: number) => some (host, some number)
      | some (host, []) => some (host, none)
      | _ => none
    | _ =>
      match Text.cut? [':'] part with
      | some (host, number) => some (host, some number)
      | none => some (part, none)
  match split? with
  | none => false
  | some (host, number) =>
    isHost host &&
      match number with
      | none => true
      | some number => ((decode? number).map fun n => areSockets n.toList).getD false

/-- Reads the user and the password in front of the at-sign of a URL. -/
def readCredentials? (l : Login) (s : List Char) : Option (Login × List Char) :=
  match Text.cut? ['@'] s with
  | none => some (l, s)
  | some (credentials, rest) =>
    match Text.cut? [':'] credentials with
    | none => do some ({ l with user := some (← decode? credentials) }, rest)
    | some (user, password) => do
      some ({ l with user := some (← decode? user), password := some (octets password) }, rest)

/-- Reads the path of a URL: the name of a database. -/
def readPath? (l : Login) : List Char → Option (Login × List Char)
  | '/' :: rest =>
    let (name, rest) := upTo ['?'] rest
    if name.isEmpty then some (l, rest)
    else do some ({ l with database := some (← decode? name) }, rest)
  | s => some (l, s)

/-- Reads one parameter of a URL. -/
def readParameter? (l : Login) (s : List Char) : Option (Login × List Char) := do
  let (name, rest) ← Text.cut? ['='] s
  let name ← decode? name
  let (value, rest) := upTo ['&'] rest
  let l ← if name == "host" then (if isHost value then some l else none)
    else l.set? name (← decode? value)
  some (l, rest.drop 1)

/-- Reads the parameters of a URL, of which `fuel` bounds the number. -/
def readParameters? : Nat → Login → List Char → Option Login
  | 0, l, _ => some l
  | fuel + 1, l, s =>
    if s.isEmpty then some l
    else do
      let (l, rest) ← readParameter? l s
      readParameters? fuel l rest

/-- Reads a URL from behind its scheme on. -/
def readUrl? (s : List Char) : Option Login := do
  let (l, rest) ← readCredentials? empty s
  let (hosts, rest) := upTo ['/', '?'] rest
  if hosts.isEmpty || (Text.fields ',' hosts).all isServer then
    let (l, rest) ← readPath? l rest
    match rest with
    | '?' :: parameters => readParameters? (parameters.length + 1) l parameters
    | _ => some l
  else none

/-! ## Pairs -/

/-- Reads a value up to white space or, if it is quoted, up to a quote; a backslash makes the
character behind it stand for itself. -/
def readValue (quoted : Bool) : List Char → List Char × List Char
  | [] => ([], [])
  | '\\' :: c :: rest =>
    let (value, rest) := readValue quoted rest
    (c :: value, rest)
  | ['\\'] => ([], [])
  | c :: rest =>
    if (if quoted then c = '\'' else Text.isBlank c) then ([], c :: rest)
    else
      let (value, rest) := readValue quoted rest
      (c :: value, rest)

/-- Reads the value of a pair. -/
def readPairValue? : List Char → Option (List Char × List Char)
  | '\'' :: s =>
    match readValue true s with
    | (value, '\'' :: rest) => some (value, rest)
    | _ => none
  | s =>
    match readValue false s with
    | ([], _) => none
    | (value, rest) => some (value, rest)

/-- Reads pairs of a name and a value, of which `fuel` bounds the number. -/
def readPairs? : Nat → Login → List Char → Option Login
  | 0, l, _ => some l
  | fuel + 1, l, s =>
    let (name, rest) := (Text.trimStart s).span fun c => !Text.isBlank c && c != '='
    if name.isEmpty then some l
    else
      match Text.trimStart rest with
      | '=' :: rest => do
        let (value, rest) ← readPairValue? (Text.trimStart rest)
        let l ← l.set? (String.ofList name) (String.ofList value)
        readPairs? fuel l rest
      | _ => none

/-! ## Targets -/

/-- Reads a URL or pairs. -/
def read? (s : List Char) : Option Login :=
  match Text.after? "postgres://".toList s <|> Text.after? "postgresql://".toList s with
  | some rest => readUrl? rest
  | none => readPairs? (s.length + 1) empty s

/-- What a connection is opened with; credentials given apart win over those in the URL. -/
def ofTarget (t : Target) : Except Error Login :=
  match read? (withoutDriverMark (Text.trim t.url.toList)) with
  | none => .error (.configuration ("Invalid postgres url: " ++ t.url))
  | some l =>
    .ok { l with
      user := t.user <|> l.user
      password := (t.password.map Utf8.write) <|> l.password }

/-- The password that is sent to a server that asks for one. -/
def answerPassword (l : Login) : Except Error (List UInt8) :=
  match l.password with
  | some password => .ok password
  | none => .error (.database "invalid configuration")

end Login

end StepScript.Postgres
