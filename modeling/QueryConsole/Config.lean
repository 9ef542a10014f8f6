/-
# Configuration

Settings are kept in a JSON file and may be overridden by variables of the environment:

| field | default | variable |
| --- | --- | --- |
| `server_url` | `http://localhost:8080` | `NLQ_SERVER_URL` |
| `username`, `password` | `admin` | `NLQ_USERNAME`, `NLQ_PASSWORD` |
| `default_database` | `engdb` | `NLQ_DEFAULT_DATABASE` |
| `single_database` | `false` | `NLQ_SINGLE_DATABASE`: `1`, `true` or `yes` |
| `suggestions` | five questions | |
| `locale` | `null` | |
| `log_level` | `info` | `NLQ_LOG` |

A file that lacks fields takes their defaults.  Loading writes a file with the defaults where there
is none, and never touches one that exists, however broken it is.

Models `AppConfig` with `load`, `try_load`, `save`, `apply_overrides` and `credentials`, and
`log_dir`.
-/

import QueryConsole.Json.Reader
import QueryConsole.Service.Credentials
import QueryConsole.Text.Blank

namespace QueryConsole

/-- The settings of the console. -/
structure Config where
  serverUrl : String
  username : String
  password : String
  defaultDatabase : String
  singleDatabase : Bool
  suggestions : List String
  locale : Option String
  logLevel : String
  deriving DecidableEq, Repr

/-- What is found where the settings are kept.

| state | what is found |
| --- | --- |
| `missing` | nothing, in a place where a file can be written |
| `sealed` | nothing, in a directory that takes no file |
| `file`, `readOnly`, `unreadable` | a file; it may not be written, or neither written nor opened |
| `directory` | a directory of the file's name |
| `blocked` | a file in place of the directory, or a place where that cannot be created |
| `unknown` | it is unknown where the place is |

A file that may be written but not opened is left out: what is saved there is nowhere loaded.  So are
disks that fail on the way, such as in the middle of a file. -/
inductive ConfigDisk where
  | missing
  | sealed
  | file (content : List UInt8)
  | readOnly (content : List UInt8)
  | unreadable (content : List UInt8)
  | directory
  | blocked
  | unknown
  deriving DecidableEq, Repr

/-- Why settings cannot be saved. -/
inductive SaveError where
  | findDirectory
  | createDirectory
  | writeFile
  deriving DecidableEq, Repr

namespace SaveError

/-- The wording of an error. -/
def message : SaveError → String
  | findDirectory => "Could not find config directory"
  | createDirectory => "Failed to create config directory"
  | writeFile => "Failed to write config file"

end SaveError

namespace ConfigDisk

/-- The text of the file, where there is one that may be opened and its bytes are a text. -/
def text? : ConfigDisk → Option String
  | file content | readOnly content => (Utf8.text? content).map String.ofList
  | _ => none

end ConfigDisk

namespace Config

open Utf8 (Piece)

/-- The settings of a fresh console. -/
def default : Config where
  serverUrl := "http://localhost:8080"
  username := "admin"
  password := "admin"
  defaultDatabase := "engdb"
  singleDatabase := false
  suggestions :=
    ["Show all students", "How many students are in each department?",
      "List courses with more than 3 credits", "What is the average age of students?",
      "Show enrollments with grade A"]
  locale := none
  logLevel := "info"

/-- The names of the fields, in order. -/
def fields : List String :=
  ["server_url", "username", "password", "default_database", "single_database", "suggestions",
    "locale", "log_level"]

/-- Reads the value of a field. -/
def readField (name : String) (c : Config) (s : List Piece) : Json.Read Config :=
  let text (set : String → Config) : Json.Read Config :=
    (Json.text s).map fun (value, s) => (set value, s)
  if name = "server_url" then text fun v => { c with serverUrl := v }
  else if name = "username" then text fun v => { c with username := v }
  else if name = "password" then text fun v => { c with password := v }
  else if name = "default_database" then text fun v => { c with defaultDatabase := v }
  else if name = "single_database" then
    (Json.boolean s).map fun (v, s) => ({ c with singleDatabase := v }, s)
  else if name = "suggestions" then
    (Json.sequence Json.text s).map fun (v, s) => ({ c with suggestions := v }, s)
  else if name = "locale" then
    (Json.nullable Json.text s).map fun (v, s) => ({ c with locale := v }, s)
  else text fun v => { c with logLevel := v }

/-- Reads settings; fields that are missing take their defaults. -/
def read : List Piece → Json.Read Config := Json.record .settings fields readField default

/-- The settings that a text writes. -/
def parse (s : String) : Except Json.Problem Config := Json.whole read (Utf8.ofChars s.toList)

/-- The settings as a JSON value. -/
def toJson (c : Config) : Json :=
  .obj
    [("server_url", .str c.serverUrl), ("username", .str c.username), ("password", .str c.password),
      ("default_database", .str c.defaultDatabase), ("single_database", .bool c.singleDatabase),
      ("suggestions", .arr (c.suggestions.map .str)),
      ("locale", match c.locale with
        | some name => .str name
        | none => .null),
      ("log_level", .str c.logLevel)]

/-- The text of the file. -/
def text (c : Config) : String := c.toJson.indented

/-- Whether the text of a variable switches something on. -/
def isOn (value : String) : Bool :=
  ["1", "true", "yes"].any fun word => word.toList = (Text.trim value.toList).map Char.toLower

/-- The settings with those overridden that the environment sets. -/
def override (env : String → Option String) (c : Config) : Config where
  serverUrl := (env "NLQ_SERVER_URL").getD c.serverUrl
  username := (env "NLQ_USERNAME").getD c.username
  password := (env "NLQ_PASSWORD").getD c.password
  defaultDatabase := (env "NLQ_DEFAULT_DATABASE").getD c.defaultDatabase
  singleDatabase := ((env "NLQ_SINGLE_DATABASE").map isOn).getD c.singleDatabase
  suggestions := c.suggestions
  locale := c.locale
  logLevel := (env "NLQ_LOG").getD c.logLevel

/-- Saves the settings. -/
def save (c : Config) (disk : ConfigDisk) : Except SaveError ConfigDisk :=
  match disk with
  | .missing | .file _ => .ok (.file (Utf8.encode c.text.toList))
  | .sealed | .readOnly _ | .unreadable _ | .directory => .error .writeFile
  | .blocked => .error .createDirectory
  | .unknown => .error .findDirectory

/-- The settings of an existing file, if it can be read. -/
def ofDisk? (disk : ConfigDisk) : Option Config :=
  match disk.text? with
  | some text =>
    match parse text with
    | .ok c => some c
    | .error _ => none
  | none => none

/-- Whether something exists in place of the file. -/
def exists? : ConfigDisk → Bool
  | .file _ | .readOnly _ | .unreadable _ | .directory => true
  | .missing | .sealed | .blocked | .unknown => false

/-- Loads the settings: those of the file, or the defaults, with the overrides of the environment.
Where there is no file the defaults are saved. -/
def load (disk : ConfigDisk) (env : String → Option String) : Config × ConfigDisk :=
  let config := (ofDisk? disk).getD default
  let disk :=
    if exists? disk then disk
    else
      match default.save disk with
      | .ok disk => disk
      | .error _ => disk
  (config.override env, disk)

/-- The credentials for the service; without a user name there are none. -/
def credentials (c : Config) : Credentials :=
  if c.username = "" then .anonymous else .basic c.username c.password

/-- The directory of the log, below the data directory: the one that is set, if it is an absolute
path, or else the usual one below the home directory. -/
def logDirectory (dataHome : Option String) (home : String) : String :=
  let base := match dataHome.filter fun d => d.toList.head? = some '/' with
    | some directory => directory
    | none => home ++ "/.local/share"
  let base := if base.toList.getLast? = some '/' then base else base ++ "/"
  base ++ "nlq-tui"

end Config
end QueryConsole
