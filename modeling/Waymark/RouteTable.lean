import Waymark.Config.Server

/-!
# Waymark.RouteTable

The route table of a server as JSON.

Members are indented by two blanks for each level; objects and lists without
members are written without blanks.
-/

namespace Waymark.RouteTable

/-! ### Values -/

/-- Four hexadecimal digits. -/
def fourDigits (n : Nat) : String :=
  String.ofList ([n / 4096, n / 256 % 16, n / 16 % 16, n % 16].map Nat.digitChar)

/-- A character between quotes. -/
def quotedChar (c : Char) : String :=
  match c with
  | '"' => "\\\""
  | '\\' => "\\\\"
  | '\n' => "\\n"
  | '\r' => "\\r"
  | '\t' => "\\t"
  | '\x08' => "\\b"
  | '\x0c' => "\\f"
  | c => if c.toNat < 32 then "\\u" ++ fourDigits c.toNat else c.toString

/-- A text in quotes. -/
def quoted (text : String) : String := "\"" ++ String.join (text.toList.map quotedChar) ++ "\""

/-- Members between brackets, at a level of indentation. -/
def bracketed (opening closing : String) (level : Nat) (members : List String) : String :=
  let lineStart (level : Nat) : String := "\n" ++ String.ofList (List.replicate (2 * level) ' ')
  if members.isEmpty then opening ++ closing
  else
    opening ++ ",".intercalate (members.map (lineStart (level + 1) ++ ·)) ++ lineStart level ++
      closing

/-- An object. -/
def object (level : Nat) (members : List (String × String)) : String :=
  bracketed "\x7b" "\x7d" level (members.map fun (name, value) => quoted name ++ ": " ++ value)

/-! ### Servers -/

/-- A location. -/
def location (level : Nat) (l : Location) : String :=
  object level [
    ("path", quoted l.path),
    ("match_type", quoted l.kind.name),
    ("handler", quoted l.handler),
    ("args", object (level + 1) (l.args.entries.map fun (key, value) => (key, quoted value))),
    ("order", toString l.order)]

/-- The port and the locations of a server. -/
def print (server : Config.ServerConfig) : String :=
  object 0 [
    ("port", toString server.port),
    ("locations", bracketed "[" "]" 1 (server.locations.map (location 2)))]

end Waymark.RouteTable
