import Waymark.Http.Uri
import Waymark.Text.Utf8

/-!
# Waymark.Http.Request

Requests as handlers see them: a checked head and the whole body.

Design points:

* header names are kept in lower case; the values of one name stand together, at
  the place where the name came first;
* values are bytes, since a header may hold any but control characters.
-/

namespace Waymark.Http

/-! ### Names and values -/

/-- The characters of methods and of header names. -/
def isTokenChar (c : Char) : Bool := c.isAlphanum || "!#$%&'*+-.^_`|~".toList.contains c

/-- Whether a text may be a method. -/
def isMethod (text : String) : Bool := text ≠ "" && text.toList.all isTokenChar

/-- The greatest number of characters of a header name. -/
def maxNameLength : Nat := 65535

/-- Whether a text may be the name of a header. -/
def isHeaderName (text : String) : Bool :=
  text ≠ "" && text.toList.all isTokenChar && text.toList.length ≤ maxNameLength

/-- Whether a byte may stand in the value of a header: no control character but
the tab. -/
def isValueByte (b : UInt8) : Bool := b = 9 || 32 ≤ b && b ≠ 127

/-- Whether bytes may be the value of a header. -/
def isHeaderValue (bytes : Bytes) : Bool := bytes.all isValueByte

/-- A text with the letters of ASCII in lower case. -/
def lowerCase (text : String) : String := String.ofList (text.toList.map Char.toLower)

/-- The headers of a request: names in lower case, each with its values. -/
abbrev Headers := List (String × List Bytes)

namespace Headers

/-- Add a value to those of a name. -/
def append (name : String) (value : Bytes) : Headers → Headers
  | [] => [(name, [value])]
  | (other, values) :: rest =>
    if other = name then (other, values ++ [value]) :: rest
    else (other, values) :: append name value rest

/-- The first value of a name. -/
def first? (headers : Headers) (name : String) : Option Bytes :=
  (headers.lookup name).bind List.head?

/-- Every name and value in order. -/
def lines (headers : Headers) : List (String × Bytes) :=
  headers.flatMap fun (name, values) => values.map (name, ·)

end Headers

/-- The text of a header value, if it consists of visible ASCII, blanks and
tabs. -/
def valueText? (value : Bytes) : Option String :=
  if value.all fun b => b = 9 || 32 ≤ b && b < 127 then
    some (String.ofList (value.map fun b => Char.ofNat b.toNat))
  else none

/-! ### Requests -/

/-- The versions of the protocol. -/
inductive Version where
  /-- Version 0.9. -/
  | http09
  /-- Version 1.0. -/
  | http10
  /-- Version 1.1. -/
  | http11
  /-- Version 2. -/
  | http2
  /-- Version 3. -/
  | http3
  deriving DecidableEq, Repr, Inhabited

/-- A version in text form. -/
def Version.print : Version → String
  | http09 => "HTTP/0.9"
  | http10 => "HTTP/1.0"
  | http11 => "HTTP/1.1"
  | http2 => "HTTP/2.0"
  | http3 => "HTTP/3.0"

/-- A request. -/
structure Request where
  /-- The method, as written. -/
  method : String
  /-- The target. -/
  uri : Uri
  /-- The version of the protocol. -/
  version : Version
  /-- The headers. -/
  headers : Headers
  /-- The whole body. -/
  body : Bytes
  deriving Inhabited

/-- The part of a request that is not well-formed. -/
inductive RequestError where
  /-- The method. -/
  | method
  /-- The target. -/
  | uri
  /-- A name or a value of a header. -/
  | header
  deriving DecidableEq, Repr

/-- The name of the part. -/
def RequestError.message : RequestError → String
  | method => "method"
  | uri => "uri"
  | header => "header"

/-- Add headers given as bytes to some that have been checked. -/
def readHeaders (headers : Headers) : List (Bytes × Bytes) → Except RequestError Headers
  | [] => .ok headers
  | (name, value) :: rest =>
    let text := String.ofList (name.map fun b => Char.ofNat b.toNat)
    if isHeaderName text && isHeaderValue value then
      readHeaders (headers.append (lowerCase text) value) rest
    else .error .header

/-- Make a request from its parts. Of several ill-formed parts the first counts:
method, target, then headers. -/
def Request.make (method uri : String) (version : Version) (headers : List (Bytes × Bytes))
    (body : Bytes) : Except RequestError Request := do
  if !isMethod method then throw .method
  match Uri.read? uri with
  | none => throw .uri
  | some uri => return ⟨method, uri, version, ← readHeaders [] headers, body⟩

/-- A request as text: the head line, the headers, a blank line and the body.
Bytes that are no UTF-8 are shown as U+FFFD. -/
def Request.print (request : Request) : String :=
  request.method ++ " " ++ request.uri.print ++ " " ++ request.version.print ++ "\r\n" ++
    String.join (request.headers.lines.map fun (name, value) =>
      name ++ ": " ++ Text.decodeLossy value ++ "\r\n") ++
    "\r\n" ++ Text.decodeLossy request.body

end Waymark.Http
