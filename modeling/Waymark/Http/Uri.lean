/-!
# Waymark.Http.Uri

The target of a request.

A target is a path with an optional query (`/a?b`), a full address
(`http://host/a?b`), an authority alone (`host:80`) or `*`. A fragment is
dropped.

Design points:

* characters beyond ASCII may stand in paths and queries, but not in schemes and
  authorities;
* a full address without a path has the path `/`; an authority alone has the
  empty path.
-/

namespace Waymark.Http

/-- The target of a request. -/
structure Uri where
  /-- What stands before `://`. -/
  scheme? : Option String
  /-- The host, with a port or user information where given. -/
  authority? : Option String
  /-- The path. -/
  path : String
  /-- What follows the question mark. -/
  query? : Option String
  deriving DecidableEq, Repr, Inhabited

namespace Uri

/-- The target in text form. -/
def print (uri : Uri) : String :=
  (match uri.scheme? with
    | some scheme => scheme ++ "://"
    | none => "")
    ++ uri.authority?.getD "" ++ uri.path ++
  (match uri.query? with
    | some query => "?" ++ query
    | none => "")

/-! ### Character classes -/

/-- The characters of schemes. -/
def isSchemeChar (c : Char) : Bool := c.isAlphanum || "+-.~".toList.contains c

/-- The characters of authorities; `%` may stand in some parts of one only. -/
def isAuthorityChar (c : Char) : Bool := c.isAlphanum || "!$&'()*+,-.:;=@[]_~%".toList.contains c

/-- The characters that end an authority. -/
def endsAuthority (c : Char) : Bool := c = '/' || c = '?' || c = '#'

/-- Whether a character is printed in ASCII, or lies beyond. -/
def isShown (c : Char) : Bool := '!' ≤ c

/-- The characters of paths. -/
def isPathChar (c : Char) : Bool := isShown c && !"#<>?`".toList.contains c

/-- The characters of queries. -/
def isQueryChar (c : Char) : Bool := isShown c && !"\"#<>".toList.contains c

/-! ### Authorities -/

/-- What has been seen of an authority. -/
structure AuthorityScan where
  /-- Colons that may stand before a port. -/
  colons : Nat := 0
  /-- Whether the host holds a `%`. -/
  percent : Bool := false
  /-- Whether a bracket has been opened. -/
  opened : Bool := false
  /-- Whether it has been closed. -/
  closed : Bool := false
  /-- Whether the last character was `@`. -/
  atSign : Bool := false

/-- Take one more character into account. What stands before `@` or between
brackets may hold colons and `%`. -/
def AuthorityScan.push (s : AuthorityScan) (c : Char) : Option AuthorityScan :=
  let s := { s with atSign := c = '@' }
  if !isAuthorityChar c then none
  else if c = ':' then if 8 ≤ s.colons then none else some { s with colons := s.colons + 1 }
  else if c = '[' then if s.percent || s.opened then none else some { s with opened := true }
  else if c = ']' then
    if !s.opened || s.closed then none
    else some { s with closed := true, colons := 0, percent := false }
  else if c = '@' then some { s with colons := 0, percent := false }
  else if c = '%' then some { s with percent := true }
  else some s

/-- Whether the characters make up an authority; none do, too. -/
def isAuthority (cs : List Char) : Bool :=
  match cs.foldlM AuthorityScan.push {} with
  | none => false
  | some s => s.opened == s.closed && s.colons ≤ 1 && !s.atSign && !s.percent

/-! ### Reading -/

/-- Read a path with an optional query and an optional fragment. -/
def readPath? (scheme? authority? : Option String) (cs : List Char) : Option Uri :=
  let path := cs.takeWhile fun c => c ≠ '?' && c ≠ '#'
  let query? :=
    match cs.dropWhile fun c => c ≠ '?' && c ≠ '#' with
    | '?' :: rest => some (rest.takeWhile (· ≠ '#'))
    | _ => none
  if path.all isPathChar && query?.all (·.all isQueryChar) then
    some ⟨scheme?, authority?, if path = [] then "/" else String.ofList path,
      query?.map String.ofList⟩
  else none

/-- Read a text that has no scheme and must be an authority. -/
def readAuthority? (cs : List Char) : Option Uri :=
  if !cs.any endsAuthority && isAuthority cs then
    some ⟨none, some (String.ofList cs), "", none⟩
  else none

/-- Read what follows a scheme: an authority that is not empty, and a path. -/
def readAddress? (scheme : String) (cs : List Char) : Option Uri :=
  let authority := cs.takeWhile (!endsAuthority ·)
  if authority ≠ [] ∧ isAuthority authority then
    readPath? (some scheme) (some (String.ofList authority)) (cs.dropWhile (!endsAuthority ·))
  else none

/-- What follows a beginning that is written in lower case, whatever the case of
the text. -/
def afterBeginning? (beginning : String) (cs : List Char) : Option (List Char) :=
  let count := beginning.toList.length
  if (cs.take count).map Char.toLower = beginning.toList then some (cs.drop count) else none

/-- The greatest number of bytes of a target. -/
def maxLength : Nat := 65534

/-- The greatest number of characters of a scheme. -/
def maxSchemeLength : Nat := 64

/-- Read a target that does not begin with a slash. -/
def readOther? (cs : List Char) : Option Uri :=
  match afterBeginning? "http://" cs, afterBeginning? "https://" cs with
  | some rest, _ => readAddress? "http" rest
  | none, some rest => readAddress? "https" rest
  | none, none =>
    match cs.dropWhile isSchemeChar with
    | ':' :: '/' :: '/' :: rest =>
      let scheme := cs.takeWhile isSchemeChar
      if scheme = [] ∧ rest = [] ∨ maxSchemeLength < scheme.length then none
      else readAddress? (String.ofList scheme) rest
    | _ => readAuthority? cs

/-- Read a target. -/
def read? (text : String) : Option Uri :=
  if maxLength < text.utf8ByteSize then none
  else
    match text.toList with
    | [] => none
    | ['*'] => some ⟨none, none, "*", none⟩
    | '/' :: cs => readPath? none none ('/' :: cs)
    | cs => readOther? cs

end Uri

end Waymark.Http
