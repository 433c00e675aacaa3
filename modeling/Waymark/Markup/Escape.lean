import Waymark.Markup.Character
import Waymark.Markup.Entity
import Waymark.Text.Utf8

/-!
# Waymark.Markup.Escape

From written text to the text meant, and from there to text that can stand in a
page.
-/

namespace Waymark.Markup

/-! ### Reading -/

/-- The text that written text means: backslashes before punctuation marks go,
and characters written by name or number take their places. -/
def unescape : List Char → List Char
  | [] => []
  | '\\' :: c :: cs => if isAsciiMark c then c :: unescape cs else '\\' :: unescape (c :: cs)
  | '&' :: cs =>
    match readEntity? cs with
    | some (chars, rest) =>
      if rest.length < cs.length then chars ++ unescape rest else '&' :: unescape cs
    | none => '&' :: unescape cs
  | c :: cs => c :: unescape cs
termination_by cs => cs.length

/-! ### Writing -/

/-- A character of running text. -/
def escapeTextChar : Char → String
  | '&' => "&amp;"
  | '<' => "&lt;"
  | '>' => "&gt;"
  | c => c.toString

/-- Text that stands between tags. -/
def escapeText (text : String) : String := String.join (text.toList.map escapeTextChar)

/-- A character of a quoted value. -/
def escapeValueChar : Char → String
  | '"' => "&quot;"
  | '\'' => "&#39;"
  | c => escapeTextChar c

/-- Text that stands in the quoted value of an attribute. -/
def escapeValue (text : String) : String := String.join (text.toList.map escapeValueChar)

/-- The characters other than letters and digits that stand for themselves in
addresses. -/
def addressMarks : List Char := "!#$%()*+,-./:;=?@_~^".toList

/-- A byte as a percent sign and two hexadecimal digits. -/
def percentByte (b : UInt8) : String :=
  let digit (n : Nat) : Char := (Nat.digitChar n).toUpper
  String.ofList ['%', digit (b.toNat / 16), digit (b.toNat % 16)]

/-- A character of an address. -/
def escapeAddressChar (c : Char) : String :=
  if c.isAlphanum || addressMarks.contains c then c.toString
  else if c = '&' then "&amp;"
  else if c = '\'' then "&#x27;"
  else String.join ((Text.encode c.toString).map percentByte)

/-- An address that stands in the quoted value of an attribute. -/
def escapeAddress (address : String) : String :=
  String.join (address.toList.map escapeAddressChar)

end Waymark.Markup
