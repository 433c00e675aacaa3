import Waymark.Pattern.Ast
import Waymark.Unicode.Category
import Waymark.Unicode.Property
import Waymark.Unicode.Script

/-!
# Waymark.Pattern.Property

The sets of characters that patterns know by name: properties, categories and
scripts of Unicode, and the digits, blanks and word characters.

Names are compared without regard to case, blanks, hyphens and underscores, and a
leading `is` does not count.
-/

namespace Waymark.Pattern

open Unicode

/-- A name as it is compared. -/
def looseName (name : String) : String :=
  let lower := name.toList.map Char.toLower
  let isForm := lower.take 2 = ['i', 's']
  let kept := (if isForm then lower.drop 2 else lower).filter fun c =>
    c ≠ ' ' && c ≠ '_' && c ≠ '-' && c.toNat < 128
  if isForm && kept = ['c'] then "isc" else String.ofList kept

/-- The set of a name in a table. -/
def lookupTable (table : List (List String × String)) (name : String) : Option CharSet :=
  (table.find? fun (names, _) => names.contains name).map fun (_, deltas) => .ofDeltas deltas

/-- The categories, and the unions of categories, by their names. -/
def categoryNames : List (List String × List Category) := [
  (["lu", "uppercaseletter"], [.uppercaseLetter]),
  (["ll", "lowercaseletter"], [.lowercaseLetter]),
  (["lt", "titlecaseletter"], [.titlecaseLetter]),
  (["lm", "modifierletter"], [.modifierLetter]),
  (["lo", "otherletter"], [.otherLetter]),
  (["mn", "nonspacingmark"], [.nonspacingMark]),
  (["mc", "spacingmark"], [.spacingMark]),
  (["me", "enclosingmark"], [.enclosingMark]),
  (["nd", "decimalnumber", "digit"], [.decimalNumber]),
  (["nl", "letternumber"], [.letterNumber]),
  (["no", "othernumber"], [.otherNumber]),
  (["pc", "connectorpunctuation"], [.connectorPunctuation]),
  (["pd", "dashpunctuation"], [.dashPunctuation]),
  (["ps", "openpunctuation"], [.openPunctuation]),
  (["pe", "closepunctuation"], [.closePunctuation]),
  (["pi", "initialpunctuation"], [.initialPunctuation]),
  (["pf", "finalpunctuation"], [.finalPunctuation]),
  (["po", "otherpunctuation"], [.otherPunctuation]),
  (["sm", "mathsymbol"], [.mathSymbol]),
  (["sc", "currencysymbol"], [.currencySymbol]),
  (["sk", "modifiersymbol"], [.modifierSymbol]),
  (["so", "othersymbol"], [.otherSymbol]),
  (["zs", "spaceseparator"], [.spaceSeparator]),
  (["zl", "lineseparator"], [.lineSeparator]),
  (["zp", "paragraphseparator"], [.paragraphSeparator]),
  (["cc", "control", "cntrl"], [.control]),
  (["cf", "format"], [.format]),
  (["co", "privateuse"], [.privateUse]),
  (["lc", "casedletter"], [.uppercaseLetter, .lowercaseLetter, .titlecaseLetter]),
  (["l", "letter"], Category.letters),
  (["m", "mark", "combiningmark"], Category.marks),
  (["n", "number"], Category.digits),
  (["p", "punctuation", "punct"], Category.punctuation),
  (["s", "symbol"], Category.symbols),
  (["z", "separator"], Category.separators)]

/-- The characters of a category, or of another set of categories, by name. -/
def categoryChars? (name : String) : Option CharSet :=
  match categoryNames.find? fun (names, _) => names.contains name with
  | some (_, categories) => some (Category.unionChars categories)
  | none =>
    if name = "any" then some .full
    else if name = "ascii" then some (.ofRanges [(0, 127)])
    else if name = "assigned" then some unassigned.complement
    else if name = "cn" ∨ name = "unassigned" then some unassigned
    else if name = "c" ∨ name = "other" then
      some (unassigned.union (Category.unionChars Category.others))
    else none

/-- The names of abbreviations that mean a category although a property has them,
too. -/
def categoryFirst : List String := ["cf", "sc", "lc"]

/-- The characters of the property, the category or the script of a name. -/
def namedChars? (name : String) : Option CharSet :=
  let property? := if categoryFirst.contains name then none else lookupTable propertyTable name
  (property?.or (categoryChars? name)).or (lookupTable scriptTable name)

/-- The set that a query asks for. -/
def PropertyQuery.chars? : PropertyQuery → Except FaultKind CharSet
  | named name =>
    match namedChars? (looseName name) with
    | some set => .ok set
    | none => .error .propertyNotFound
  | valued property value =>
    let value := looseName value
    let answer (set? : Option CharSet) : Except FaultKind CharSet :=
      match set? with
      | some set => .ok set
      | none => .error .propertyValueNotFound
    match looseName property with
    | "gc" | "generalcategory" => answer (categoryChars? value)
    | "sc" | "script" => answer (lookupTable scriptTable value)
    | "scx" | "scriptextensions" =>
      answer ((lookupTable scriptExtensionTable value).or (lookupTable scriptTable value))
    | _ => .error .propertyNotFound

/-- The set of a property that the tables hold. -/
def propertyChars (name : String) : CharSet := (lookupTable propertyTable name).getD .empty

/-- The decimal digits. -/
def digitChars : CharSet := Category.decimalNumber.chars

/-- The blanks. -/
def spaceChars : CharSet := propertyChars "whitespace"

/-- The characters of words. -/
def wordChars : CharSet :=
  (propertyChars "alphabetic").union <| (propertyChars "joincontrol").union <|
    Category.unionChars (.decimalNumber :: .connectorPunctuation :: Category.marks)

/-- The characters of words in ASCII. -/
def asciiWordChars : CharSet := .ofRanges [(48, 57), (65, 90), (95, 95), (97, 122)]

/-- The set of a kind, among all characters or in ASCII alone. -/
def Shorthand.chars (unicode : Bool) : Shorthand → CharSet
  | digit => if unicode then digitChars else .ofRanges [(48, 57)]
  | space => if unicode then spaceChars else .ofRanges [(9, 13), (32, 32)]
  | word => if unicode then wordChars else asciiWordChars

end Waymark.Pattern
