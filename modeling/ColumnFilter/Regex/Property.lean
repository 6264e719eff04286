import ColumnFilter.Regex.CharSet

/-!
# Named classes

The classes that a pattern can name: general categories and a few properties after
`\p`, and the classes of ASCII characters inside brackets.
-/

namespace ColumnFilter.CharSet

open Text (Category)

/-- Names of groups of general categories, short and long. -/
def categoryNames : List (List String × List Category) :=
  [(["lu", "uppercaseletter"], [.uppercaseLetter]),
    (["ll", "lowercaseletter"], [.lowercaseLetter]),
    (["lt", "titlecaseletter"], [.titlecaseLetter]),
    (["lc", "casedletter"], [.uppercaseLetter, .lowercaseLetter, .titlecaseLetter]),
    (["lm", "modifierletter"], [.modifierLetter]),
    (["lo", "otherletter"], [.otherLetter]),
    (["l", "letter"],
      [.uppercaseLetter, .lowercaseLetter, .titlecaseLetter, .modifierLetter, .otherLetter]),
    (["mn", "nonspacingmark"], [.nonspacingMark]),
    (["mc", "spacingmark"], [.spacingMark]),
    (["me", "enclosingmark"], [.enclosingMark]),
    (["m", "mark", "combiningmark"], [.nonspacingMark, .spacingMark, .enclosingMark]),
    (["nd", "decimalnumber", "digit"], [.decimalNumber]),
    (["nl", "letternumber"], [.letterNumber]),
    (["no", "othernumber"], [.otherNumber]),
    (["n", "number"], [.decimalNumber, .letterNumber, .otherNumber]),
    (["pc", "connectorpunctuation"], [.connectorPunctuation]),
    (["pd", "dashpunctuation"], [.dashPunctuation]),
    (["ps", "openpunctuation"], [.openPunctuation]),
    (["pe", "closepunctuation"], [.closePunctuation]),
    (["pi", "initialpunctuation"], [.initialPunctuation]),
    (["pf", "finalpunctuation"], [.finalPunctuation]),
    (["po", "otherpunctuation"], [.otherPunctuation]),
    (["p", "punctuation", "punct"],
      [.connectorPunctuation, .dashPunctuation, .openPunctuation, .closePunctuation,
        .initialPunctuation, .finalPunctuation, .otherPunctuation]),
    (["sm", "mathsymbol"], [.mathSymbol]),
    (["sc", "currencysymbol"], [.currencySymbol]),
    (["sk", "modifiersymbol"], [.modifierSymbol]),
    (["so", "othersymbol"], [.otherSymbol]),
    (["s", "symbol"], [.mathSymbol, .currencySymbol, .modifierSymbol, .otherSymbol]),
    (["zs", "spaceseparator"], [.spaceSeparator]),
    (["zl", "lineseparator"], [.lineSeparator]),
    (["zp", "paragraphseparator"], [.paragraphSeparator]),
    (["z", "separator"], [.spaceSeparator, .lineSeparator, .paragraphSeparator]),
    (["cc", "control", "cntrl"], [.control]),
    (["cf", "format"], [.format]),
    (["cs", "surrogate"], [.surrogate]),
    (["co", "privateuse"], [.privateUse]),
    (["cn", "unassigned"], [.unassigned]),
    (["c", "other"], [.control, .format, .surrogate, .privateUse, .unassigned])]

def ofCategoryName? (name : String) : Option CharSet :=
  (categoryNames.find? fun entry => entry.1.contains name).map fun entry => .categories entry.2

/-- A name in the form in which names are compared: without case, spaces, hyphens and
underscores, and without a leading `is`. -/
def looseName (name : List Char) : String :=
  let letters := (name.filter fun c => c != ' ' && c != '_' && c != '-').map Char.toLower
  match letters with
  | 'i' :: 's' :: rest =>
      if rest.isEmpty || rest = ['c'] then String.ofList letters else String.ofList rest
  | _ => String.ofList letters

def ofName? (name : List Char) : Option CharSet :=
  match looseName name with
  | "any" => some .any
  | "ascii" => some (.range '\x00' '\x7f')
  | "assigned" => some (.compl (.categories [.unassigned]))
  | "alphabetic" => some .alphabetic
  | "alpha" => some .alphabetic
  | "whitespace" => some .space
  | "wspace" => some .space
  | "space" => some .space
  | loose => ofCategoryName? loose

def ofNameValue? (name value : List Char) : Option CharSet :=
  match looseName name with
  | "generalcategory" => ofCategoryName? (looseName value)
  | "gc" => ofCategoryName? (looseName value)
  | _ => none

/-- The classes of ASCII characters that brackets can name. -/
def ofAsciiName? (name : String) : Option CharSet :=
  let capitals := CharSet.range 'A' 'Z'
  let smalls := CharSet.range 'a' 'z'
  let digits := CharSet.range '0' '9'
  match name with
  | "alnum" => some (unionAll [digits, capitals, smalls])
  | "alpha" => some (.union capitals smalls)
  | "ascii" => some (.range '\x00' '\x7f')
  | "blank" => some (.oneOf ['\t', ' '])
  | "cntrl" => some (.union (.range '\x00' '\x1f') (.oneOf ['\x7f']))
  | "digit" => some digits
  | "graph" => some (.range '!' '~')
  | "lower" => some smalls
  | "print" => some (.range ' ' '~')
  | "punct" =>
      some (unionAll [.range '!' '/', .range ':' '@', .range '[' '\x60', .range '\x7b' '~'])
  | "space" => some (.oneOf ['\t', '\n', '\x0b', '\x0c', '\r', ' '])
  | "upper" => some capitals
  | "word" => some (unionAll [digits, capitals, .oneOf ['_'], smalls])
  | "xdigit" => some (unionAll [digits, .range 'A' 'F', .range 'a' 'f'])
  | _ => none

end ColumnFilter.CharSet
