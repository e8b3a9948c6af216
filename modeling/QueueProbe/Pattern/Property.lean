import QueueProbe.Pattern.Basic

/-! Sets of characters by the names of their properties: general categories and groups of them, scripts,
and a few properties that a character has or has not. Case, blanks, dashes and underscores do not
count in a name, nor does the word "is" in front. -/

namespace QueueProbe.Pattern

open Text

def nameKey (name : String) : String :=
  let cs := (lowerAscii name).toList.filter fun c => c.toNat < 0x80
  let plain (cs : List Char) := String.ofList (cs.filter fun c => !(c = ' ' || c = '_' || c = '-'))
  match cs with
  | 'i' :: 's' :: rest => if plain rest = "c" then "isc" else plain rest
  | cs => plain cs

def longNames : Category → List String
  | .uppercase => ["uppercaseletter"]
  | .lowercase => ["lowercaseletter"]
  | .titlecase => ["titlecaseletter"]
  | .modifierLetter => ["modifierletter"]
  | .otherLetter => ["otherletter"]
  | .nonspacingMark => ["nonspacingmark"]
  | .spacingMark => ["spacingmark"]
  | .enclosingMark => ["enclosingmark"]
  | .decimalDigit => ["decimalnumber", "digit"]
  | .letterNumber => ["letternumber"]
  | .otherNumber => ["othernumber"]
  | .connector => ["connectorpunctuation"]
  | .dash => ["dashpunctuation"]
  | .openMark => ["openpunctuation"]
  | .closeMark => ["closepunctuation"]
  | .initialQuote => ["initialpunctuation"]
  | .finalQuote => ["finalpunctuation"]
  | .otherPunctuation => ["otherpunctuation"]
  | .math => ["mathsymbol"]
  | .currency => ["currencysymbol"]
  | .modifierSymbol => ["modifiersymbol"]
  | .otherSymbol => ["othersymbol"]
  | .space => ["spaceseparator"]
  | .lineSeparator => ["lineseparator"]
  | .paragraphSeparator => ["paragraphseparator"]
  | .control => ["control", "cntrl"]
  | .format => ["format"]
  | .surrogate => []
  | .privateUse => ["privateuse"]
  | .unassigned => ["unassigned"]

def groupNames : List (String × List String) := [
  ("L", ["l", "letter"]), ("M", ["m", "mark", "combiningmark"]), ("N", ["n", "number"]),
  ("P", ["p", "punctuation", "punct"]), ("S", ["s", "symbol"]), ("Z", ["z", "separator"]),
  ("C", ["c", "other"])]

/-- The set of a category, or of a group of them. No character is a surrogate. -/
def categorySet? (key : String) : Option CharSet :=
  match Category.all.find? fun c => c ≠ .surrogate &&
      (nameKey c.short :: longNames c).contains key with
  | some c => some (.categories [c])
  | none =>
    match groupNames.find? (·.2.contains key) with
    | some (letter, _) => some (.categories (Category.ofGroup letter))
    | none =>
      match key with
      | "lc" | "casedletter" => some (.categories [.uppercase, .lowercase, .titlecase])
      | "any" => some .all
      | "assigned" => some (.compl (.categories [.unassigned]))
      | "ascii" => some (.range '\x00' '\x7f')
      | _ => none

def scriptSet? (key : String) : Option CharSet := (Script.called nameKey key).map .script

/-- Small letters, and characters that look like them. -/
def lowercaseSet : CharSet :=
  .union (.categories [.lowercase]) (CharSet.ofRanges [
    ('\u00aa', '\u00aa'), ('\u00ba', '\u00ba'), ('\u02b0', '\u02b8'), ('\u02c0', '\u02c1'),
    ('\u02e0', '\u02e4'), ('\u0345', '\u0345'), ('\u037a', '\u037a'), ('\u10fc', '\u10fc'),
    ('\u1d2c', '\u1d6a'), ('\u1d78', '\u1d78'), ('\u1d9b', '\u1dbf'), ('\u2071', '\u2071'),
    ('\u207f', '\u207f'), ('\u2090', '\u209c'), ('\u2170', '\u217f'), ('\u24d0', '\u24e9'),
    ('\u2c7c', '\u2c7d'), ('\ua69c', '\ua69d'), ('\ua770', '\ua770'), ('\ua7f1', '\ua7f4'),
    ('\ua7f8', '\ua7f9'), ('\uab5c', '\uab5f'), ('\uab69', '\uab69'), ('𐞀', '𐞀'), ('𐞃', '𐞅'),
    ('𐞇', '𐞰'), ('𐞲', '𐞺'), ('𞀰', '𞁭')])

def uppercaseSet : CharSet :=
  .union (.categories [.uppercase]) (CharSet.ofRanges [
    ('\u2160', '\u216f'), ('\u24b6', '\u24cf'), ('🄰', '🅉'), ('🅐', '🅩'), ('🅰', '🆉')])

def yesNoSet? : String → Option CharSet
  | "alphabetic" | "alpha" => some .alphabetic
  | "lowercase" | "lower" => some lowercaseSet
  | "uppercase" | "upper" => some uppercaseSet
  | "whitespace" | "wspace" | "space" => some .blanks
  | "asciihexdigit" | "ahex" => some (CharSet.ofRanges [('0', '9'), ('A', 'F'), ('a', 'f')])
  | "hexdigit" | "hex" => some (CharSet.ofRanges [('0', '9'), ('A', 'F'), ('a', 'f'),
      ('\uff10', '\uff19'), ('\uff21', '\uff26'), ('\uff41', '\uff46')])
  | _ => none

/-- The set of a property, or of one of its values. -/
def propertySet? (name : String) : Option String → Option CharSet
  | none =>
    let key := nameKey name
    (yesNoSet? key).or ((categorySet? key).or (scriptSet? key))
  | some value =>
    match nameKey name with
    | "gc" | "generalcategory" => categorySet? (nameKey value)
    | "sc" | "script" | "scx" | "scriptextensions" => scriptSet? (nameKey value)
    | _ => none

end QueueProbe.Pattern
