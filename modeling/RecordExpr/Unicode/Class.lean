import RecordExpr.Unicode.CharSet
import RecordExpr.Unicode.Category
import RecordExpr.Unicode.Script
import RecordExpr.Unicode.Property
import RecordExpr.Text.Blank

/-!
# Classes of characters by name

A class is named by a property that characters have or lack, by a general category or by a script.
Names are compared loosely: case, blanks, hyphens, underscores and a leading `is` do not count.
-/

namespace RecordExpr.Unicode

/-- The form in which names are compared. -/
def looseName (name : String) : String :=
  let plain (cs : List Char) :=
    (cs.filter fun c => c.toNat < 0x80 && c != ' ' && c != '_' && c != '-').map Char.toLower
  match name.toList with
  | i :: s :: cs =>
    if i.toLower = 'i' ∧ s.toLower = 's' then
      -- what is left of the name of a comment field is not the class `c`
      if plain cs = ['c'] then "isc" else String.ofList (plain cs)
    else String.ofList (plain (i :: s :: cs))
  | cs => String.ofList (plain cs)

/-- The set that a table gives for a name. -/
private def lookup (table : List (List String × String)) (name : String) : Option CharSet :=
  (table.find? fun row => row.1.contains name).map fun row => CharSet.ofText row.2

/-- The union of some general categories. -/
private def categories (names : List String) : CharSet :=
  CharSet.ofRanges (names.flatMap fun n => ((lookup categoryTable n).getD .empty).ranges)

/-- Every character that belongs to a general category other than unassigned. -/
def assigned : CharSet := categories (categoryTable.filterMap fun row => row.1.head?)

/-- The characters of a general category, or of a union of categories that has a name. -/
def category? (name : String) : Option CharSet :=
  if name == "any" then some .full
  else if name == "assigned" then some assigned
  else if name == "ascii" then some ⟨[(0, 0x7F)]⟩
  else if name == "cn" || name == "unassigned" then some assigned.compl
  else if name == "lc" || name == "casedletter" then some (categories ["lu", "ll", "lt"])
  else if name == "l" || name == "letter" then some (categories ["lu", "ll", "lt", "lm", "lo"])
  else if name == "m" || name == "mark" || name == "combiningmark" then
    some (categories ["mn", "mc", "me"])
  else if name == "n" || name == "number" then some (categories ["nd", "nl", "no"])
  else if name == "p" || name == "punctuation" || name == "punct" then
    some (categories ["pc", "pd", "ps", "pe", "pi", "pf", "po"])
  else if name == "s" || name == "symbol" then some (categories ["sm", "sc", "sk", "so"])
  else if name == "z" || name == "separator" then some (categories ["zs", "zl", "zp"])
  else if name == "c" || name == "other" then
    some ((categories ["cc", "cf", "co"]).union assigned.compl)
  else lookup categoryTable name

def script? (name : String) : Option CharSet := lookup scriptTable name

/-- The characters in use with a script: its own, unless a table says otherwise. -/
def scriptExtension? (name : String) : Option CharSet :=
  (lookup scriptExtensionTable name).orElse fun _ => script? name

/-- The class with a given name. The short names `cf`, `sc` and `lc` are those of categories. -/
def named? (name : String) : Option CharSet :=
  let n := looseName name
  (lookup propertyTable n).orElse fun _ => (category? n).orElse fun _ => script? n

/-- The class of the characters for which a property has a value, where the property is the general
category, the script, or the scripts that a character is in use with. -/
def valued? (property value : String) : Option CharSet :=
  let p := looseName property
  let v := looseName value
  if p == "gc" || p == "generalcategory" then category? v
  else if p == "sc" || p == "script" then script? v
  else if p == "scx" || p == "scriptextensions" then scriptExtension? v
  else none

/-- Decimal digits of every script. -/
def digits : CharSet := categories ["nd"]

/-- Characters with the White_Space property. -/
def blanks : CharSet := (lookup propertyTable "whitespace").getD .empty

/-- Letters, marks, digits, connectors and joiners. -/
def wordChars : CharSet :=
  CharSet.ofRanges <| ["alphabetic", "joincontrol"].flatMap
    (fun n => ((lookup propertyTable n).getD .empty).ranges) ++
      (categories ["mn", "mc", "me", "nd", "pc"]).ranges

/-- Characters with the Alphabetic property. -/
def letters : CharSet := (lookup propertyTable "alphabetic").getD .empty

/-- Characters of the number categories. -/
def numbers : CharSet := categories ["nd", "nl", "no"]

/-- Characters that have a case. -/
def casedChars : CharSet := (lookup propertyTable "cased").getD .empty

/-- Characters that do not count when looking for a neighbour that has a case. -/
def caseIgnorableChars : CharSet := (lookup propertyTable "caseignorable").getD .empty

end RecordExpr.Unicode
