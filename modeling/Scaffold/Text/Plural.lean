/-
  Scaffold/Text/Plural.lean
  =========================
  **English plurals of compound names.**

  Only the last word of a compound is inflected: `SalesPerson` becomes `SalesPeople`. The last word
  starts at the last capital that is not the first character of the name.

  A word without a plural of its own leaves the whole name unchanged; an irregular word is replaced,
  keeping the case of its first letter; every other word takes `ies`, `es` or `s` by its ending.
  Words are recognised without regard to ASCII case.
-/
import Scaffold.Text

namespace Scaffold.Plural

open Scaffold

/-- Words whose plural is another word. -/
def irregular : List (String × String) :=
  [("person", "people"), ("child", "children"), ("man", "men"), ("woman", "women"),
   ("mouse", "mice"), ("goose", "geese"), ("foot", "feet"), ("tooth", "teeth"), ("ox", "oxen")]

/-- Words that are their own plural. -/
def uncountable : List String :=
  ["sheep", "fish", "deer", "series", "species", "news", "equipment", "information", "metadata"]

/-- Endings after which a plural takes `es`. -/
def sibilants : List String := ["s", "x", "z", "ch", "sh"]

/-- A name cut before its last capital, the capital opening the second part. A name without a
capital is one word. -/
def splitAtCapital : List Char → List Char × List Char
  | [] => ([], [])
  | c :: cs =>
    match splitAtCapital cs with
    | (d :: head, last) => (c :: d :: head, last)
    | ([], d :: last) => if Letter.isUpper d then ([c], d :: last) else ([], c :: d :: last)
    | ([], []) => ([], [c])

/-- Letters after which a `y` stays. -/
def vowels : List Char := ['a', 'e', 'i', 'o', 'u']

/-- Whether a word ends in a `y` that follows something other than a vowel. -/
def endsInConsonantY (word : List Char) : Bool :=
  match word.reverse with
  | 'y' :: c :: _ => !vowels.contains c
  | _ => false

/-- `replacement` with the case of `word`'s first letter. -/
def matchCase (word : List Char) (replacement : String) : String :=
  match word with
  | c :: _ => if Letter.isUpper c then Text.upperFirst replacement else replacement
  | [] => replacement

/-- The plural of a word that follows the rules. -/
def regular (word : List Char) : List Char :=
  let small := word.map Letter.asciiLower
  if endsInConsonantY small then word.dropLast ++ "ies".toList
  else if sibilants.any (Text.endsWith (String.ofList small)) then word ++ "es".toList
  else word ++ "s".toList

/-- The plural of a name: `OrderCategory` becomes `OrderCategories`. -/
def of (name : String) : String :=
  if name.isEmpty then "" else
  let (head, last) := splitAtCapital name.toList
  let small := String.ofList (last.map Letter.asciiLower)
  if uncountable.contains small then name
  else match irregular.lookup small with
    | some plural => String.ofList head ++ matchCase last plural
    | none => String.ofList (head ++ regular last)

end Scaffold.Plural
