/-
  Character properties by name. A name alone may be a property, a general category or a script;
  a name with a value is looked up in the values of that property. Names are compared without case,
  blanks, hyphens, underscores and a leading `is`.
-/
import RecordRules.Unicode.Age
import RecordRules.Unicode.Boundary
import RecordRules.Unicode.Category
import RecordRules.Unicode.ScriptUse
import RecordRules.Unicode.Trait

namespace RecordRules.Unicode

/-! ## Derived properties -/

def lowercase : CharSet := (categoryChars "ll").union (traitChars "olower")
def uppercase : CharSet := (categoryChars "lu").union (traitChars "oupper")
def cased : CharSet := .unions [lowercase, uppercase, categoryChars "lt"]

/-- Letters of every kind, letter-like numbers, and the marks and signs that stand for letters. -/
def alphabetic : CharSet :=
  .unions [lowercase, uppercase, categoriesChars ["lt", "lm", "lo", "nl"], traitChars "oalpha"]

def math : CharSet := (categoryChars "sm").union (traitChars "omath")

/-- Characters reserved for the syntax of patterns. -/
def patternOnly : CharSet := (traitChars "patsyn").union (traitChars "patws")

def idStart : CharSet :=
  (CharSet.unions [categoriesChars ["lu", "ll", "lt", "lm", "lo", "nl"], traitChars "oids"]).diff
    patternOnly

def idContinue : CharSet :=
  (CharSet.unions [idStart, categoriesChars ["mn", "mc", "nd", "pc"], traitChars "oidc"]).diff
    patternOnly

/-- Characters whose compatibility forms do not continue an identifier. -/
def unstableInIdentifiers : CharSet :=
  .ofHex "37A 309B-309C FC5E-FC63 FDFA-FDFB FE70 FE72 FE74 FE76 FE78 FE7A FE7C FE7E"

def xidStart : CharSet :=
  idStart.diff (unstableInIdentifiers.union (.ofHex "E33 EB3 FF9E-FF9F"))

def xidContinue : CharSet := idContinue.diff unstableInIdentifiers

def graphemeExtend : CharSet := .unions [categoriesChars ["mn", "me"], traitChars "ogrext"]

def graphemeBase : CharSet :=
  assigned.diff (.unions [categoriesChars ["cc", "cf", "co", "zl", "zp"], graphemeExtend])

def defaultIgnorable : CharSet :=
  (traitChars "odi").union
    (((categoryChars "cf").union (traitChars "vs")).diff
      (.unions [traitChars "wspace", traitChars "pcm", .ofHex "FFF9-FFFB 13430-13440"]))

def caseIgnorable : CharSet :=
  .unions [categoriesChars ["mn", "me", "cf", "lm", "sk"],
    .unions ((wordBreaks.filter fun e => ["ml", "mb", "sq"].contains (e.1.headD "")).map
      fun e => .ofHex e.2)]

/-- Letters, marks, digits, connectors and joiners: the characters of words. -/
def wordChars : CharSet :=
  .unions [alphabetic, categoriesChars ["mn", "mc", "me", "nd", "pc"], traitChars "joinc"]

/-- Decimal digits of every script. -/
def digitChars : CharSet := categoryChars "nd"

/-- White space. -/
def spaceChars : CharSet := traitChars "wspace"

/-- Numbers of every kind. -/
def numeric : CharSet := categoriesChars ["nd", "nl", "no"]

/-- Properties derived from categories and listed properties. -/
def derivedTraits : List (List String × CharSet) :=
  [(["alpha", "alphabetic"], alphabetic), (["ci", "caseignorable"], caseIgnorable),
   (["cased"], cased), (["di", "defaultignorablecodepoint"], defaultIgnorable),
   (["grbase", "graphemebase"], graphemeBase), (["grext", "graphemeextend"], graphemeExtend),
   (["idc", "idcontinue"], idContinue), (["ids", "idstart"], idStart),
   (["lower", "lowercase"], lowercase), (["math"], math), (["upper", "uppercase"], uppercase),
   (["xidc", "xidcontinue"], xidContinue), (["xids", "xidstart"], xidStart)]

/-! ## Names -/

/-- Drops blanks, underscores, hyphens and characters outside ASCII, and lowers capitals. -/
def foldChars (cs : List Char) : List Char :=
  (cs.filter fun c => c.toNat < 128 ∧ c ≠ ' ' ∧ c ≠ '_' ∧ c ≠ '-').map Char.toLower

/-- A name as it is compared. A leading `is` does not count, except that `isc` stays as it is. -/
def foldName (name : String) : String :=
  match name.toList with
  | a :: b :: rest =>
    if a.toLower = 'i' ∧ b.toLower = 's' then
      let folded := foldChars rest
      if folded = ['c'] then "isc" else String.ofList folded
    else String.ofList (foldChars (a :: b :: rest))
  | cs => String.ofList (foldChars cs)

/-- Folded names of the properties whose characters are listed by value. -/
def valuedNames : List (List String) :=
  [["age"], ["gc", "generalcategory"], ["gcb", "graphemeclusterbreak"], ["sb", "sentencebreak"],
   ["sc", "script"], ["scx", "scriptextensions"], ["wb", "wordbreak"]]

/-- Folded names of properties that are known and have no set of characters here. -/
def setlessNames : List String :=
  ["bc", "bidiclass", "blk", "block", "bmg", "bidimirroringglyph", "bpb", "bidipairedbracket",
   "bpt", "bidipairedbrackettype", "ccc", "canonicalcombiningclass", "ce", "compositionexclusion",
   "cf", "casefolding", "compex", "fullcompositionexclusion", "dm", "decompositionmapping", "dt",
   "decompositiontype", "ea", "eastasianwidth", "equideo", "equivalentunifiedideograph",
   "expandsonnfc", "xonfc", "xonfd", "expandsonnfd", "xonfkc", "expandsonnfkc", "xonfkd",
   "expandsonnfkd", "xonnfc", "xonnfd", "xonnfkc", "xonnfkd", "fcnfkc", "fcnfkcclosure", "hst",
   "hangulsyllabletype", "incb", "indicconjunctbreak", "inpc", "indicpositionalcategory", "insc",
   "indicsyllabiccategory", "isc", "isocomment", "jamoshortname", "jsn", "jg", "joininggroup",
   "jt", "joiningtype", "lb", "linebreak", "lc", "lowercasemapping", "na", "name", "na1",
   "unicode1name", "namealias", "nfcqc", "nfcquickcheck", "nfdqc", "nfdquickcheck", "nfkccasefold",
   "nfkccf", "nfkcqc", "nfkcquickcheck", "nfkcscf", "nfkcsimplecasefold", "nfkdqc",
   "nfkdquickcheck", "nt", "numerictype", "numericvalue", "nv", "scf", "sfc", "simplecasefolding",
   "simplelowercasemapping", "slc", "simpletitlecasemapping", "stc", "simpleuppercasemapping",
   "suc", "tc", "titlecasemapping", "uc", "uppercasemapping", "unicoderadicalstroke", "urs", "vo",
   "verticalorientation", "cjkaccountingnumeric", "kaccountingnumeric", "cjkcompatibilityvariant",
   "kcompatibilityvariant", "cjkiicore", "kiicore", "cjkirggsource", "kirggsource",
   "cjkirghsource", "kirghsource", "cjkirgjsource", "kirgjsource", "cjkirgkpsource",
   "kirgkpsource", "cjkirgksource", "kirgksource", "cjkirgmsource", "kirgmsource",
   "cjkirgssource", "kirgssource", "cjkirgtsource", "kirgtsource", "cjkirguksource",
   "kirguksource", "cjkirgusource", "kirgusource", "cjkirgvsource", "kirgvsource",
   "cjkothernumeric", "kothernumeric", "cjkprimarynumeric", "kprimarynumeric", "cjkrsunicode",
   "krsunicode", "kehcat", "kehdesc", "kehhg", "kehifao", "kehjsesh", "kehnomirror",
   "kehnorotate", "kehunik", "kehaltseq", "kehcore"]

/-- Why a name stands for no set of characters. -/
inductive PropertyFault
  | unknownProperty
  | unknownValue
deriving DecidableEq, Repr

/-- A listed or derived property by its folded name. -/
def trait? (name : String) : Option CharSet :=
  match derivedTraits.find? fun e => e.1.contains name with
  | some e => some e.2
  | none => (listedTraits.find? fun t => t.names.contains name).map Trait.chars

/-- Whether a folded name is a property's. -/
def isPropertyName (name : String) : Bool :=
  (trait? name).isSome || setlessNames.contains name || valuedNames.any fun ns => ns.contains name

/-- A general category, or group of categories, by its folded name. -/
def category? (name : String) : Option (Except PropertyFault CharSet) :=
  if name = "any" then some (.ok .all)
  else if name = "assigned" then some (.ok assigned)
  else if name = "ascii" then some (.ok .ascii)
  else if ["cn", "unassigned"].contains name then some (.ok assigned.compl)
  else if ["c", "other"].contains name then
    some (.ok (assigned.diff (categoriesChars ["cc", "cf", "co"])).compl)
  else if ["cs", "surrogate"].contains name then some (.error .unknownValue)
  else match assignedCategories.find? fun c => c.names.contains name with
    | some c => some (.ok c.chars)
    | none => (categoryGroups.find? fun g => g.1.contains name).map fun g =>
        .ok (categoriesChars g.2)

/-- A script by its folded name. -/
def script? (name : String) : Option (Except PropertyFault Script) :=
  match scripts.find? fun s => s.names.contains name with
  | some s => some (.ok s)
  | none => if emptyScriptNames.contains name then some (.error .unknownValue) else none

/-- The characters that a name alone stands for: a property before a category before a script,
    except that `cf`, `sc` and `lc` are categories. -/
def charsNamed (written : String) : Except PropertyFault CharSet :=
  let name := foldName written
  if isPropertyName name && !(["cf", "sc", "lc"].contains name) then
    match trait? name with
    | some s => .ok s
    | none => .error .unknownProperty
  else match category? name with
    | some r => r
    | none => match script? name with
      | some r => r.map Script.chars
      | none => .error .unknownProperty

/-- The characters of a boundary value. -/
def breakChars (values : BoundaryValues) (value : String) : Except PropertyFault CharSet :=
  match values.find? fun e => e.1.contains value with
  | some e => .ok (.ofHex e.2)
  | none => .error .unknownValue

/-- The characters for which a property has a value. -/
def charsWith (writtenName writtenValue : String) : Except PropertyFault CharSet :=
  let name := foldName writtenName
  let value := foldName writtenValue
  let unknown : Except PropertyFault CharSet := .error .unknownValue
  if !isPropertyName name then .error .unknownProperty
  else if ["gc", "generalcategory"].contains name then (category? value).getD unknown
  else if ["sc", "script"].contains name then
    ((script? value).getD (.error .unknownValue)).map Script.chars
  else if ["scx", "scriptextensions"].contains name then
    ((script? value).getD (.error .unknownValue)).map Script.usedChars
  else if name = "age" then
    match charsOfVersion? value with
    | some s => .ok s
    | none => unknown
  else if ["gcb", "graphemeclusterbreak"].contains name then breakChars graphemeClusterBreaks value
  else if ["sb", "sentencebreak"].contains name then breakChars sentenceBreaks value
  else if ["wb", "wordbreak"].contains name then breakChars wordBreaks value
  else unknown

end RecordRules.Unicode
