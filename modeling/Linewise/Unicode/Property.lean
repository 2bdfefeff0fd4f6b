import Linewise.Text.Blank
import Linewise.Unicode.Age
import Linewise.Unicode.Derived
import Linewise.Unicode.Listed
import Linewise.Unicode.Script
import Linewise.Unicode.Segment

namespace Linewise

abbrev NamedSets := List (List String × CharSet)

def NamedSets.named? (sets : NamedSets) (name : String) : Option CharSet :=
  (List.find? (fun (names, _) ↦ names.contains name) sets).map Prod.snd

def derivedProperties : NamedSets := [
  (["alphabetic", "alpha"], alphabetic),
  (["caseignorable", "ci"], caseIgnorable),
  (["cased"], cased),
  (["changeswhencasefolded", "cwcf"], changesWhenCasefolded),
  (["changeswhencasemapped", "cwcm"], changesWhenCasemapped),
  (["changeswhenlowercased", "cwl"], changesWhenLowercased),
  (["changeswhentitlecased", "cwt"], changesWhenTitlecased),
  (["changeswhenuppercased", "cwu"], changesWhenUppercased),
  (["defaultignorablecodepoint", "di"], defaultIgnorable),
  (["graphemebase", "grbase"], graphemeBase),
  (["graphemeextend", "grext"], graphemeExtend),
  (["idcontinue", "idc"], idContinue),
  (["idstart", "ids"], idStart),
  (["lowercase", "lower"], lowercase),
  (["math"], math),
  (["otheralphabetic", "oalpha"], otherAlphabetic),
  (["otherdefaultignorablecodepoint", "odi"], otherDefaultIgnorable),
  (["othergraphemeextend", "ogrext"], otherGraphemeExtend),
  (["otheridcontinue", "oidc"], otherIdContinue),
  (["otheridstart", "oids"], otherIdStart),
  (["otherlowercase", "olower"], otherLowercase),
  (["othermath", "omath"], otherMath),
  (["otheruppercase", "oupper"], otherUppercase),
  (["patternsyntax", "patsyn"], patternSyntax),
  (["patternwhitespace", "patws"], patternBlank),
  (["prependedconcatenationmark", "pcm"], prependedMark),
  (["uppercase", "upper"], uppercase),
  (["variationselector", "vs"], variationSelector),
  (["whitespace", "wspace", "space"], blankSet),
  (["xidcontinue", "xidc"], xidContinue),
  (["xidstart", "xids"], xidStart)]

open Category in
/-- The general categories, the unions of several of them, and the three sets that go with them.
Surrogates are no characters and have no name here. -/
def categoriesByName : NamedSets := [
  (["any"], .range 0 0x10ffff),
  (["assigned"], unassigned.complement),
  (["ascii"], .range 0 0x7f),
  (["c", "other"], other),
  (["cc", "control", "cntrl"], control),
  (["cf", "format"], format),
  (["cn", "unassigned"], unassigned),
  (["co", "privateuse"], privateUse),
  (["l", "letter"], letter),
  (["lc", "casedletter"], casedLetter),
  (["ll", "lowercaseletter"], lowercaseLetter),
  (["lm", "modifierletter"], modifierLetter),
  (["lo", "otherletter"], otherLetter),
  (["lt", "titlecaseletter"], titlecaseLetter),
  (["lu", "uppercaseletter"], uppercaseLetter),
  (["m", "mark", "combiningmark"], mark),
  (["mc", "spacingmark"], spacingMark),
  (["me", "enclosingmark"], enclosingMark),
  (["mn", "nonspacingmark"], nonspacingMark),
  (["n", "number"], number),
  (["nd", "decimalnumber", "digit"], decimalNumber),
  (["nl", "letternumber"], letterNumber),
  (["no", "othernumber"], otherNumber),
  (["p", "punctuation", "punct"], punctuation),
  (["pc", "connectorpunctuation"], connectorPunctuation),
  (["pd", "dashpunctuation"], dashPunctuation),
  (["pe", "closepunctuation"], closePunctuation),
  (["pf", "finalpunctuation"], finalPunctuation),
  (["pi", "initialpunctuation"], initialPunctuation),
  (["po", "otherpunctuation"], otherPunctuation),
  (["ps", "openpunctuation"], openPunctuation),
  (["s", "symbol"], symbol),
  (["sc", "currencysymbol"], currencySymbol),
  (["sk", "modifiersymbol"], modifierSymbol),
  (["sm", "mathsymbol"], mathSymbol),
  (["so", "othersymbol"], otherSymbol),
  (["z", "separator"], separator),
  (["zl", "lineseparator"], lineSeparator),
  (["zp", "paragraphseparator"], paragraphSeparator),
  (["zs", "spaceseparator"], spaceSeparator)]

def NamedTable.named? (tables : List NamedTable) (name : String) : Option CharSet :=
  (NamedTable.find? tables name).map NamedTable.toSet

/-- The code points that are used with the script, also those that belong to no script or to several
of them. -/
def extendedScript? (name : String) : Option CharSet := do
  let script ← NamedTable.find? scripts name
  let code ← script.names.head?
  let shared := sharedScripts.map NamedTable.toSet
  let used := (sharedScripts.filter (·.names.contains code)).map NamedTable.toSet
  some ((script.toSet.difference (Category.anyOf shared)).union (Category.anyOf used))

def version? (name : String) : Option CharSet := do
  let last ← additions.findIdx? (·.names.contains name)
  some (Category.anyOf ((additions.take (last + 1)).map NamedTable.toSet))

/-- The name in the form in which names are compared. Case, blanks, underscores and hyphens do not
count, nor does a leading `is`, but a lone `c` behind `is` keeps it. -/
def plainName (name : List Char) : String :=
  let isMarked := (name.take 2).map Char.toLower == ['i', 's']
  let bare := if isMarked then name.drop 2 else name
  let kept := (bare.filter fun c ↦ c.toNat < 0x80 && c != ' ' && c != '_' && c != '-').map
    Char.toLower
  String.ofList (if isMarked && kept == ['c'] then ['i', 's', 'c'] else kept)

def namedSet? (name : List Char) : Option CharSet :=
  let name := plainName name
  derivedProperties.named? name <|> NamedTable.named? listedProperties name <|>
    categoriesByName.named? name <|> NamedTable.named? scripts name

def propertySet? (property value : List Char) : Option CharSet :=
  let value := plainName value
  match plainName property with
  | "generalcategory" | "gc" => categoriesByName.named? value
  | "script" | "sc" => NamedTable.named? scripts value
  | "scriptextensions" | "scx" => extendedScript? value
  | "age" => version? value
  | "graphemeclusterbreak" | "gcb" => NamedTable.named? graphemeClasses value
  | "wordbreak" | "wb" => NamedTable.named? wordClasses value
  | "sentencebreak" | "sb" => NamedTable.named? sentenceClasses value
  | _ => none

end Linewise
