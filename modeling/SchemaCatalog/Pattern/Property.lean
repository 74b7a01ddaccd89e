/-!
Names of character properties that a pattern may refer to: alone, as the name of a property
that holds or not, of a general category or of a script, or as the value of a named property.
Names are compared without case, blanks, hyphens, underscores and a leading "is".
-/
namespace SchemaCatalog.Pattern.Property

def categoryNames : List String := [
  "any", "assigned", "ascii",
  "c", "other", "cc", "control", "cntrl", "cf", "format", "cn", "unassigned", "co", "privateuse",
  "l", "letter", "lc", "casedletter", "ll", "lowercaseletter", "lm", "modifierletter", "lo",
  "otherletter", "lt", "titlecaseletter", "lu", "uppercaseletter", "m", "mark", "combiningmark",
  "mc", "spacingmark", "me", "enclosingmark", "mn", "nonspacingmark", "n", "number", "nd",
  "decimalnumber", "digit", "nl", "letternumber", "no", "othernumber", "p", "punctuation", "punct",
  "pc", "connectorpunctuation", "pd", "dashpunctuation", "pe", "closepunctuation", "pf",
  "finalpunctuation", "pi", "initialpunctuation", "po", "otherpunctuation", "ps",
  "openpunctuation", "s", "symbol", "sc", "currencysymbol", "sk", "modifiersymbol", "sm",
  "mathsymbol", "so", "othersymbol", "z", "separator", "zl", "lineseparator", "zp",
  "paragraphseparator", "zs", "spaceseparator"]

def scriptNames : List String := [
  "adlm", "adlam", "aghb", "caucasianalbanian", "ahom", "arab", "arabic", "armi",
  "imperialaramaic", "armn", "armenian", "avst", "avestan", "bali", "balinese", "bamu", "bamum",
  "bass", "bassavah", "batk", "batak", "beng", "bengali", "bhks", "bhaiksuki", "bopo", "bopomofo",
  "brah", "brahmi", "brai", "braille", "bugi", "buginese", "buhd", "buhid", "cakm", "chakma",
  "cans", "canadianaboriginal", "cari", "carian", "cham", "cher", "cherokee", "chrs", "chorasmian",
  "copt", "coptic", "qaac", "cpmn", "cyprominoan", "cprt", "cypriot", "cyrl", "cyrillic", "deva",
  "devanagari", "diak", "divesakuru", "dogr", "dogra", "dsrt", "deseret", "dupl", "duployan",
  "egyp", "egyptianhieroglyphs", "elba", "elbasan", "elym", "elymaic", "ethi", "ethiopic", "geor",
  "georgian", "glag", "glagolitic", "gong", "gunjalagondi", "gonm", "masaramgondi", "goth",
  "gothic", "gran", "grantha", "grek", "greek", "gujr", "gujarati", "guru", "gurmukhi", "hang",
  "hangul", "hani", "han", "hano", "hanunoo", "hatr", "hatran", "hebr", "hebrew", "hira",
  "hiragana", "hluw", "anatolianhieroglyphs", "hmng", "pahawhhmong", "hmnp",
  "nyiakengpuachuehmong", "hung", "oldhungarian", "ital", "olditalic", "java", "javanese", "kali",
  "kayahli", "kana", "katakana", "kawi", "khar", "kharoshthi", "khmr", "khmer", "khoj", "khojki",
  "kits", "khitansmallscript", "knda", "kannada", "kthi", "kaithi", "lana", "taitham", "laoo",
  "lao", "latn", "latin", "lepc", "lepcha", "limb", "limbu", "lina", "lineara", "linb", "linearb",
  "lisu", "lyci", "lycian", "lydi", "lydian", "mahj", "mahajani", "maka", "makasar", "mand",
  "mandaic", "mani", "manichaean", "marc", "marchen", "medf", "medefaidrin", "mend",
  "mendekikakui", "merc", "meroiticcursive", "mero", "meroitichieroglyphs", "mlym", "malayalam",
  "modi", "mong", "mongolian", "mroo", "mro", "mtei", "meeteimayek", "mult", "multani", "mymr",
  "myanmar", "nagm", "nagmundari", "nand", "nandinagari", "narb", "oldnortharabian", "nbat",
  "nabataean", "newa", "nkoo", "nko", "nshu", "nushu", "ogam", "ogham", "olck", "olchiki", "orkh",
  "oldturkic", "orya", "oriya", "osge", "osage", "osma", "osmanya", "ougr", "olduyghur", "palm",
  "palmyrene", "pauc", "paucinhau", "perm", "oldpermic", "phag", "phagspa", "phli",
  "inscriptionalpahlavi", "phlp", "psalterpahlavi", "phnx", "phoenician", "plrd", "miao", "prti",
  "inscriptionalparthian", "rjng", "rejang", "rohg", "hanifirohingya", "runr", "runic", "samr",
  "samaritan", "sarb", "oldsoutharabian", "saur", "saurashtra", "sgnw", "signwriting", "shaw",
  "shavian", "shrd", "sharada", "sidd", "siddham", "sind", "khudawadi", "sinh", "sinhala", "sogd",
  "sogdian", "sogo", "oldsogdian", "sora", "sorasompeng", "soyo", "soyombo", "sund", "sundanese",
  "sylo", "sylotinagri", "syrc", "syriac", "tagb", "tagbanwa", "takr", "takri", "tale", "taile",
  "talu", "newtailue", "taml", "tamil", "tang", "tangut", "tavt", "taiviet", "telu", "telugu",
  "tfng", "tifinagh", "tglg", "tagalog", "thaa", "thaana", "thai", "tibt", "tibetan", "tirh",
  "tirhuta", "tnsa", "tangsa", "toto", "ugar", "ugaritic", "vaii", "vai", "vith", "vithkuqi",
  "wara", "warangciti", "wcho", "wancho", "xpeo", "oldpersian", "xsux", "cuneiform", "yezi",
  "yezidi", "yiii", "yi", "zanb", "zanabazarsquare", "zinh", "inherited", "qaai", "zyyy", "common",
  "gara", "garay", "gukh", "gurungkhema", "krai", "kiratrai", "onao", "olonal", "sunu", "sunuwar",
  "todr", "todhri", "tutg", "tulutigalari"]

def flagNames : List String := [
  "ahex", "asciihexdigit", "alpha", "alphabetic", "bidic", "bidicontrol", "bidim", "bidimirrored",
  "cased", "ci", "caseignorable", "cwcf", "changeswhencasefolded", "cwcm", "changeswhencasemapped",
  "cwl", "changeswhenlowercased", "cwt", "changeswhentitlecased", "cwu", "changeswhenuppercased",
  "dash", "dep", "deprecated", "di", "defaultignorablecodepoint", "dia", "diacritic", "ebase",
  "emojimodifierbase", "ecomp", "emojicomponent", "emod", "emojimodifier", "emoji", "epres",
  "emojipresentation", "ext", "extender", "extpict", "extendedpictographic", "grbase",
  "graphemebase", "grext", "graphemeextend", "grlink", "hex", "hexdigit", "hyphen", "idc",
  "idcontinue", "ideo", "ideographic", "ids", "idstart", "idsb", "idsbinaryoperator", "idst",
  "idstrinaryoperator", "joinc", "joincontrol", "loe", "logicalorderexception", "lower",
  "lowercase", "math", "nchar", "noncharactercodepoint", "oalpha", "odi", "ogrext", "oidc", "oids",
  "olower", "omath", "oupper", "patsyn", "patternsyntax", "patws", "patternwhitespace", "pcm",
  "prependedconcatenationmark", "qmark", "quotationmark", "radical", "ri", "regionalindicator",
  "sd", "softdotted", "sterm", "sentenceterminal", "term", "terminalpunctuation", "uideo",
  "unifiedideograph", "upper", "uppercase", "vs", "variationselector", "xidc", "xidcontinue",
  "xids", "xidstart", "wspace", "whitespace", "space", "graphemelink", "otheralphabetic",
  "otherdefaultignorablecodepoint", "othergraphemeextend", "otheridcontinue", "otheridstart",
  "otherlowercase", "othermath", "otheruppercase", "idsu", "idsunaryoperator", "mcm",
  "modifiercombiningmark", "idcompatmathstart", "idcompatmathcontinue"]

def clusterBreakNames : List String := [
  "cn", "control", "cr", "ex", "extend", "l", "lf", "lv", "lvt", "pp", "prepend", "ri",
  "regionalindicator", "sm", "spacingmark", "t", "v", "zwj"]

def wordBreakNames : List String := [
  "cr", "dq", "doublequote", "ex", "extendnumlet", "extend", "fo", "format", "hl", "hebrewletter",
  "ka", "katakana", "le", "aletter", "lf", "mb", "midnumlet", "ml", "midletter", "mn", "midnum",
  "nl", "newline", "nu", "numeric", "ri", "regionalindicator", "sq", "singlequote", "wsegspace",
  "zwj"]

def sentenceBreakNames : List String := [
  "at", "aterm", "cl", "close", "cr", "ex", "extend", "fo", "format", "le", "oletter", "lf", "lo",
  "lower", "nu", "numeric", "sc", "scontinue", "se", "sep", "sp", "st", "sterm", "up", "upper"]

/-- The versions in which characters were added. -/
def ageNames : List String := [
  "1.1", "2.0", "2.1", "3.0", "3.1", "3.2", "4.0", "4.1", "5.0", "5.1", "5.2", "6.0", "6.1", "6.2",
  "6.3", "7.0", "8.0", "9.0", "10.0", "11.0", "12.0", "12.1", "13.0", "14.0", "15.0", "15.1",
  "16.0"]

/-- The form in which names are compared. A name that starts with "is" and ends in "c" alone
stays as it is, because "isc" is a name of its own. -/
def normalized (name : String) : String :=
  let cs := name.toList
  let (marked, cs) := match cs with
    | a :: b :: rest => if (a = 'i' || a = 'I') && (b = 's' || b = 'S') then (true, rest) else (false, cs)
    | _ => (false, cs)
  let kept := (cs.filter fun c => c.toNat < 0x80 && c != ' ' && c != '_' && c != '-').map Char.toLower
  if marked && kept = ['c'] then "isc" else String.ofList kept

def isKnown (name : String) : Bool :=
  let name := normalized name
  flagNames.contains name || categoryNames.contains name || scriptNames.contains name

/-- An age as digits with a point, or as a "v" and the digits alone. -/
def isAge (value : String) : Bool :=
  ageNames.any fun age => value = age || value = "v" ++ String.ofList (age.toList.filter (· != '.'))

def isKnownValue (name value : String) : Bool :=
  let value := normalized value
  match normalized name with
  | "gc" | "generalcategory" => categoryNames.contains value
  | "sc" | "script" | "scx" | "scriptextensions" => scriptNames.contains value
  | "gcb" | "graphemeclusterbreak" => clusterBreakNames.contains value
  | "wb" | "wordbreak" => wordBreakNames.contains value
  | "sb" | "sentencebreak" => sentenceBreakNames.contains value
  | "age" => isAge value
  | _ => false

/-- Whether what stands between braces names a class: a name alone, or a name and a value with
`!=`, a colon or an equals sign between, the first of which counts in this order. -/
def isKnownText (text : String) : Bool :=
  match text.splitOn "!=" with
  | name :: value :: rest => isKnownValue name ("!=".intercalate (value :: rest))
  | _ =>
      let cs := text.toList
      let split (mark : Char) : Bool :=
        isKnownValue (String.ofList (cs.takeWhile (· != mark)))
          (String.ofList ((cs.dropWhile (· != mark)).drop 1))
      if cs.contains ':' then split ':' else if cs.contains '=' then split '=' else isKnown text

end SchemaCatalog.Pattern.Property
