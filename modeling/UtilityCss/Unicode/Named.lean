import UtilityCss.Unicode.Age
import UtilityCss.Unicode.Segmentation

/-!
Character properties by name. Names are compared without regard to case, blanks, dashes and
underscores, and without a leading `is`.
-/
namespace UtilityCss.Unicode

def looseName (name : List Char) : String :=
  let (prefixed, rest) := match name with
    | i :: s :: rest => if i.toLower = 'i' && s.toLower = 's' then (true, rest) else (false, name)
    | _ => (false, name)
  let kept := (rest.filter fun c => decide (c.toNat < 128) && c ≠ ' ' && c ≠ '_' && c ≠ '-').map
    Char.toLower
  -- the abbreviation of ISO_Comment keeps its beginning
  if prefixed && kept = ['c'] then "isc" else String.ofList kept

def findNamed {α : Type} (name : String) (table : List (List String × α)) : Option α :=
  (table.find? fun entry => entry.1.contains name).map Prod.snd

def categoryNames : List (List String × CharSet) :=
  [(["c", "other"], Category.other),
    (["cc", "control", "cntrl"], Category.control),
    (["cf", "format"], Category.format),
    (["cn", "unassigned"], Category.unassigned),
    (["co", "privateuse"], Category.privateUse),
    (["l", "letter"], Category.letter),
    (["lc", "casedletter"], Category.casedLetter),
    (["ll", "lowercaseletter"], Category.lowercaseLetter),
    (["lm", "modifierletter"], Category.modifierLetter),
    (["lo", "otherletter"], Category.otherLetter),
    (["lt", "titlecaseletter"], Category.titlecaseLetter),
    (["lu", "uppercaseletter"], Category.uppercaseLetter),
    (["m", "mark", "combiningmark"], Category.mark),
    (["mc", "spacingmark"], Category.spacingMark),
    (["me", "enclosingmark"], Category.enclosingMark),
    (["mn", "nonspacingmark"], Category.nonspacingMark),
    (["n", "number"], Category.number),
    (["nd", "decimalnumber", "digit"], Category.decimalNumber),
    (["nl", "letternumber"], Category.letterNumber),
    (["no", "othernumber"], Category.otherNumber),
    (["p", "punctuation", "punct"], Category.punctuation),
    (["pc", "connectorpunctuation"], Category.connectorPunctuation),
    (["pd", "dashpunctuation"], Category.dashPunctuation),
    (["pe", "closepunctuation"], Category.closePunctuation),
    (["pf", "finalpunctuation"], Category.finalPunctuation),
    (["pi", "initialpunctuation"], Category.initialPunctuation),
    (["po", "otherpunctuation"], Category.otherPunctuation),
    (["ps", "openpunctuation"], Category.openPunctuation),
    (["s", "symbol"], Category.symbol),
    (["sc", "currencysymbol"], Category.currencySymbol),
    (["sk", "modifiersymbol"], Category.modifierSymbol),
    (["sm", "mathsymbol"], Category.mathSymbol),
    (["so", "othersymbol"], Category.otherSymbol),
    (["z", "separator"], Category.separator),
    (["zl", "lineseparator"], Category.lineSeparator),
    (["zp", "paragraphseparator"], Category.paragraphSeparator),
    (["zs", "spaceseparator"], Category.spaceSeparator),
    (["any"], CharSet.full),
    (["assigned"], Category.assigned),
    (["ascii"], ⟨[(0, 0x7f)]⟩)]

def propertyNames : List (List String × CharSet) :=
  [(["ahex", "asciihexdigit"], Property.asciiHexDigit),
    (["alpha", "alphabetic"], Property.alphabetic),
    (["bidic", "bidicontrol"], Property.bidiControl),
    (["bidim", "bidimirrored"], Property.bidiMirrored),
    (["ci", "caseignorable"], Property.caseIgnorable),
    (["cased"], Property.cased),
    (["cwcf", "changeswhencasefolded"], Property.changesWhenCasefolded),
    (["cwcm", "changeswhencasemapped"], Property.changesWhenCasemapped),
    (["cwl", "changeswhenlowercased"], Property.changesWhenLowercased),
    (["cwt", "changeswhentitlecased"], Property.changesWhenTitlecased),
    (["cwu", "changeswhenuppercased"], Property.changesWhenUppercased),
    (["dash"], Property.dash),
    (["di", "defaultignorablecodepoint"], Property.defaultIgnorable),
    (["dep", "deprecated"], Property.deprecated),
    (["dia", "diacritic"], Property.diacritic),
    (["emoji"], Property.emoji),
    (["ecomp", "emojicomponent"], Property.emojiComponent),
    (["emod", "emojimodifier"], Property.emojiModifier),
    (["ebase", "emojimodifierbase"], Property.emojiModifierBase),
    (["epres", "emojipresentation"], Property.emojiPresentation),
    (["extpict", "extendedpictographic"], Property.extendedPictographic),
    (["ext", "extender"], Property.extender),
    (["grbase", "graphemebase"], Property.graphemeBase),
    (["grext", "graphemeextend"], Property.graphemeExtend),
    (["grlink", "graphemelink"], Property.graphemeLink),
    (["hex", "hexdigit"], Property.hexDigit),
    (["hyphen"], Property.hyphen),
    (["idsb", "idsbinaryoperator"], Property.idsBinaryOperator),
    (["idst", "idstrinaryoperator"], Property.idsTrinaryOperator),
    (["idsu", "idsunaryoperator"], Property.idsUnaryOperator),
    (["idcompatmathstart"], Property.idCompatMathStart),
    (["idcompatmathcontinue"], Property.idCompatMathContinue),
    (["idc", "idcontinue"], Property.idContinue),
    (["ids", "idstart"], Property.idStart),
    (["ideo", "ideographic"], Property.ideographic),
    (["joinc", "joincontrol"], Property.joinControl),
    (["loe", "logicalorderexception"], Property.logicalOrderException),
    (["lower", "lowercase"], Property.lowercase),
    (["math"], Property.math),
    (["mcm", "modifiercombiningmark"], Property.modifierCombiningMark),
    (["nchar", "noncharactercodepoint"], Property.noncharacter),
    (["oalpha", "otheralphabetic"], Property.otherAlphabetic),
    (["odi", "otherdefaultignorablecodepoint"], Property.otherDefaultIgnorable),
    (["ogrext", "othergraphemeextend"], Property.otherGraphemeExtend),
    (["oidc", "otheridcontinue"], Property.otherIdContinue),
    (["oids", "otheridstart"], Property.otherIdStart),
    (["olower", "otherlowercase"], Property.otherLowercase),
    (["omath", "othermath"], Property.otherMath),
    (["oupper", "otheruppercase"], Property.otherUppercase),
    (["patsyn", "patternsyntax"], Property.patternSyntax),
    (["patws", "patternwhitespace"], Property.patternWhiteSpace),
    (["pcm", "prependedconcatenationmark"], Property.prependedConcatenationMark),
    (["qmark", "quotationmark"], Property.quotationMark),
    (["radical"], Property.radical),
    (["ri", "regionalindicator"], Property.regionalIndicator),
    (["sterm", "sentenceterminal"], Property.sentenceTerminal),
    (["sd", "softdotted"], Property.softDotted),
    (["term", "terminalpunctuation"], Property.terminalPunctuation),
    (["uideo", "unifiedideograph"], Property.unifiedIdeograph),
    (["upper", "uppercase"], Property.uppercase),
    (["vs", "variationselector"], Property.variationSelector),
    (["wspace", "whitespace", "space"], Property.whiteSpace),
    (["xidc", "xidcontinue"], Property.xidContinue),
    (["xids", "xidstart"], Property.xidStart)]

def graphemeBreakNames : List (List String × CharSet) :=
  [(["cn", "control"], GraphemeBreak.control),
    (["cr"], carriageReturn),
    (["ex", "extend"], GraphemeBreak.extend),
    (["l"], GraphemeBreak.leadingJamo),
    (["lf"], lineFeed),
    (["lv"], GraphemeBreak.openSyllable),
    (["lvt"], GraphemeBreak.closedSyllable),
    (["pp", "prepend"], GraphemeBreak.prepend),
    (["ri", "regionalindicator"], Property.regionalIndicator),
    (["sm", "spacingmark"], GraphemeBreak.spacingMark),
    (["t"], GraphemeBreak.trailingJamo),
    (["v"], GraphemeBreak.vowelJamo),
    (["zwj"], zeroWidthJoiner)]

def wordBreakNames : List (List String × CharSet) :=
  [(["cr"], carriageReturn),
    (["dq", "doublequote"], WordBreak.doubleQuote),
    (["ex", "extendnumlet"], WordBreak.extendNumLet),
    (["extend"], WordBreak.extend),
    (["fo", "format"], WordBreak.format),
    (["hl", "hebrewletter"], WordBreak.hebrewLetter),
    (["ka", "katakana"], WordBreak.katakana),
    (["le", "aletter"], WordBreak.letter),
    (["lf"], lineFeed),
    (["mb", "midnumlet"], WordBreak.midNumLet),
    (["ml", "midletter"], WordBreak.midLetter),
    (["mn", "midnum"], WordBreak.midNum),
    (["nl", "newline"], WordBreak.newline),
    (["nu", "numeric"], WordBreak.numeric),
    (["ri", "regionalindicator"], Property.regionalIndicator),
    (["sq", "singlequote"], WordBreak.singleQuote),
    (["wsegspace"], WordBreak.segmentSpace),
    (["zwj"], zeroWidthJoiner)]

def sentenceBreakNames : List (List String × CharSet) :=
  [(["at", "aterm"], SentenceBreak.ambiguousTerminal),
    (["cl", "close"], SentenceBreak.close),
    (["cr"], carriageReturn),
    (["ex", "extend"], SentenceBreak.extend),
    (["fo", "format"], SentenceBreak.format),
    (["le", "oletter"], SentenceBreak.otherLetter),
    (["lf"], lineFeed),
    (["lo", "lower"], SentenceBreak.lower),
    (["nu", "numeric"], SentenceBreak.numeric),
    (["sc", "scontinue"], SentenceBreak.continuing),
    (["se", "sep"], SentenceBreak.separator),
    (["sp"], SentenceBreak.space),
    (["st", "sterm"], SentenceBreak.terminal),
    (["up", "upper"], SentenceBreak.upper)]

def findScript (name : String) : Option Script := Script.all.find? fun s => s.names.contains name

/-- The code points used with a script. The two collective scripts leave out those that name the
scripts they are used with. -/
def scriptExtensions (script : Script) : CharSet :=
  if script.names.contains "common" || script.names.contains "inherited" then
    script.own.diff (.unions (Script.all.map Script.shared))
  else script.extended

/-- What a lone name stands for: a binary property, a general category or a script. -/
def propertyNamed (name : List Char) : Option CharSet :=
  let name := looseName name
  findNamed name propertyNames <|> findNamed name categoryNames <|>
    (findScript name).map Script.own

def propertyValued (name value : List Char) : Option CharSet :=
  let value := looseName value
  match looseName name with
  | "age" => Version.assignedUpTo value Version.all
  | "gc" | "generalcategory" => findNamed value categoryNames
  | "gcb" | "graphemeclusterbreak" => findNamed value graphemeBreakNames
  | "sb" | "sentencebreak" => findNamed value sentenceBreakNames
  | "wb" | "wordbreak" => findNamed value wordBreakNames
  | "sc" | "script" => (findScript value).map Script.own
  | "scx" | "scriptextensions" => (findScript value).map scriptExtensions
  | _ => none

end UtilityCss.Unicode
