import ThemeSwitch.Unicode.Fold
import ThemeSwitch.Unicode.Property
import ThemeSwitch.Unicode.Property.Category
import ThemeSwitch.Unicode.Property.Table

/-! # Sets with names of their own

The properties that a character has or has not, by the formulas that make them from general
categories, tables and one another. -/
namespace ThemeSwitch.Unicode.CharSet

def letters : CharSet := ofCategories [.lu, .ll, .lt, .lm, .lo]

def titlecase : CharSet := ofCategories [.lt]

def alphabeticMarks : CharSet := diff otherAlphabetic added

def alphabetic : CharSet := unions [letters, ofCategories [.nl], alphabeticMarks]

def lowercase : CharSet := union (ofCategories [.ll]) otherLowercase

def uppercase : CharSet := union (ofCategories [.lu]) otherUppercase

def cased : CharSet := unions [lowercase, uppercase, titlecase]

/-- The characters in the middle of a word that are not letters: colons, points and quotes. -/
def midLetters : CharSet := ofSpans [
  (0x3A, 0x3A), (0xB7, 0xB7), (0x387, 0x387), (0x55F, 0x55F), (0x5F4, 0x5F4), (0x2027, 0x2027),
  (0xFE13, 0xFE13), (0xFE55, 0xFE55), (0xFF1A, 0xFF1A)]

def midNumberLetters : CharSet := ofSpans [
  (0x2E, 0x2E), (0x2018, 0x2019), (0x2024, 0x2024), (0xFE52, 0xFE52), (0xFF07, 0xFF07),
  (0xFF0E, 0xFF0E)]

def caseIgnorable : CharSet := unions [
  ofCategories [.mn, .me, .cf, .lm, .sk], midLetters, midNumberLetters, single '\'']

/-- Small letters whose capital form has several characters, and the dotless i. -/
def withoutSimpleCapital : CharSet := ofSpans [
  (0x131, 0x131), (0x149, 0x149), (0x1F0, 0x1F0), (0x587, 0x587), (0x1E96, 0x1E9A),
  (0x1F50, 0x1F50), (0x1F52, 0x1F52), (0x1F54, 0x1F54), (0x1F56, 0x1F56), (0x1FB2, 0x1FB2),
  (0x1FB4, 0x1FB4), (0x1FB6, 0x1FB7), (0x1FC2, 0x1FC2), (0x1FC4, 0x1FC4), (0x1FC6, 0x1FC7),
  (0x1FD2, 0x1FD2), (0x1FD6, 0x1FD7), (0x1FE2, 0x1FE2), (0x1FE4, 0x1FE4), (0x1FE6, 0x1FE7),
  (0x1FF2, 0x1FF2), (0x1FF4, 0x1FF4), (0x1FF6, 0x1FF7), (0xFB00, 0xFB04), (0xFB13, 0xFB17)]

/-- Small letters whose folding is not themselves. -/
def foldedSmallLetters : CharSet := ofSpans [
  (0xB5, 0xB5), (0xDF, 0xDF), (0x149, 0x149), (0x17F, 0x17F), (0x345, 0x345), (0x3C2, 0x3C2),
  (0x3D0, 0x3D1), (0x3D5, 0x3D6), (0x3F0, 0x3F1), (0x3F5, 0x3F5), (0x587, 0x587),
  (0x13F8, 0x13FD), (0x1C80, 0x1C88), (0x1E9A, 0x1E9B), (0x1F80, 0x1F87), (0x1F90, 0x1F97),
  (0x1FA0, 0x1FA7), (0x1FB2, 0x1FB4), (0x1FB7, 0x1FB7), (0x1FC2, 0x1FC4), (0x1FC7, 0x1FC7),
  (0x1FF2, 0x1FF4), (0x1FF7, 0x1FF7), (0xAB70, 0xABBF), (0xFB00, 0xFB06), (0xFB13, 0xFB17)]

/-- The capital letters that are their own folding. -/
def cherokeeCapitals : CharSet := ofSpans [(0x13A0, 0x13F5)]

/-- The small letters whose capital form is not used for titles. -/
def mkhedruli : CharSet := ofSpans [(0x10D0, 0x10FA), (0x10FD, 0x10FF)]

/-- The capital letters with a titlecase form. -/
def capitalDigraphs : CharSet :=
  ofSpans [(0x1C4, 0x1C4), (0x1C7, 0x1C7), (0x1CA, 0x1CA), (0x1F1, 0x1F1)]

def changesWhenLowercased : CharSet :=
  union (inter foldable (union uppercase titlecase)) (single 'İ')

def changesWhenUppercased : CharSet :=
  union (inter foldable (union lowercase titlecase)) withoutSimpleCapital

def changesWhenTitlecased : CharSet :=
  union (diff changesWhenUppercased (union titlecase mkhedruli)) capitalDigraphs

def changesWhenCasefolded : CharSet :=
  union (diff changesWhenLowercased cherokeeCapitals) foldedSmallLetters

def changesWhenCasemapped : CharSet := unions [
  changesWhenLowercased, changesWhenUppercased, changesWhenTitlecased]

/-- The two last characters of every plane, and a block of others. -/
def noncharacters : CharSet :=
  union (ofSpans [(0xFDD0, 0xFDEF)]) <|
    ofSpans ((List.range 17).map fun plane => (0x10000 * plane + 0xFFFE, 0x10000 * plane + 0xFFFF))

def defaultIgnorable : CharSet :=
  diff (unions [otherDefaultIgnorable, ofCategories [.cf], variationSelectors]) <|
    unions [whiteSpace, prependedMarks, ofSpans [(0xFFF9, 0xFFFB), (0x13430, 0x1343F)]]

def graphemeExtend : CharSet := union (ofCategories [.mn, .me]) (diff otherGraphemeExtend added)

def graphemeBase : CharSet :=
  compl (union (ofCategories [.cc, .cf, .co, .cn, .zl, .zp]) graphemeExtend)

def mathematical : CharSet := union (ofCategories [.sm]) otherMath

def idStart : CharSet :=
  diff (unions [letters, ofCategories [.nl], otherIdStart]) (union patternSigns patternBlanks)

def idContinue : CharSet :=
  diff (unions [idStart, ofCategories [.mn, .mc, .nd, .pc], otherIdContinue])
    (union patternSigns patternBlanks)

/-- Characters of identifiers whose normal form does not continue an identifier. -/
def breaksIdContinue : CharSet := ofSpans [
  (0x37A, 0x37A), (0x309B, 0x309C), (0xFC5E, 0xFC63), (0xFDFA, 0xFDFB), (0xFE70, 0xFE70),
  (0xFE72, 0xFE72), (0xFE74, 0xFE74), (0xFE76, 0xFE76), (0xFE78, 0xFE78), (0xFE7A, 0xFE7A),
  (0xFE7C, 0xFE7C), (0xFE7E, 0xFE7E)]

def xidContinue : CharSet := diff idContinue breaksIdContinue

def xidStart : CharSet :=
  diff idStart <| union breaksIdContinue <|
    ofSpans [(0xE33, 0xE33), (0xEB3, 0xEB3), (0xFF9E, 0xFF9F)]

/-- The parts of words: alphabetic characters, marks, decimal digits, connecting punctuation and the
two joiners. -/
def wordParts : CharSet := unions [
  alphabetic, ofCategories [.mn, .mc, .me, .nd, .pc], joinControls]

/-- The properties with their names, in small letters and without separators. -/
def binaryProperties : List (List String × CharSet) := [
  (["ahex", "asciihexdigit"], asciiHexDigits), (["alpha", "alphabetic"], alphabetic),
  (["bidic", "bidicontrol"], bidiControls), (["bidim", "bidimirrored"], bidiMirrored),
  (["cased"], cased), (["ci", "caseignorable"], caseIgnorable),
  (["cwcf", "changeswhencasefolded"], changesWhenCasefolded),
  (["cwcm", "changeswhencasemapped"], changesWhenCasemapped),
  (["cwl", "changeswhenlowercased"], changesWhenLowercased),
  (["cwt", "changeswhentitlecased"], changesWhenTitlecased),
  (["cwu", "changeswhenuppercased"], changesWhenUppercased),
  (["dash"], dashes), (["di", "defaultignorablecodepoint"], defaultIgnorable),
  (["dep", "deprecated"], deprecated), (["dia", "diacritic"], diacritics),
  (["ebase", "emojimodifierbase"], emojiModifierBases),
  (["ecomp", "emojicomponent"], emojiComponents), (["emod", "emojimodifier"], emojiModifiers),
  (["emoji"], emoji), (["epres", "emojipresentation"], emojiPresentation),
  (["ext", "extender"], extenders), (["extpict", "extendedpictographic"], extendedPictographic),
  (["grbase", "graphemebase"], graphemeBase), (["grext", "graphemeextend"], graphemeExtend),
  (["grlink", "graphemelink"], graphemeLinks), (["hex", "hexdigit"], hexDigits),
  (["hyphen"], hyphens), (["idc", "idcontinue"], idContinue),
  (["idcompatmathcontinue"], mathContinue), (["idcompatmathstart"], mathStart),
  (["ideo", "ideographic"], ideographic), (["ids", "idstart"], idStart),
  (["idsb", "idsbinaryoperator"], binaryOperators),
  (["idst", "idstrinaryoperator"], trinaryOperators),
  (["idsu", "idsunaryoperator"], unaryOperators), (["joinc", "joincontrol"], joinControls),
  (["loe", "logicalorderexception"], logicalOrderExceptions),
  (["lower", "lowercase"], lowercase), (["math"], mathematical),
  (["mcm", "modifiercombiningmark"], modifierCombiningMarks),
  (["nchar", "noncharactercodepoint"], noncharacters),
  (["oalpha", "otheralphabetic"], alphabeticMarks),
  (["odi", "otherdefaultignorablecodepoint"], otherDefaultIgnorable),
  (["ogrext", "othergraphemeextend"], diff otherGraphemeExtend added),
  (["oidc", "otheridcontinue"], otherIdContinue), (["oids", "otheridstart"], otherIdStart),
  (["olower", "otherlowercase"], otherLowercase), (["omath", "othermath"], otherMath),
  (["oupper", "otheruppercase"], otherUppercase), (["patsyn", "patternsyntax"], patternSigns),
  (["patws", "patternwhitespace"], patternBlanks),
  (["pcm", "prependedconcatenationmark"], prependedMarks),
  (["qmark", "quotationmark"], quotationMarks), (["radical"], radicals),
  (["ri", "regionalindicator"], regionalIndicators), (["sd", "softdotted"], softDotted),
  (["sterm", "sentenceterminal"], sentenceTerminals),
  (["space", "wspace", "whitespace"], whiteSpace),
  (["term", "terminalpunctuation"], terminalPunctuation),
  (["uideo", "unifiedideograph"], unifiedIdeographs), (["upper", "uppercase"], uppercase),
  (["vs", "variationselector"], variationSelectors), (["xidc", "xidcontinue"], xidContinue),
  (["xids", "xidstart"], xidStart)]

def ofBinaryName? (name : String) : Option CharSet :=
  (binaryProperties.find? (·.1.contains name)).map (·.2)

end ThemeSwitch.Unicode.CharSet
