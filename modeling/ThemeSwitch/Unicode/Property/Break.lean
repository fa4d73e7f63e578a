import ThemeSwitch.Unicode.Property.Binary
import ThemeSwitch.Unicode.Property.Script

/-! # Breaks

How a character stands to the boundaries of graphemes, of words and of sentences. -/
namespace ThemeSwitch.Unicode.CharSet

/-- The syllables of Hangul without a final consonant: every twenty-eighth of them. -/
def openSyllables : CharSet := ofCodes ((List.range 399).map fun i => 0xAC00 + 28 * i)

def closedSyllables : CharSet := diff (ofSpans [(0xAC00, 0xD7A3)]) openSyllables

/-- Consonants before the others of their cluster, and marks written around what follows. -/
def prepended : CharSet := union prependedMarks <| ofSpans [
  (0xD4E, 0xD4E), (0x111C2, 0x111C3), (0x113D1, 0x113D1), (0x1193F, 0x1193F), (0x11941, 0x11941),
  (0x11A3A, 0x11A3A), (0x11A84, 0x11A89), (0x11D46, 0x11D46), (0x11F02, 0x11F02)]

/-- Spacing marks of scripts in which these do not belong to the grapheme. -/
def separateMarks : CharSet := ofSpans [
  (0x102B, 0x102C), (0x1038, 0x1038), (0x1062, 0x1064), (0x1067, 0x106D), (0x1083, 0x1083),
  (0x1087, 0x108C), (0x108F, 0x108F), (0x109A, 0x109C), (0x1A61, 0x1A61), (0x1A63, 0x1A64),
  (0xAA7B, 0xAA7B), (0xAA7D, 0xAA7D), (0x11720, 0x11721)]

def graphemeControls : CharSet :=
  diff (union (ofCategories [.cc, .cf, .zl, .zp]) (inter (ofCategories [.cn]) defaultIgnorable)) <|
    unions [ofSpans [(0x0A, 0x0A), (0x0D, 0x0D), (0xE0020, 0xE007F)], prependedMarks, joinControls]

def graphemeBreaks : List (List String × CharSet) := [
  (["cn", "control"], graphemeControls), (["cr"], single '\r'), (["lf"], single '\n'),
  (["ex", "extend"], union graphemeExtend emojiModifiers),
  (["l"], ofSpans [(0x1100, 0x115F), (0xA960, 0xA97C)]),
  (["v"], ofSpans [(0x1160, 0x11A7), (0xD7B0, 0xD7C6), (0x16D63, 0x16D63), (0x16D67, 0x16D6A)]),
  (["t"], ofSpans [(0x11A8, 0x11FF), (0xD7CB, 0xD7FB)]),
  (["lv"], openSyllables), (["lvt"], closedSyllables), (["pp", "prepend"], prepended),
  (["ri", "regionalindicator"], regionalIndicators),
  (["sm", "spacingmark"],
    union (diff (ofCategories [.mc]) (union graphemeExtend separateMarks))
      (ofSpans [(0xE33, 0xE33), (0xEB3, 0xEB3)])),
  (["zwj"], single '\u200D')]

/-- The format characters, without those that only change the next or the last character. -/
def formats : CharSet :=
  diff (ofCategories [.cf]) (union prependedMarks (ofSpans [(0x200C, 0x200D), (0xE0020, 0xE007F)]))

def katakana : CharSet :=
  union ((ofScriptName? "katakana").getD none) <| ofSpans [
    (0x3031, 0x3035), (0x309B, 0x309C), (0x30A0, 0x30A0), (0x30FC, 0x30FC), (0xFF70, 0xFF70)]

def hebrewLetters : CharSet :=
  inter ((ofScriptName? "hebrew").getD none) (ofCategories [.lo])

/-- Marks and signs that are parts of words like letters. -/
def letterSigns : CharSet := ofSpans [
  (0x2C2, 0x2C5), (0x2D2, 0x2D7), (0x2DE, 0x2DF), (0x2E5, 0x2EB), (0x2ED, 0x2ED), (0x2EF, 0x2FF),
  (0x55A, 0x55C), (0x55E, 0x55E), (0x58A, 0x58A), (0x5F3, 0x5F3), (0x70F, 0x70F),
  (0xA708, 0xA716), (0xA720, 0xA721), (0xA789, 0xA78A), (0xAB5B, 0xAB5B)]

/-- The letters of scripts that are written without blanks between words. -/
def unspacedLetters : CharSet := ofSpans [
  (0xE01, 0xE30), (0xE32, 0xE33), (0xE40, 0xE46), (0xE81, 0xE82), (0xE84, 0xE84), (0xE86, 0xE8A),
  (0xE8C, 0xEA3), (0xEA5, 0xEA5), (0xEA7, 0xEB0), (0xEB2, 0xEB3), (0xEBD, 0xEBD), (0xEC0, 0xEC4),
  (0xEC6, 0xEC6), (0xEDC, 0xEDF), (0x1000, 0x102A), (0x103F, 0x103F), (0x1050, 0x1055),
  (0x105A, 0x105D), (0x1061, 0x1061), (0x1065, 0x1066), (0x106E, 0x1070), (0x1075, 0x1081),
  (0x108E, 0x108E), (0x1780, 0x17B3), (0x17D7, 0x17D7), (0x17DC, 0x17DC), (0x1950, 0x196D),
  (0x1970, 0x1974), (0x1980, 0x19AB), (0x19B0, 0x19C9), (0x1A20, 0x1A54), (0x1AA7, 0x1AA7),
  (0xA9E0, 0xA9E4), (0xA9E6, 0xA9EF), (0xA9FA, 0xA9FE), (0xAA60, 0xAA76), (0xAA7A, 0xAA7A),
  (0xAA7E, 0xAAAF), (0xAAB1, 0xAAB1), (0xAAB5, 0xAAB6), (0xAAB9, 0xAABD), (0xAAC0, 0xAAC0),
  (0xAAC2, 0xAAC2), (0xAADB, 0xAADD), (0x11700, 0x1171A), (0x11740, 0x11746)]

def wordExtend : CharSet := unions [graphemeExtend, ofCategories [.mc], emojiModifiers]

def wordLetters : CharSet :=
  union letterSigns <| diff alphabetic <| unions [
    ideographic, katakana, (ofScriptName? "hiragana").getD none, hebrewLetters, wordExtend,
    unspacedLetters]

/-- Decimal digits, and signs that are parts of numbers. -/
def numericSigns : CharSet :=
  union (ofCategories [.nd]) <| ofSpans [
    (0x600, 0x605), (0x66B, 0x66B), (0x6DD, 0x6DD), (0x890, 0x891), (0x8E2, 0x8E2),
    (0x19DA, 0x19DA), (0x110BD, 0x110BD), (0x110CD, 0x110CD)]

def wordBreaks : List (List String × CharSet) := [
  (["le", "aletter"], wordLetters), (["cr"], single '\r'), (["lf"], single '\n'),
  (["dq", "doublequote"], single '"'), (["sq", "singlequote"], single '\''),
  (["extend"], wordExtend), (["ex", "extendnumlet"], union (ofCategories [.pc]) (single '\u202F')),
  (["fo", "format"], diff formats (single '\u200B')),
  (["hl", "hebrewletter"], hebrewLetters), (["ka", "katakana"], katakana),
  (["ml", "midletter"], midLetters), (["mb", "midnumlet"], midNumberLetters),
  (["mn", "midnum"], ofSpans [
    (0x2C, 0x2C), (0x3B, 0x3B), (0x37E, 0x37E), (0x589, 0x589), (0x60C, 0x60D), (0x66C, 0x66C),
    (0x7F8, 0x7F8), (0x2044, 0x2044), (0xFE50, 0xFE50), (0xFE54, 0xFE54), (0xFF0C, 0xFF0C),
    (0xFF1B, 0xFF1B)]),
  (["nl", "newline"], ofSpans [(0x0B, 0x0C), (0x85, 0x85), (0x2028, 0x2029)]),
  (["nu", "numeric"], numericSigns), (["ri", "regionalindicator"], regionalIndicators),
  (["wsegspace"], ofSpans [
    (0x20, 0x20), (0x1680, 0x1680), (0x2000, 0x2006), (0x2008, 0x200A), (0x205F, 0x205F),
    (0x3000, 0x3000)]),
  (["zwj"], single '\u200D')]

/-- The full stops. -/
def stops : CharSet :=
  ofSpans [(0x2E, 0x2E), (0x2024, 0x2024), (0xFE52, 0xFE52), (0xFF0E, 0xFF0E)]

def sentenceExtend : CharSet := unions [graphemeExtend, ofCategories [.mc], single '\u200D']

def sentenceLower : CharSet := diff lowercase (union graphemeExtend mkhedruli)

/-- The capital forms of the letters whose capital form is not used for titles. -/
def mtavruli : CharSet := ofSpans [(0x1C90, 0x1CBA), (0x1CBD, 0x1CBF)]

def sentenceUpper : CharSet := diff (union uppercase titlecase) mtavruli

/-- Brackets and quotes. -/
def sentenceClose : CharSet :=
  diff (unions [ofCategories [.ps, .pe, .pi, .pf], quotationMarks, ofSpans [
    (0x275B, 0x2760), (0x2E00, 0x2E01), (0x2E06, 0x2E08), (0x2E0B, 0x2E0B), (0x1F676, 0x1F678)]])
    (ofSpans [(0xFF02, 0xFF02), (0xFF07, 0xFF07)])

def sentenceBreaks : List (List String × CharSet) := [
  (["at", "aterm"], stops), (["cl", "close"], sentenceClose), (["cr"], single '\r'),
  (["lf"], single '\n'), (["ex", "extend"], sentenceExtend),
  (["fo", "format"], union formats (single '\u070F')),
  (["lo", "lower"], sentenceLower), (["up", "upper"], sentenceUpper),
  (["le", "oletter"],
    union (diff alphabetic (unions [sentenceLower, sentenceUpper, sentenceExtend]))
      (single '\u05F3')),
  (["nu", "numeric"], union numericSigns (single '\u066C')),
  (["sc", "scontinue"], ofSpans [
    (0x2C, 0x2D), (0x3A, 0x3B), (0x37E, 0x37E), (0x55D, 0x55D), (0x60C, 0x60D), (0x7F8, 0x7F8),
    (0x1802, 0x1802), (0x1808, 0x1808), (0x2013, 0x2014), (0x3001, 0x3001), (0xFE10, 0xFE11),
    (0xFE13, 0xFE14), (0xFE31, 0xFE32), (0xFE50, 0xFE51), (0xFE54, 0xFE55), (0xFE58, 0xFE58),
    (0xFE63, 0xFE63), (0xFF0C, 0xFF0D), (0xFF1A, 0xFF1B), (0xFF64, 0xFF64)]),
  (["se", "sep"], ofSpans [(0x85, 0x85), (0x2028, 0x2029)]),
  (["sp"], diff whiteSpace (ofSpans [(0x0A, 0x0A), (0x0D, 0x0D), (0x85, 0x85), (0x2028, 0x2029)])),
  (["st", "sterm"], diff sentenceTerminals stops)]

def ofBreakName? (breaks : List (List String × CharSet)) (name : String) : Option CharSet :=
  (breaks.find? (·.1.contains name)).map (·.2)

end ThemeSwitch.Unicode.CharSet
