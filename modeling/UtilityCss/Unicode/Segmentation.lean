import UtilityCss.Unicode.Property
import UtilityCss.Unicode.Script

/-!
Values of the properties of Unicode 16.0 by which text is cut into graphemes, words and sentences.
As in the standard they are put together from categories, binary properties and scripts, with
tables for what these do not give.
-/
namespace UtilityCss.Unicode

open Category Property

def carriageReturn : CharSet := .ofTable ["d"]

def lineFeed : CharSet := .ofTable ["a"]

def zeroWidthJoiner : CharSet := .ofTable ["200d"]

namespace GraphemeBreak

def extend : CharSet := graphemeExtend.union emojiModifier

def control : CharSet :=
  CharSet.diff
    (.unions [lineSeparator, paragraphSeparator, Category.control, format,
      unassigned.inter defaultIgnorable])
    (.unions [carriageReturn, lineFeed, zeroWidthJoiner, graphemeExtend,
      prependedConcatenationMark])

def furtherPrepend : CharSet := .ofTable
  ["d4e 111c2-111c3 113d1 1193f 11941 11a3a 11a84-11a89 11d46 11f02"]

def prepend : CharSet := prependedConcatenationMark.union furtherPrepend

def withoutSpacingMark : CharSet := .ofTable
  ["102b-102c 1038 1062-1064 1067-106d 1083 1087-108c 108f 109a-109c 1a61 1a63-1a64 aa7b aa7d",
   "11720-11721"]

def furtherSpacingMark : CharSet := .ofTable ["e33 eb3"]

def spacingMark : CharSet :=
  (Category.spacingMark.diff (graphemeExtend.union withoutSpacingMark)).union furtherSpacingMark

def leadingJamo : CharSet := .ofTable ["1100-115f a960-a97c"]

def vowelJamo : CharSet := .ofTable ["1160-11a7 d7b0-d7c6 16d63 16d67-16d6a"]

def trailingJamo : CharSet := .ofTable ["11a8-11ff d7cb-d7fb"]

/-- Every 28th syllable has no trailing consonant. -/
def openSyllable : CharSet := ⟨(List.range 399).map fun k => (0xac00 + 28 * k, 0xac00 + 28 * k)⟩

def closedSyllable : CharSet := CharSet.diff (.ofTable ["ac00-d7a3"]) openSyllable

end GraphemeBreak

namespace WordBreak

def newline : CharSet := .ofTable ["b-c 85 2028-2029"]

def doubleQuote : CharSet := .ofTable ["22"]

def singleQuote : CharSet := .ofTable ["27"]

def midLetter : CharSet := .ofTable ["3a b7 387 55f 5f4 2027 fe13 fe55 ff1a"]

def midNum : CharSet := .ofTable ["2c 3b 37e 589 60c-60d 66c 7f8 2044 fe50 fe54 ff0c ff1b"]

def midNumLet : CharSet := .ofTable ["2e 2018-2019 2024 fe52 ff07 ff0e"]

def extend : CharSet :=
  CharSet.diff (.unions [graphemeExtend, Category.spacingMark, emojiModifier]) zeroWidthJoiner

def format : CharSet :=
  Category.format.diff (.unions [.ofTable ["200b-200d"], GraphemeBreak.prepend, extend])

def hebrewLetter : CharSet := Script.hebrew.own.inter otherLetter

def furtherKatakana : CharSet := .ofTable ["3031-3035 309b-309c 30a0 30fc ff70"]

def katakana : CharSet := Script.katakana.own.union furtherKatakana

def furtherNumeric : CharSet := .ofTable ["600-605 66b 6dd 890-891 8e2 19da 110bd 110cd"]

def numeric : CharSet := decimalNumber.union furtherNumeric

def extendNumLet : CharSet := connectorPunctuation.union (.ofTable ["202f"])

def segmentSpace : CharSet := spaceSeparator.diff (.ofTable ["a0 2007 202f"])

def complexContext : CharSet := .ofTable
  ["e01-e30 e32-e33 e40-e46 e81-e82 e84 e86-e8a e8c-ea3 ea5 ea7-eb0 eb2-eb3 ebd ec0-ec4 ec6",
   "edc-edf 1000-102a 103f 1050-1055 105a-105d 1061 1065-1066 106e-1070 1075-1081 108e 1780-17b3",
   "17d7 17dc 1950-196d 1970-1974 1980-19ab 19b0-19c9 1a20-1a54 1aa7 a9e0-a9e4 a9e6-a9ef a9fa-a9fe",
   "aa60-aa76 aa7a aa7e-aaaf aab1 aab5-aab6 aab9-aabd aac0 aac2 aadb-aadd 11700-1171a 11740-11746"]

def furtherLetter : CharSet := .ofTable
  ["2c2-2c5 2d2-2d7 2de-2df 2e5-2eb 2ed 2ef-2ff 55a-55c 55e 58a 5f3 70f a708-a716 a720-a721",
   "a789-a78a ab5b"]

def letter : CharSet :=
  (alphabetic.diff (.unions [ideographic, katakana, Script.hiragana.own, extend, hebrewLetter,
    complexContext])).union furtherLetter

end WordBreak

namespace SentenceBreak

def separator : CharSet := .ofTable ["85 2028-2029"]

def space : CharSet := whiteSpace.diff (.unions [separator, carriageReturn, lineFeed])

def extend : CharSet := .unions [graphemeExtend, Category.spacingMark, zeroWidthJoiner]

def numeric : CharSet := WordBreak.numeric.union (.ofTable ["66c"])

def format : CharSet :=
  Category.format.diff (.unions [.ofTable ["200c-200d"], extend, numeric])

def lower : CharSet :=
  Property.lowercase.diff (graphemeExtend.union (.ofTable ["10d0-10fa 10fd-10ff"]))

def upper : CharSet :=
  (Property.uppercase.union titlecaseLetter).diff (.ofTable ["1c90-1cba 1cbd-1cbf"])

def otherLetter : CharSet :=
  (alphabetic.diff (.unions [lower, upper, extend])).union (.ofTable ["5f3"])

def ambiguousTerminal : CharSet := .ofTable ["2e 2024 fe52 ff0e"]

def terminal : CharSet := sentenceTerminal.diff ambiguousTerminal

def furtherClose : CharSet := .ofTable ["22 27 275b-2760 2e00-2e01 2e06-2e08 2e0b 1f676-1f678"]

def close : CharSet := .unions
  [openPunctuation, closePunctuation, initialPunctuation, finalPunctuation, furtherClose]

def continuing : CharSet := .ofTable
  ["2c-2d 3a-3b 37e 55d 60c-60d 7f8 1802 1808 2013-2014 3001 fe10-fe11 fe13-fe14 fe31-fe32",
   "fe50-fe51 fe54-fe55 fe58 fe63 ff0c-ff0d ff1a-ff1b ff64"]

end SentenceBreak

end UtilityCss.Unicode
