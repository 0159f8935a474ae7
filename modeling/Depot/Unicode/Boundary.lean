import Depot.Unicode.Property
import Depot.Unicode.Script

/-!
# Breaks in a text

What a character is to the division of a text into clusters, words and sentences. Each of the three
divisions has its own kinds of characters, by the tables of the sixteenth edition.

* `clusterBreaks`, `wordBreaks`, `sentenceBreaks`: the kinds with their names, the long one first.

Results:
* `mem_wordLetters`: an ideograph is no letter of a word.
-/

namespace Depot.Unicode

/-- The return and the line feed. -/
def lineEnds : List (List String × CharSet) :=
  [(["CR"], .read "D"), (["LF"], .read "A")]

/-- The joiner of emoji. -/
def zeroWidthJoiner : CharSet := .read "200D"

/-- The letters of tags, which are format characters that extend the one before them. -/
def tags : CharSet := .read "E0020-E007F"

/-! ## Clusters -/

/-- The syllables of Hangul without a final consonant. -/
def openSyllables : CharSet := .ofRanges ((List.range 399).map fun i =>
  (0xAC00 + 28 * i, 0xAC00 + 28 * i))

/-- Spacing marks that do not belong to the character before them. -/
def looseMarks : CharSet := .read
  "102B-102C 1038 1062-1064 1067-106D 1083 1087-108C 108F 109A-109C 1A61 1A63-1A64 AA7B AA7D
   11720-11721"

/-- Marks that spell a consonant before the next cluster. -/
def prefixedConsonants : CharSet := .read
  "D4E 111C2-111C3 113D1 1193F 11941 11A3A 11A84-11A89 11D46 11F02"

/-- The characters that control the layout of a text. -/
def layoutControl : CharSet :=
  ((Category.sets .sixteenth [.lineSeparator, .paragraphSeparator, .control, .format]).union
    ((Category.set .sixteenth .unassigned).inter defaultIgnorable)).diff
    (((CharSet.read "A D 200C-200D").union prependedMark).union tags)

/-- The kinds of characters at the boundaries of clusters. -/
def clusterBreaks : List (List String × CharSet) :=
  lineEnds ++
  [(["Control", "CN"], layoutControl),
   (["Extend", "EX"], ((graphemeExtend .sixteenth).union emojiModifier).diff zeroWidthJoiner),
   (["L"], .read "1100-115F A960-A97C"),
   (["LV"], openSyllables),
   (["LVT"], (CharSet.read "AC00-D7A3").diff openSyllables),
   (["Prepend", "PP"], prependedMark.union prefixedConsonants),
   (["Regional_Indicator", "RI"], regionalIndicator),
   (["SpacingMark", "SM"],
      (((Category.set .sixteenth .spacingMark).diff (graphemeExtend .sixteenth)).diff
        looseMarks).union (.read "E33 EB3")),
   (["T"], .read "11A8-11FF D7CB-D7FB"),
   (["V"], .read "1160-11A7 D7B0-D7C6 16D63 16D67-16D6A"),
   (["ZWJ"], zeroWidthJoiner)]

/-! ## Words -/

/-- The marks that are written before the number that they belong to. -/
def numberMarks : CharSet := prependedMark.diff (.read "70F")

/-- The digits, and the marks that belong to a number. -/
def numeric : CharSet :=
  ((Category.set .sixteenth .decimalNumber).union (.read "66B 19DA")).union numberMarks

/-- What extends the character before it in words and sentences. -/
def wordExtend : CharSet :=
  ((graphemeExtend .sixteenth).union (Category.set .sixteenth .spacingMark)).union emojiModifier

/-- The letters of Katakana and the marks that are used among them. -/
def katakana : CharSet := .read
  "3031-3035 309B-309C 30A0-30FA 30FC-30FF 31F0-31FF 32D0-32FE 3300-3357 FF66-FF9D 1AFF0-1AFF3
   1AFF5-1AFFB 1AFFD-1AFFE 1B000 1B120-1B122 1B155 1B164-1B167"

/-- The characters of a script that goes by a short name. -/
def ofScript (name : String) : CharSet :=
  ((Script.named? (· == name)).map Script.set).getD .empty

/-- The letters of Hebrew. -/
def hebrewLetters : CharSet := (ofScript "Hebr").inter (Category.set .sixteenth .otherLetter)

/-- The letters of scripts that do not part their words. -/
def unpartedLetters : CharSet := .read
  "E01-E30 E32-E33 E40-E46 E81-E82 E84 E86-E8A E8C-EA3 EA5 EA7-EB0 EB2-EB3 EBD EC0-EC4 EC6
   EDC-EDF 1000-102A 103F 1050-1055 105A-105D 1061 1065-1066 106E-1070 1075-1081 108E 1780-17B3
   17D7 17DC 1950-196D 1970-1974 1980-19AB 19B0-19C9 1A20-1A54 1AA7 A9E0-A9E4 A9E6-A9EF
   A9FA-A9FE AA60-AA76 AA7A AA7E-AAAF AAB1 AAB5-AAB6 AAB9-AABD AAC0 AAC2 AADB-AADD 11700-1171A
   11740-11746"

/-- The letters that words are made of. -/
def wordLetters : CharSet :=
  ((((((alphabetic .sixteenth).diff katakana).diff (ofScript "Hira")).diff wordExtend).diff
    hebrewLetters).diff unpartedLetters).union (.read
    "2C2-2C5 2D2-2D7 2DE-2DF 2E5-2EB 2ED 2EF-2FF 55A-55C 55E 58A 5F3 A708-A716 A720-A721
     70F A789-A78A AB5B") |>.diff ideographic

/-- The kinds of characters at the boundaries of words. -/
def wordBreaks : List (List String × CharSet) :=
  lineEnds ++
  [(["ALetter", "LE"], wordLetters),
   (["Double_Quote", "DQ"], .read "22"),
   (["Extend"], wordExtend.diff zeroWidthJoiner),
   (["ExtendNumLet", "EX"], .read "5F 202F 203F-2040 2054 FE33-FE34 FE4D-FE4F FF3F"),
   (["Format", "FO"],
      (((Category.set .sixteenth .format).diff (.read "200B-200D")).diff prependedMark).diff tags),
   (["Hebrew_Letter", "HL"], hebrewLetters),
   (["Katakana", "KA"], katakana),
   (["MidLetter", "ML"], .read "3A B7 387 55F 5F4 2027 FE13 FE55 FF1A"),
   (["MidNum", "MN"], .read "2C 3B 37E 589 60C-60D 66C 7F8 2044 FE50 FE54 FF0C FF1B"),
   (["MidNumLet", "MB"], .read "2E 2018-2019 2024 FE52 FF07 FF0E"),
   (["Newline", "NL"], .read "B-C 85 2028-2029"),
   (["Numeric", "NU"], numeric),
   (["Regional_Indicator", "RI"], regionalIndicator),
   (["Single_Quote", "SQ"], .read "27"),
   (["WSegSpace"], (Category.set .sixteenth .spaceSeparator).diff (.read "A0 2007 202F")),
   (["ZWJ"], zeroWidthJoiner)]

/-! ## Sentences -/

/-- The small letters after which a sentence can go on. -/
def sentenceLower : CharSet :=
  ((lowercase .sixteenth).diff wordExtend).diff (.read "10D0-10FA 10FD-10FF")

/-- The capital letters with which a sentence can start. -/
def sentenceUpper : CharSet :=
  ((uppercase .sixteenth).union (Category.set .sixteenth .titlecaseLetter)).diff
    (.read "1C90-1CBA 1CBD-1CBF")

/-- What extends the character before it in sentences. -/
def sentenceExtend : CharSet :=
  ((graphemeExtend .sixteenth).union (Category.set .sixteenth .spacingMark)).union zeroWidthJoiner

/-- The stops that need not end a sentence. -/
def stops : CharSet := .read "2E 2024 FE52 FF0E"

/-- The kinds of characters at the boundaries of sentences. -/
def sentenceBreaks : List (List String × CharSet) :=
  lineEnds ++
  [(["ATerm", "AT"], stops),
   (["Close", "CL"],
      (((Category.sets .sixteenth [.openPunctuation, .closePunctuation, .initialPunctuation,
        .finalPunctuation]).union quotationMark).diff (.read "FF02 FF07")).union
        (.read "275B-2760 2E00-2E01 2E06-2E08 2E0B 1F676-1F678")),
   (["Extend", "EX"], sentenceExtend),
   (["Format", "FO"],
      (((Category.set .sixteenth .format).diff (.read "200C-200D")).diff numberMarks).diff tags),
   (["Lower", "LO"], sentenceLower),
   (["Numeric", "NU"], numeric.union (.read "66C")),
   (["OLetter", "LE"],
      ((((alphabetic .sixteenth).diff sentenceLower).diff sentenceUpper).diff
        sentenceExtend).union (.read "5F3")),
   (["SContinue", "SC"], .read
      "2C-2D 3A-3B 37E 55D 60C-60D 7F8 1802 1808 2013-2014 3001 FE10-FE11 FE13-FE14 FE31-FE32
       FE50-FE51 FE54-FE55 FE58 FE63 FF0C-FF0D FF1A-FF1B FF64"),
   (["Sep", "SE"], .read "85 2028-2029"),
   (["Sp", "SP"], .read "9 B-C 20 A0 1680 2000-200A 202F 205F 3000"),
   (["STerm", "ST"], sentenceTerminal.diff stops),
   (["Upper", "UP"], sentenceUpper)]

theorem mem_wordLetters {c : Char} (h : ideographic.mem c = true) : wordLetters.mem c = false := by
  rw [wordLetters, CharSet.mem_diff, h, Bool.not_true, Bool.and_false]

end Depot.Unicode
