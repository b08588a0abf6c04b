import LogPipeline.Regex.Property.Binary
import LogPipeline.Regex.Property.Script

/-!
# Break classes

The classes of characters that decide where a text can be broken between characters, words and
sentences, in edition 16.0 of the character standard.
-/

namespace LogPipeline.Regex.Property

open Text (CharSet)

/-! ## Tables -/

/-- The joiner of zero width. -/
def widthlessJoiner : CharSet := .ofText
    "200d"

/-- The two halves of a line end. -/
def lineEnds : CharSet := .ofText
    "a d"

/-- Spacing marks that do not belong to the character before them. -/
def standingMarks : CharSet := .ofText
    "102b-102c 1038 1062-1064 1067-106d 1083 1087-108c 108f 109a-109c 1a61 1a63-1a64 aa7b aa7d
     11720-11721"

/-- Signs that belong to the character after them. -/
def graphemePrepend : CharSet := .ofText
    "600-605 6dd 70f 890-891 8e2 d4e 110bd 110cd 111c2-111c3 113d1 1193f 11941 11a3a 11a84-11a89
     11d46 11f02"

/-- Characters that are used like letters and are not alphabetic. -/
def letterLike : CharSet := .ofText
    "2c2-2c5 2d2-2d7 2de-2df 2e5-2eb 2ed 2ef-2ff 55a-55c 55e 58a 5f3 70f a708-a716 a720-a721
     a789-a78a ab5b"

/-- Letters of scripts that write no space between words. -/
def dictionaryLetter : CharSet := .ofText
    "e01-e30 e32-e33 e40-e46 e81-e82 e84 e86-e8a e8c-ea3 ea5 ea7-eb0 eb2-eb3 ebd ec0-ec4 ec6
     edc-edf 1000-102a 103f 1050-1055 105a-105d 1061 1065-1066 106e-1070 1075-1081 108e 1780-17b3
     17d7 17dc 1950-196d 1970-1974 1980-19ab 19b0-19c9 1a20-1a54 1aa7 a9e0-a9e4 a9e6-a9ef
     a9fa-a9fe aa60-aa76 aa7a aa7e-aaaf aab1 aab5-aab6 aab9-aabd aac0 aac2 aadb-aadd 11700-1171a
     11740-11746"

/-- Katakana and the marks that go with them. -/
def wordKatakana : CharSet := .ofText
    "3031-3035 309b-309c 30a0-30fa 30fc-30ff 31f0-31ff 32d0-32fe 3300-3357 ff66-ff9d 1aff0-1aff3
     1aff5-1affb 1affd-1affe 1b000 1b120-1b122 1b155 1b164-1b167"

/-- Hebrew letters. -/
def hebrewLetter : CharSet := .ofText
    "5d0-5ea 5ef-5f2 fb1d fb1f-fb28 fb2a-fb36 fb38-fb3c fb3e fb40-fb41 fb43-fb44 fb46-fb4f"

/-- Capital letters of a script that begins no sentence with one. -/
def georgianCapital : CharSet := .ofText
    "1c90-1cba 1cbd-1cbf"

/-- Quotation marks and brackets around sentences. -/
def sentenceClose : CharSet := .ofText
    "22 27-29 5b 5d 7b 7d ab bb f3a-f3d 169b-169c 2018-201f 2039-203a 2045-2046 207d-207e
     208d-208e 2308-230b 2329-232a 275b-2760 2768-2775 27c5-27c6 27e6-27ef 2983-2998 29d8-29db
     29fc-29fd 2e00-2e0d 2e1c-2e1d 2e20-2e29 2e42 2e55-2e5c 3008-3011 3014-301b 301d-301f
     fd3e-fd3f fe17-fe18 fe35-fe44 fe47-fe48 fe59-fe5e ff08-ff09 ff3b ff3d ff5b ff5d ff5f-ff60
     ff62-ff63 1f676-1f678"

/-- Punctuation that goes on with a sentence. -/
def sentenceContinue : CharSet := .ofText
    "2c-2d 3a-3b 37e 55d 60c-60d 7f8 1802 1808 2013-2014 3001 fe10-fe11 fe13-fe14 fe31-fe32
     fe50-fe51 fe54-fe55 fe58 fe63 ff0c-ff0d ff1a-ff1b ff64"

/-! ## Breaks between characters -/

/-- Spacing marks and modifiers, which belong to the character before them. -/
def graphemeExtension : CharSet :=
  (graphemeExtend.union emojiModifier).difference widthlessJoiner

/-- Controls, which stand alone. -/
def graphemeControl : CharSet :=
  ((CharSet.unions [ofCategories [.zl, .zp, .cc, .cf],
      (ofCategories [.cn]).intersection defaultIgnorable]).difference
    (.unions [graphemeExtend, prependedConcatenationMark, joinControl])).difference lineEnds

/-- Marks that take room and stand behind their letter. -/
def spacingMark : CharSet :=
  (((ofCategories [.mc]).difference graphemeExtend).difference standingMarks).union
    (.ofText "e33 eb3")

/-- Syllables of a consonant and a vowel. -/
def openSyllables : CharSet :=
  .ofRanges ((List.range 399).map fun index => (0xac00 + 28 * index, 0xac00 + 28 * index))

/-- The class of a character for the breaks between characters, under a name. -/
def ofGraphemeBreak? (name : String) : Option CharSet :=
  match name with
  | "control" | "cn" => some graphemeControl
  | "cr" => some (.single '\r')
  | "extend" | "ex" => some graphemeExtension
  | "l" => some (.ofText "1100-115f a960-a97c")
  | "lf" => some (.single '\n')
  | "lv" => some openSyllables
  | "lvt" => some ((CharSet.range 0xac00 0xd7a3).difference openSyllables)
  | "prepend" | "pp" => some graphemePrepend
  | "regionalindicator" | "ri" => some regionalIndicator
  | "spacingmark" | "sm" => some spacingMark
  | "t" => some (.ofText "11a8-11ff d7cb-d7fb")
  | "v" => some (.ofText "1160-11a7 d7b0-d7c6 16d63 16d67-16d6a")
  | "zwj" => some widthlessJoiner
  | _ => none

/-! ## Breaks between words -/

/-- Marks inside words. -/
def wordExtension : CharSet :=
  (CharSet.unions [graphemeExtend, ofCategories [.mc], emojiModifier]).difference widthlessJoiner

/-- Invisible characters inside words. -/
def wordFormat : CharSet :=
  (ofCategories [.cf]).difference
    (.unions [.ofText "70f 200b-200d", graphemeExtend, prependedConcatenationMark])

/-- Digits, the separator of decimals, and the signs that span the digits after them. -/
def numeric : CharSet :=
  .unions [ofCategories [.nd], .range 0x66b 0x66b, prependedConcatenationMark.difference
    (.range 0x70f 0x70f)]

/-- Letters of words, but those of scripts that need a dictionary to find words. -/
def wordLetter : CharSet :=
  (alphabetic.union letterLike).difference
    (.unions [ideographic, wordKatakana, Script.hiragana.characters, wordExtension, hebrewLetter,
      dictionaryLetter])

/-- The class of a character for the breaks between words, under a name. -/
def ofWordBreak? (name : String) : Option CharSet :=
  match name with
  | "aletter" | "le" => some wordLetter
  | "cr" => some (.single '\r')
  | "doublequote" | "dq" => some (.single '"')
  | "extend" => some wordExtension
  | "extendnumlet" | "ex" => some (.ofText "5f 202f 203f-2040 2054 fe33-fe34 fe4d-fe4f ff3f")
  | "format" | "fo" => some wordFormat
  | "hebrewletter" | "hl" => some hebrewLetter
  | "katakana" | "ka" => some wordKatakana
  | "lf" => some (.single '\n')
  | "midletter" | "ml" => some (.ofText "3a b7 387 55f 5f4 2027 fe13 fe55 ff1a")
  | "midnum" | "mn" =>
      some (.ofText "2c 3b 37e 589 60c-60d 66c 7f8 2044 fe10 fe14 fe50 fe54 ff0c ff1b")
  | "midnumlet" | "mb" => some (.ofText "2e 2018-2019 2024 fe52 ff07 ff0e")
  | "newline" | "nl" => some (.ofText "b-c 85 2028-2029")
  | "numeric" | "nu" => some numeric
  | "regionalindicator" | "ri" => some regionalIndicator
  | "singlequote" | "sq" => some (.single '\'')
  | "wsegspace" => some (.ofText "20 1680 2000-2006 2008-200a 205f 3000")
  | "zwj" => some widthlessJoiner
  | _ => none

/-! ## Breaks between sentences -/

/-- Marks inside sentences. -/
def sentenceExtension : CharSet :=
  .unions [graphemeExtend, ofCategories [.mc], widthlessJoiner]

/-- Lower case letters of sentences. -/
def sentenceLower : CharSet :=
  (lowercase.difference graphemeExtend).difference georgian

/-- Upper case letters of sentences. -/
def sentenceUpper : CharSet :=
  (uppercase.union (ofCategories [.lt])).difference georgianCapital

/-- Full stops, which may also end an abbreviation. -/
def fullStop : CharSet := .ofText "2e 2024 fe52 ff0e"

/-- The class of a character for the breaks between sentences, under a name. -/
def ofSentenceBreak? (name : String) : Option CharSet :=
  match name with
  | "aterm" | "at" => some fullStop
  | "close" | "cl" => some sentenceClose
  | "cr" => some (.single '\r')
  | "extend" | "ex" => some sentenceExtension
  | "format" | "fo" =>
      some ((ofCategories [.cf]).difference
        (.unions [joinControl, graphemeExtend, prependedConcatenationMark]))
  | "lf" => some (.single '\n')
  | "lower" | "lo" => some sentenceLower
  | "numeric" | "nu" => some (numeric.union (.range 0x66c 0x66c))
  | "oletter" | "le" =>
      some ((alphabetic.union (.range 0x5f3 0x5f3)).difference
        (.unions [sentenceLower, sentenceUpper, sentenceExtension]))
  | "scontinue" | "sc" => some sentenceContinue
  | "sep" | "se" => some (.ofText "85 2028-2029")
  | "sp" => some (.ofText "9 b-c 20 a0 1680 2000-200a 202f 205f 3000")
  | "sterm" | "st" => some (sentenceTerminal.difference fullStop)
  | "upper" | "up" => some sentenceUpper
  | _ => none

end LogPipeline.Regex.Property
