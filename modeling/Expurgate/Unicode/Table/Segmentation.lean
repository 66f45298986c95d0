import Expurgate.Unicode.NamedRanges

/-!
How characters behave where a text is divided into grapheme clusters, words and sentences: the sets
that do not follow from the other tables.
-/

namespace Expurgate.Unicode.Table

/-- Values of the grapheme cluster property that are sets of their own. -/
def graphemeBreaks : List NamedRanges :=
  [⟨["cr"], ["D"]⟩,
   ⟨["lf"], ["A"]⟩,
   ⟨["zwj"], ["200D"]⟩,
   ⟨["l"], ["1100-115F A960-A97C"]⟩,
   ⟨["v"], ["1160-11A7 D7B0-D7C6 16D63 16D67-16D6A"]⟩,
   ⟨["t"], ["11A8-11FF D7CB-D7FB"]⟩]

/-- Values of the word property that are sets of their own. -/
def wordBreaks : List NamedRanges :=
  [⟨["cr"], ["D"]⟩,
   ⟨["lf"], ["A"]⟩,
   ⟨["newline", "nl"], ["B-C 85 2028-2029"]⟩,
   ⟨["zwj"], ["200D"]⟩,
   ⟨["singlequote", "sq"], ["27"]⟩,
   ⟨["doublequote", "dq"], ["22"]⟩,
   ⟨["midnumlet", "mb"], ["2E 2018-2019 2024 FE52 FF07 FF0E"]⟩,
   ⟨["midletter", "ml"], ["3A B7 387 55F 5F4 2027 FE13 FE55 FF1A"]⟩,
   ⟨["midnum", "mn"],
    ["2C 3B 37E 589 60C-60D 66C 7F8 2044 FE10 FE14 FE50 FE54 FF0C FF1B"]⟩]

/-- Values of the sentence property that are sets of their own. -/
def sentenceBreaks : List NamedRanges :=
  [⟨["cr"], ["D"]⟩,
   ⟨["lf"], ["A"]⟩,
   ⟨["sep", "se"], ["85 2028-2029"]⟩,
   ⟨["aterm", "at"], ["2E 2024 FE52 FF0E"]⟩,
   ⟨["scontinue", "sc"],
    ["2C-2D 3A 3B 37E 55D 60C-60D 7F8 1802 1808 2013-2014 3001 FE10-FE11 FE13-FE14 FE31-FE32",
    "FE50-FE51 FE54-FE55 FE58 FE63 FF0C-FF0D FF1A-FF1B FF64"]⟩]

/-- Signs that open a cluster, besides the marks that enclose the digits behind them. -/
def clusterOpeners : NamedRanges :=
  ⟨["opener"], ["D4E 111C2-111C3 113D1 1193F 11941 11A3A 11A84-11A89 11D46 11F02"]⟩

/-- Vowel and tone signs with a width of their own that a cluster may still be divided at. -/
def detachedMarks : NamedRanges :=
  ⟨["detached"],
    ["102B-102C 1038 1062-1064 1067-106D 1083 1087-108C 108F 109A-109C 1A61 1A63-1A64 AA7B AA7D",
    "11720-11721"]⟩

/-- Two letters that take the place of a vowel sign. -/
def vowelLetters : NamedRanges :=
  ⟨["vowel"], ["E33 EB3"]⟩

/-- Signs that are no letters and yet belong to a word. -/
def wordSigns : NamedRanges :=
  ⟨["sign"],
    ["B8 2C2-2C5 2D2-2D7 2DE-2DF 2E5-2EB 2ED 2EF-2FF 55A-55C 55E 58A 5F3 70F A708-A716",
    "A720-A721 A789-A78A AB5B"]⟩

/-- Characters that go with the katakana without belonging to that script. -/
def katakanaSigns : NamedRanges :=
  ⟨["katakana"], ["3031-3035 309B-309C 30A0 30FC FF70"]⟩

/-- Letters of the scripts that are written without a space between words. -/
def unspacedLetters : NamedRanges :=
  ⟨["unspaced"],
    ["E01-E3A E40-E4E E81-E82 E84 E86-E8A E8C-EA3 EA5 EA7-EBD EC0-EC4 EC6 EC8-ECE EDC-EDF",
    "1000-103F 1050-108F 109A-109F 1780-17D3 17D7 17DC-17DD 1950-196D 1970-1974 1980-19AB",
    "19B0-19C9 19DA 19DE-19DF 1A20-1A5E 1A60-1A7C 1AA0-1AAD A9E0-A9EF A9FA-A9FE AA60-AAC2",
    "AADB-AADF 11700-1171A 1171D-1172B 1173A-1173B 1173F-11746"]⟩

/-- Georgian letters, which have a case and are still not told apart by it in a sentence. -/
def georgianLetters : NamedRanges :=
  ⟨["georgian"], ["10D0-10FA 10FD-10FF 1C90-1CBA 1CBD-1CBF"]⟩

/-- Quotation marks that are neither brackets nor marks of an opening or closing kind. -/
def plainQuotes : NamedRanges :=
  ⟨["quote"], ["22 27 275B-2760 2E00-2E01 2E06-2E08 2E0B 1F676-1F678"]⟩

end Expurgate.Unicode.Table
