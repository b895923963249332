namespace IngressProxy.Unicode

/-- The characters of break classes that are not derived from other properties, and by how much classes go beyond (+) or fall short of (-) what they are derived from. -/
def breakTable : List (String × String) := [
  ("Grapheme_Cluster_Break/Control", "0-9 b-c e-1f 7f-9f ad 61c 180e 200b 200e-200f 2028-202e 2060-206f feff fff0-fffb 13430-1343f
    1bca0-1bca3 1d173-1d17a e0000-e001f e0080-e00ff e01f0-e0fff"),
  ("Grapheme_Cluster_Break/L", "1100-115f a960-a97c"),
  ("Grapheme_Cluster_Break/Prepend", "600-605 6dd 70f 890-891 8e2 d4e 110bd 110cd 111c2-111c3 1193f 11941 11a3a 11a84-11a89 11d46
    11f02"),
  ("Grapheme_Cluster_Break/T", "11a8-11ff d7cb-d7fb"),
  ("Grapheme_Cluster_Break/V", "1160-11a7 d7b0-d7c6"),
  ("Grapheme_Cluster_Break/SpacingMark+", "e33 eb3"),
  ("Grapheme_Cluster_Break/SpacingMark-", "102b-102c 1038 1062-1064 1067-106d 1083 1087-108c 108f 109a-109c 1a61 1a63-1a64 aa7b aa7d
    11720-11721"),
  ("Word_Break/Double_Quote", "22"),
  ("Word_Break/ExtendNumLet", "5f 202f 203f-2040 2054 fe33-fe34 fe4d-fe4f ff3f"),
  ("Word_Break/Hebrew_Letter", "5d0-5ea 5ef-5f2 fb1d fb1f-fb28 fb2a-fb36 fb38-fb3c fb3e fb40-fb41 fb43-fb44 fb46-fb4f"),
  ("Word_Break/Katakana", "3031-3035 309b-309c 30a0-30fa 30fc-30ff 31f0-31ff 32d0-32fe 3300-3357 ff66-ff9d 1aff0-1aff3
    1aff5-1affb 1affd-1affe 1b000 1b120-1b122 1b155 1b164-1b167"),
  ("Word_Break/MidLetter", "3a b7 387 55f 5f4 2027 fe13 fe55 ff1a"),
  ("Word_Break/MidNum", "2c 3b 37e 589 60c-60d 66c 7f8 2044 fe10 fe14 fe50 fe54 ff0c ff1b"),
  ("Word_Break/MidNumLet", "2e 2018-2019 2024 fe52 ff07 ff0e"),
  ("Word_Break/Newline", "b-c 85 2028-2029"),
  ("Word_Break/Single_Quote", "27"),
  ("Word_Break/WSegSpace", "20 1680 2000-2006 2008-200a 205f 3000"),
  ("Word_Break/ALetter+", "2c2-2c5 2d2-2d7 2de-2df 2e5-2eb 2ed 2ef-2ff 55a-55c 55e 58a 5f3 a708-a716 a720-a721 a789-a78a
    ab5b"),
  ("Word_Break/ALetter-", "e01-e30 e32-e33 e40-e46 e81-e82 e84 e86-e8a e8c-ea3 ea5 ea7-eb0 eb2-eb3 ebd ec0-ec4 ec6 edc-edf
    1000-102a 103f 1050-1055 105a-105d 1061 1065-1066 106e-1070 1075-1081 108e 1780-17b3 17d7 17dc
    1950-196d 1970-1974 1980-19ab 19b0-19c9 1a20-1a54 1aa7 3041-3096 309d-309f a9e0-a9e4 a9e6-a9ef
    a9fa-a9fe aa60-aa76 aa7a aa7e-aaaf aab1 aab5-aab6 aab9-aabd aac0 aac2 aadb-aadd 11700-1171a
    11740-11746 1b001-1b11f 1b132 1b150-1b152"),
  ("Sentence_Break/ATerm", "2e 2024 fe52 ff0e"),
  ("Sentence_Break/SContinue", "2c-2d 3a 55d 60c-60d 7f8 1802 1808 2013-2014 3001 fe10-fe11 fe13 fe31-fe32 fe50-fe51 fe55 fe58
    fe63 ff0c-ff0d ff1a ff64"),
  ("Sentence_Break/Sep", "85 2028-2029"),
  ("Sentence_Break/Sp", "9 b-c 20 a0 1680 2000-200a 202f 205f 3000"),
  ("Sentence_Break/Close+", "22 27 275b-2760 2e00-2e01 2e06-2e08 2e0b 1f676-1f678")]

/-- The names of each break class, in lower case and without blanks. -/
def breakNames : List (String × List String) := [
  ("Grapheme_Cluster_Break/Control", ["cn", "control"]),
  ("Grapheme_Cluster_Break/CR", ["cr"]),
  ("Grapheme_Cluster_Break/Extend", ["ex", "extend"]),
  ("Grapheme_Cluster_Break/L", ["l"]),
  ("Grapheme_Cluster_Break/LF", ["lf"]),
  ("Grapheme_Cluster_Break/LV", ["lv"]),
  ("Grapheme_Cluster_Break/LVT", ["lvt"]),
  ("Grapheme_Cluster_Break/Prepend", ["pp", "prepend"]),
  ("Grapheme_Cluster_Break/Regional_Indicator", ["ri", "regionalindicator"]),
  ("Grapheme_Cluster_Break/SpacingMark", ["sm", "spacingmark"]),
  ("Grapheme_Cluster_Break/T", ["t"]),
  ("Grapheme_Cluster_Break/V", ["v"]),
  ("Grapheme_Cluster_Break/ZWJ", ["zwj"]),
  ("Word_Break/CR", ["cr"]),
  ("Word_Break/Double_Quote", ["dq", "doublequote"]),
  ("Word_Break/ExtendNumLet", ["ex", "extendnumlet"]),
  ("Word_Break/Extend", ["extend"]),
  ("Word_Break/Format", ["fo", "format"]),
  ("Word_Break/Hebrew_Letter", ["hl", "hebrewletter"]),
  ("Word_Break/Katakana", ["ka", "katakana"]),
  ("Word_Break/ALetter", ["le", "aletter"]),
  ("Word_Break/LF", ["lf"]),
  ("Word_Break/MidNumLet", ["mb", "midnumlet"]),
  ("Word_Break/MidLetter", ["ml", "midletter"]),
  ("Word_Break/MidNum", ["mn", "midnum"]),
  ("Word_Break/Newline", ["nl", "newline"]),
  ("Word_Break/Numeric", ["nu", "numeric"]),
  ("Word_Break/Regional_Indicator", ["ri", "regionalindicator"]),
  ("Word_Break/Single_Quote", ["sq", "singlequote"]),
  ("Word_Break/WSegSpace", ["wsegspace"]),
  ("Word_Break/ZWJ", ["zwj"]),
  ("Sentence_Break/ATerm", ["at", "aterm"]),
  ("Sentence_Break/Close", ["cl", "close"]),
  ("Sentence_Break/CR", ["cr"]),
  ("Sentence_Break/Extend", ["ex", "extend"]),
  ("Sentence_Break/Format", ["fo", "format"]),
  ("Sentence_Break/OLetter", ["le", "oletter"]),
  ("Sentence_Break/LF", ["lf"]),
  ("Sentence_Break/Lower", ["lo", "lower"]),
  ("Sentence_Break/Numeric", ["nu", "numeric"]),
  ("Sentence_Break/SContinue", ["sc", "scontinue"]),
  ("Sentence_Break/Sep", ["se", "sep"]),
  ("Sentence_Break/Sp", ["sp"]),
  ("Sentence_Break/STerm", ["st", "sterm"]),
  ("Sentence_Break/Upper", ["up", "upper"])]

end IngressProxy.Unicode
