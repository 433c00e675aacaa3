/-!
# Waymark.Unicode.Script

The scripts of the Unicode Character Database. Names are written without blanks,
hyphens and underscores, in lower case.
-/

namespace Waymark.Unicode

/-- The characters of each script, by the names of the script, as distances
between range ends. -/
def scriptTable : List (List String × String) := [
  (["adlm", "adlam"],
    "2olc 23 5 9 5 1"),
  (["ahom"],
    "1j40 q 3 e 5 m"),
  (["hluw", "anatolianhieroglyphs"],
    "1s00 g6"),
  (["arab", "arabic"],
    "16o 4 2 5 2 d 2 2 2 v 2 9 c p 2 2z 2 x 29 1b 6p x 6 22 2 s 1bv5 dp 3 3z x f 35 4 2 3q 31g u 1w 5
9 8 y 5 181t 3 2 q 2 1 2 0 3 0 2 9 2 3 2 0 2 0 7 0 5 0 2 0 2 0 2 2 2 1 2 0 3 0 2 0 2 0 2 0 2 0 2
1 2 0 3 3 2 6 2 3 2 3 2 0 2 9 2 g 6 2 2 4 2 g 1h 1"),
  (["armn", "armenian"],
    "10x 11 3 1d 3 2 1chw 4"),
  (["avst", "avestan"],
    "1gqo 1h 4 6"),
  (["bali", "balinese"],
    "5c0 24 2 1d"),
  (["bamu", "bamum"],
    "www 2f 124p fs"),
  (["bass", "bassavah"],
    "1zo0 t 3 5"),
  (["batk", "batak"],
    "5hc 1f 9 3"),
  (["beng", "bengali"],
    "1vk 3 2 7 3 1 3 l 2 6 2 0 4 3 3 8 3 1 3 3 9 0 5 1 2 4 3 o"),
  (["berf", "beriaerfe"],
    "20f4 o 3 o"),
  (["bhks", "bhaiksuki"],
    "1k3k 8 2 18 2 d b s"),
  (["bopo", "bopomofo"],
    "kq 1 93u 16 35 v"),
  (["brah", "brahmi"],
    "1hq8 25 5 z a 0"),
  (["brai", "braille"],
    "7wg 73"),
  (["bugi", "buginese"],
    "54w r 3 1"),
  (["buhd", "buhid"],
    "4lc j"),
  (["cans", "canadianaboriginal"],
    "3y8 hr fl 1x 1ewr f"),
  (["cari", "carian"],
    "1f34 1c"),
  (["aghb", "caucasianalbanian"],
    "1flc 1f c 0"),
  (["cakm", "chakma"],
    "1hxc 1g 2 h"),
  (["cham"],
    "xkw 1i a d 3 9 3 3"),
  (["cher", "cherokee"],
    "3vk 2d 3 5 twz 27"),
  (["chrs", "chorasmian"],
    "1ho0 r"),
  (["zyyy", "common"],
    "0 1s r 5 r 1a 2 e 2 4 o 0 w 0 ci 12 6 4 3 j 39 0 a 0 7 0 2 0 hq 0 7 0 f 0 4 0 x 0 4d 0 ed 0 3m 1
yi 0 ba 3 83 0 168 2 20 1 5o 1 2 0 y6 0 e 0 8 3 2 5 2 2 3 0 li b 3 2e 2 a 4 a 2 e i x 1r 11 2 2
3 5 2 q 2 g 16 2 5 ih n a m pr 75 hf 3 3t e9 2l b7 k 2 0 2 o g 7 5 3 2k 1 4 0 2j 1 44 f x 11 a 0
1d 1r w 28 1c 0 2h 4n 535 1r hkx x 2v 2 4m 9 6t 0 4h 0 b0 0 f 1 g5v 1 5t 9 n y 2 i 2 3 44 0 2 v
r 5 r a b 0 1a 1 1t 6 2 6 b 4 77 2 5 18 4 8 29 c 1g 18 6d q 10o5 3 319 70 4 c3 7 m g g 2o 37 1p
6t b 12 3 1p 4 g 9 1 8 t 5 1o 5y j d j d 2e a o 3s 2c 2 1y 2 1 3 0 3 1 3 3 2 b 2 0 2 6 2 1s 2 3
3 7 2 6 2 r 2 3 2 4 2 0 4 6 2 9f 3 83 3 1d 41e 1v 25 1o jn 17 5 2r d e 3 e 2 e 2 10 b 4t 1l p 2
1 e 17 5 8 8 1 f 5 4b rc 4 g 4 c 4 61 7 b 5 0 g b 5 1j 9 9 7 13 9 t 3 b 5 1 f 8 14 9j 9 d 3 c 4
a 4 1k 2 0 5 f 3 b 5 9 8 42 2 2u gvlz 0 v 2n"),
  (["copt", "coptic", "qaac"],
    "rm d 80h 37 6 6"),
  (["xsux", "cuneiform"],
    "1kw0 pl 2v 32 2 4 c 5f"),
  (["cprt", "cypriot"],
    "1g5c 5 3 0 2 17 2 1 4 0 3 0"),
  (["cpmn", "cyprominoan"],
    "1nyo 2q"),
  (["cyrl", "cyrillic"],
    "sg 3o 3 4o 4lt a 4h 0 25 0 38o v nr5 2n han 1 18n5 1p y 0"),
  (["dsrt", "deseret"],
    "1fcw 27"),
  (["deva", "devanagari"],
    "1s0 28 5 e 3 p vhd v mip 9"),
  (["diak", "divesakuru"],
    "1ji8 6 3 0 3 7 2 1 2 t 2 1 3 b a 9"),
  (["dogr", "dogra"],
    "1jb4 1n"),
  (["dupl", "duployan"],
    "2fpc 2y 6 c 4 8 8 9 3 3"),
  (["egyp", "egyptianhieroglyphs"],
    "1o1s ut b 32y"),
  (["elba", "elbasan"],
    "1fk0 13"),
  (["elym", "elymaic"],
    "1hpc m"),
  (["ethi", "ethiopic"],
    "3k0 20 2 3 3 6 2 0 2 3 3 14 2 3 3 w 2 3 3 6 2 0 2 3 3 e 2 1k 2 3 3 1u 3 v 4 p 547 m a 6 2 6 2 6
2 6 2 6 2 6 2 6 2 6 opv 5 3 5 3 5 a 6 2 6 1qk2 6 2 3 2 1 2 e"),
  (["gara", "garay"],
    "1h6o 11 4 s 9 1"),
  (["geor", "georgian"],
    "3a8 11 2 0 6 0 3 16 2 3 2a9 16 3 2 37l 11 2 0 6 0"),
  (["glag", "glagolitic"],
    "8ow 2n 2e1t 6 2 g 3 6 2 1 2 4"),
  (["goth", "gothic"],
    "1f74 q"),
  (["gran", "grantha"],
    "1ibk 3 2 7 3 1 3 l 2 6 2 1 2 4 3 8 3 1 3 2 3 0 7 0 6 6 3 6 4 4"),
  (["grek", "greek"],
    "og 3 2 2 3 3 2 0 5 0 2 0 2 2 2 0 2 j 2 1q f f 4yv 4 1f 4 5 4 2d 0 8x l 3 5 3 11 3 5 3 7 2 0 2 0
2 0 2 u 3 1g 2 e 2 d 3 5 2 i 3 2 2 8 88 0 rb3 0 gyj 26 i 0 155s 1x"),
  (["gujr", "gujarati"],
    "22p 2 2 8 2 2 2 l 2 6 2 1 2 4 3 9 2 2 2 2 3 0 g 3 3 b 8 6"),
  (["gong", "gunjalagondi"],
    "1kdc 5 2 1 2 10 2 1 2 5 8 9"),
  (["guru", "gurmukhi"],
    "1z5 2 2 5 5 1 3 l 2 6 2 1 2 1 2 1 3 0 2 4 5 1 3 2 4 0 8 3 2 0 8 g"),
  (["gukh", "gurungkhema"],
    "1xq8 1l"),
  (["hani", "han"],
    "96o p 2 2g d 5x 1c 0 2 0 q 8 f 3 qt 533 1t g73 hkx a5 3 2x n49 1 d 6 sga wyn x 3dp 3 4gd 3 5rk g
h9 1wj f1 15v 3t6 6 6jt"),
  (["hang", "hangul"],
    "3cw 73 5yn 1 76 2l 36 u 1u u nhe s hw 8mb d m 5 1c 7tx u 4 5 3 5 3 5 3 2"),
  (["rohg", "hanifirohingya"],
    "1h4w 13 9 9"),
  (["hano", "hanunoo"],
    "4kg k"),
  (["hatr", "hatran"],
    "1gbk i 2 1 6 4"),
  (["hebr", "hebrew"],
    "13l 1i 9 q 5 5 1cfd p 2 4 2 0 2 1 2 1 2 9"),
  (["hira", "hiragana"],
    "9j5 2d 7 2 23qa 7y j 0 u 2 cry 0"),
  (["armi", "imperialaramaic"],
    "1g74 l 2 8"),
  (["zinh", "inherited", "qaai"],
    "lc 33 7q 1 cl a r 0 kh 3 3fg 19 3 b dh 2 2 c 2 6 5 0 7 0 4 1 5j 1r el 1 5f w 30a 3 30 1 14km f h
d r4 0 6b 0 38b 0 1139 19 3 m f5 2 i 7 3 6 v 3 h45v 6n"),
  (["phli", "inscriptionalpahlavi"],
    "1gtc i 6 7"),
  (["prti", "inscriptionalparthian"],
    "1gsg l 3 7"),
  (["java", "javanese"],
    "xhc 25 3 9 5 1"),
  (["kthi", "kaithi"],
    "1hts 1u b 0"),
  (["knda", "kannada"],
    "2gw c 2 2 2 m 2 9 2 4 3 8 2 2 2 3 8 1 6 2 2 3 3 9 2 2"),
  (["kana", "katakana"],
    "9lt 2h 3 2 6p f 5t 1a 2 2f 14b3 9 2 18 ytv 3 2 6 2 1 2 0 80 2 1f 0 f 3"),
  (["kawi"],
    "1kow g 2 14 4 s"),
  (["kali", "kayahli"],
    "xds 19 2 0"),
  (["khar", "kharoshthi"],
    "1gjk 3 2 1 6 7 2 2 2 s 3 2 5 9 8 8"),
  (["kits", "khitansmallscript"],
    "20o4 0 5cs d1 16 0"),
  (["khmr", "khmer"],
    "4n4 2l 3 9 7 9 dj v"),
  (["khoj", "khojki"],
    "1i4g h 2 1a"),
  (["sind", "khudawadi"],
    "1i9c 1m 6 9"),
  (["krai", "kiratrai"],
    "205c 1l"),
  (["laoo", "lao"],
    "2v5 1 2 0 2 4 2 n 2 0 2 m 3 4 2 0 2 6 2 9 3 3"),
  (["latn", "latin"],
    "1t p 7 p 1c 0 g 0 6 m 2 u 2 cg 14 4 55o 11 7 1c 6 3 6 c 2 1x 1u 73 aa 0 e 0 h c 3y 1 7 0 s 0 i
14 254 v o83 2t 4 29 l e mp 16 2 8 2 3 fpz 6 t7 p 7 p 1ly 5 2 15 2 8 16iu u 7 5"),
  (["lepc", "lepcha"],
    "5j4 1j 4 e 4 2"),
  (["limb", "limbu"],
    "4xs u 2 b 5 b 5 0 4 b"),
  (["lina", "lineara"],
    "1fr4 8m a l b 7"),
  (["linb", "linearb"],
    "1ekg b 2 p 2 i 2 1 2 e 3 d z 3e"),
  (["lisu"],
    "wk0 1b o8h 0"),
  (["lyci", "lycian"],
    "1f28 s"),
  (["lydi", "lydian"],
    "1gdc p 6 0"),
  (["mahj", "mahajani"],
    "1hzk 12"),
  (["maka", "makasar"],
    "1ko0 o"),
  (["mlym", "malayalam"],
    "2kg c 2 2 2 1e 2 2 2 5 5 f 3 p"),
  (["mand", "mandaic"],
    "1mo r 3 0"),
  (["mani", "manichaean"],
    "1gow 12 5 b"),
  (["marc", "marchen"],
    "1k6o v 3 l 2 d"),
  (["gonm", "masaramgondi"],
    "1kao 6 2 1 2 17 4 0 2 1 2 8 9 9"),
  (["medf", "medefaidrin"],
    "20cg 2i"),
  (["mtei", "meeteimayek"],
    "xr4 m 5m 19 3 9"),
  (["mend", "mendekikakui"],
    "2oe8 5g 3 f"),
  (["merc", "meroiticcursive"],
    "1ggw n 5 j 3 19"),
  (["mero", "meroitichieroglyphs"],
    "1gg0 v"),
  (["plrd", "miao"],
    "20hs 22 5 1k 8 g"),
  (["modi"],
    "1iww 1w c 9"),
  (["mong", "mongolian"],
    "4qo 1 3 0 2 j 7 2g 8 16 1e46 c"),
  (["mroo", "mro"],
    "1zk0 u 2 9 5 1"),
  (["mult", "multani"],
    "1i80 6 2 0 2 3 2 e 2 a"),
  (["mymr", "myanmar"],
    "35s 4f u9t u 2q v le9 j"),
  (["nbat", "nabataean"],
    "1g8w u 9 8"),
  (["nagm", "nagmundari"],
    "2nrk 15"),
  (["nand", "nandinagari"],
    "1jmo 7 3 19 3 a"),
  (["talu", "newtailue"],
    "51c 17 5 p 7 a 4 1"),
  (["newa"],
    "1iio 2j 2 4"),
  (["nkoo", "nko"],
    "1j4 1m 3 2"),
  (["nshu", "nushu"],
    "20o1 0 cy7 az"),
  (["hmnp", "nyiakengpuachuehmong"],
    "2n0g 18 4 d 3 9 5 1"),
  (["ogam", "ogham"],
    "4g0 s"),
  (["olck", "olchiki"],
    "5lc 1b"),
  (["onao", "olonal"],
    "2nyo 16 5 0"),
  (["hung", "oldhungarian"],
    "1h1c 1e e 1e 8 5"),
  (["ital", "olditalic"],
    "1f5s z a 2"),
  (["narb", "oldnortharabian"],
    "1gn4 v"),
  (["perm", "oldpermic"],
    "1f80 16"),
  (["xpeo", "oldpersian"],
    "1fa8 z 5 d"),
  (["sogo", "oldsogdian"],
    "1hj4 13"),
  (["sarb", "oldsoutharabian"],
    "1gm8 v"),
  (["orkh", "oldturkic"],
    "1gxs 20"),
  (["ougr", "olduyghur"],
    "1hm8 p"),
  (["orya", "oriya"],
    "269 2 2 7 3 1 3 l 2 6 2 1 2 4 3 8 3 1 3 2 8 2 5 1 2 4 3 h"),
  (["osge", "osage"],
    "1fhs z 5 z"),
  (["osma", "osmanya"],
    "1fgg t 3 9"),
  (["hmng", "pahawhhmong"],
    "1zpc 1x b 9 2 6 2 k 6 i"),
  (["palm", "palmyrene"],
    "1g80 v"),
  (["pauc", "paucinhau"],
    "1juo 1k"),
  (["phag", "phagspa"],
    "x8g 1j"),
  (["phnx", "phoenician"],
    "1gcg r 4 0"),
  (["phlp", "psalterpahlavi"],
    "1gu8 h 8 3 d 6"),
  (["rjng", "rejang"],
    "xf4 z c 0"),
  (["runr", "runic"],
    "4gw 22 4 a"),
  (["samr", "samaritan"],
    "1kw 19 3 e"),
  (["saur", "saurashtra"],
    "xa8 1x 9 b"),
  (["shrd", "sharada"],
    "1i0w 2n 1vl 7"),
  (["shaw", "shavian"],
    "1ff4 1b"),
  (["sidd", "siddham"],
    "1itc 1h 3 11"),
  (["sidt", "sidetic"],
    "1ge8 p"),
  (["sgnw", "signwriting"],
    "2l8g i3 g 4 2 e"),
  (["sinh", "sinhala"],
    "2o1 2 2 h 4 n 2 8 2 0 3 6 4 0 5 5 2 0 2 7 7 9 3 2 1fcd j"),
  (["sogd", "sogdian"],
    "1hkg 15"),
  (["sora", "sorasompeng"],
    "1hw0 o 8 9"),
  (["soyo", "soyombo"],
    "1jrk 2a"),
  (["sund", "sundanese"],
    "5fk 1r 75 7"),
  (["sunu", "sunuwar"],
    "1k1s x f 9"),
  (["sylo", "sylotinagri"],
    "x6o 18"),
  (["syrc", "syriac"],
    "1ds d 2 1n 3 2 7l a"),
  (["tglg", "tagalog"],
    "4jk l a 0"),
  (["tagb", "tagbanwa"],
    "4m8 c 2 2 2 1"),
  (["tale", "taile"],
    "500 t 3 4"),
  (["lana", "taitham"],
    "55s 1q 2 s 3 a 7 9 7 d"),
  (["tavt", "taiviet"],
    "xog 1u p 4"),
  (["tayo", "taiyo"],
    "2o5c u 2 l 9 1"),
  (["takr", "takri"],
    "1j0g 1l 7 9"),
  (["taml", "tamil"],
    "29u 1 2 5 4 2 2 3 4 1 2 0 2 1 4 1 4 2 4 b 5 4 4 2 2 3 3 0 7 0 f k 1ih2 1d e 0"),
  (["tnsa", "tangsa"],
    "1zlc 26 2 9"),
  (["tang", "tangut"],
    "20o0 0 w 5bz e9 u 2q 36"),
  (["telu", "telugu"],
    "2dc c 2 2 2 m 2 f 3 8 2 2 2 3 8 1 2 2 2 1 3 3 3 9 8 8"),
  (["thaa", "thaana"],
    "1hc 1d"),
  (["thai"],
    "2rl 1l 6 r"),
  (["tibt", "tibetan"],
    "2yo 1z 2 z 5 12 2 z 2 e 2 6 5 1"),
  (["tfng", "tifinagh"],
    "8xc 1j 8 1 f 0"),
  (["tirh", "tirhuta"],
    "1im8 1z 9 9"),
  (["todr", "todhri"],
    "1fpc 1f"),
  (["tols", "tolongsiki"],
    "1kfk 17 5 9"),
  (["toto"],
    "2nbk u"),
  (["tutg", "tulutigalari"],
    "1if4 9 2 0 3 0 2 11 2 9 2 0 3 0 2 3 2 9 2 1 9 1"),
  (["ugar", "ugaritic"],
    "1f9c t 2 0"),
  (["zzzz", "unknown"],
    "oo 1 7 3 8 0 2 0 l 0 b2 0 13 1 1f 1 4 0 1k 7 s 3 7 a 7j 0 1p 1 2u d 1o 1 1e 1 g 0 t 1 2 0 c 4 z
4 6m 0 9 1 3 1 n 0 8 0 2 2 5 1 a 1 3 1 5 7 2 3 3 0 6 1 q 1 4 0 7 3 3 1 n 0 8 0 3 0 3 0 3 1 2 0 6
3 3 1 4 2 2 6 5 0 2 6 i 9 4 0 a 0 4 0 n 0 8 0 3 0 6 1 b 0 4 0 4 1 2 e 5 1 d 6 8 0 4 0 9 1 3 1 n
0 8 0 3 0 6 1 a 1 3 1 4 6 4 3 3 0 6 1 j 9 3 0 7 2 4 0 5 2 3 0 2 0 3 2 3 2 4 2 d 3 6 2 4 0 5 1 2
5 2 d m 4 e 0 4 0 o 0 h 1 a 0 4 0 5 6 3 0 4 0 3 1 5 1 b 6 n 0 4 0 o 0 b 0 6 1 a 0 4 0 5 6 3 4 4
0 5 1 b 0 4 b e 0 4 0 1g 0 4 0 7 3 h 1 r 0 4 0 j 2 p 0 a 0 2 1 8 2 2 3 7 0 2 0 9 5 b 1 4 b 1n 3
u 10 3 0 2 0 6 0 p 0 2 0 o 1 6 0 2 0 8 0 b 1 5 v 21 0 11 3 14 0 11 0 g 0 e 10 5j 0 2 4 2 1 ai 0
5 1 8 0 2 0 5 1 16 0 5 1 y 0 5 1 8 0 2 0 5 1 g 0 1m 0 5 1 1w 1 x 2 r 5 2f 1 7 1 im 2 2i 6 n 8 p
8 l b e 0 4 0 3 b 2n 1 b 5 b 5 r 5 2i 6 18 4 1z 9 w 0 d 3 d 3 2 2 17 1 6 a 19 3 r 5 c 2 1r 1 1u
0 u 1 c 5 b 5 f 1 1b 1 d j 26 0 4n 7 1p 2 g 2 1r 4 18 1 c 7 18 4 ev 1 7 1 13 1 7 1 9 0 2 0 2 0 2
0 w 1 1i 0 g 0 f 1 7 0 k 1 4 0 a 0 2u 0 d 1 s 0 e 2 z d y e 3x 3 ij l c k 1ed 1 an 4 1a 0 2 4 2
1 1l 6 3 d p 8 8 0 8 0 8 0 8 0 8 0 8 0 8 0 8 0 3j x r 0 2i b 5z p 29 0 2f 1 2w 4 18 0 2n 0 2f 8
1d 0 mlq 2 1k 8 9p j 55 7 66 j 1p 2 b 5 1l 7 1z 7 d 5 39 a v 2 27 0 c 3 y 0 1k 8 f 1 b 1 2w n t
9 7 1 7 1 7 8 8 0 8 0 1p 3 3j 1 b 5 8md b o 3 1e 3 1kx 4xr a7 1 2z 11 8 b 6 4 r 0 6 0 2 0 3 0 3
0 i3 v 17 5 1g 0 k 0 5 3 6 0 3s 1 2 0 5b 2 7 1 7 1 7 1 4 2 8 0 8 9 6 1 d 0 r 0 k 0 3 0 g 1 f x
3g 4 4 3 1a 2 2h 0 e 2 2 1a 1b 3l u 2 1e e t 3 11 8 v 4 18 4 v 0 12 3 f 15 4f 1 b 5 11 3 11 3 15
7 1h a d 0 g 0 8 0 3 0 c 0 g 0 8 0 3 2 1h b 8o 8 n 9 9 n 7 0 17 0 a 1w 7 1 2 0 19 0 3 2 2 1 o 0
21 7 a 1b k 0 3 4 y 2 s 4 s 11 1l 3 l 1 1f 0 3 4 9 0 4 0 u 1 4 3 b 6 a 6 1t v 14 3 d 8 1j 2 u 1
s 4 r 6 5 b 8 27 22 1i 1g c 1g 6 1b 7 b 5 13 2 u 7 3 5r w 0 17 0 4 1 3 f 7 7 a w 1b 7 17 l r 11
t j o 8 27 3 11 8 1x 9 2 1 q 6 b 5 1i 0 j 7 14 8 2p 0 l a j 0 1c 1p 8 0 2 0 5 0 g 0 c 5 1o 4 b 5
5 0 9 1 3 1 n 0 8 0 3 0 6 0 b 1 3 1 4 1 2 5 2 4 8 1 8 2 6 a b 0 2 1 2 0 13 0 b 0 2 1 2 0 5 0 b 0
3 7 3 s 2l 0 6 t 21 7 b 4l 1j 1 13 x 1y a b 5 e i 1n 5 b 5 l r s 1 g 3 o 54 1p 2r 2c b 9 1 2 1 9
0 3 0 v 0 3 1 d 8 b 1x 9 1 1b 1 c q 21 7 2c c 22 6 b 2d 9 2f z d b 5 a 0 1a 0 f 9 u 2 x 1 n 0 f
20 8 0 3 0 19 2 2 0 3 0 a 7 b 5 7 0 3 0 12 0 3 0 7 6 b 5 19 3 b 6t q 6 i 0 16 2 u 2c 2 e 1f c po
2t 34 0 6 a 5h 217 2s c uv 9 330 4 g8 5a0 1n 1c5 fu 6 w 0 b 3 2a 0 b 5 v 1 7 9 1z 9 b 0 8 0 m 4
k bz 1n 5h 2k 4 q 1 q 17 24 3 1m 6 i 1r 6 a 8 8 5p3 14 x 2o 38 6po 5 0 8 0 3 0 84 e 2 s 4 1 2 d
5 7 b1 1s3 30 4 e 2 a 6 b 1 9 317 72 2 c5 5 o e i e 1b 1 o 8 39 1n 6v 9 14 1 5f k 1z 3d l b l b
2g 8 q 3q 2e 0 20 0 3 1 2 1 3 1 5 0 d 0 2 0 8 0 1u 0 5 1 9 0 8 0 t 0 5 0 6 0 2 2 8 0 9h 1 85 1
jj e 6 0 g un w 5 7 5w 8 0 i 1 8 0 3 0 6 4 1r w 2 33 1a 2 f 1 b 3 3 8v w g 1n 4 2 cv 17 5x 18 3
2 5b w 0 n 7 3 67 8 0 5 0 3 0 g 0 5i 1 h 14 25 3 b 3 3 ls 1x 23 1q 5d 5 0 s 0 3 0 2 1 2 0 b 0 5
0 2 0 2 5 2 3 2 0 2 0 2 0 4 0 3 0 2 1 2 0 2 0 2 0 2 0 2 0 3 0 2 1 5 0 8 0 5 0 5 0 2 0 b 0 i 4 4
0 6 0 i 1f 3 7h 19 3 2t b g 1 g 0 g 0 12 9 4v 1j u c 19 3 a 6 3 d 7 49 re 2 i 2 e 2 63 5 d 3 2 e
d 3 1l 7 b 5 15 7 v 1 d 3 3 d a 12 9l 7 f 1 e 2 c 2 1m 0 2 3 h 1 d 3 b 6 44 0 2w sk wyp v 3dr 1
4gf 1 5rm e hb 1wh f3 15t 3t8 4 6jv f5vq 2 t 2p 3j 6p 47bj"),
  (["vaii", "vai"],
    "wlc 8b"),
  (["vith", "vithkuqi"],
    "1fn4 a 2 e 2 6 2 1 2 a 2 e 2 6 2 1"),
  (["wcho", "wancho"],
    "2ncw 1l 6 0"),
  (["wara", "warangciti"],
    "1jfk 2a d 0"),
  (["yezi", "yezidi"],
    "1hfk 15 2 2 3 1"),
  (["yiii", "yi"],
    "vls wc 4 1i"),
  (["zanb", "zanabazarsquare"],
    "1jpc 1z")]

/-- The characters that are used with a script, where these are not just those
of the script. -/
def scriptExtensionTable : List (List String × String) := [
  (["adlm", "adlam"],
    "17j 0 x 0 55b 0 2r6 0 2fgf 23 5 9 5 1"),
  (["arab", "arabic"],
    "16o 4 2 5y 2 x 29 1b 6p x 6 22 2 s 4ls 0 2r6 0 14i7 hr x f 35 4 2 3q ro r 291 u 1w 5 9 8 y 5
181t 3 2 q 2 1 2 0 3 0 2 9 2 3 2 0 2 0 7 0 5 0 2 0 2 0 2 2 2 1 2 0 3 0 2 0 2 0 2 0 2 0 2 1 2 0 3
3 2 6 2 3 2 3 2 0 2 9 2 g 6 2 2 4 2 g 1h 1"),
  (["armn", "armenian"],
    "lk 0 fd 11 3 1d 3 2 1chw 4"),
  (["avst", "avestan"],
    "53 0 8zd 1 17m7 1h 4 6"),
  (["beng", "bengali"],
    "jg 0 1at 1 i 1 r 3 2 7 3 1 3 l 2 6 2 0 4 3 3 8 3 1 3 3 9 0 5 1 2 4 3 o 3pu 0 2 0 3 1 2 0 9 0 9 0
3 0 5 0 3 2 rne 0"),
  (["bopo", "bopomofo"],
    "jr 0 2 2 e 0 h 1 8wm 2 5 9 2 c b 3 3 0 7 0 5g 0 a 16 35 v 14ee 1 7v 4"),
  (["bugi", "buginese"],
    "54w r 3 1 sds 0"),
  (["buhd", "buhid"],
    "4l1 1 a j"),
  (["cari", "carian"],
    "53 0 68z 0 3 0 2qc 0 15yn 1c"),
  (["aghb", "caucasianalbanian"],
    "lg 0 19 0 19 0 1exe 1f c 0"),
  (["cakm", "chakma"],
    "1ye 9 18x 9 1epj 1g 2 h"),
  (["cher", "cherokee"],
    "lc 2 2 0 7 1 n 1 c 1 38v 2d 3 5 twz 27"),
  (["zyyy", "common"],
    "0 1s r 5 r 1a 2 b 2 1 2 4 o 0 w 0 ci 2 2 9 2 0 4 0 2 8 2 0 2 5 6 4 3 j 3j 0 7 0 2 0 hq 0 60 0 ed
0 125 0 ba 3 36w b 3 w 2 u 2 9 2 1 2 6 2 a 4 a 2 e i x 1r 11 2 2 3 5 2 q 2 g 16 2 5 ih n a m pr
75 hf 3 3t e9 m 2 n 3 9 2 3 2 0 2 p bn 0 4 0 e 0 e 0 m 0 eq n w 0 1e e d 3 4i 9 6 2n w 0 535 1r
hl5 p 2v 2 r5 0 f 1 gbp 9 n k 3 b 2 i 2 3 44 0 2 v r 5 r 5 3k 6 2 6 b 4 b7 c 1g 18 13wk 70 4 c3
7 m g g 2o 37 1p 6t b 12 3 1p 4 g 9 1 8 t 5 1o 5y j d j d 2e s 6 3s 2c 2 1y 2 1 3 0 3 1 3 3 2 b
2 0 2 6 2 1s 2 3 3 7 2 6 2 r 2 3 2 4 2 0 4 6 2 9f 3 83 3 1d 41e 1v 25 1o jn 17 5 2r d e 3 e 2 e
2 10 b 4t 1l p 2 1 e 17 5 8 o 5 4b rc 4 g 4 c 4 61 7 b 5 0 g b 5 1j 9 9 7 13 9 t 3 b 5 1 f 8 14
9j 9 d 3 c 4 a 4 1k 2 0 5 f 3 b 5 9 8 42 2 2u gvlz 0 v 2n"),
  (["copt", "coptic", "qaac"],
    "53 0 g9 0 4 1 2 0 31 1 31 d 80h 37 6 6 7s 0 1615 r"),
  (["cprt", "cypriot"],
    "1erk 2 5 18 4 8 1c1 5 3 0 2 17 2 1 4 0 3 0"),
  (["cpmn", "cyprominoan"],
    "1erk 1 973 2q"),
  (["cyrl", "cyrillic"],
    "jg 0 1w 2 2 0 2 0 2 0 3 0 6 0 6n 8f 4lt a 4h 0 25 0 3k 0 354 v 1w 0 np9 2n han 1 18n5 1p y 0"),
  (["deva", "devanagari"],
    "jg 0 18k 2a 3 16 3td 12 2 1 s7 0 qps 9 4n v mip 9"),
  (["dogr", "dogra"],
    "1us b vcx 9 m2v 1n"),
  (["dupl", "duployan"],
    "53 0 gg 1 2 0 p 1 8ig 0 26kk 2y 6 c 4 8 8 9 3 7"),
  (["elba", "elbasan"],
    "53 0 ge 0 1eyj 13"),
  (["ethi", "ethiopic"],
    "lq 0 2ya 20 2 3 3 6 2 0 2 3 3 14 2 3 3 w 2 3 3 6 2 0 2 3 3 e 2 1k 2 3 3 1u 3 v 4 p 547 m a 6 2 6
2 6 2 6 2 6 2 6 2 6 2 6 opv 5 3 5 3 5 a 6 2 6 1qk2 6 2 3 2 1 2 e"),
  (["gara", "garay"],
    "170 0 f 0 4 0 1fz5 11 4 s 9 1"),
  (["geor", "georgian"],
    "53 0 ya 0 26v 11 2 0 6 0 3 1b 2a9 16 3 2 pn 0 2hy 11 2 0 6 0 78 0"),
  (["glag", "glagolitic"],
    "53 0 gc 0 2 0 an 0 3 0 76 0 29e 0 31b 0 2au 2n dg 0 nqk 0 1pxt 6 2 g 3 6 2 1 2 4"),
  (["goth", "gothic"],
    "53 0 gd 1 3 0 15 0 1ekf q"),
  (["gran", "grantha"],
    "1u9 1 i 1 ht d 3bx 0 2 1 v 2 4 1 s7 0 1btc 3 2 7 3 1 3 l 2 6 2 1 2 4 2 9 3 1 3 2 3 0 7 0 6 6 3 6
4 4 2fw 1 2 0"),
  (["grek", "greek"],
    "53 0 g9 1 3 0 2 0 2 0 b 0 1b 0 3 0 17 7 3 3 2 0 5 0 2 0 2 2 2 0 2 j 2 1q f f 4yv 4 1f 4 5 4 2d 2
8v l 3 5 3 11 3 5 3 7 2 0 2 0 2 0 2 u 3 1g 2 e 2 d 3 5 2 i 3 2 2 8 2n 0 5l 0 rb3 0 gyj 26 i 0
155s 1x"),
  (["gujr", "gujarati"],
    "1u9 1 i 1 7w 2 2 8 2 2 2 l 2 6 2 1 2 4 3 9 2 2 2 2 3 0 g 3 3 b 8 6 v1t 9"),
  (["gong", "gunjalagondi"],
    "53 0 1pp 1 1iij 5 2 1 2 10 2 1 2 5 8 9"),
  (["guru", "gurmukhi"],
    "1u9 1 i 1 4c 2 2 5 5 1 3 l 2 6 2 1 2 1 2 1 3 0 2 4 5 1 3 2 4 0 8 3 2 0 8 g v5m 9"),
  (["gukh", "gurungkhema"],
    "1ut 0 1vvf 1l"),
  (["hani", "han"],
    "53 0 91l p 2 2g d 5x r f 2 2 2 c 2 c 2 c 3 0 7 8 58 0 45 f x 11 a 0 1d 13 1l 1c g b 1g 0 2h o b
4 2p u 2 533 1t g73 1dt 7 g6x a5 3 2x oc 1 7v 4 m7x 1 d 6 jmy h 63j 1 2pb wyn x 3dp 3 4gd 3 5rk
g h9 1wj f1 15v 3t6 6 6jt"),
  (["hang", "hangul"],
    "3cw 73 5xe 2 5 9 2 c f 2 7 0 5g 0 1i 2l 36 u 1u u nhe s hw 8mb d m 5 1c 7ka 1 7v 4 1n u 4 5 3 5
3 5 3 2"),
  (["rohg", "hanifirohingya"],
    "170 0 f 0 4 0 x 0 44 0 1fsc 13 9 9"),
  (["hano", "hanunoo"],
    "4kg m"),
  (["hebr", "hebrew"],
    "lj 1 i1 1i 9 q 5 5 1cfd p 2 4 2 0 2 1 2 1 2 9"),
  (["hira", "hiragana"],
    "9hd 2 5 9 2 c h 5 2 0 5 1 4 2d 3 7 2j 1 14jt 1 7v 4 b 0 1a 1 yua 7y j 0 u 2 cry 0"),
  (["zinh", "inherited", "qaai"],
    "lr 0 3 0 2 e 4 6 3 0 3 f 2 1 2 h 2 4 2 3 169 1 3fg 19 3 b k7 1h 2 0 2 4 el 1 5f v 17o1 f h d r4
0 14hv 19 3 m f5 2 i 7 3 6 v 3 h45v 6n"),
  (["java", "javanese"],
    "xhc 25 2 a 5 1"),
  (["kthi", "kaithi"],
    "1uu 9 79e 0 o3j 9 klj 1u b 0"),
  (["knda", "kannada"],
    "1u9 1 i 1 m3 c 2 2 2 m 2 9 2 4 3 8 2 2 2 3 8 1 6 2 2 3 3 9 2 2 34t 0 2 1 7 0 o 0 2 0 ri4 5"),
  (["kana", "katakana"],
    "lh 0 u 0 8v2 2 5 9 2 c h 5 2 0 5 1 2k 3 4 2n 6p f 5t 1a 2 2f 1432 1 7v 1q ytt 3 2 6 2 1 2 0 80 2
1f 0 f 3"),
  (["kali", "kayahli"],
    "xds 1b"),
  (["khoj", "khojki"],
    "25i 9 v29 9 kw7 h 2 1a"),
  (["sind", "khudawadi"],
    "1us 1 vd7 9 l13 1m 6 9"),
  (["latn", "latin"],
    "1t p 7 p 1c 0 d 0 3 0 6 m 2 u 2 cg 4 0 b 0 2 2 2 0 a 0 2 0 7 4 s e 2 1 2 0 g 2 8 1 2 1 13 0 6 0
5 c 7q 1 y3 1 1ih 0 2dh 11 7 1c 6 3 6 c 2 1x 1m 0 8 73 8g 0 1u 0 e 0 h c 2c 0 1m 1 7 0 s 0 i 14
254 v bc 0 nvt 7 r 2t 4 29 l e 8f 0 ea 16 2 8 2 3 fpz 6 t7 p 7 p 1ly 5 2 15 2 8 16iu u 7 5"),
  (["limb", "limbu"],
    "1ut 0 32z u 2 b 5 b 5 0 4 b"),
  (["lina", "lineara"],
    "1err 18 y5 8m a l b 7"),
  (["linb", "linearb"],
    "1ekg b 2 p 2 i 2 1 2 e 3 d z 3e 6 2 5 18 4 8"),
  (["lisu"],
    "jg 0 h 0 8xp 1 n2d 1b o8h 0"),
  (["lyci", "lycian"],
    "6e2 0 18o6 s"),
  (["lydi", "lydian"],
    "53 0 8ze 0 178v p 6 0"),
  (["mahj", "mahajani"],
    "53 0 1pp b vcx 9 krb 12"),
  (["mlym", "malayalam"],
    "1u9 1 i 1 pn c 2 2 2 1e 2 2 2 5 5 f 3 p 317 0 o 0 ri6 2"),
  (["mand", "mandaic"],
    "18g 0 e8 r 3 0"),
  (["mani", "manichaean"],
    "18g 0 1fgg 12 5 b"),
  (["gonm", "masaramgondi"],
    "1us 1 1ifv 6 2 1 2 17 4 0 2 1 2 8 9 9"),
  (["mero", "meroitichieroglyphs"],
    "6e5 0 1a1v v"),
  (["modi"],
    "x80 9 lon 1w c 9"),
  (["mong", "mongolian"],
    "4qo p 7 2g 8 16 1hh 0 34i 1 6 3 19hx c"),
  (["mult", "multani"],
    "21y 9 1g5t 6 2 0 2 3 2 e 2 a"),
  (["mymr", "myanmar"],
    "35s 4f u4v 0 4y u 2q v le9 j"),
  (["nand", "nandinagari"],
    "1u9 0 j 1 ox 9 35m 0 9 0 8 0 rhy 5 mej 7 3 19 3 a"),
  (["newa"],
    "1u9 1 3ur 0 2 1 a 0 7 0 2 0 2 0 1csz 2j 2 4"),
  (["nkoo", "nko"],
    "170 0 f 0 4 0 bl 1m 3 2 1cfz 1"),
  (["onao", "olonal"],
    "1us 1 2m3v 16 5 0"),
  (["hung", "oldhungarian"],
    "6e2 0 3 0 2qc 0 g 0 17wf 1e e 1e 8 5"),
  (["perm", "oldpermic"],
    "53 0 g9 0 6 2 b 0 a8 0 1ebx 16"),
  (["orkh", "oldturkic"],
    "6e2 0 2qe 0 17tc 20"),
  (["ougr", "olduyghur"],
    "18g 0 1fhu 0 vy p"),
  (["orya", "oriya"],
    "1u9 1 i 1 bg 2 2 7 3 1 3 l 2 6 2 1 2 4 3 8 3 1 3 2 8 2 5 1 2 4 3 h 3fn 0 o 0"),
  (["osge", "osage"],
    "ld 0 3 0 7 0 25 0 1eu0 z 5 z"),
  (["phag", "phagspa"],
    "4qq 1 2 0 1m2 0 34j 0 nr2 1j"),
  (["phlp", "psalterpahlavi"],
    "18g 0 1fls h 8 3 d 6"),
  (["runr", "runic"],
    "4gw 2g"),
  (["samr", "samaritan"],
    "1kw 19 3 e 7hv 0"),
  (["shrd", "sharada"],
    "1u9 0 3uu 0 2 0 3 1 3 0 a 0 3 0 rib 5 3 0 kso 2n 1vl 7"),
  (["shaw", "shavian"],
    "53 0 1fa1 1b"),
  (["sinh", "sinhala"],
    "1us 1 t8 2 2 h 4 n 2 8 2 0 3 6 4 0 5 5 2 0 2 7 7 9 3 2 2ym 0 1cdr j"),
  (["sogd", "sogdian"],
    "18g 0 1gc0 15"),
  (["sunu", "sunuwar"],
    "lc 1 2 0 a 0 3 0 t 0 4 0 1jf3 x f 9"),
  (["sylo", "sylotinagri"],
    "1us 1 3l 9 v81 18"),
  (["syrc", "syriac"],
    "lf 1 3 1 2 0 p 2 8 1 2 1 kb 0 f 1 3 0 x 0 b a r 0 40 d 2 1n 3 2 7l a 49a 0 2 0"),
  (["tglg", "tagalog"],
    "4jk l a 0 m 1"),
  (["tagb", "tagbanwa"],
    "4l1 1 16 c 2 2 2 1"),
  (["tale", "taile"],
    "lc 1 6 1 4 0 2lw 9 1s7 t 3 4"),
  (["takr", "takri"],
    "1us 1 vd7 9 ls7 1l 7 9"),
  (["taml", "tamil"],
    "1u9 1 i 1 f1 1 2 5 4 2 2 3 4 1 2 0 2 1 4 1 4 2 4 b 5 4 4 2 2 3 3 0 7 0 f k 3c0 0 ro9 0 ky6 0 2 0
1k 1 2h0 1d e 0"),
  (["tang", "tangut"],
    "9gw f ds 0 1qsx 0 w 5bz e9 u 2q 36"),
  (["telu", "telugu"],
    "1u9 1 i 1 ij c 2 2 2 m 2 f 3 8 2 2 2 3 8 1 2 2 2 1 3 3 3 9 8 8 386 1 2 0 2 0 o 0"),
  (["thaa", "thaana"],
    "170 0 f 1 3 0 1t 9 7r 1d 1cn5 0 b 0"),
  (["thai"],
    "jg 0 r 0 18 0 1a 0 24w 1l 6 r"),
  (["tibt", "tibetan"],
    "2yo 1z 2 z 5 12 2 z 2 e 2 6 5 1 6cu 3"),
  (["tfng", "tifinagh"],
    "le 0 2 0 2 3 q 0 8b1 1j 8 1 f 0"),
  (["tirh", "tirhuta"],
    "1u9 1 i 1 3u8 0 d 0 g 0 ri6 9 ldz 1z 9 9"),
  (["todr", "todhri"],
    "ld 0 3 0 3 0 a 0 2 0 23 0 1f1e 1f"),
  (["toto"],
    "jg 0 2ms4 u"),
  (["tutg", "tulutigalari"],
    "2jq 9 35v 0 2 0 ri4 5 58 0 l1r 9 2 0 3 0 2 11 2 9 2 0 3 0 2 3 2 9 2 1 9 1"),
  (["yezi", "yezidi"],
    "170 0 f 0 4 0 1t 9 1g5z 15 2 2 3 1"),
  (["yiii", "yi"],
    "9hd 1 6 9 3 7 68 0 lxh wc 4 1i hwb 4")]

end Waymark.Unicode
