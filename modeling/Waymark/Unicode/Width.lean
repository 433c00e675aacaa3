import Waymark.CharSet

/-!
# Waymark.Unicode.Width

How many columns of a terminal a character takes: none if it combines with the
one before, two if it is as wide as it is high, else one.
-/

namespace Waymark.Unicode

/-- The characters that take no column: marks that extend the character before,
characters that are ignored where they are not known, and the vowels and final
consonants of Hangul syllables that are written in parts. -/
def zeroWidthTable : String :=
    "4t 0 gj 33 7o 6 7c 18 2 0 2 1 2 1 2 0 1q 0 b a 2 0 1b k h 0 2u 6 3 5 3 1 2 3 y 0 2 0 v q 2k a 1n
8 a 0 p 3 2 8 2 2 2 4 18 2 1h 1 6 8 17 1k 1k 0 2 0 5 7 5 0 4 6 b 1 u 0 1n 0 2 0 3 3 9 0 a 0 b 1
r 0 3 1 1m 0 5 1 5 1 3 2 4 0 v 1 4 0 c 1 1m 0 5 4 2 1 5 0 l 1 n 5 2 0 1n 0 2 1 2 3 9 0 8 2 b 1 v
0 1o 0 2 0 d 0 a 0 15 0 4 0 1k 0 2 2 6 2 2 3 8 1 c 1 u 0 1n 0 3 1 2 0 4 2 2 3 8 1 c 1 t 1 1m 1 2
0 3 3 9 0 a 0 b 1 u 0 21 0 5 0 3 2 2 0 9 0 2a 0 3 6 d 7 2r 0 3 8 c 6 22 1 s 0 2 0 2 0 1k d 2 4 2
1 6 a 2 z a 0 2v 3 2 5 2 1 3 1 q 1 5 2 h 3 e 0 3 1 7 0 g 0 5f 4f 9q 2 qb 3 t 2 u 1 v 1 1t 1 2 6
9 0 3 a a 0 1a 4 3a 1 z 0 3b 2 5 1 a 0 7 2 64 1 3 0 1n 0 2 6 2 0 2 0 3 7 7 9 3 0 1d 19 3 b l 3
1d 9 5 2 13 8 d 1 x 3 3 5 1l 0 2 1 4 0 2 4 1l 7 3 1 49 2 2 c 2 6 5 0 7 0 4 1 5j 1r ek 4 r 4 1e f
2p w 2db 2 3y 0 2p v ff 5 2y 1 5m 0 n4b 3 2 9 x 1 29 1 7l 0 4 0 5 0 q 1 6 0 48 1 r h 9 0 5 0 13
7 q a 2 0 19 2 1d 0 3 3 3 1 3 0 11 0 1w 5 3 1 3 1 d 0 9 0 1c 0 1g 0 2 2 3 1 6 1 2 0 17 1 9 0 6n
0 3 0 5 0 8n7 m 5 1c 6xv 0 ki f h f 5s 0 4f 2 28 8 ed 0 6b 0 46 4 1af 2 2 1 6 3 15 2 5 0 4m 1 fy
3 1u 4 8u 1 26 5 1z a 1e 3 3g 0 1j e 16 0 3 1 b 2 1e 3 3 1 8 0 1q 2 11 4 2 7 1r 0 d 1 1h 8 2 0 9
3 3 0 2o 2 3 3 7 0 3 0 4e 0 4 7 m 1 1m 1 2 0 2 0 d 0 a 0 f 6 4 4 1w 0 3 5 2 0 3 0 2 2 5 2 2 0 f
1 2e 7 3 2 2 0 o 0 2a 0 3 5 2 0 3 0 2 1 2 1 6k 0 3 3 7 1 2 1 s 1 2e 7 3 0 2 1 2z 0 2 0 3 7 2u 0
2 0 3 3 2 4 78 8 2 1 6u 0 b 3 5 0 41 3 3 1 5 0 x 9 15 5 3 3 9 0 a 5 3 2 1b c 2 1 5j 0 2 2 2 0 5m
6 2 5 2 0 2b l 3 6 2 1 2 1 3f 5 4 0 2 1 2 6 2 0 21 1 4 0 2 0 9o 1 c 1 1h 4 6 2 o 0 44m 0 7 e 8uh
b 4 2 1xd 4 1o 6 t5 0 1s 3 2a 0 c 1 f58 1 2 3 3ml 19 3 m f3 4 4 l 3 6 v 3 45 2 1j0 1i 5 1d 9 0 f
0 n 4 2 e 11t 6 2 g 3 6 2 1 2 4 2t 0 4h 6 ag 0 1q 3 e5 3 73 1 6s 0 3 0 8 1 6 0 d7 6 32 6 gzau
35r"

/-- The characters that take two columns. -/
def wideTable : String :=
    "3cw 2n 3i3 1 e 1 5b 3 4 0 3 0 ei 1 m 1 r 7 h b 18 0 b 5 4 0 e 0 9 1 i 1 6 1 9 0 6 0 m 0 8 1 2 0
5 0 3 0 8 0 5 1 t 0 10 0 2 0 5 2 2 0 1q 2 p 0 f 0 nw 1 1g 0 5 0 mj p 2 2g d 5x r 1l 7 e 3 2d 5
2s 6 16 2 1e 2 15 2 2d a 1b 2 13 9 mkc 4 1i wq s hw 8mb 6l9 e7 lt 9 n y 2 i 2 3 46 2n 3k 6 m4a 3
f 4 a 5p1 16 v 2q 36 6pq 3 2 6 2 1 2 82 g 0 u 2 3 0 f 3 9 az 6bp 2e a m 5n2 0 5n 0 5b 0 3 9 24 s
e 17 5 8 8 1 f 5 4b w d 8 2 1x 2 l d 16 5 4 d g 4 0 4 1y 2 0 2 56 3 1q e 3 2 n j 0 r 1 e 0 2f 2c
1d 1x 7 0 4 2 3 3 4 3 c 1 8 8 6c b 5 0 7w 1a 2 9 2 54 35 c 4 a 4 1k 2 0 5 f 3 b 5 9 zs 1ekd 3
1ekd"

/-- The characters that take no column. -/
def zeroWidthChars : CharSet := .ofDeltas zeroWidthTable

/-- The characters that take two columns. -/
def wideChars : CharSet := .ofDeltas wideTable

/-- The number of columns of a character. Control characters count as one. -/
def width (c : Char) : Nat :=
  if c.toNat < 128 then 1
  else if zeroWidthChars.contains c then 0
  else if wideChars.contains c then 2
  else 1

end Waymark.Unicode
