import Waymark.Unicode.Category

/-!
# Waymark.Text.Quoted

The quoted form in which messages show a character or a text.

A character that would not be seen, or would change how its neighbours look, is
written as an escape: the usual letters for the common control characters, and
the code point in braces for every other invisible character and for marks that
attach to the character before them. The quote that encloses the form and the
backslash are preceded by a backslash.
-/

namespace Waymark.Text

/-- Characters that join the character before them into one visible unit. -/
def extenders : CharSet := .ofDeltas
    "lc 33 7o 6 7c 18 2 0 2 1 2 1 2 0 21 a 1d k h 0 2u 6 3 5 3 1 2 3 10 0 v q 2k a 1n 8 a 0 p 3 2 8 2
2 2 4 18 2 1o 8 17 n 2 v 1k 0 2 0 5 7 5 0 4 6 b 1 u 0 1n 0 2 0 3 3 9 0 a 0 b 1 r 0 3 1 1m 0 5 1
5 1 3 2 4 0 v 1 4 0 c 1 1m 0 5 4 2 1 5 0 l 1 n 5 2 0 1n 0 2 1 2 3 9 0 8 2 b 1 v 0 1o 0 2 0 d 0 a
0 15 0 4 0 1k 0 2 2 6 2 2 3 8 1 c 1 u 0 1n 0 3 1 2 0 4 2 2 3 8 1 c 1 t 1 1m 1 2 0 3 3 9 0 a 0 b
1 u 0 21 0 5 0 3 2 2 0 9 0 2a 0 3 6 d 7 2r 0 3 8 c 6 22 1 s 0 2 0 2 0 1k d 2 4 2 1 6 a 2 z a 0
2v 3 2 5 2 1 3 1 q 1 5 2 h 3 e 0 3 1 7 0 g 0 jk 2 qb 3 t 2 u 1 v 1 1t 1 2 6 9 0 3 a a 0 1a 2 2 0
3a 1 z 0 3b 2 5 1 a 0 7 2 64 1 3 0 1n 0 2 6 2 0 2 0 3 7 7 9 3 0 1d 19 3 b l 3 1d 9 5 2 13 8 d 1
x 3 3 5 1l 0 2 1 4 0 2 4 1l 7 3 1 49 2 2 c 2 6 5 0 7 0 4 1 5j 1r el 0 5g w 2db 2 3y 0 2p v ff 5
2y 1 n9x 3 2 9 x 1 29 1 7l 0 4 0 5 0 q 1 6 0 48 1 r h e 0 13 7 q a 2 0 19 2 1d 0 3 3 3 1 3 0 11
0 1w 5 3 1 3 1 d 0 9 0 1c 0 1g 0 2 2 3 1 6 1 2 0 17 1 9 0 6n 0 3 0 5 0 fn5 0 ki f h f a7 1 gu 0
6b 0 46 4 1af 2 2 1 6 3 15 2 5 0 4m 1 fy 3 1u 4 8u 1 26 5 1z a 1e 3 3g 0 1j e 16 0 3 1 b 2 1e 3
3 1 8 0 1q 2 11 4 2 7 1r 0 d 1 1h 8 2 0 9 3 3 0 2o 2 3 3 7 0 3 0 4e 0 4 7 m 1 1m 1 2 0 2 0 d 0 a
0 f 6 4 4 1w 0 3 5 2 0 3 0 2 2 5 2 2 0 f 1 2e 7 3 2 2 0 o 0 2a 0 3 5 2 0 3 0 2 1 2 1 6k 0 3 3 7
1 2 1 s 1 2e 7 3 0 2 1 2z 0 2 0 3 7 2u 0 2 0 3 3 2 4 78 8 2 1 6u 0 b 3 5 0 41 3 3 1 5 0 x 9 15 5
3 3 9 0 a 5 3 2 1b c 2 1 5j 0 2 2 2 0 5m 6 2 5 2 0 2b l 3 6 2 1 2 1 3f 5 4 0 2 1 2 6 2 0 21 1 4
0 2 0 9o 1 c 1 1h 4 6 2 o 0 44m 0 7 e 8uh b 4 2 1xd 4 1o 6 t5 0 1s 3 2a 0 c 1 f58 1 3mq 19 3 m
f3 4 4 5 9 7 3 6 v 3 45 2 1j0 1i 5 1d 9 0 f 0 n 4 2 e 11t 6 2 g 3 6 2 1 2 4 2t 0 4h 6 ag 0 1q 3
e5 3 73 1 6s 0 3 0 8 1 6 0 d7 6 32 6 gzbq 2n 3l 6n"

/-- Characters that are not shown when a font knows no better. -/
def ignorable : CharSet := .ofDeltas
    "4t 0 iq 0 jx 0 283 1 190 1 2e 4 1ks 4 r 4 1e f 3cl 0 14f0 f 6o 0 4h 0 28 8 119k 3 440 7 h406 35r"

/-- Whether a character is seen when it is printed: a blank, or an assigned
character that is not ignorable and no separator, control, format or private use
character. -/
def isVisible (c : Char) : Bool :=
  c == ' ' || !ignorable.contains c &&
    (Unicode.Category.letters ++ Unicode.Category.marks ++ Unicode.Category.digits ++
      Unicode.Category.punctuation ++ Unicode.Category.symbols).any fun category =>
        category.chars.contains c

/-- The lower-case hexadecimal digits of a number. -/
def hexDigits (n : Nat) : List Char := Nat.toDigits 16 n

/-- The form of a character inside quotes of the kind `quote`. -/
def escape (quote c : Char) : List Char :=
  match c with
  | '\x00' => ['\\', '0']
  | '\t' => ['\\', 't']
  | '\n' => ['\\', 'n']
  | '\r' => ['\\', 'r']
  | '\\' => ['\\', '\\']
  | c =>
    if c = quote then ['\\', c]
    else if ' ' ≤ c ∧ c ≤ '~' then [c]
    else if extenders.contains c || !isVisible c then
      ['\\', 'u', '\x7b'] ++ hexDigits c.toNat ++ ['\x7d']
    else [c]

/-- A character between single quotes. -/
def quoteChar (c : Char) : String :=
  String.ofList (['\''] ++ escape '\'' c ++ ['\''])

/-- A text between double quotes. -/
def quoteText (text : String) : String :=
  String.ofList (['"'] ++ text.toList.flatMap (escape '"') ++ ['"'])

end Waymark.Text
