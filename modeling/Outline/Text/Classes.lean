import Outline.Text.Ranges

namespace Outline.Text

-- Characters that separate words and that trimming removes.
def isBlank (c : Char) : Bool :=
  let n := c.toNat
  (9 ≤ n && n ≤ 13) || (28 ≤ n && n ≤ 32) || n == 0x85 || n == 0xA0 || n == 0x1680 ||
  (0x2000 ≤ n && n ≤ 0x200A) || n == 0x2028 || n == 0x2029 || n == 0x202F || n == 0x205F ||
  n == 0x3000

-- Letters, digits and numbers of every script, and the low line.
private def wordRanges : Ranges := .ofText
  ("1c 9 7 p 4 0 1 p 1b 0 7 1 1 0 3 1 1 2 1 m 1 u 1 cp 4 b e 4 7 0 1 0 3l 4 1 1 2 3 1 0 6 0 1 " ++
   "2 1 0 1 j 1 2a 1 3u 8 4l 1 11 2 0 6 14 1z q 4 3 19 16 l 9 4 1 1 2q 1 0 f 1 7 e 2 0 g 0 1 " ++
   "t t 2g b 0 e 16 9 1 4 0 5 l 4 0 9 0 3 0 n o 7 a 5 n 1 5 h 15 1m 1h 3 0 i 0 7 9 4 9 1 f 4 " ++
   "7 2 1 2 l 1 6 1 0 3 3 3 0 g 0 d 1 1 2 4 b 2 5 2 0 8 5 4 1 2 l 1 6 1 1 1 1 1 1 v 3 1 0 7 9 " ++
   "2 2 g 8 1 2 1 l 1 6 1 1 1 4 3 0 i 0 f 1 4 9 9 0 b 7 2 1 2 l 1 6 1 1 1 4 3 0 u 1 1 2 4 9 1 " ++
   "6 b 0 1 5 3 2 1 3 3 1 1 0 1 1 3 1 3 2 3 b m 0 l c i 7 1 2 1 m 1 f 3 0 q 2 2 0 2 1 4 9 8 6 " ++
   "1 0 4 7 1 2 1 m 1 9 1 4 3 0 v 1 1 1 4 9 1 1 h 8 1 2 1 14 2 0 g 0 5 2 1 9 4 i 1 5 5 h 3 n " ++
   "1 8 1 0 2 6 v 9 h 1b 1 1 c 6 9 9 13 1 1 0 1 4 1 n 1 0 1 9 1 1 9 0 2 4 1 0 9 9 2 3 w 0 v j " ++
   "c 7 1 z r 4 37 16 k a 6 5 4 3 3 0 3 1 7 2 4 c c 0 1 9 6 11 1 0 5 0 2 16 1 98 1 3 2 6 1 0 " ++
   "1 3 2 14 1 3 2 w 1 3 2 6 1 0 1 3 2 e 1 1k 1 3 2 1u e j 3 f g 2d 2 5 3 h7 2 g 1 p 5 22 3 a " ++
   "7 h d i e h e c 1 2 f 1f z 0 4 0 3 9 6 9 m 9 6 2g 7 4 2 x 1 0 5 1x a u 13 13 2 4 b 17 4 p " ++
   "6 a 11 m 9 1g 17 9 6 9 d 0 2l 1a h 7 3 9 15 t d 1j q z s 9 3 1c 2 8 7 16 2 2 15 3 1 5 1 1 " ++
   "3 0 5 5b 1s 7p 2 5 2 11 2 5 2 7 1 0 1 0 1 0 1 u 2 1g 1 6 1 0 3 2 1 6 3 3 2 5 4 c 5 2 1 6 " ++
   "37 1 2 5 5 a 6 c 2t 0 4 0 2 9 1 0 3 4 6 0 1 0 1 0 1 3 1 a 2 3 5 4 4 0 1 1l k6 1n 26 l hi " ++
   "t vg 6c 6 3 3 1 9 0 2 11 1 0 5 0 2 1j 7 0 g m 9 6 1 6 1 6 1 6 1 6 1 6 1 6 1 6 28 0 d1 2 p " ++
   "8 7 4 2 4 4 2d 6 2 1 2h 1 3 5 16 1 2l 3 3 a v 1c f w 9 u 7 1 e w 9 13 e 8w 533 1s h3g 1v " ++
   "19 2 7g 3 r k 1a g u 2 27 13 8 2 2u 2 1r 5 1 1 0 1 4 o f 1 2 1 3 1 m d 5 a 1f e 1d s 9 o " ++
   "5 3 0 1 1 1 11 a m p s 7 1a s a 6 4 1 o 1 14 n 2 1 7 4 9 6 m 3 0 3 1d 1 0 3 1 2 4 2 0 1 0 " ++
   "o 2 2 a 7 2 c 5 2 5 2 5 9 6 1 6 1 16 1 d 6 36 d 9 6 8mb c m 4 1c 6is a5 2 2x 12 6 c 4 5 0 " ++
   "1 9 1 c 1 4 1 0 1 1 1 1 1 2z x a2 i 1r 2 1h 14 b 38 4 1 3q j 9 7 p 6 p b 2g 3 5 2 5 2 5 2 " ++
   "2 z b 1 p 1 i 1 1 1 e 2 d y 3e c 18 c 1k h 1 6s s 3 1c g q 4 z 9 t 5 11 a t 2 z 4 7 1 4 " ++
   "16 4d 2 9 6 z 4 z 4 13 8 1f c a 1 e 1 6 1 1 1 a 1 e 1 6 1 1 1v 8m 9 l a 7 o 5 1 15 1 8 1x " ++
   "5 2 0 1 17 1 1 3 0 2 m 2 u 2 11 8 8 1c i 1 1 5 w 4 p 1y 1j 4 j 2 1a f 3 1 2 1 s a 8 n u 1 " ++
   "v w 7 1 r 6 4 g 1h a l 2 q 5 p n 6 28 20 1j 1e d 1e 7 15 c 9 86 u 1 15 6 1 26 13 8 l b 3 " ++
   "r h 1a r k m c 1g q t 1 1 2 0 d 18 w o 7 9 9 z f 9 4 0 2 0 8 y 3 0 c 1b e 3 b a 1 0 4 j b " ++
   "h 1 o 2c 6 1 0 1 3 1 e 1 9 7 1a h 9 b 7 2 1 2 l 1 6 1 1 1 4 3 0 i 0 c 4 4e 1g i 3 5 9 5 2 " ++
   "u 1b k 1 1 0 8 9 4m 1a 15 3 10 1b k 0 b 9 12 16 d 0 7 9 1i q l b 4 6 55 17 38 2a c 7 2 0 " ++
   "2 7 1 1 1 n f 0 1 0 e 9 1y 7 2 12 g 0 1 0 s 0 a 13 7 0 l 0 b 19 j 0 i 20 7b 8 1 10 h 0 f " ++
   "s 5 t 34 6 1 1 1 11 l 0 9 9 6 5 1 1 1 v e 0 7 9 8m i 59 0 f k 17 pl 2u 32 h 5f 218 2o f " ++
   "tq 34h g6 6nt fs 7 u 1 9 6 26 1 9 6 t i 1b g 3 c 9 1 6 1 k 5 i j4 2e 2x 22 5 0 1u c 1s 1 " ++
   "1 0 s 4qf 8 yd 16 8 6w7 3 1 6 1 1 1 82 19 2 h 3 8 az 1s4 2y 5 c 3 8 7 9 4ee j 30 o 3r 2c " ++
   "1 1y 1 1 2 0 2 1 2 3 1 b 1 0 1 6 1 1s 1 3 2 7 1 6 1 r 1 3 1 4 1 0 3 6 1 9f 2 o 1 o 1 u 1 " ++
   "o 1 u 1 o 1 u 1 o 1 u 1 o 1 7 2 1d 1ds u dd 18 a 6 2 9 4 0 8x t i 17 4 9 yu 6 1 3 1 1 1 e " ++
   "1 5g 2 8 1c 1v 7 0 4 9 lz 1m 1 2 1 3 24 18 1 e 5e 3 1 q 1 1 1 0 2 0 1 9 1 3 1 0 1 0 6 0 4 " ++
   "0 1 0 1 0 1 2 1 1 1 0 2 0 1 0 1 0 1 0 1 0 1 1 1 0 2 3 1 6 1 3 1 3 1 0 1 9 1 g 5 2 1 4 1 g " ++
   "g4 c 25f 9 sm wyn w 37c 7 65 2 4g1 e 5rk 2e7 f1 15u 3t6")

-- Decimal digits; every script has its ten in a row, zero first.
private def digitRanges : Ranges := .ofText
  ("1c 9 17q 9 3q 9 5i 9 bg 9 3a 9 3a 9 3a 9 3a 9 3a 9 3a 9 3a 9 3a 9 3a 9 2o 9 3a 9 1y 9 7q " ++
   "9 1y 9 1fq 9 12 9 8c 9 3k 9 4m 9 6 9 52 9 2e 9 3q 9 6 9 r7q 9 iu 9 12 9 5i 9 m 9 2e 9 ba " ++
   "9 geu 9 13a 9 1om 9 mk 9 3k 9 1o 9 40 9 7q 9 9i 9 3a 9 ae 9 2u 9 2u 9 bq 9 2u 9 l2 9 6u 9 " ++
   "1y 9 f5i 9 2e 9 3q 9 lf8 1d 1ts 9 bq 9 192 9 3o6 9")

-- What can be shown as it stands: neither control nor format characters, nor separators other
-- than the space, nor code points without a character.
private def printableRanges : Ranges := .ofText
  ("w 2m y b 1 jt 2 5 4 6 1 0 1 j 1 b0 1 11 2 1d 2 2 1 1i 8 q 4 5 h l 1 5b 1 1b 2 1m 2 2s e " ++
   "1m 2 1c 2 e 1 r 2 0 1 a 5 u 9 21 1 4g 1 7 2 1 2 l 1 6 1 0 3 3 2 8 2 1 2 3 8 0 4 1 1 4 2 o " ++
   "2 2 1 5 4 1 2 l 1 6 1 1 1 1 1 1 2 0 1 4 4 1 2 2 3 0 7 3 1 0 7 g a 2 1 8 1 2 1 l 1 6 1 1 1 " ++
   "4 2 9 1 2 1 2 2 0 f 3 2 b 7 6 1 2 1 7 2 1 2 l 1 6 1 1 1 4 2 8 2 1 2 2 7 2 4 1 1 4 2 h a 1 " ++
   "1 5 3 2 1 3 3 1 1 0 1 1 3 1 3 2 3 b 4 4 3 2 1 3 2 0 6 0 e k 5 c 1 2 1 m 1 f 2 8 1 2 1 3 7 " ++
   "1 1 2 2 0 2 3 2 9 7 l 1 2 1 m 1 9 1 4 2 8 1 2 1 3 7 1 6 1 1 3 2 9 1 1 d c 1 2 1 1e 1 2 1 " ++
   "5 4 f 2 p 1 2 1 h 3 n 1 8 1 0 2 6 3 0 4 5 1 0 1 7 6 9 2 2 c 1l 4 s 11 1 1 0 1 4 1 n 1 0 1 " ++
   "m 2 4 1 0 1 5 2 9 2 3 w 1z 1 z 4 12 1 z 1 e 1 c 11 5h 1 0 5 0 2 ag 1 3 2 6 1 0 1 3 2 14 1 " ++
   "3 2 w 1 3 2 6 1 0 1 3 2 e 1 1k 1 3 2 1u 2 v 3 p 6 2d 2 5 2 hr 1 r 3 2g 7 l 9 n 9 j c c 1 " ++
   "2 1 1 c 2l 2 9 6 9 6 d 1 a 6 2g 7 16 5 1x a u 1 b 4 b 4 0 3 15 2 4 b 17 4 p 6 a 3 1p 2 1s " ++
   "1 s 2 a 6 9 6 d 2 u 1d 24 3 1a 1 37 8 1n 3 e 3 1n 7 16 2 a 8 16 5 et 2 5 2 11 2 5 2 7 1 0 " ++
   "1 0 1 0 1 u 2 1g 1 e 1 d 2 5 1 i 2 2 1 8 h n 8 1a h 1 2 q 1 c 3 w f w f 3v 4 ie p a l 1eb " ++
   "2 v 1 9o 5 18 1 0 5 0 2 1j 7 1 e n 9 6 1 6 1 6 1 6 1 6 1 6 1 6 1 6 1 3h y p 1 2g c 5x q b " ++
   "5 1q 1 2d 2 2u 5 16 1 2l 1 2b c 1a 1 mlo 3 1i 9 9n k 53 8 5m 5 1 1 0 1 4 o 1m 3 9 6 1j 8 " ++
   "1x 8 b 6 37 b t 3 25 1 a 4 w 1 1i 9 d 2 9 2 2u o r a 5 2 5 2 5 9 6 1 6 1 1n 4 3h 2 9 6 " ++
   "8mb c m 4 1c 6is a5 2 2x 12 6 c 4 5 p 1 4 1 0 1 1 1 1 1 3g g cc 2 1h 7 0 w 15 6 1e 1 i 1 " ++
   "3 4 4 1 3q 4 59 3 5 2 5 2 5 2 2 3 6 1 6 d 1 2 b 1 p 1 i 1 1 1 e 2 d y 3e 5 2 4 18 3 2f 1 " ++
   "c 3 0 1b 19 3m s 3 1c f r 4 z 9 t 5 16 5 t 1 10 4 d 16 4d 2 9 6 z 4 z 4 13 8 1f b b 1 e 1 " ++
   "6 1 1 1 a 1 e 1 6 1 1 1v 8m 9 l a 7 o 5 1 15 1 8 1x 5 2 0 1 17 1 1 3 0 2 m 1 1z 8 8 1c i " ++
   "1 1 5 w 3 q 5 0 1s 1j 4 j 2 1d 1 1 5 7 1 2 1 s 2 2 4 9 7 8 7 1r w 12 4 b 9 1h 3 s 2 q 5 p " ++
   "7 3 c 6 28 20 1j 1e d 1e 7 19 8 9 86 u 1 15 1 2 2 1 26 13 8 15 m p 12 r k m 9 25 4 z 9 1p " ++
   "1 4 d o 7 9 6 1g 1 h 8 12 9 2n 1 j b h 1 17 1t 6 1 0 1 3 1 e 1 a 6 1m 5 9 6 3 1 7 2 1 2 l " ++
   "1 6 1 1 1 4 1 9 2 1 2 2 2 0 6 0 5 6 2 6 3 4 3v 2j 1 4 u 1z 8 9 4m 1h 2 11 y 1w b 9 6 c j " ++
   "1l 6 9 1i q 2 e 4 m 55 1n 2s 2a c 7 2 0 2 7 1 1 1 t 1 1 2 b 9 9 1y 7 2 19 2 a r 1z 8 2a d " ++
   "20 7b 8 1 18 1 d a s 3 v 2 l 1 d 21 6 1 1 1 17 3 0 1 1 1 8 8 9 6 5 1 1 1 10 1 1 1 5 7 9 " ++
   "8m o 53 0 f 1d d pm 2u 32 1 4 b 5f 218 2q d tq 34h g6 6nt fs 7 u 1 9 4 28 1 9 6 t 2 5 a " ++
   "1x a 9 1 6 1 k 5 i j4 2i 2t 22 4 1k 7 g 1s 4 b 1 e 4qf 8 yd 16 8 6w7 3 1 6 1 1 1 82 19 2 " ++
   "h 3 8 az 1s4 2y 5 c 3 8 7 9 2 3 3mo 19 2 m 9 37 1o 6t a 12 2 21 8 33 l 1x 4a j c 2e 9 o " ++
   "3r 2c 1 1y 1 1 2 0 2 1 2 3 1 b 1 0 1 6 1 1s 1 3 2 7 1 6 1 r 1 3 1 4 1 0 3 6 1 9f 2 83 2 " ++
   "jh f 4 1 e uo u 69 6 1 g 2 6 1 1 1 4 5x 18 3 d 2 9 4 1 8w u h 1l 5 0 yo 6 1 3 1 1 1 e 1 " ++
   "5g 2 f 15 23 4 9 4 1 lt 1v 24 1o 5e 3 1 q 1 1 1 0 2 0 1 9 1 3 1 0 1 0 6 0 4 0 1 0 1 0 1 2 " ++
   "1 1 1 0 2 0 1 0 1 0 1 0 1 0 1 1 1 0 2 3 1 6 1 3 1 3 1 0 1 9 1 g 5 2 1 4 1 g 1g 1 7i 17 4 " ++
   "2r c e 2 e 1 e 1 10 a 4t 1k s d 17 4 8 7 1 e 5 4a rb 5 f 3 c 3 37 c 2g 7 b 4 0 f b 4 1j 8 " ++
   "9 6 13 8 t 2 1 26 9f c d 2 4 3 4 3 6 9 s 3 a 5 5 a 9 6 7 8 6 9 42 1 1i 11 9 sm wyn w 37c " ++
   "7 65 2 4g1 e 5rk 2e7 f1 15u 3t6 fcmt 6n")

-- The general categories P and S.
private def markRanges : Ranges := .ofText
  ("x e a 6 q 5 q 3 y 8 1 1 1 3 2 0 1 2 2 0 3 0 n 0 v 0 cq 3 c d 5 6 1 0 1 g 39 0 8 0 5 1 1 0 " ++
   "32 0 3v 0 5z 5 15 1 2 2 1a 0 1 0 2 0 2 0 18 1 h 9 b 0 1 2 22 3 2u 0 9 0 a 0 j 1 1 d 6g 3 " ++
   "4 1 1c e v 0 15 0 63 1 a 0 3l 1 6 1 1 0 3c 0 3d 1 3i 0 3m 7 3g 0 7 0 4 0 5m 0 15 0 3e 0 " ++
   "22 0 f 0 a 1 4l m 2 5 k 0 1 0 1 0 1 3 1z 0 1k 7 1 5 1 c 33 5 26 1 2j 0 h0 8 13 9 2u 0 h8 " ++
   "1 18 1 26 2 1z 1 4d 2 1 3 10 a 8l 0 3 1 48 x u 1 3k 6 1 5 4s g 9 a 3h 3 1n 4 1q 1 1s 7 b " ++
   "0 kp 0 1 2 b 2 d 2 d 2 d 1 h n 8 1a r 4 b 4 h w 1r 1 1 3 1 1 a 0 1 2 5 5 1 0 1 0 1 0 4 0 " ++
   "b 1 4 4 5 3 1 0 1m 1 4 ie p a 29 25 m hh u rj 2 v 1 2w 6d 5 e 3 1 1 34 0 3z 1a 1 19 y p 1 " ++
   "2g c 5x q b 5 3 3 o f 0 5 1 5 2 2j 1 3 0 2i 0 44 1 4 9 w z s u b t 8 0 f v a 12 f 8v 534 " ++
   "1r h3k 1i 1j 1 7h 2 2r 0 a 0 37 5 8 m 9 1 2v 1 4d 3 a 3 1m 3 2e 1 14 2 1 0 1d 1 1b 0 2p c " ++
   "g 1 3g 3 n 2 2s 1 g 1 2x 0 e 1 3j 0 fnh 0 3s g aj h 3j 0 18 3 g 9 m y 1 i 1 3 45 e a 6 q " ++
   "5 q a 3e 6 1 6 d 1 76 2 1g 8 1l g 2 2 1 c 3 0 1b 18 bm 0 1c 0 bi 0 kn 0 v 1 4m 0 v 0 7k 8 " ++
   "12 0 20 0 13 6 1u 6 2h 3 ls 0 4n 4 18 3 59 6 31 1 1 3 3i 3 1c 1 27 3 4 0 d 0 1 2 2g 5 2z " ++
   "0 bl 4 a 1 1 0 2w 0 6y m 2x 2 s c 24 0 3m 3 6z 0 7c 2 4b 0 2k 7 2b 2 1 4 bi 4 16 1 hx 1 " ++
   "64 s d 0 vk 4 29o 1 bjv 1 3p 0 1t 8 4 1 nl 3 93 0 f5l 0 2 0 3ow 37 1o 6t a 12 2 1n 5 2 m " ++
   "1 7 t 4 1o l 1t 3 0 56 2e oa 0 p 0 v 0 p 0 v 0 p 0 v 0 p 0 v 0 p 0 1o e7 1j 3 1e 7 1 d 1 " ++
   "6 1c3 0 bz 0 19a 1 ng 0 3 0 3h 0 ch 1 7i 17 4 2r c e 2 e 1 e 1 10 n 4g 1k s d 17 4 8 7 1 " ++
   "e 5 4a rb 5 f 3 c 3 37 c 2g 7 b 4 0 f b 4 1j 8 9 6 13 8 t 2 1 26 9f c d 2 4 3 4 3 6 9 s 3 " ++
   "a 5 5 a 9 6 7 8 6 9 42 1 1i")

-- What a name may begin with.
private def nameStartRanges : Ranges := .ofText
  ("1t p 4 0 1 p 1b 0 a 0 4 0 5 m 1 u 1 cp 4 b e 4 7 0 1 0 3l 4 1 1 3 2 1 0 6 0 1 2 1 0 1 j 1 " ++
   "2a 1 3u 8 4l 1 11 2 0 6 14 1z q 4 3 19 16 z 1 1 2q 1 0 f 1 7 1 a 2 2 0 g 0 1 t t 2g b 0 o " ++
   "w 9 1 4 0 5 l 4 0 9 0 3 0 n o 7 a 5 n 1 5 h 15 1m 1h 3 0 i 0 7 9 f f 4 7 2 1 2 l 1 6 1 0 " ++
   "3 3 3 0 g 0 d 1 1 2 e 1 a 0 8 5 4 1 2 l 1 6 1 1 1 1 1 1 v 3 1 0 j 2 g 8 1 2 1 l 1 6 1 1 1 " ++
   "4 3 0 i 0 f 1 n 0 b 7 2 1 2 l 1 6 1 1 1 4 3 0 u 1 1 2 f 0 h 0 1 5 3 2 1 3 3 1 1 0 1 1 3 1 " ++
   "3 2 3 b m 0 1g 7 1 2 1 m 1 f 3 0 q 2 2 0 2 1 u 0 4 7 1 2 1 m 1 9 1 4 3 0 v 1 1 1 f 1 h 8 " ++
   "1 2 1 14 2 0 g 0 5 2 8 2 o 5 5 h 3 n 1 8 1 0 2 6 1m 1b 1 0 d 6 1m 1 1 0 1 4 1 n 1 0 1 9 1 " ++
   "0 a 0 2 4 1 0 l 3 w 0 1r 7 1 z r 4 37 16 k 0 g 5 4 3 3 0 3 1 7 2 4 c c 0 h 11 1 0 5 0 2 " ++
   "16 1 98 1 3 2 6 1 0 1 3 2 14 1 3 2 w 1 3 2 6 1 0 1 3 2 e 1 1k 1 3 2 1u 11 f g 2d 2 5 3 h7 " ++
   "2 g 1 p 5 22 3 a 7 h d i e h e c 1 2 f 1f z 0 4 0 1v 2g 7 14 1 0 5 1x a u 1d t 2 4 b 17 4 " ++
   "p 1i m 9 1g 2a 0 2l 1a h 7 1i t d 1 a 17 q z 15 2 a z 2 8 7 16 2 2 15 3 1 5 1 1 3 0 5 5b " ++
   "1s 7p 2 5 2 11 2 5 2 7 1 0 1 0 1 0 1 u 2 1g 1 6 1 0 3 2 1 6 3 3 2 5 4 c 5 2 1 6 38 0 d 0 " ++
   "g c 2t 0 4 0 2 9 1 0 2 5 6 0 1 0 1 0 1 f 2 3 5 4 4 0 h 14 22f 6c 6 3 3 1 c 11 1 0 5 0 2 " ++
   "1j 7 0 g m 9 6 1 6 1 6 1 6 1 6 1 6 1 6 1 6 fa 2 p 8 7 4 2 4 4 2d 6 2 1 2h 1 3 5 16 1 2l h " ++
   "v 1c f e8 533 1s h3g 1v 19 2 7g 3 f a 1 k 1a g u 2 27 13 8 2 2u 2 1r 5 1 1 0 1 4 o f 1 2 " ++
   "1 3 1 m t 1f e 1d 1q 5 3 0 1 1 b r a m p s 7 1a s 0 g 4 1 9 a 4 1 14 n 2 1 7 k m 3 0 3 1d " ++
   "1 0 3 1 2 4 2 0 1 0 o 2 2 a 7 2 c 5 2 5 2 5 9 6 1 6 1 16 1 d 6 36 t 8mb c m 4 1c 6is a5 2 " ++
   "2x 12 6 c 4 5 0 1 9 1 c 1 4 1 0 1 1 1 1 1 2z x 3u 6 61 i 1r 2 1h 14 9 3b 0 1 0 3 0 1 0 1 " ++
   "0 1 0 1 3h 10 p 6 p b 1j 2 u 3 5 2 5 2 5 2 2 z b 1 p 1 i 1 1 1 e 2 d y 3e 1x 1g 7f s 3 1c " ++
   "1b v d t 5 11 a t 2 z 4 7 1 4 16 4d i z 4 z 4 13 8 1f c a 1 e 1 6 1 1 1 a 1 e 1 6 1 1 1v " ++
   "8m 9 l a 7 o 5 1 15 1 8 1x 5 2 0 1 17 1 1 3 0 2 m a m 9 u 1t i 1 1 a l a p 1y 1j 6 1 1s 0 " ++
   "f 3 1 2 1 s 16 s 3 s z 7 1 r r 1h a l a i d h 32 20 1j 1e d 1e d z 9o 15 6 1 26 s a 0 8 l " ++
   "16 h 1a k r m c 1g 1l 1 2 0 d 18 w o q z t 0 2 0 8 y 3 0 c 1b e 3 l 0 1 0 z h 1 o 2c 6 1 " ++
   "0 1 3 1 e 1 9 7 1a 12 7 2 1 2 l 1 6 1 1 1 4 3 0 i 0 c 4 4e 1g i 3 k 2 u 1b k 1 1 0 54 1a " ++
   "15 3 10 1b k 0 1n 16 d 0 1z q 11 6 55 17 38 1r v 7 2 0 2 7 1 1 1 n f 0 1 0 2m 7 2 12 g 0 " ++
   "1 0 s 0 a 13 7 0 l 0 b 19 j 0 i 20 7b 8 1 10 h 0 1d t 34 6 1 1 1 11 l 0 p 5 1 1 1 v e 0 " ++
   "93 i 59 0 27 pl 2u 32 h 5f 218 2o f tq 34h g6 6nt fs 7 u h 26 h t i 1b g 3 v k 5 i j4 1r " ++
   "3k 22 5 0 1u c 1s 1 1 0 s 4qf 8 yd 16 8 6w7 3 1 6 1 1 1 82 19 2 h 3 8 az 1s4 2y 5 c 3 8 7 " ++
   "9 4me 2c 1 1y 1 1 2 0 2 1 2 3 1 b 1 0 1 6 1 1s 1 3 2 7 1 6 1 r 1 3 1 4 1 0 3 6 1 9f 2 o 1 " ++
   "o 1 u 1 o 1 u 1 o 1 u 1 o 1 u 1 o 1 7 1f8 u dd 18 a 6 g 0 8x t i 17 z8 6 1 3 1 1 1 e 1 5g " ++
   "1n 1v 7 0 xg 3 1 q 1 1 1 0 2 0 1 9 1 3 1 0 1 0 6 0 4 0 1 0 1 0 1 2 1 1 1 0 2 0 1 0 1 0 1 " ++
   "0 1 0 1 1 1 0 2 3 1 6 1 3 1 3 1 0 1 9 1 g 5 2 1 4 1 g 3es wyn w 37c 7 65 2 4g1 e 5rk 2e7 " ++
   "f1 15u 3t6")

-- What a name may go on with.
private def nameRanges : Ranges := .ofText
  ("1c 9 7 p 4 0 1 p 1b 0 a 0 1 0 2 0 5 m 1 u 1 cp 4 b e 4 7 0 1 0 h 38 1 1 3 2 1 0 6 4 1 0 1 " ++
   "j 1 2a 1 3u 1 4 2 4l 1 11 2 0 6 14 8 18 1 0 1 1 1 1 1 0 8 q 4 3 t a 5 21 4 2t 1 7 2 9 1 i " ++
   "2 0 g 1m 2 2s e 1h 4 0 2 0 2 19 i r 4 a 5 n 1 5 9 21 1 3k 2 9 1 i 1 7 2 1 2 l 1 6 1 0 3 3 " ++
   "2 8 2 1 2 3 8 0 4 1 1 4 2 b a 0 1 0 2 2 1 5 4 1 2 l 1 6 1 1 1 1 1 1 2 0 1 4 4 1 2 2 3 0 7 " ++
   "3 1 0 7 f b 2 1 8 1 2 1 l 1 6 1 1 1 4 2 9 1 2 1 2 2 0 f 3 2 9 9 6 1 2 1 7 2 1 2 l 1 6 1 1 " ++
   "1 4 2 8 2 1 2 2 7 2 4 1 1 4 2 9 1 0 g 1 1 5 3 2 1 3 3 1 1 0 1 1 3 1 3 2 3 b 4 4 3 2 1 3 2 " ++
   "0 6 0 e 9 g c 1 2 1 m 1 f 2 8 1 2 1 3 7 1 1 2 2 0 2 3 2 9 g 3 1 7 1 2 1 m 1 9 1 4 2 8 1 2 " ++
   "1 3 7 1 6 1 1 3 2 9 1 1 d c 1 2 1 1e 1 2 1 4 5 3 7 4 2 9 a 5 1 2 1 h 3 n 1 8 1 0 2 6 3 0 " ++
   "4 5 1 0 1 7 6 9 2 1 d 1l 5 e 1 9 13 1 1 0 1 4 1 n 1 0 1 m 2 4 1 0 1 5 2 9 2 3 w 0 n 1 6 9 " ++
   "b 0 1 0 1 0 4 9 1 z 4 j 1 h 1 z 9 0 1l 21 6 25 2 11 1 0 5 0 2 16 1 98 1 3 2 6 1 0 1 3 2 " ++
   "14 1 3 2 w 1 3 2 6 1 0 1 3 2 e 1 1k 1 3 2 1u 2 2 9 8 e f g 2d 2 5 3 h7 2 g 1 p 5 22 3 a 7 " ++
   "l 9 l b j c c 1 2 1 1 c 2b 3 0 4 1 2 9 x 2 1 a 6 2g 7 16 5 1x a u 1 b 4 b a 13 2 4 b 17 4 " ++
   "p 6 a 11 r 4 1q 1 s 2 a 6 9 d 0 8 d 1 f 1d 24 3 9 h 8 c 37 c 1j 8 9 3 1c 2 8 7 16 2 2 g 2 " ++
   "1 12 5 et 2 5 2 11 2 5 2 7 1 0 1 0 1 0 1 u 2 1g 1 6 1 0 3 2 1 6 3 3 2 5 4 c 5 2 1 6 1u 1 " ++
   "j 0 s 0 d 0 g c 1f c 4 0 3 b h 0 4 0 2 9 1 0 2 5 6 0 1 0 1 0 1 f 2 3 5 4 4 0 h 14 22f 6c " ++
   "6 8 c 11 1 0 5 0 2 1j 7 0 f n 9 6 1 6 1 6 1 6 1 6 1 6 1 6 1 6 1 v ed 2 p e 1 4 2 4 4 2d 2 " ++
   "1 2 2 1 2h 1 3 5 16 1 2l h v 1c f e8 533 1s h3g 1v 19 2 7g 3 r k 1b 4 9 1 36 11 8 2 2u 2 " ++
   "1r 5 1 1 0 1 4 o 1h 4 0 j 1f c 1x a 9 6 n 3 0 1 1c 2 z c s 3 1s e a 6 u 1 1i 9 d 2 9 6 m " ++
   "3 20 o 2 2 f 2 4 a 5 2 5 2 5 9 6 1 6 1 16 1 d 6 3e 1 1 2 9 6 8mb c m 4 1c 6is a5 2 2x 12 " ++
   "6 c 4 5 b 1 c 1 4 1 0 1 1 1 1 1 2z x 3u 6 61 i 1r 2 1h 14 9 6 f g f 3 1 o 2 x 0 1 0 3 0 1 " ++
   "0 1 0 1 0 1 3h j 9 7 p 4 0 1 p b 2g 3 5 2 5 2 5 2 2 z b 1 p 1 i 1 1 1 e 2 d y 3e 1x 1g 3s " ++
   "0 3m s 3 1c f 0 v v d t 5 16 5 t 2 z 4 7 1 4 16 4d 2 9 6 z 4 z 4 13 8 1f c a 1 e 1 6 1 1 " ++
   "1 a 1 e 1 6 1 1 1v 8m 9 l a 7 o 5 1 15 1 8 1x 5 2 0 1 17 1 1 3 0 2 m a m 9 u 1t i 1 1 a l " ++
   "a p 1y 1j 6 1 1s 3 1 1 5 7 1 2 1 s 2 2 4 0 w s 3 s z 7 1 t p 1h a l a i d h 32 20 1j 1e d " ++
   "1e d 13 8 9 92 15 1 1 3 1 26 s a 0 8 w v l 16 k r m 9 1y v f 9 1n 7 0 d o 7 9 6 1g 1 9 4 " ++
   "3 8 z 2 0 9 1w 4 3 1 c 1 0 z h 1 10 6 0 1t 6 1 0 1 3 1 e 1 9 7 1m 5 9 6 3 1 7 2 1 2 l 1 6 " ++
   "1 1 1 4 1 9 2 1 2 2 2 0 6 0 5 6 2 6 3 4 3v 22 5 9 4 3 u 1x 1 0 8 9 4m 1h 2 8 n 5 y 1s 3 0 " ++
   "b 9 12 1k 7 9 1i q 2 e 4 9 6 6 55 1m 2t 21 l 7 2 0 2 7 1 1 1 t 1 1 2 8 c 9 1y 7 2 19 2 7 " ++
   "1 1 r 1q 8 0 8 21 3 0 i 20 7b 8 1 18 1 8 f 9 o t 2 l 1 d 21 6 1 1 1 17 3 0 1 1 1 8 8 9 6 " ++
   "5 1 1 1 10 1 1 1 5 7 9 8m m 55 0 27 pl 2u 32 h 5f 218 2o f tq 34h g6 6nt fs 7 u 1 9 6 26 " ++
   "1 9 6 t 2 4 b 1i 9 3 c 9 9 k 5 i j4 1r 3k 22 4 1k 7 g 1s 1 1 1 b 1 e 4qf 8 yd 16 8 6w7 3 " ++
   "1 6 1 1 1 82 19 2 h 3 8 az 1s4 2y 5 c 3 8 7 9 3 1 3mp 19 2 m f2 4 3 5 8 7 2 6 u 3 44 2 cb " ++
   "2c 1 1y 1 1 2 0 2 1 2 3 1 b 1 0 1 6 1 1s 1 3 2 7 1 6 1 r 1 3 1 4 1 0 3 6 1 9f 2 o 1 o 1 u " ++
   "1 o 1 u 1 o 1 u 1 o 1 u 1 o 1 7 2 1d e8 1i 4 1d 8 0 e 0 m 4 1 e uo u 69 6 1 g 2 6 1 1 1 4 " ++
   "5x 18 3 d 2 9 4 0 8x u h 1l yu 6 1 3 1 1 1 e 1 5g b 6 15 23 4 9 x2 3 1 q 1 1 1 0 2 0 1 9 " ++
   "1 3 1 0 1 0 6 0 4 0 1 0 1 0 1 2 1 1 1 0 2 0 1 0 1 0 1 0 1 0 1 1 1 0 2 3 1 6 1 3 1 3 1 0 1 " ++
   "9 1 g 5 2 1 4 1 g 2lw 9 sm wyn w 37c 7 65 2 4g1 e 5rk 2e7 f1 15u 3t6 fcmt 6n")

-- Characters that a word consists of.
def isWord (c : Char) : Bool :=
  if c.toNat < 128 then c.isAlphanum || c == '_' else wordRanges.mem c

-- The value of a decimal digit of any script.
def digitValue? (c : Char) : Option Nat :=
  if c.toNat < 128 then
    if c.isDigit then some (c.toNat - 48) else none
  else
    (digitRanges.rangeOf? c).map fun (low, _) => (c.toNat - low) % 10

def isDigit (c : Char) : Bool := (digitValue? c).isSome

-- Characters that quoted text shows as they are.
def isPrintable (c : Char) : Bool :=
  if c.toNat < 128 then 32 ≤ c.toNat && c.toNat < 127 else printableRanges.mem c

def isMark (c : Char) : Bool :=
  if c.toNat < 128 then 32 < c.toNat && c.toNat < 127 && !c.isAlphanum else markRanges.mem c

-- Letters, ideographs and the like.
def isLetter (c : Char) : Bool :=
  if c.toNat < 128 then c.isAlpha else nameStartRanges.mem c && isWord c

-- Is the text a name: a letter or a low line, and then such characters, marks and digits?
def isName (cs : List Char) : Bool :=
  match cs with
  | []        => false
  | c :: rest => nameStartRanges.mem c && rest.all nameRanges.mem

end Outline.Text
