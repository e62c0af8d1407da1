import Outline.Text.Ranges

namespace Outline.Url

-- Letters, digits and marks of every script that stay the same under all normal forms.
private def hostLetterRanges : Ranges := .ofText
  ("19 0 2 9 13 p 2s n 1 7 1 0 1 0 1 0 1 0 1 0 1 0 1 0 1 0 1 0 1 0 1 0 1 0 1 0 1 0 1 0 1 0 " ++
   "1 0 1 0 1 0 1 0 1 0 1 0 1 0 1 0 1 0 3 0 1 1 1 0 1 0 1 0 3 0 1 0 1 0 1 0 2 0 1 0 1 0 1 0 " ++
   "1 0 1 0 1 0 1 0 1 0 1 0 1 0 1 0 1 0 1 0 1 0 1 0 1 0 1 0 1 0 1 0 1 0 1 0 1 0 2 0 1 0 1 0 " ++
   "1 0 2 0 1 0 2 0 3 1 4 0 2 0 3 2 2 0 2 0 1 0 1 0 2 0 1 1 1 0 2 0 3 0 1 0 2 2 1 6 a 0 1 0 " ++
   "1 0 1 0 1 0 1 0 1 0 1 1 1 0 1 0 1 0 1 0 1 0 1 0 1 0 1 0 1 1 4 0 3 0 1 0 1 0 1 0 1 0 1 0 " ++
   "1 0 1 0 1 0 1 0 1 0 1 0 1 0 1 0 1 0 1 0 1 0 1 0 1 0 1 0 1 0 1 0 1 0 1 0 1 0 1 0 1 0 1 0 " ++
   "1 0 1 6 2 0 2 1 1 0 4 0 1 0 1 0 1 0 1 2o 9 8 4 b q 0 1 0 h 1r 2 0 3 8 1 v 1 0 1 0 3 0 3 2 " ++
   "i 0 r y 8 0 1 0 1 0 1 0 1 0 1 0 1 0 1 0 1 0 1 0 1 0 1 0 1 0 3 0 4 0 2 1 1f 1b 1 0 1 0 1 0 " ++
   "1 0 1 0 1 0 1 0 1 0 1 0 1 0 1 0 1 0 1 0 1 0 1 0 1 0 1 0 1 4 3 0 1 0 1 0 1 0 1 0 1 0 1 0 " ++
   "1 0 1 0 1 0 1 0 1 0 1 0 1 0 1 0 1 0 1 0 1 0 1 0 1 0 1 0 1 0 1 0 1 0 1 0 1 0 1 0 2 0 1 0 " ++
   "1 0 1 0 1 0 1 0 1 1 1 0 1 0 1 0 1 0 1 0 1 0 1 0 1 0 1 0 1 0 1 0 1 0 1 0 1 0 1 0 1 0 1 0 " ++
   "1 0 1 0 1 0 1 0 1 0 1 0 1 0 1 0 1 0 1 0 1 0 1 0 1 0 1 0 1 0 1 0 1 0 1 0 1 0 1 0 1 0 1 0 " ++
   "1 0 1 0 1 0 1 0 1 0 1 0 1 0 1 0 1 0 15 0 6 12 1 0 8 18 1 0 1 1 1 1 1 0 8 q 4 3 t a 5 v " ++
   "1 u e 6 4 2i 1 7 2 9 1 5 a 5 g 1m 2 2s e 1h 7 0 2 19 i r 4 a 5 n 1 5 9 21 1 38 8 3 2 9 " ++
   "1 i 1 7 2 1 2 l 1 6 1 0 3 3 2 8 2 1 2 3 8 0 8 3 2 b a 0 1 0 2 2 1 5 4 1 2 l 1 6 1 0 2 0 " ++
   "2 1 2 0 1 4 4 1 2 2 3 0 a 0 9 f b 2 1 8 1 2 1 l 1 6 1 1 1 4 2 9 1 2 1 2 2 0 f 3 2 9 9 6 " ++
   "1 2 1 7 2 1 2 l 1 6 1 1 1 4 2 8 2 1 2 2 7 2 7 4 2 9 1 0 g 1 1 5 3 2 1 3 3 1 1 0 1 1 3 1 " ++
   "3 2 3 b 4 4 3 2 1 3 2 0 6 0 e 9 g c 1 2 1 m 1 f 2 8 1 2 1 3 7 1 1 2 2 0 2 3 2 9 g 3 1 7 " ++
   "1 2 1 m 1 9 1 4 2 8 1 2 1 3 7 1 6 1 1 3 2 9 1 1 d c 1 2 1 1e 1 2 1 4 5 3 7 4 2 9 a 5 1 2 " ++
   "1 h 3 n 1 8 1 0 2 6 3 0 4 5 1 0 1 7 6 9 2 1 d 1d 1 6 5 e 1 9 13 1 1 0 1 4 1 n 1 0 1 b 1 9 " ++
   "2 4 1 0 1 5 2 9 4 1 w 0 a 0 c 1 6 9 b 0 1 0 1 0 4 4 1 3 1 3 1 3 1 3 1 3 1 b 1 2 4 1 1 0 " ++
   "5 6 1 2 1 c 1 3 1 3 1 3 1 3 1 3 1 b 1 2 9 0 1l 21 6 25 1e 16 2 2 74 20 1 3 2 6 1 0 1 3 " ++
   "2 14 1 3 2 w 1 3 2 6 1 0 1 3 2 e 1 1k 1 3 2 1u 2 2 w f g 2d b h7 2 g 1 p 5 22 6 7 7 l 9 l " ++
   "b j c c 1 2 1 1 c 1f 2 t 3 0 4 1 2 9 12 9 6 2g 7 16 5 1x a u 1 b 4 b a 13 2 4 b 17 4 p " ++
   "6 9 12 r 4 1q 1 s 2 a 6 9 d 0 8 d 1 f 1d 24 3 9 h 8 c 37 c 1j 8 9 3 1c 2a 2 1 12 5 17 3 0 " ++
   "b 0 i 0 s c 1 x 11 1r 1 0 1 0 1 0 1 0 1 0 1 0 1 0 1 0 1 0 1 0 1 0 1 0 1 0 1 0 1 0 1 0 1 0 " ++
   "1 0 1 0 1 0 1 0 1 0 1 0 1 0 1 0 1 0 1 0 1 0 1 0 1 0 1 0 1 0 1 0 1 0 1 0 1 0 1 0 1 0 1 0 " ++
   "1 0 1 0 1 0 1 0 1 0 1 0 1 0 1 0 1 0 1 0 1 0 1 0 1 0 1 0 1 0 1 0 1 0 1 0 1 0 1 0 1 0 1 0 " ++
   "1 0 1 0 1 0 1 0 1 0 1 0 1 0 1 0 1 0 1 0 1 0 1 0 1 0 1 4 2 1 1 0 1 0 1 0 1 0 1 0 1 0 1 0 " ++
   "1 0 1 0 1 0 1 0 1 0 1 0 1 0 1 0 1 0 1 0 1 0 1 0 1 0 1 0 1 0 1 0 1 0 1 0 1 0 1 0 1 0 1 0 " ++
   "1 0 1 0 1 0 1 0 1 0 1 0 1 0 1 0 1 0 1 0 1 0 1 0 1 0 1 0 1 0 1 0 1 0 1 0 1 0 1 8 8 5 a 7 " ++
   "8 7 8 5 a 7 8 7 8 0 1 0 1 0 1 0 1 0 1 0 1 0 1f 1 4 0 f 0 9 2 3 1 8 2 1 3 e 0 9j 0 1h 0 " ++
   "23v 1b 1 0 3 1 1 0 1 0 1 0 4 0 1 1 1 5 5 0 1 0 1 0 1 0 1 0 1 0 1 0 1 0 1 0 1 0 1 0 1 0 " ++
   "1 0 1 0 1 0 1 0 1 0 1 0 1 0 1 0 1 0 1 0 1 0 1 0 1 0 1 0 1 0 1 0 1 0 1 0 1 0 1 0 1 0 1 0 " ++
   "1 0 1 0 1 0 1 0 1 0 1 0 1 0 1 0 1 0 1 0 1 0 1 0 1 0 1 0 1 0 1 1 7 0 1 3 1 0 c 11 1 0 5 0 " ++
   "2 1j n n 9 6 1 6 1 6 1 6 1 6 1 6 1 6 1 6 1 v 1b 0 d1 2 y 3 e 0 4 2d 2 1 2 1 2 2h 1 2 6 16 " ++
   "34 v 1c f e8 533 1s h3g 1v 19 2 7g 3 r l 0 1 0 1 0 1 0 1 0 1 0 1 0 1 0 1 0 1 0 1 0 1 0 " ++
   "1 0 1 0 1 0 1 0 1 0 1 0 1 0 1 0 1 0 1 0 1 2 4 9 1 0 1 0 1 0 1 0 1 0 1 0 1 0 1 0 1 0 1 0 " ++
   "1 0 1 0 1 0 1 0 1 0 2 1z a 1 11 8 3 0 1 0 1 0 1 0 1 0 1 0 1 2 1 0 1 0 1 0 1 0 1 0 1 0 1 0 " ++
   "1 0 1 0 1 0 1 0 1 0 1 0 1 0 1 0 1 0 1 0 1 0 1 0 1 0 1 0 1 0 1 0 1 0 1 0 1 0 1 0 1 0 1 0 " ++
   "1 0 1 0 1 7 1 0 1 0 2 0 1 0 1 0 1 0 1 1 3 0 1 1 1 0 1 2 1 0 1 0 1 0 1 0 1 0 1 0 1 0 1 0 " ++
   "1 0 1 0 5 0 5 0 1 0 1 0 1 0 1 0 1 0 1 0 1 0 4 0 1 0 6 0 1 0 1 0 1 0 1 0 s 1 2 19 4 0 j 1f " ++
   "c 1x a 9 6 n 3 0 1 1c 2 z 18 1s e a 6 u 1 1i 9 d 2 9 6 m 3 20 o 2 2 f 2 4 a 5 2 5 2 5 9 6 " ++
   "1 6 1 16 5 8 2f 16 1 1 2 9 6 8mb 6sq 1 1 0 1 1 a 0 1 0 1 1 2 2 6s 0 ld f 1v 0 b0 b 1 p " ++
   "1 i 1 1 1 e 2 d y 3e 76 0 3m s 3 1c f 0 v v d j 1 7 6 16 5 t 2 z 4 7 2g 39 2 9 1a z 4 13 " ++
   "8 1f 1f a 1 e 1 6 1 1 1v 8m 9 l a 7 o 0 3j 5 2 0 1 17 1 1 3 0 2 m a m 9 u 1t i 1 1 a l " ++
   "a p 1y 1j 6 1 1s 3 1 1 5 7 1 2 1 s 2 2 4 0 w s 3 s z 7 1 t p 1h a l a i d h 32 20 3b 1e " ++
   "d 13 8 9 92 15 1 1 3 1 26 s a 0 8 w v l 16 k r m 9 1y v f 9 1n 7 0 d o 7 9 6 1g 1 9 4 3 " ++
   "8 z 2 0 9 1w 4 3 1 c 1 0 z h 1 10 6 0 1t 6 1 0 1 3 1 e 1 9 7 1m 5 9 6 3 1 7 2 1 2 l 1 6 " ++
   "1 1 1 4 1 9 2 1 2 2 2 0 6 0 5 6 2 6 3 4 3v 22 5 9 4 3 u 1x 1 0 8 9 4m 1h 2 8 n 5 y 1s 3 0 " ++
   "b 9 12 1k 7 9 1i q 2 e 4 9 6 6 55 1m 3p 15 l 7 2 0 2 7 1 1 1 t 1 1 2 8 c 9 1y 7 2 19 2 7 " ++
   "1 1 r 1q 8 0 8 21 3 0 i 20 7b 8 1 18 1 8 f 9 o t 2 l 1 d 21 6 1 1 1 17 3 0 1 1 1 8 8 9 " ++
   "6 5 1 1 1 10 1 1 1 5 7 9 8m m 55 0 27 pl 6e 5f 218 2o f tq 34h g6 6nt fs 7 u 1 9 6 26 1 9 " ++
   "6 t 2 4 b 1i 9 3 c 9 9 k 5 i k0 v 3k 22 4 1k 7 g 1s 1 1 1 b 1 e 4qf 8 yd 16 8 6w7 3 1 6 " ++
   "1 1 1 82 19 2 h 3 8 az 1s4 2y 5 c 3 8 7 9 3 1 3mp 19 2 m 249 1i 4 1d 8 0 e 0 m 4 1 e uo u " ++
   "69 6 1 g 2 6 1 1 1 4 5x 18 3 d 2 9 4 0 8x u h 1l yu 6 1 3 1 1 1 e 1 5g b 6 23 15 4 9 " ++
   "4h2 wyn w 37c 7 65 2 4g1 e 5rk 3z3 3t6")

def isHostLetter (c : Char) : Bool := hostLetterRanges.mem c

end Outline.Url
