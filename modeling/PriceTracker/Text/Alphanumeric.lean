import PriceTracker.Text.CharTable

/-!
# Letters and numbers

The characters of the Unicode property Alphabetic and of the general categories Nd, Nl and No.
-/

namespace PriceTracker.Text

/-- The letters and numbers of Unicode. -/
def alphanumerics : CharSet := .read
  "30 a 7 1a 6 1a 2f 1 7 2 1 1 3 2 1 3 1 17 1 1f 1 1ca 4 c e 5 7 1 1 1 56 1 1d 12 1 2 2 4 1 1 6 1
   1 3 1 1 1 14 1 53 1 8b 8 a6 1 26 2 1 6 29 27 e 1 1 1 2 1 2 1 1 8 1b 4 4 1d b 5 38 1 11 4 66 1
   8 4 8 4 10 2 1 10 30 d 65 e 2b 9 2 4 1 5 18 2 13 13 19 7 b 5 18 1 7 7 1 8 2a a c 3 7 6 4c 1 10
   1 3 4 f 2 a 1 13 1 8 2 2 2 16 1 7 1 1 3 4 3 8 2 2 2 2 1 1 8 1 4 2 1 5 2 c 2 6 2 1 4 3 1 6 4 2
   2 16 1 7 1 2 1 2 1 2 4 5 4 2 2 2 4 1 7 4 1 1 7 10 b 3 1 9 1 3 1 16 1 7 1 2 1 5 3 9 1 3 1 2 3 1
   f 4 2 a 9 4 4 3 1 8 2 2 2 16 1 7 1 2 1 5 3 8 2 2 2 2 9 2 4 2 1 5 2 a 1 7 a 2 1 6 3 3 1 4 3 2 1
   1 1 2 3 2 3 3 3 c 4 5 3 3 1 3 3 1 6 1 e d d d 1 3 1 17 1 10 3 8 1 3 1 3 8 2 1 3 1 2 2 4 2 a 8
   7 1 4 1 8 1 3 1 17 1 a 1 5 3 8 1 3 1 3 8 2 5 3 1 4 2 a 1 3 c d 1 3 1 29 2 8 1 3 1 3 1 1 5 10 2
   13 1 6 1 3 1 12 3 18 1 9 1 1 2 7 8 6 1 1 1 8 6 a 2 2 d 3a 5 7 6 1 2 a 27 2 1 1 1 5 1 18 1 1 1
   13 1 3 2 5 1 1 6 1 2 a 2 4 20 1 1f 14 c 8 1 24 4 13 4 10 1 24 43 37 1 1 2 f 6 4e 2 26 1 1 5 1
   2 2b 1 14d 1 4 2 7 1 1 1 4 2 29 1 4 2 21 1 4 2 7 1 1 1 4 2 f 1 39 1 4 2 43 e 14 3 10 10 56 2 6
   3 26c 2 11 1 1a 5 4b 3 b 7 14 b 15 c 14 c d 1 3 1 2 c 34 2 13 e 1 4 1 3 a 6 a 16 a 6 59 7 2b 5
   46 a 1f 1 c 4 9 d 28 2 5 b 2c 4 1a 6 b 25 1c 4 3f 2 14 b a 6 a d 1 17 2 b 3 31 34 1 f 1 8 3 a
   26 2a 2 3a 1 b e 37 9 a 3 31 2 b 5 2b 2 3 29 4 1 6 1 2 3 1 5 c0 13 22 b 116 2 6 2 26 2 6 2 8 1
   1 1 1 1 1 1 1f 2 35 1 7 1 1 3 3 1 7 3 4 2 6 4 d 5 3 1 7 73 2 2 6 5 b 6 d 65 1 4 1 2 a 1 1 3 5
   6 1 1 1 1 1 1 4 1 b 2 4 5 5 4 1 1 3a 2d6 3c 1a 4a 276 1e 46c e5 6 4 3 2 9 1 2 26 1 1 5 1 2 38
   7 1 10 17 9 7 1 7 1 7 1 7 1 7 1 7 1 7 1 7 1 20 2f 1 1d5 3 19 9 7 5 2 5 4 56 6 3 1 5a 1 4 5 2b
   1 5e 3 4 a 20 30 10 20 a 1e 8 1 f 20 a 27 f 140 19c0 40 568d 43 2e 2 10d 3 1c 14 2f 5 8 3 71
   27 9 2 67 2 52 14 15 1 21 8 6 a 34 c 44 1 1 a a 18 6 3 1 1 2e 5 23 d 1d 3 33 1 c f b 6 1f 1 37
   9 e 2 a 6 17 3 45 1 1 1 1 18 3 2 10 2 4 b 6 2 6 2 6 9 7 1 7 1 2b 1 e 6 7b 5 a 6 2ba4 c 17 4 31
   2104 16e 2 6a 26 7 c 5 5 c 1 d 1 5 1 1 1 2 1 2 1 6c 21 16b 12 40 2 36 28 c 74 5 1 87 13 a 7 1a
   6 1a b 59 3 6 2 6 2 6 2 3 23 c 1 1a 1 13 1 2 1 f 2 e 22 7b c 2d c 39 11 2 f4 1d 3 31 10 1b 4
   24 9 1e 5 2b 5 1e 2 24 4 8 1 5 2a 9e 2 a 6 24 4 24 4 28 8 34 c b 1 f 1 7 1 2 1 b 1 f 1 7 1 2 3
   34 c 137 9 16 a 8 18 6 1 2a 1 9 45 6 2 1 1 2c 1 2 3 1 2 17 2 1f 2 26 8 9 30 13 1 2 5 21 4 1a 6
   1a 26 38 4 14 2 32 1 2 5 8 1 3 1 1d a 9 17 1f 1 20 20 8 1 1c 6 5 10 36 a 16 2 1b 5 1a 17 7 50
   49 37 33 d 33 7 2e 8 a 6 26 3 1 5 17 da 1f 1 2a 1 2 3 2 10 6 32 3 3 28 8 16 b 4 1b 12 2e 1c 14
   17 9 46 c 1e 1 5 a 39 9 1 d 19 7 a 6 33 3 a 4 4 8 23 3 1 9 40 1 4 9 d 1 1 4 14 b 12 1 22 2 1 6
   4 3e 7 1 1 1 4 1 f 1 a 7 39 7 a 6 4 1 8 2 2 2 16 1 7 1 2 1 5 3 8 2 2 2 2 3 1 6 1 5 7 1c a 1 1
   2 1 1 26 1 a 1 1 2 1 1 4 1 2 3 1 1 1 2c 42 1 3 1 4 5 a 5 3 1e 42 2 2 1 1 8 a a6 36 2 7 19 6 22
   3f 1 1 3 1 b a 26 36 2 1 7 a 6 14 1c 1b 2 e 5 c 4 7 b9 39 67 53 c 8 2 1 2 8 1 2 1 1e 1 2 2 2 2
   4 d a 46 8 2 2e 2 6 1 1 1 2 1b 33 2 a 11 48 5 1 12 49 67 8 58 21 f a 6 9 1 2d 1 7 1 1 f 1d 5
   1e 2 16 1 e 49 7 1 2 1 2c 3 1 1 2 1 3 1 1 2 2 8 a 6 6 1 2 1 25 1 2 1 4 1 1 7 a 6 2c 4 a f6 17
   9 11 1 29 3 3 f a 56 1 f 15 2b 39a 66 6f 11 c4 a4c 61 f 430 11 6 19 f9b 5 247 1ab9 2f 1 a 6c6
   239 7 1f 1 a 6 4f 1 a 6 1e 12 30 10 4 c a 1 7 1 15 5 13 1b0 2d 3 a c6 57 9 19 2 19 2c 4b 4 39
   7 11 40 2 1 1 c 7 9 1cd6 29 20 61 73 21fd 4 1 7 1 2 1 123 f 1 1d 3 2 1 e 4 8 18c 904 6b 5 d 3
   9 7 a 4 1 1051 a 5c6 14 c 14 6c 19 87 55 1 47 1 2 2 1 2 2 2 4 1 c 1 1 1 7 1 41 1 4 2 8 1 7 1
   1c 1 4 1 5 1 1 3 7 1 154 2 19 1 19 1 1f 1 19 1 1f 1 19 1 1f 1 19 1 1f 1 19 1 8 2 32 700 1f 6 6
   d5 7 1 11 2 7 1 2 1 5 5 3e 21 1 70 2d a 7 2 a 4 1 141 1e 12 2c 4 a 1d6 1c 4 a d6 1e 2 b c5 1f
   1 16 8 2 e0 7 1 4 1 2 1 f 1 c5 2 9 30 44 3 1 3 1 4 a 317 3b 1 3 1 4 4c 2d 1 f c2 4 1 1b 1 2 1
   1 2 1 1 a 1 4 1 1 1 1 6 1 4 1 1 1 1 1 1 3 1 2 1 1 2 1 1 1 1 1 1 1 1 1 1 2 1 1 2 4 1 7 1 4 1 4
   1 1 1 a 1 11 5 3 1 5 1 11 244 d 23 1a 6 1a 6 1a a66 a 406 a6e0 20 111e 2 168e 2 1d31 f 26e 9a2
   21e 5e2 134b 5 212a"

/-- A letter or number of Unicode. -/
def isAlphanumeric (c : Char) : Bool :=
  alphanumerics.contains c

end PriceTracker.Text
