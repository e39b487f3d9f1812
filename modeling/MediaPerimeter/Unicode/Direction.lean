import MediaPerimeter.Unicode.Table

/-!
# Directions of writing

The classes by which text of both directions is laid out, for the characters that domain names may
hold (Unicode 17).
-/
namespace MediaPerimeter.Unicode

inductive Direction where
  | left
  | right
  | arabicLetter
  | arabicNumber
  | europeanNumber
  | europeanSeparator
  | commonSeparator
  | europeanTerminator
  | otherNeutral
  | boundaryNeutral
  | mark
  | other
deriving DecidableEq

def directionOrder : Array Direction := #[.left, .right, .arabicLetter, .arabicNumber,
  .europeanNumber, .europeanSeparator, .commonSeparator, .europeanTerminator, .otherNeutral,
  .boundaryNeutral, .mark]

def directionRows : List String := [
  "0 9 9 b 5 9 e b 5 8 2 7 3 8 5 5 1 6 1 5 1 6 2 4 a 6 1 8 26 0 1a 8 4 9 22 8 1 7 4 8 a 7 6 8",
  "29 0 18 8 1 0 1c1 8 2 0 7 8 e 0 2 8 1c 0 1 8 11 a 71 0 4 8 2 0 7f 8 2 0 8b a 8 0 ff 8 5 7 2",
  "a 2d 1 1 a 1 1 1 a 2 1 1 a 2 1 1 a 9 1 36 8 2 2 1 7 2 2 1 6 1 2 1 8 2 a b 2 30 a 15 3 a 7 1",
  "3 2 2 3 a 1 2 65 a 8 8 1 a 6 2 2 a 2 8 1 a 4 2 2 4 a 2 17 a 1 2 1e a 1d 2 59 a b 2 f 1 2b a",
  "9 1 2 8 4 1 3 a 1 1 18 a 4 1 1 a 9 1 1 a 3 1 1 a 7 1 29 a 5 1 2 2 37 a 9 2 2a a 39 0 37 a 1",
  "0 1 a 1 0 4 a 8 0 4 a 1 0 3 a f 0 2 a 2 0 1d a 1 0 3a a 1 0 4 a 6 0 6 a 1 0 14 a 4 0 c 7 2 0",
  "7 7 1 0 2 a 5 0 39 a 2 0 3 a 1b 0 14 a 2 0 3 a 1 0 b a 2 0 39 a 1 0 4 a 8 0 4 a 3 0 12 a 4 0",
  "b 7 8 0 1 a 8 0 3a a 1 0 2 a 1 0 1 a 6 0 6 a a 0 b a 4 0 1c a 1 0 3d a 1 0 c a 3 0 23 8 6 7",
  "1 8 6 a 1 0 3 a 1 0 37 a 1 0 1 a 3 0 5 a 12 0 a a 4 0 12 8 7 0 2 a 1 0 3a a 1 0 f a 9 0 d a",
  "4 0 1a a 2 0 39 a 2 0 4 a 5 0 7 a 1 0 14 a 4 0 1b a 1 0 48 a 5 0 3 a 6 0 59 a 1 0 2 a b 7 1",
  "0 7 a 8 0 62 a 1 0 2 a 9 0 b a 8 0 48 a 2 0 1b a 1 0 1 a 1 0 1 a 1 8 4 0 33 a e 0 1 a 5 0 1",
  "a 2 0 5 a 31 0 8 a 1 0 66 a 4 0 1 a 6 0 1 a 2 0 2 a 2 0 19 a 2 0 4 a 3 0 10 a 4 0 d a 1 0 2",
  "a 2 0 6 a 1 0 f a 1 0 2bf a 3 0 30 8 10 0 60 8 1 0 29a 8 5 0 72 a 3 0 1d a 2 0 1e a e 0 12 a",
  "e 0 37 a 7 0 8 a 1 0 2 a b 0 7 7 1 0 1 a 3 0 10 8 20 0 75 a 2 0 22 a 1 0 76 a 3 0 4 a 2 0 9",
  "a 1 0 6 a 7 8 6 0 98 8 22 0 17 a 2 0 2 a 3 0 38 a 1 0 1 a 9 0 1 a 1 0 2 a 8 0 6 a d 0 30 a",
  "54 0 30 a 1 0 1 a 5 0 1 a 1 0 5 a 1 0 b 8 2 0 1b a 9 0 b 8 1 a 2 0 20 a 4 0 2 a 2 0 1 a 3 0",
  "38 a 1 0 1 a 2 0 3 a 1 0 1 a 3 0 3a a 8 0 2 a 5 0 95 a 3 0 1 a d 0 1 a 7 0 4 a 1 0 6 a 1 0 3",
  "a 2 0 c6 a 41 0 20b 9 4 8 20 7 5 8 f 6 1 8 5b 7 30 a 34 8 2a 7 c 8 14 0 3c 8 88 5 1 7 1 8",
  "122 0 45 8 1a 0 1 8 316 0 1 8 153 0 100 8 330 0 b5 8 7 0 3 a 4 0 6 8 7 0 7f a 1 0 60 a 20 8",
  "205 0 3 8 19 0 9 a 4 0 2 8 1 0 6 8 4 0 2 8 4 0 58 a 4 0 3 8 1 0 5a 8 1 0 c4 8 30 0 1bd0 8 40",
  "0 5690 8 40 0 13d 8 3 0 5f a 4 8 1 a a 8 3 0 1d a 2 0 50 a 2 0 e 8 23 0 65 8 1 0 79 a 1 0 3",
  "a 1 0 4 a 1 0 19 a 2 0 1 8 4 a 4 0 8 7 8 0 34 8 c 0 44 a a 0 12 a 12 0 d a 1 0 26 a 8 0 19 a",
  "b 0 2e a 3 0 30 a 1 0 2 a 4 0 2 a 2 0 27 a 1 0 43 a 6 0 2 a 2 0 2 a b 0 3 a 1 0 8 a 1 0 2f a",
  "1 0 33 a 1 0 1 a 3 0 2 a 2 0 5 a 2 0 1 a 1 0 2a a 2 0 8 a b 0 69 8 56 0 25 a 1 0 2 a 1 0 4 a",
  "3 0 4f2e a 94 2 18c 8 52 2 3f 8 51 a 25 8 2e 2 18d 0 101 8 1 0 3e 8 4d 0 3 8 40 0 2d a 83 0",
  "60 a 1 4 1f 0 76 a a 0 480 1 11f 8 1 1 e1 a f 1 28 a 8 1 a5 a 6 1 4e 8 7 1 1c0 2 24 a c 3 10",
  "1 29 a 5 1 f2 3 20 1 2b a 2 1 15 2 38 a 6 1 30 2 16 a b 2 1f 1 12 a 4 1 7a 0 1 a 1 0 36 a f",
  "0 b 8 14 0 a a 1 0 2 a 2 0 a a 3 0 31 a 4 0 2 a 2 0 7 a e 0 30 a 3 0 24 a 5 0 1 a 9 0 3d a 1",
  "0 c a 2 0 34 a 9 0 a a 4 0 2 a 1 0 5f a 3 0 2 a 1 0 1 a 2 0 6 a 1 0 2 a 3f 0 5f a 1 0 3 a d",
  "0 10 a 2 0 39 a 2 0 3 a 1 0 25 a 1a 0 3b a 7 0 c a 1 0 1 a 1 0 1 a 1 0 1 8 d a 1f 0 38 a 8 0",
  "2 a 3 0 1 a 1 0 17 a 1 0 54 a 6 0 1 a 1 0 4 a 2 0 1 a 2 0 ee a 6 0 4 a 2 0 1 a 2 0 1b a 24 0",
  "33 a 8 0 2 a 1 0 1 a 2 0 1f 8 20 0 2b a 1 0 1 a 1 0 2 a 6 0 1 a 1 0 65 a 3 0 2 a 4 0 1 a 9 0",
  "ff a 9 0 1 a 2 0 100 a 2 0 1 a 1 0 4 a 1 0 90 a 8 0 4 a 1 0 20 a 6 0 2 a 2 0 28 a 6 0 2 a 4",
  "0 8 a 9 0 1 a 6 0 2 a 3 0 2e a d 0 1 a 2 0 c6 a 1 0 1 a 3 0 1 a 1 0 7a 8 f 0 40 a e 0 54 a",
  "17 0 1 a 7 0 1 a 2 0 1 a 4b 0 31 a 15 0 1 a 9 0 40 a 3 0 2 a 1 0 1 a 1 0 15b a 2 0 b a 2 0",
  "34 a 8 0 2 a 1 0 1 a 1 0 17 a 56 0 25 8 8 7 4 8 1e 0 1441 a 1 0 6 a 19 0 2cbe a c 0 3 a 3 0",
  "9c0 a 5 0 3b a 7 0 236 8 3 0 1df a 1 0 3f a 4 0 4f 8 1 0 1 a c 0 4cad a 2 0 f61 8 300 a 50 0",
  "217 a 3 0 11 a 8 0 2 a 7 0 1e a 4 0 3b 8 59 a 3 8 7b 0 40 8 60 0 6a0 a 37 0 4 a 32 0 8 a 1 0",
  "e a 1 0 16 a 465 0 100 a 100 0 30 a 7 0 177 a 12 0 2c a 4 0 f 7 1d1 0 1c a 4 0 fe a 2 0 f 8",
  "c1 0 23 a 1 0 2 a 1 0 7 a 2 0 5 a 9 0 102 1 d0 a 52 1 22 a 7 1 326 2 27f 8 260 0 1d 8 3 0 3d",
  "8 39 0 7a 8 da0 0"]

def directions : ClassTable := .ofRows directionRows

def direction (c : Char) : Direction := directionOrder.getD (directions.classOf c) .other

end MediaPerimeter.Unicode
