import MediaPerimeter.Unicode.Table

/-!
# Combining classes

Marks of different classes may stand in any order behind their base, so normal forms sort them by
class. Class zero is that of all characters that do not move (Unicode 17).
-/
namespace MediaPerimeter.Unicode

def combiningClassRows : List String := [
  "300 e6 15 e8 1 dc 4 e8 1 d8 1 dc 5 ca 2 dc 4 ca 2 dc b 1 5 dc 4 e6 8 f0 1 e6 1 dc 3 e6 3 dc",
  "2 0 1 e6 3 dc 4 e6 1 e8 1 dc 2 e6 1 e9 1 ea 2 e9 1 ea 2 e9 1 e6 d 0 113 e6 5 0 109 dc 1 e6 4",
  "dc 1 e6 3 de 1 dc 1 e6 6 dc 6 e6 2 dc 1 e6 2 de 1 e4 1 e6 1 a 1 b 1 c 1 d 1 e 1 f 1 10 1 11",
  "1 12 1 13 2 14 1 15 1 16 1 0 1 17 1 0 1 18 1 19 1 0 1 e6 1 dc 1 0 1 12 1 0 48 e6 8 1e 1 1f 1",
  "20 1 0 30 1b 1 1c 1 1d 1 1e 1 1f 1 20 1 21 1 22 1 e6 2 dc 2 e6 5 dc 1 e6 2 dc 1 0 10 23 1 0",
  "65 e6 7 0 2 e6 4 dc 1 e6 1 0 2 e6 2 0 1 dc 1 e6 2 dc 1 0 23 24 1 0 1e e6 1 dc 1 e6 2 dc 1 e6",
  "2 dc 3 e6 1 dc 2 e6 1 dc 1 e6 3 dc 1 e6 1 dc 1 e6 1 dc 1 e6 1 dc 1 e6 2 0 a0 e6 7 dc 1 e6 1",
  "0 9 dc 1 0 18 e6 4 0 1 e6 9 0 1 e6 3 0 1 e6 5 0 2b dc 3 0 3b e6 2 dc 3 e6 4 0 2a e6 5 dc 5",
  "e6 e 0 1 dc 1 e6 2 dc 1 e6 2 dc 1 e6 3 dc 3 1b 1 1c 1 1d 1 e6 3 dc 1 e6 2 dc 2 e6 5 0 3c 7 1",
  "0 10 9 1 0 3 e6 1 dc 1 e6 2 0 67 7 1 0 10 9 1 0 30 e6 1 0 3d 7 1 0 10 9 1 0 6e 7 1 0 10 9 1",
  "0 6e 7 1 0 10 9 1 0 7f 9 1 0 6e 7 1 0 10 9 1 0 7 54 1 5b 1 0 65 7 1 0 10 9 1 0 6d 9 2 0 10 9",
  "1 0 7c 9 1 0 6d 67 2 9 1 0 d 6b 4 0 6c 76 2 9 1 0 d 7a 4 0 4c dc 2 0 1b dc 1 0 1 dc 1 0 1 d8",
  "1 0 37 81 1 82 1 0 1 84 1 0 5 82 4 0 2 82 1 0 1 e6 2 9 1 0 1 e6 2 0 3e dc 1 0 70 7 1 0 1 9 2",
  "0 52 dc 1 0 2cf e6 3 0 3b4 9 2 0 1e 9 1 0 9d 9 1 0 a e6 1 0 cb e4 1 0 8f de 1 e6 1 dc 1 0 db",
  "e6 1 dc 1 0 47 9 1 0 14 e6 8 0 2 dc 1 0 30 e6 5 dc 6 e6 2 dc 1 0 1 dc 2 e6 2 dc 2 e6 5 dc 1",
  "e6 12 dc 1 0 2 e6 6 dc 1 e6 4 ea 1 0 48 7 1 0 f 9 1 0 26 e6 1 dc 1 e6 7 0 36 9 2 0 3a 7 1 0",
  "b 9 2 0 43 7 1 0 98 e6 3 0 1 1 1 dc 5 e6 2 dc 4 e6 1 0 1 1 7 0 4 dc 1 0 6 e6 1 0 3 e6 2 0 c6",
  "e6 2 dc 1 e6 7 dc 1 e6 2 ea 1 d6 1 dc 1 ca 1 e6 25 e8 1 e4 2 dc 1 da 1 e6 1 e9 1 dc 1 e6 1",
  "dc 1 0 2d0 e6 2 1 2 e6 4 1 3 e6 2 0 4 e6 1 0 3 1 2 e6 1 dc 1 e6 1 1 2 dc 4 e6 1 0 bfe e6 3 0",
  "8d 9 1 0 60 e6 20 0 22a da 1 e4 1 e8 1 de 1 e0 2 0 69 8 2 0 75d4 e6 1 0 4 e6 a 0 20 e6 2 0",
  "50 e6 2 0 114 9 1 0 25 9 1 0 97 9 1 0 1b e6 12 0 39 dc 3 0 25 9 1 0 5f 7 1 0 c 9 1 0 ef e6 1",
  "0 1 e6 2 dc 1 0 2 e6 2 0 5 e6 2 0 1 e6 1 0 34 9 1 0 f6 9 1 0 4f30 1a 1 0 301 e6 7 dc 7 e6 2",
  "0 3cd dc 1 0 e2 dc 1 0 95 e6 5 0 692 dc 1 0 1 e6 1 0 28 e6 1 1 1 dc 1 0 4 9 1 0 a5 e6 1 dc 1",
  "0 23d e6 4 0 41 e6 5 0 13d e6 2 0 4d dc 2 0 1 dc 3 0 46 dc 2 e6 3 dc 1 e6 1 dc 4 0 31 e6 1",
  "dc 1 e6 1 dc 1 0 c0 9 1 0 29 9 1 0 e 9 1 0 39 9 1 7 1 0 45 e6 3 0 30 9 2 0 3e 7 1 0 4c 9 1 0",
  "9 7 1 0 6a 9 1 7 1 0 b2 7 1 9 1 0 50 7 2 0 10 9 1 0 18 e6 7 0 3 e6 5 0 59 9 3 0 71 9 1 0 3 7",
  "1 0 17 e6 1 0 63 9 1 7 1 0 fb 9 1 7 1 0 7e 9 1 0 76 9 1 7 1 0 73 9 1 0 10d 9 1 7 1 0 102 9 2",
  "0 4 7 1 0 9c 9 1 0 53 9 1 0 12 9 1 0 51 9 1 0 1a5 9 1 0 102 7 1 0 1 9 2 0 51 9 1 0 1a9 9 2 0",
  "41ec 9 1 0 9c0 1 5 0 3b e6 7 0 4b9 6 2 0 4cac 1 1 0 14c6 d8 2 1 3 0 3 e2 1 d8 5 0 8 dc 8 0 2",
  "e6 5 dc 2 0 1e e6 4 0 94 e6 3 0 dbb e6 7 0 1 e6 11 0 2 e6 7 0 1 e6 2 0 1 e6 5 0 64 e6 1 0 a0",
  "e6 7 0 177 e6 1 0 3d e6 4 0 1fc e8 2 dc 1 e6 1 0 fe e6 1 dc 1 0 f3 e6 1 0 2 e6 1 0 7 e6 2 0",
  "5 e6 1 0 1da dc 7 0 6d e6 6 7 1 0"]

def combiningClasses : ClassTable := .ofRows combiningClassRows

def combiningClass (c : Char) : Nat := combiningClasses.classOf c

def viramaClass : Nat := 9

def markGaps : List String := [
  "300 71 112 8 106 2d 1 1 1 2 1 2 1 9 40 b 30 15 10 1 65 8 1 6 2 2 1 4 23 1 1e 1d 59 b 3a 9 9",
  "1 18 4 1 9 1 3 1 7 29 5 39 9 2a 3a 36 3 1 12 1 f 2 2 1d 4 37 1 1 10 9 9 2 4 18 7 37 20 14 2",
  "3 1 b 4 37 1 1 12 12 4 14 b 37 1 1 21 3 4 1c 1 3b 12 7 f 1a 5 37 1 1 1a a 4 1b 3 38 1 1 1e 6",
  "4 d 11 37 2 1 10 9 1 a 4 1b 4 45 1c c 2 3d 1 2 b 8 8 62 1 2 9 b 8 48 2 1b 1 1 1 1 1 4 2 31",
  "14 1 2 5 31 8 1 64 14 17 4 4 3 1 3 2 7 3 4 d c 1 1 a 4 2bf 3 3b2 d 13 3 1d e 12 e 36 1e 9 3",
  "a5 2 22 1 76 20 d7 7 37 2b 30 55 2f 11 26 9 c 3 1e d 38 16 28 17 95 3 1 15 4 1 6 1 2 3 c6 41",
  "2cf 34 beb 4 8c 1 60 20 22a 6 69 4 75d2 4 1 a 20 2 50 2 110 1 3 1 4 1 17 5 4 4 50 2 32 1a 12",
  "12 d 1 26 8 19 18 21 4 2f e 24 1 43 17 3 1 8 4 2b 3 32 1 1 3 2 2 5 2 1 1 29 5 5 c e2 8 1 4",
  "4f2e 94 26e 25 3b8 83 60 1 95 a 681 f 28 8 a5 6 239 c 39 5 13d 2 4d 6 46 b 31 4 7a 3 35 f 29",
  "1 2 2 a 4 2d b 7 e 30 3 24 f f 2 2c 1 c 3 30 e 8 4 1 2 5c c 6 1 2 3f 5f 11 10 5 36 2 1 12 7",
  "6 5 1e 38 19 1 1 e 1f 35 12 17 1 51 14 eb 12 1b 24 30 11 6a d 65 13 fc f f5 f 1 1 1 2 8d 10",
  "3 1c 1 a 28 7 1 4 8 9 1 b 2e 10 c6 60 6f 11 52 6e 31 15 1 9 3a e 15b 4 9 2 1 1 30 f 17 56",
  "1490 1 6 19 2cbe 12 9c0 5 3b 7 418 1 1 42 51 e 4cab 2 1261 50 215 5 3 16 2 7 1e 4 94 3 7bb",
  "37 4 32 8 1 e 1 16 465 100 100 30 7 177 12 2c 4 1fc 4 fe 2 f3 1 2 1 7 2 5 9 1d2 52 22 7"]

def marks : Ranges := .ofGaps markGaps

end MediaPerimeter.Unicode
