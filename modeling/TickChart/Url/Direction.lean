import TickChart.Text.Mark

/-!
# Directions of writing

Characters of scripts that are written from right to left, beside others, may be shown in an order
that misleads. The labels of a domain that has such characters keep a rule which prevents it.

* `Direction`: the bidirectional classes (Unicode 17) of the characters that a domain can have.
* `isRightToLeft`: the character makes its domain one to which the rule applies.
* `keepsDirection`: the rule for one label. Its first character gives the label a direction, its
  other characters fit the direction, it ends in a letter or a number, apart from marks, and it does
  not mix two kinds of numbers.
-/

namespace TickChart.Url

open TickChart.Text

/-- How a character behaves among characters of either direction. -/
inductive Direction where
  | leftToRight
  | rightToLeft
  | arabicLetter
  | arabicNumber
  | europeanNumber
  | europeanSeparator
  | commonSeparator
  | europeanTerminator
  | boundary
  | neutral
  | mark
deriving DecidableEq

namespace Direction

/-- The characters of the classes, apart from marks and from those that are written from left to
right. -/
def table : Table Direction := .ofGroups
  [(.rightToLeft,
    ["5be 5c0 5c3 5c6 5d0-5f4 7c0-7ea 7f4-7f5 7fa 7fe-815 81a 824 828 830-858 85e 10800-1091b",
     "10920-10a00 10a10-10a35 10a40-10ae4 10aeb-10b35 10b40-10cff 10d4a-10d4f 10d6f-10d8f",
     "10e80-10ea9 10ead-10eb1 10f00-10f27 10f70-10f81 10f86-10ff6 1e800-1e8cf 1e922-1e943",
     "1e94b-1e95f"]),
   (.arabicLetter,
    ["608 60b 60d 61b-64a 66d-66f 671-6d5 6e5-6e6 6ee-6ef 6fa-710 712-72f 74d-7a5 7b1 860-88f",
     "8a0-8c9 fbb2-fbc2 fe73 10d00-10d23 10ec2-10ec7 10f30-10f45 10f51-10f59 1ec71-1ed3d"]),
   (.arabicNumber,
    ["660-669 66b-66c 10d30-10d39 10e60-10e7e"]),
   (.europeanNumber,
    ["30-39 6f0-6f9 102e1-102fb 10d40-10d49"]),
   (.europeanSeparator,
    ["2b 2d 2212"]),
   (.commonSeparator,
    ["2c 2e-2f 3a 60c 2044"]),
   (.europeanTerminator,
    ["23-25 a2-a5 b0-b1 58f 609-60a 66a 9f2-9f3 9fb af1 bf9 e3f 17db 2030-2032 20a0-20c1 212e 2213",
     "a838-a839 11fdd-11fe0 1e2ff"]),
   (.boundary,
    ["0-8 e-1b 7f 200c-200d"]),
   (.neutral,
    ["21-22 26-2a 3b-60 7b-7e a1 a6-ae b6-d7 f7 2b9-2ba 2c2-2cf 2d2-2ed 2ef-2ff 375 3f6 58a-58e",
     "606-607 60e-60f 6de 6e9 7f6-7f9 bf3-bf8 bfa c78-c7e f3a-f3d 1390-1399 1400 169b-169c 17f0-180a",
     "1940-1945 19de-19ff 2010-2027 2035-2043 2045-205e 2104-2129 213a-214d 218a-2211 2214-2335",
     "237b-2394 2396-26ab 26ad-27ff 2900-2bff 2ce5-2cea 2cf9-2cff 2e00-3004 3008-3020 3030 3037",
     "303d-303f 30a0 30fb 31c0-31e5 4dc0-4dff a490-a4c6 a60d-a60f a673 a67e-a67f a700-a721 a788",
     "a828-a82b a874-a877 ab6a-ab6b fbc3-fdff fe45-fe46 10101 10140-1018c 10190-101a0 1091f",
     "10b39-10b3f 10d6e 10ed0-10ed8 11052-11065 11660-1166c 11fd5-11fdc 11fe1-11ff1 16fe2",
     "1cc00-1cef0 1d1e9-1d241 1d245 1d300-1d356 1eef0-1f12f 1f16d-1f16f 1f1ad 1f260-1fbfa"])]

/-- The marks that behave like letters from left to right. -/
def letterMarks : List Nat := [0xCBF, 0xCC6, 0x11A07, 0x11A08, 0x11C3F]

/-- The class of a character. -/
def ofChar (c : Char) : Direction :=
  match table.find? c.toNat with
  | some d => d
  | none => if isNonspacing c && c.toNat ∉ letterMarks then mark else leftToRight

/-- A label may begin with the character. -/
def mayBegin (d : Direction) : Bool := d ∈ [leftToRight, rightToLeft, arabicLetter]

/-- The character may stand in a label of either direction. -/
def fitsBoth (d : Direction) : Bool :=
  d ∈ [europeanNumber, europeanSeparator, commonSeparator, europeanTerminator, boundary, neutral,
    mark]

end Direction

/-- The character belongs to a script that is written from right to left. -/
def isRightToLeft (c : Char) : Bool :=
  Direction.ofChar c ∈ [Direction.rightToLeft, .arabicLetter, .arabicNumber]

/-- The last class of a label apart from marks. -/
def lastApartFromMarks? (ds : List Direction) : Option Direction :=
  (ds.reverse.dropWhile (· = .mark)).head?

/-- The rule for a label that is written from left to right. -/
def keepsLeftToRight (ds : List Direction) : Bool :=
  ds.all (fun d => d = .leftToRight || d.fitsBoth) &&
    (lastApartFromMarks? ds).all (· ∈ [.leftToRight, .europeanNumber])

/-- The rule for a label that is written from right to left. -/
def keepsRightToLeft (ds : List Direction) : Bool :=
  ds.all (fun d => d ∈ [.rightToLeft, .arabicLetter, .arabicNumber] || d.fitsBoth) &&
    (lastApartFromMarks? ds).all
      (· ∈ [.rightToLeft, .arabicLetter, .arabicNumber, .europeanNumber]) &&
    !(.europeanNumber ∈ ds && .arabicNumber ∈ ds)

/-- The rule for the labels of a domain that has characters of such scripts. -/
def keepsDirection (label : List Char) : Bool :=
  match label.map Direction.ofChar with
  | [] => true
  | d :: ds =>
    d.mayBegin && if d = .leftToRight then keepsLeftToRight (d :: ds) else keepsRightToLeft (d :: ds)

end TickChart.Url
