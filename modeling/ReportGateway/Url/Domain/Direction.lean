import ReportGateway.Url.Domain.Marks

/-!
The directions of writing in a domain name. As soon as a name has a character that is written from
right to left, each of its labels must keep to a rule, so that the name reads the same way however
it is laid out: a label begins with a letter, which settles its direction, holds nothing of the
other direction, and ends in a letter or number, marks aside.
-/

namespace ReportGateway.Url.Domain

open Text (Ranges)

/-- How a character takes part in the direction of a name. -/
inductive Direction
  | left
  | right
  | arabicNumber
  | number
  | neutral
  | mark
deriving DecidableEq

/-- The ranges of letters that are written from right to left. -/
def rightText : String := "5be 5c0 5c3 5c6 5d0-5f4 608 60b 60d 61b-64a 66d-66f 671-6d5 6e5-6e6
6ee-6ef 6fa-710 712-72f 74d-7a5 7b1-7ea 7f4-7f5 7fa 7fe-815 81a 824 828 830-858 85e-88f 8a0-8c9
fbb2-fbc2 fe73 10800-1091b 10920-10a00 10a10-10a35 10a40-10ae4 10aeb-10b35 10b40-10d23 10d4a-10d4f
10d6f-10d8f 10e80-10ea9 10ead-10ec7 10f00-10f45 10f51-10f81 10f86-10ff6 1e800-1e8cf 1e922-1e943
1e94b-1ed3d"

def rightRanges : Ranges := Ranges.ofText rightText

/-- The ranges of characters without a direction. -/
def neutralText : String := "0-2f 3a-60 7b-bf d7 f7 2b9-2ba 2c2-2cf 2d2-2ed 2ef-2ff 375 385 3f6
58a-58f 606-607 609-60a 60c 60e-60f 66a 6de 6e9 7f6-7f9 9f2-9f3 9fb af1 bf3-bfa c78-c7e e3f f3a-f3d
1390-1399 1400 169b-169c 17db 17f0-180a 1940-1945 19de-19ff 1fc1 1fcd-1fcf 1fdd-1fdf 1fed 200c-20c1
2104-214d 218a-2335 237b-2394 2396-26ab 26ad-27ff 2900-2bff 2ce5-2cea 2cf9-2cff 2e00-3004 3008-3020
3030 3037 303d-303f 30a0 30fb 31c0-31e5 4dc0-4dff a490-a4c6 a60d-a60f a673 a67e-a67f a700-a721 a788
a828-a82b a838-a839 a874-a877 ab6a-ab6b fbc3-fdff fe45-fe46 10101 10140-1018c 10190-101a0 1091f
10b39-10b3f 10d6e 10ed0-10ed8 11052-11065 11660-1166c 11fd5-11ff1 16fe2 1cc00-1cef0 1d1e9-1d241
1d245 1d300-1d356 1e2ff 1eef0-1f12f 1f16d-1f16f 1f1ad 1f260-1fbfa"

def neutralRanges : Ranges := Ranges.ofText neutralText

def arabicNumberRanges : Ranges := Ranges.ofText "660-669 66b-66c 10d30-10d49 10e60-10e7e"

def numberRanges : Ranges := Ranges.ofText "30-39 6f0-6f9 102e1-102fb"

namespace Direction

def ofPoint (n : Nat) : Direction :=
  if rightRanges.contains n then .right
  else if numberRanges.contains n then .number
  else if arabicNumberRanges.contains n then .arabicNumber
  else if nonspacing.contains n then .mark
  else if neutralRanges.contains n then .neutral
  else .left

/-- Whether a name with a character of this direction must keep to the rule. -/
def isRightward (d : Direction) : Bool := d = .right || d = .arabicNumber

/-- The last direction of a label that is not that of a mark. -/
def final? (ds : List Direction) : Option Direction := ds.reverse.find? (· ≠ .mark)

/-- The rule for a label. -/
def accepts (ds : List Direction) : Bool :=
  match ds with
  | [] => true
  | .right :: _ =>
    !ds.contains .left && !(ds.contains .number && ds.contains .arabicNumber)
      && (final? ds).all ([.right, .number, .arabicNumber].contains ·)
  | .left :: _ =>
    !ds.any isRightward && (final? ds).all ([.left, .number].contains ·)
  | _ => false

/-- The rule for the labels of a name. -/
def acceptsAll (labels : List (List Nat)) : Bool :=
  let directions := labels.map (·.map ofPoint)
  !directions.any (·.any isRightward) || directions.all accepts

end Direction

end ReportGateway.Url.Domain
