import Admission.Unicode.CharSet

/-!
# Case folding — which characters differ in case only

  Two characters fold together when their simple case foldings are equal. The
  characters that fold together with another one form classes of two to four; a
  character outside these classes folds with itself alone.
-/

namespace Admission.Unicode.CaseFolding

/-! ### The classes -/

/-- The classes, packed: for each the distance of its first character from that of the
class before, the number of further characters and their distances. -/
def packedClasses : List String :=
  ["x21w111w111w111w111w111w111w111w111w111w112w1_B811w111w111w111w111w111w111w112w1I811w111w111",
   "w111w111w111w111w1X22Dnw1b1w111w111w111w111w112w1Cy811w111w111w111w111w111w111w111w111w111w1",
   "11w111w111w111w111w111w111w121w111w111w111w111w111w111w111_J7w11V311121121121121121121121121",
   "12112112112112112112112112112112112112112112114112112113112112112112112112112113112112112112",
   "1121121121121121121121121121121121121121121121121121121131121121131z611O611121121K611121J611",
   "J611131L211G611H611121J611L611x311P611N611121z511xOF111P611R611y411S611121121121W611121W6311",
   "21W611121V611V611121121X611141131U1521132113211311211211211211211211211311211211211211211211",
   "21121132113114112112112112112112112112112112112112112112112112112112112114112112112112112112",
   "1121121181HNa11131ENa11_Na11_Na11131B211D211121121121121121_Ma11YMa11.Maa1LGF151HGF131DHF111",
   "EFF111AGF141AGF111TLa11xGF151ZLac1DLa51zGF151GFF1m1REF111OEF1D53Q2w1Bw7H11121141151y411y411y",
   "421Q371C121B111B111B121w221_111_111zy711w112w1u11w111w112w1w211w111w113w1pz122w1S111w121w111",
   "w111w112w1m12w1M122v111w111w112w1f11w111w112w1ZG711w111w151Px7v18911211211211211211211211211",
   "21121121141751131161M211M211M211M211M211M211M211M211M211M211M211M211M211M211M211M211w111w112",
   "w1Ky611w112w1Jy611w111w111w111w111w111w111w111w111w112w1Ay611w111w112w1yy613w1yy6111w111w111",
   "w111w111w111w111w112w1Yx611w111w111w111w111w1N111221Ax62112112112112112112112112112112112112",
   "11211211a1121121121121121121121121121121121121121121121121121121121121121121121121121121121f",
   "11121121121121121121131121121121121121121121121121121121121121121121121121121121121121121121",
   "121121121121121121121121121121121121121121121121121121121121121121121121131M111M111M111M111M",
   "111M111M111M111M111M111M111M111M111M111M111M111M111M111M111M111M111M111M111M111M111M111M111M",
   "111M111M111M111M111M111M111M111M111M111M1GW21wz711wz711wz711wz711wz711wz711wz711wz711wz711wz",
   "711wz711wz711wz711wz711wz711wz711wz711wz711wz711wz711wz711wz711wz711wz711wz711wz711wz711wz71",
   "1wz711wz711wz711wz711wz711wz711wz711wz711wz711wz721wz761wz731w.211w.211w.211w.211w.211w.211w",
   ".211w.211w.211w.211w.211w.211w.211w.211w.211w.211w.211w.211w.211w.211w.211w.211w.211w.211w.2",
   "11w.211w.211w.211w.211w.211w.211w.211w.211w.211w.211w.211w.211w.211w.211w.211w.211w.211w.231",
   "w.211w.211w.2xl1M.B111M.B111M.B111M.B111M.B111M.B111M.B111M.B111M.B111M.B111M.B111M.B111M.B1",
   "11M.B111M.B111M.B111M.B111M.B111M.B111M.B111M.B111M.B111M.B111M.B111M.B111M.B111M.B111M.B111",
   "M.B111M.B111M.B111M.B111M.B111M.B111M.B111M.B111M.B111M.B111M.B111M.B111M.B111M.B111M.B111M.",
   "B111M.B111M.B111M.B111M.B111M.B111M.B111M.B111M.B111M.B111M.B111M.B111M.B111M.B111M.B111M.B1",
   "11M.B111M.B111M.B111M.B111M.B111M.B111M.B111M.B111M.B111M.B111M.B111M.B111M.B111M.B111M.B111",
   "M.B111M.B111M.B111M.B111M.B111M.B1118118118118118118PA22yKy11111M71AMy141CT3h1UNy1O311211211",
   "21121121121121121121121121121121121121121121121121121121121121121121121121121121121121121121",
   "1211211211211211211211211211211211211211211221W121121121121121121121121121121121121121121121",
   "1211211211211211211211211211211211c112112112112112112112112112112112112112112112112112112112",
   "11211211211211211211211211211211211211211211211211211211211211211211211211211211211211218118",
   "118118118118118118918118118118118118b1811811811811811811811891811811811811811811811891811811",
   "8118118118c1821821821891811811811811811811811891G211G211S211S211S211S211A311A311w411w411M311",
   "M311.311.3318118118118118118118118918118118118118118118118918118118118118118118118918118219g",
   "19d18118f18118417e19_91sK11g11g11g11g11g11g11g11g11g11g11g11g11g11g11g11gk11Pp1q11q11q11q11q",
   "11q11q11q11q11q11q11q11q11q11q11q11q11q11q11q11q11q11q11q11q11qNV11M111M111M111M111M111M111M",
   "111M111M111M111M111M111M111M111M111M111M111M111M111M111M111M111M111M111M111M111M111M111M111M",
   "111M111M111M111M111M111M111M111M111M111M111M111M111M111M111M111M111M111M1N111711211211711311",
   "b1121121121121121121121121121121121121121121121121121121121121121121121121121121121121121121",
   "1211211211211211211211211211211211211211211211211211211211911211511KGu1121121121121141121121",
   "1211211211211211211211211211211211211211211k11211211211211211211211211211211211211211E411211",
   "21121121121121141121121121121121121121121121121121121121121121121121121121121121121121121121",
   "1211211211211211b1121131121121121121151151121121M1211211211211211211211211211211b1wt11121121",
   "1211211211211211511211311411611211211r11MUk11Yw11w111w111w111w111w111w111w111w111w111w111w11",
   "1w111w111w111w111w111w111w111w111w111w111w111w111w111w111w1CC11E111E111E111E111E111E111E111E",
   "111E111E111E111E111E111E111E111E111E111E111E111E111E111E111E111E111E111E111E111E111E111E111E",
   "111E111E111E111E111E111E111E111E111E1F41E111E111E111E111E111E111E111E111E111E111E111E111E111",
   "E111E111E111E111E111E111E111E111E111E111E111E111E111E111E111E111E111E111E111E111E111E111E1Z4",
   "1D111D111D111D111D111D111D111D111D111D111D121D111D111D111D111D111D111D111D111D111D111D111D11",
   "1D111D111D121D111D111D111D111D111D111D121D111D1HT11w211w211w211w211w211w211w211w211w211w211w",
   "211w211w211w211w211w211w211w211w211w211w211w211w211w211w211w211w211w211w211w211w211w211w211w",
   "211w211w211w211w211w211w211w211w211w211w211w211w211w211w211w211w211w2.41w111w111w111w111w111",
   "w111w111w111w111w111w111w111w111w111w111w111w111w111w111w111w111w1XV21w111w111w111w111w111w1",
   "11w111w111w111w111w111w111w111w111w111w111w111w111w111w111w111w111w111w111w111w111w111w111w1",
   "11w111w111w1xIl1w111w111w111w111w111w111w111w111w111w111w111w111w111w111w111w111w111w111w111",
   "w111w111w111w111w111w111w111w111w111w111w111w111w1xRu1y111y111y111y111y111y111y111y111y111y1",
   "11y111y111y111y111y111y111y111y111y111y111y111y111y111y111y111y111y111y111y111y111y111y111y1",
   "11y1"]

/-- Reads the characters of one class after its first; the rest is left over. -/
def readClass : Nat → Nat → List Nat → List Nat × List Nat
  | 0, _, ds => ([], ds)
  | _ + 1, _, [] => ([], [])
  | n + 1, last, d :: ds =>
    let (cs, rest) := readClass n (last + d) ds
    ((last + d) :: cs, rest)

/-- Reads up to `fuel` classes. -/
def readClasses : Nat → Nat → List Nat → List (List Nat)
  | fuel + 1, last, d :: n :: ds =>
    let (cs, rest) := readClass n (last + d) ds
    ((last + d) :: cs) :: readClasses fuel (last + d) rest
  | _, _, _ => []

/-- The classes of characters that fold together, each ascending. -/
def classes : List (List Nat) :=
  let numbers := CharSet.unpack packedClasses
  readClasses numbers.length 0 numbers

/-! ### Closure -/

/-- A set with every character that folds together with one of its characters. -/
def close (s : CharSet) : CharSet :=
  s.union (CharSet.ofCodes ((classes.filter (·.any s.hasCode)).flatten))

/-- A set with both cases of its ASCII letters. -/
def closeAscii (s : CharSet) : CharSet :=
  let both := (List.range 26).filter fun i => s.hasCode (65 + i) || s.hasCode (97 + i)
  s.union (CharSet.ofCodes (both.flatMap fun i => [65 + i, 97 + i]))

end Admission.Unicode.CaseFolding
