import Admission.Unicode.CharSet

/-!
# Visible characters — which characters can be shown as they are

  A character is visible when it has a shape of its own. Controls, private and
  unassigned code points and every space but the common one have none; combining
  marks lend theirs to the character before them; fillers stand for a letter that is
  not there.

  The tables are those of version 17 of the character database, one version later than
  those that patterns speak of: whoever shows a text should know the newest characters.
-/

namespace Admission.Unicode.Visible

/-! ### The tables -/

/-- The characters without a shape: control and format characters, surrogates, private and
unassigned code points, and separators other than the common space. -/
def shapeless : CharSet := CharSet.packed
  ["0w1_2y1c1Gm2647111k1Jc1C12O1231T18r46hm1w61M12X12B3eX12N12f1s211b5w17H21x518222m171134292224",
   "8142152p2316422m17121212211542233174117ha319131m1712152a131321f42c771318222m1712152922237342",
   "152ia216331432111232333c4533142161el5d131n1g291314721312242a7m131n1a152913147253142a13cd131P",
   "113164g2q131i3o191127314611186a23cW14tB1211151o111n2511171a24w1E21A14D11A11f1dB1C611512Vb142",
   "711142F1142x1142711142f1V1142z22w13q6S2262wk1s3V27m9o9kcd1312c.22a6a6e1b6V27H15C2av1c4c413G1",
   "25bI14q6b3.12x21t2b6a6e2K12ckJ21C58Y13f3.15H12b8H15Sg262C126281111111v2R11f1e261j2319ho8L1h2",
   "2r1d3y1ex1fI44WkmblQU12.b5J111512U172eo97171717171717171.3y1q1V2cS6qg1_11S22D35H11.21S29M11J",
   "Ps3T19YakU58Z6kY13a6U18C28c6Q3bu3K21b4x11T19e2a2D3osa6262697171Y14.32a6AZacn4N1AE8Kb2G3C17c5",
   "5q151112121Gkw1G16P11j14451D44.5362626233717d22c1q1j121f2ey1X3534J13U21d31L1K1y4t3N1fs4A19u5",
   "H15u1B14eG1.42a6A14A14E18Q1bc1f17121b1f17123Q1cT99ma8o61G119B26211I112312n1E289M1j125x13r5rC",
   "1U14k2O11258131t234a797w2w1D14c9S13t2r5q74c7M2F2T1P1dP17K18a6C13t82M6v1G11322g689x1K18G1mqC1",
   "skn9K24A19.115dp7a6R11i8D19w31kbi1L1.1711141f1b6X15a6418222m1712151a22232161572735ba11211C11",
   "a1121141a1282tY215uE28aC5S12C1y1B2ba6djW16a6ksr2f4nV5Y1A3P2c82128121u122c9aC282K12brE28P2dF2",
   "7aS28U2y1ea691J11eat3w12m1eF27121I13112198a66121B112167a6I14aS7p7h1F13tR21fO1dXsC3L315bA6IO2",
   "z3dMx1gmaXY35DiVR6W1CS1Vh7v1a4N21a6u26aC2aa171l5jMdW1C6X25p2pI1H24V17hw25b79SC7F1w1x3P3ZL841",
   "7121z9f1t321e48IcAE2H35d397a24wX3Z73Qd6nfhfK12n9Q3Y1S7aD12G28M3lC2W3kckcT29pD4R21D2122122241",
   "c11171x21428171s141511371Qa2A92.lf51fMy1v66R671h2712155.1x11M3J13e2a42wavhW151MeG1S6H141w6v1",
   "m82w7714121f1B62gF1I24a42NoA2I2Z1y641r1211211a141111614111111312112111111111121124171414111a",
   "1h53151hQ12K8I14A3cf2f1f1B1aK5U1tdI14972e6W4Vu3h3d3W66c41fc4U18a6E18u2c42e9D1Ua8e2d3b3V1114g",
   "2c4a7P41D3Bw1wTF1w1.E42KQ52NF7fKjyJ2.gyL1HW45GF8CAPlM7"]

/-- The characters that are drawn onto the one before them. The two halfwidth sound marks,
which take a place of their own, do not belong to them. -/
def combining : CharSet := CharSet.packed
  ["woM3P87D8J111121211E2bM1lg1B37262214z11urX2bW1991o4191315H13X19G1o1w1T1111484137a2t1W1111248",
   "191a2q122V1142422331u231b2V11451241k2m611W1112148173a2u1X1111c191E1131T1113531472b2t1W112211",
   "331472b2s2V1211248191a2t1E2141231181N2127c8y3129b7F22r11111T1e15125b1A191C34161222p243g4d122",
   "61f1_l3Ot4s3t2u2w2217812b91J1311R32y11S33429163X6221W11171111286a21M1K12ck4M1a43C19c2w1426U1",
   "1123115U1822U431d17416132C6w2Ig1z6x1._23J41w3w1Gh6F32QKt41aw12M22M813141p251T42qid1C18pb11I1",
   "3M11242221A11z262222c181L11P1113225211G1281K712141MVj1xngggJu1y71R45CQ131254E1341B52Zh4x25Z9",
   "2J26C2bN14X31S1fF1122a3N142271Z13A1518.11c2Q19118421_23246121Z4138l2V121111c191e735z21261121",
   "134311e2R282311n1N212611211212H71246212r2R282112G311128B31112415z8912R71a441M442241w1aE16248",
   "19623K1d12C611311F671611O2m271212W3631121711E223111Xa2b2Q1553n1BD516fECbc33wK25X17Uw11_14N21",
   "b2HBj2xP4K12n.g5368827u4Q43XZ1T14O181e1m51fMG171h271215A31w57Tb1Z14Yf4.72P71217251We7J37RSBo",
   "w3w4M7"]

/-- The fillers of Korean syllables, which a reader may ignore. -/
def fillers : CharSet := CharSet.ofCodes [0x115f, 0x1160, 0x3164, 0xffa0]

/-! ### The rule -/

/-- Whether a character is visible. -/
def isVisible (c : Char) : Bool :=
  !(shapeless.contains c || combining.contains c || fillers.contains c)

end Admission.Unicode.Visible
