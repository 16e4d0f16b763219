import Admission.Unicode.CharSet

/-!
# Alphanumeric characters — what may stand in a name

  Names of groups are made of letters and numbers of any script. Like the visible
  characters these are taken from version 17 of the character database, so that a name
  may use the newest letters though no class of a pattern holds them yet.
-/

namespace Admission.Unicode.Alphanumeric

/-- The characters that are read as letters. -/
def alphabetic : CharSet := CharSet.packed
  ["x2q6qL11a1415n1v1Ge4ce57111S21ti1224116113111k1P21H48C51C1216F1D1e111212118r44tb5U117eC31848",
   "43a321gM1dB3ox192415o2jjp7b5o17718G1ac376I21g134fdj18222m17113438222211814215c2a14316422m171",
   "21212454222417411h6b319131m17121539131231f4l44318222m171215382222924215d1g216331432111232333",
   "c4533133161E1d131n1g38131382131224s418131n1a15381313825314d3cd131F1281313115475m6131i3o19112",
   "7861118i2dW15761P1211151o111j13251161e4w11_181A14j4g1A1z2T11125gw2a42C111512H11Ja142711142F1",
   "142x1142711142f1V1142z2B1ggS2263Ij2h1q5H23b7kblckcd1312cQ12je141z2V27H15C2av1c49nu25bI14qS1s",
   "4_12kO11n2b3N1Q11f18P1G124aI11beT1m3aA12b5H123F141612315w6jy1bS8262C126281111111v2R117113317",
   "34264d5317Q31d1gdB31412a1135611111141b245541hF1JpQ1SU1B76432cC111512U171gn97171717171717171w",
   "1L11Re3p975254S2631W2145H11.2hw1M1gwgwK6w2JQlz2K12J83ga2kL1583N3D192D32O2kl1x1oQ1cA211I16311",
   "3ax15z1dt3P11cf1gga51T19ein3B21111o32g24b6262697171H11e6X3lAZacn4N1AE8Kb2G3C17c55c1d15111212",
   "1I3x1Hbiw22S1E1cQ351D4A1q6qbV236262623z1c1q1j121f2ey1X3B2R1H8t3N1L1w1du5H15u2A14815G1.4iA14A",
   "14E18Q1cb1f17121b1f17123Q1cT99ma8o61G119B26211I112312nan9vx2j12amaq6qC1U162w241258131tG1t3tz",
   "181srS1amajdiK3F2T1P1dP1dE1y1s315nW7G11232g6O133ta18mG1iK1lrn9C2H15aV191dpnP1h48z1319w21492a",
   "111z1i1y12164.1711141f1a7V1n418222m171215382222316157sa11211C11a112114123111I1y21314k3uy2221",
   "1U5S127p6y1_11131X1S121D2r2el7V5V1D3w2v82128121u122224Z282K1261112rP12ahE251iF2D38U2x1v91J11",
   "711N1u2m1eF27121I13112131122o6121B1121411nI1A8n9h1F133L31L2WsC3L3hA6IO2x3fMx1h6pXY35DiVR6L1N",
   "S1Vh7vhL2huiM1g4vl5jMdJ1P6w2w1p2pI1H24V17hw2211c79SC7F1w1x3P3ZL8417121z9f1t321e48IcAE2H35d39",
   "7a41xX5R21D2122122241c11171x21428171s141511371Qa2p1p1v1p1v1p1v1p1v1p18QV1v66R671h2712155.1x1",
   "1M3J1a7g1xauiI1AfsA7u21L6v1m82w7714121f1B6X1A23131QB141r1211211a1411116141111113121121111111",
   "11121124171414111a1h53151hQjq6q6qSP3wTF1w1.E42KQ52NF7fKjyJ2.gyL1HW45GF8"]

/-- The characters that are read as numbers: digits, letter-like numbers and fractions. -/
def numeric : CharSet := CharSet.packed
  ["M1aU325123xJ1aC4aC6aYcaS3a46I3aS3aS3a26K3dP3a87D3aE377jJ3aw3aS3aC2kI8aC2aLmkNr3L7a6amaI9aw4b",
   "B5a6aS5aS2aC4a6aSw11366aC6P125SmY1K2mSjuFH11Fo1p9e3Ta4G4au81fw1aD1fwXsaY5awa6W4aC1aC6amaS2aS",
   "caSUkaJfJ1cV1h2RarA14t181C45G6aKt8p7D19H25m6w522g2K1w29Q12u3H25E38o8F17Ga6M1a6aS8v.4aG14M37C",
   "4uw4aY1aM4a7kX7aSaaS3aSbaC3a6kI2cAdjZ2aSkaS2tz7aC2aS1aCbaC3lHx1L3xCfaCF2aS2aC4a17KgaC8nZa3VD",
   "naCK1kckI3pRy1O1wG2aCdaSfaT7aIm9w4aToX11314I2J11fyudzT2a"]

end Admission.Unicode.Alphanumeric
