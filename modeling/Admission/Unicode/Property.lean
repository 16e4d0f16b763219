import Admission.Unicode.CharSet

/-!
# Binary properties — yes-or-no facts about characters

  One set for each binary property of the Unicode character database that a pattern
  may name. `byName` lists them with their short and long names in the loose form of
  `Names.normalize`.
-/

namespace Admission.Unicode.Property

/-! ### The properties -/

/-- The property `ASCII_Hex_Digit`. -/
def asciiHexDigit : CharSet := CharSet.packed
  ["M1a76q6"]

/-- The property `Alphabetic`. -/
def alphabetic : CharSet := CharSet.packed
  ["x2q6qL11a1415n1v1Ge4ce57111S21ti1224116113111k1P21H48C51C1216F1D1e111212118r44tb5U117eC31848",
   "43a321gM1dB3ox192415o2jjp7b5o16818G1ac376I21g134fdj18222m17113438222211814215c2a14316422m171",
   "21212454222417411h6b319131m17121539131231f4l44318222m171215382222924215d1g216331432111232333",
   "c4533133161E1d131n1g38131382132124s418131n1a15381313826214d3cd131F1281313115475m6131i3o19112",
   "7861118i2dW15761P1211151o111j13251161e4w11_181A14j4g1A1z2T11125gw2a42C111512H11Ja142711142F1",
   "142x1142711142f1V1142z2B1ggS2263Ij2h1q5H23b7kblckcd1312cQ12je141z2V27H15C2av1c49nu25bI14qS1s",
   "4_12kO11n2b3N1Q11f18P1G124aI11beT1m3aA12b5H123F141612315w6jy1bS8262C126281111111v2R117113317",
   "34264d5317Q31d1gdB31412a1135611111141b245541hF1JpQ1SU1B76432cC111512U171gn97171717171717171w",
   "1L11Re3p975254S2631W2145H11.2hw1M1gwgwK6w2JQlz2K12J83ga2kL1583N3D192D32z2221118lk1x1oQ1cA211",
   "I163113ax15z1dt3P11cf1gga51T19ein3B21111o32g24b6262697171H11e6X3lAZacn4N1AE8Kb2G3C17c55c1d15",
   "1112121I3x1Hbiw22S1E1cQ351D4A1q6qbV236262623z1c1q1j121f2ey1X3B2R1H8t3N1L1w1du5H15u2A14815G1.",
   "4iA14A14E18Q1cb1f17121b1f17123Q1cT99ma8o61G119B26211I112312nan9vx2j12amaqC2U162w241258131tG1",
   "t3tz181srS1amajdiK3F2T1P1dP1dE1y1s315nW7G11232g3T113ta18mG1iK1lrn9C2H15aV191dpnP1h48z1319w21",
   "492a111z1i1y12164.1711141f1a7V1n418222m171215382222316157sa11211C11a112114123111I1y21314k3uy",
   "22211U5S127p6y1_11131X1S121D2r2el7V5V1D3w2v82128121u122224Z282K1261112rP12ahE251iF2D6x1v91J1",
   "1711N1u2m1eF27121I13112131122o6121B1121411Dan9h1F133L31L2WsC3L3hA6IO2x3fMx1h6pXY35DiVR6L1NS1",
   "Vh7vhL2huiM1g4vl5jMdJ1P6w2w4H24V17hw2211c2eU_58SC1F1aDT8417121z9f1t321e48IcAE2H35d397a41xX5R",
   "21D2122122241c11171x21428171s141511371Qa2p1p1v1p1v1p1v1p1v1p18QV1v66R671h2712155.1x11M3J1a7g",
   "1xauiI1AfsA7u21Lf714121f1B6X1A23131QB141r1211211a1411116141111113121121111111111211241714141",
   "11a1h53151hQjq6q6qSP3wTF1w1Wx46.62yQ5eNF7fKjyJ2.gyL1HW45wz4"]

/-- The property `Bidi_Control`. -/
def bidiControl : CharSet := CharSet.packed
  ["YM11NL62q5T14"]

/-- The property `Bidi_Mirrored`. -/
def bidiMirrored : CharSet := CharSet.packed
  ["E12i111s111t111J11f1.P34ZW12YI22a2S12e2N51w643631323414111149511i549211181w12451922j5295224o",
   "2g84k272Zx1eG2124121354533ePcm261e817631451225411322a622cj14211121145263o2b24412224H1281E151",
   "113553413511w81zg43212e22aH18Hda28ZNP1652y52i111s111t1111212TXR11V11V11V11V11"]

/-- The property `Case_Ignorable`. -/
def caseIgnorable : CharSet := CharSet.packed
  ["D1161b1z1111D2141114122Tfw642419211X77L6151N1J111121211I11b6ab11z11alg1B381a14x1111urX2bW1b4",
   "121ooH13I117259F1W1T1111484137a2d1f1W114481k2q122V1142422331u231b2V11451241k2m611W1121148172",
   "b2u1Z11c1O1131T1113531472b2t1W11216152k2s2V124481k2t1E217311W2127b9y31299117F22r11111T1e1512",
   "5b1A191C34161222p243g4d12261f1.21wj3Ot3t2u2u2w2217812b3151J15P11x22y11S33429163X6221W1117111",
   "1286a21D118vN14M11151151E19c2w142213U11123113W1822w26O231d17416132O1_1d1y1B3Zd113b3d3d3d2c58",
   "2a12125N151a11d1gdP1x1HY22N33Z31f1w3w1L11Re1A143551Z26Z23SUr1yD16K81y341a11s4M22ey1K21n3D333",
   "2813141p251T42qid1C18pbK13M112422h1l2y262222c181z11b1P1113225211r1e25211A3593V312141MVj1P4hZ",
   "hg31cgy1121F517161b1z1111L11J12z21l3xg1y71R45Bw161G119Ci31254E1341B52Zh4C11q511X92L24C2bN14X",
   "31S1fF1122a3N14222141a1O13A1518.11c2Q19a421_2321126121Z4138l2V1231B1735C26d11111e2R282311n1Q",
   "26114212K746212r2R282112G31112611B31112415z8912w821141M442241w1aE1624819623K1d12Sc71611O2m27",
   "1212W3631121711E223111Xa2b2Q155111n1RC5h6fECbc33wK25X1794Yf3E12yf1_1hw2212Hwg41712.A3214YO4K",
   "12nwh39g27u4Q43XZ1T14O181e1m51fMG171h2712155.1x11w5eMb1Z14Xf5.72wn7J38LR25xwzo1uw3w4M7"]

/-- The property `Cased`. -/
def cased : CharSet := CharSet.packed
  ["x2q6qL11a1415n1v1z6144M61A172u5w31G142224116113111k1P21H48C51C19F1TU2C111512H114wlS226yA2b5H",
   "123w2w6w2S8262C126281111111v2R11711331734264d5317Q31d1gdB31412a1135611111141641245541hw132Np",
   "Q1SU1B76432cC11151OEuK1iuA4C3341.1221118l513RpH11e6M2wWj7c5Fw1q6qBB1M2w3A14A1Q3b1f17121b1f17",
   "12ze1231G119BC1P1dP1Z2mamWU2w2wHlw2wIpR21D2122122241c11171x21428171s141511371Qa2p1p1v1p1v1p1",
   "v1p1v1p18QV1a1k66B8.1OA2A2I_1q6q6q"]

/-- The property `Changes_When_Casefolded`. -/
def changesWhenCasefolded : CharSet := CharSet.packed
  ["x2qW21an18w111111111111111111111111111111111111111111111111111111112111111111111111121111111",
   "11111111111111111111111111111111111111211111112111213241213321211111211211213111231721212111",
   "11111111111112111111111111111112211131111111111111111111111111111111111111111111111111111111",
   "1117212211411111111S71G11113181611311121h19m1c332111111111111111111111111122211122P1M1111111",
   "11111111111111111111111111191111111111111111111111111111111111111111111111111111112111111111",
   "11121111111111111111111111111111111111111111111111111111111111111111111111111111111111111111",
   "11111112C1M11UU2C11151Gp6yA2a6H123wa11111111111111111111111111111111111111111111111111111111",
   "11111111111111111111111111111111111111111111111111111111111111111111111111111111111111111111",
   "15221111111111111111111111111111111111111111111111111111111111111111111111111111111111111111",
   "1111111119886a88886b111111188gM123265326b4c55326F913261J1gj1OpqMV1M1M11132111111411218311111",
   "11111111111111111111111111111111111111111111111111111111111111111111111111111111111111111111",
   "1811141JGu111111111111111111111111111111111111111111111j111111111111111111111111111D41111111",
   "11111131111111111111111111111111111111111111111111111111111111111111a11112111111114111211131",
   "1111111111111111111515111111111111111411123151111111o1WrM2wWj7c5Fw1qBC1E1E4A1Y4b1f1712GT1P1Z",
   "4mWV2w1wIlw1wRuy1"]

/-- The property `Changes_When_Casemapped`. -/
def changesWhenCasemapped : CharSet := CharSet.packed
  ["x2q6qW11an1v1w21Q21s2e22114Z21i6r1211123214152112217121123651a2C51G142233116113111k1L13x1151",
   "B48C51C1aD1UU2C111512H123wlS226yA2b5H123V5131g1N3Y4211S3262C126281111111v2R11711331734264d53",
   "17F913261r1hw132NpQ1SU1N312127C37432cC11151OEuK1isC4e2.19f33251p1u2247o2Yq1sM2wWj7c5Fw1q6qBB",
   "1M2w3A14A1Q3b1f17121b1f1712zS1P1dP1Z2mamWU2w2wHlw2wQuA2"]

/-- The property `Changes_When_Lowercased`. -/
def changesWhenLowercased : CharSet := CharSet.packed
  ["x2qB3n17x11111111111111111111111111111111111111111111111111111111211111111111111121111111111",
   "11111111111111111111111111111111111121111321112132412133212111112112112131112317212121111111",
   "11111111121111111111111111122111311111111111111111111111111111111111111111111111111111111117",
   "212211411111111x91113181611311121h19z118111111111111111111111115121122P1M1111111111111111111",
   "11111111111111191111111111111111111111111111111111111111111111111111112111111111111211111111",
   "1111111111111111111111111111111111111111111111111111111111111111111111111111111111111112C1FW",
   "2C11151OmS2PA216H123wa1111111111111111111111111111111111111111111111111111111111111111111111",
   "11111111111111111111111111111111111111111111111111111111111111111111111111111119111111111111",
   "11111111111111111111111111111111111111111111111111111111111111111111111111111111111119886a88",
   "886b111111188o8888885b5b4c5b5F913261J1gj1OpqMV1M1M111321111114112183111111111111111111111111",
   "11111111111111111111111111111111111111111111111111111111111111111111111111811141JGu111111111",
   "111111111111111111111111111111111111j111111111111111111111111111D411111111111113111111111111",
   "1111111111111111111111111111111111111111111111111a111121111111141112111311111111111111111111",
   "515111111111111111411123151111111o1HVlqBC1E1E4A1Y4b1f1712GT1P1Z4mWV2w1wIlw1wRuy1"]

/-- The property `Changes_When_Titlecased`. -/
def changesWhenTitlecased : CharSet := CharSet.packed
  ["x3qW11F1o18111111111111111111111111111111111111111111111111111111112111111111111112111111111",
   "11111111111111111111111111111111111112111132111213151213321211111214121311121311141121211111",
   "11111111111121111111111111111131111311111111111111111111111111111111111111131111111111111111",
   "181221141111111161211123214152112217121123651a2C51H11113133i1rz11233111111111111111111111115",
   "112121Q1M11111111111111111111111111111111111911111111111111111111111111111111111111111111111",
   "11111121111111111112111111111111111111111111111111111111111111111111111111111111111111111111",
   "111111111111111111111111N1D1MP36yA2911K7131g1O3111111111111111111111111111111111111111111111",
   "11111111111111111111111111111111111111111111111111111111111111111111111111111111111111111111",
   "11111111111751111111111111111111111111111111111111111111111111111111111111111111111111111111",
   "111111111111111986a88886a8888e2888888512613312842288a312Sa1x1g41HqqCW1M111321111116121a11111",
   "11111111111111111111111111111111111111111111111111111111111111111111111111111111111111111111",
   "11811141cC11151PEu111111111111111111111111111111111111111111111j111111111111111111111111111D",
   "4111111111111131111111111111111111111111111111111111111111111111111111111111a111211111111141",
   "411221111111111111111111b11111111111111141112131511111q1Yq1sM2wWj7c5Fx1qJC1E1E4A1X4b1f1712zU",
   "1P1Z3mWV2w1wIlw1yRuy1"]

/-- The property `Changes_When_Uppercased`. -/
def changesWhenUppercased : CharSet := CharSet.packed
  ["x3qW11F1o18111111111111111111111111111111111111111111111111111111112111111111111112111111111",
   "11111111111111111111111111111111111112111132111213151213321211111214121311121311152121211111",
   "11111111112111111111111111112121131111111111111111111111111111111111111113111111111111111118",
   "1221141111111161211123214152112217121123651a2C51H11113133i1rz1123311111111111111111111111511",
   "2121Q1M1111111111111111111111111111111111191111111111111111111111111111111111111111111111111",
   "11112111111111111211111111111111111111111111111111111111111111111111111111111111111111111111",
   "1111111111111111111111N1D1EW2H123Un6yA2911K7131g1O311111111111111111111111111111111111111111",
   "11111111111111111111111111111111111111111111111111111111111111111111111111111111111111111111",
   "11111111111111175111111111111111111111111111111111111111111111111111111111111111111111111111",
   "1111111111111111111986a88886a8888e2R1124111331241342288a31241Na1x1g41HqqCW1M111321111116121a",
   "11111111111111111111111111111111111111111111111111111111111111111111111111111111111111111111",
   "1111111811141cC11151PEu111111111111111111111111111111111111111111111j11111111111111111111111",
   "1111D4111111111111131111111111111111111111111111111111111111111111111111111111111a1112111111",
   "11141411221111111111111111111b11111111111111141112131511111q1Yq1sM2wWj7c5Fx1qJC1E1E4A1X4b1f1",
   "712zU1P1Z3mWV2w1wIlw1yRuy1"]

/-- The property `Dash`. -/
def dash : CharSet := CharSet.packed
  ["J11YG11P11xO31Bw11Fw26Z11D11f1Cc1Aw3121v241s1.d1j1L31MIP12B11a1F51wP31.91"]

/-- The property `Default_Ignorable_Code_Point`. -/
def defaultIgnorableCodePoint : CharSet := CharSet.packed
  ["J51xl1Im1yW22PO12R25X_15q5N1gQD41XAP1gL71w51L29DBL14LC58BQHoww4"]

/-- The property `Deprecated`. -/
def deprecated : CharSet := CharSet.packed
  ["Fa1FF11zE2111Fx22BC26Vl2SCTr1"]

/-- The property `Diacritic`. -/
def diacritic : CharSet := CharSet.packed
  [".2111D21614122Tf_41856h24192Z75N61T1h1r111211C4842C424233z2rX2bW1by12.38F1agsZ11g134s1G21g1K",
   "31g1K31g1L13Y11g171T31K31g1K31g1J32g1Y31L31c611H31d5H22r1111142y2312.11M3112E1245p711a2xm3Qt",
   "2u1Q4b91Xa3A91k821M1f2bE31f1C19S12W11b2y22w26O2p416123O1_1V2cB1bZd113b3d3d3d2MD33Z91Wf6F34_2",
   "1OHt1c211s2O22ey1C33J32c1B11T41riV14A11_21c1A11R43x24P11A3593w42MVj1xogK8111L11J12z21Yn1_A16",
   "1G119Zj341B52Xh6C11q5Lc3C2bN14w61F11E22U32.11I2193E32O52M22g1o735V2312d2_2131X32X72.31S32P31",
   "J82y8241Y41P21i1N21Bd1y8112N21Fd2n1ID5fVCb1wK25X17Qh2yhhM22._f41712xU7K12nwh3368827u4yQ3.1y6",
   "7Tb1Z14.n2wn7J3313"]

/-- The property `Emoji`. -/
def emoji : CharSet := CharSet.packed
  ["z11615aL3141JY71c1U61m1W26f2Lb2c1C51pb43D61D72a191W1415912122214121122131328351115cb2211211i",
   "122i6111232512242b25221521112k256142141212611211111613161a2f12141114311b2M1391e1e1Qb2Le3j2P1",
   "141WC11c1Vi111GHL31G61w52c2e12aH2q12n1k129l2K5y12M322132P2231D81_1b61o7228c1242142d221829153",
   "c38321114161316S2M1C258234a3112312az7c41X8L11a1V5M3d3a5U17f2b69"]

/-- The property `Emoji_Component`. -/
def emojiComponent : CharSet := CharSet.packed
  ["z11615aP.71R61HFT11S.Y1qXf5MJ14IPxow3"]

/-- The property `Emoji_Modifier`. -/
def emojiModifier : CharSet := CharSet.packed
  ["X_Y35"]

/-- The property `Emoji_Modifier_Base`. -/
def emojiModifierBase : CharSet := CharSet.packed
  ["ZM91X61g4TzP31Y132123R322blj3143137111o1F6241l142K5335P21g391b1_h12188619a23U11Z121211h31dB7",
   "3G19"]

/-- The property `Emoji_Presentation`. -/
def emojiPresentation : CharSet := CharSet.packed
  ["WU82J643121Fg2l2O1cH11j1d182h2528151l1721141217142s1z11114311Z13o1e1Xq2P1141KBN31G61.512aH2q",
   "11o1k12513l2K5x1c91C21mcH145ch313D2111X52_1d41oi1q2d1S2R2M1C261332344b279z7c41X8L11a1V5M3d3a",
   "5U17f2b69"]

/-- The property `Extended_Pictographic`. -/
def extendedPictographic : CharSet := CharSet.packed
  ["F5141JY71c1U61m1W26f2Lb2c1_21C21pb43D61D72a191W14161c1O3aS32b1111613161a2f12141114311b5J1391",
   "e1e1Qb2Le3j2P1141WC11c1Vi111CHL3w8d3v1Y16c2e12aiV1rfa1k129149Od5.98G8M1w4Q3cR2H1c4U18a6E18uO",
   "2cL11a1Vdw8.v"]

/-- The property `Extender`. -/
def extender : CharSet := CharSet.packed
  ["T51Ug2Kr1Vd1Sj1F41V21Mn1_31zG21U11zj1Kc1A21FY41H15D32Z23SUr1SL11yu1m1F41I31l2Xzl1Mw22HK11r14",
   "1DC11B91Q32Of3LC11FBk2YA1211UGs2NB11Qq3"]

/-- The property `Grapheme_Base`. -/
def graphemeBase : CharSet := CharSet.packed
  ["w1_2x1d1OiM382647111k1w77C51C12O123K111121219r46hab11K1lg1B38162214w1211utV2b1eH1973o4191317",
   "f1p511b5vhG1V1T1111484137a2t1218222m1711343112622211d2134o5116422m1712121243o4117a2311c11913",
   "1m17121534811231f24c718218222m17121531216222f2134ib116331432111232333c5112331331ll6318131n1g",
   "3134j321224a7a1b131n1a15322112o2124a13eb131F12112531312431a4q221i3o19112792677a23cM112b88dB1",
   "211151o111a129125119a24w1o2r11111e1A1i15125N18161dB1J14161222p243g4d12261f1E111512Vb14271114",
   "2F1142x1142711142f1V1142z25t3q6S2262Zk3V27idj329ied13fQ1217812b93a6a6b5a6V2752y1115C2av44234",
   "216713G125bI14q6b3V1223U111911286da6a6eS2M1a4381t9c2w1426U1112311dM1825f3.15H12bb1d174161321",
   "5w6w2S8262C126281111111v2R11f1e261j23191b5o7N1g22r1d3x1_1I44WkmblQU12w11Ua325J111512U172fn97",
   "17171717171717x1.2y1q1V2cS6qW16g1S24B35H11.21S29M11JPs3T19YakL141aw12M2268K6221118lg13141p25",
   "4a6U18A2acod1C18pb1cu6M11242221d1b471p1F16222b318112a2w11P11132252111oh28b6262697171Y14R3121",
   "43a6AZacn4N1AE8Kb2G3C17c5511o151112121Z3gZd2S171w1ggamz11j14451D44Z42v362626233717d22c1q1j12",
   "1f2ey1X3534J13U21d31L1J1z4t3N1gr4A19u5C1au1B14eG1.42a6A14A14E18Q1bc1f17121b1f17123Q1cT99ma8o",
   "61G119B26211I112312n1E289M1j125x13r51w2U14k2L1f4131ta9797w2w1B16c9S13t2r5q74c7M2F2T1P1dP17G1",
   "ca6C18o82M6v1G13122g3X1E18mb9mi44C1skn911S1f74u1221cN1422214ep7a9A1519i8z113bQ19118421g1kbi1",
   "s324612_1711141f1b6L113da8218222m171215311114222231c7sa11211C11112f112311312D1U182311l1113uM",
   "11261121121248aC5L11264212rA1P1821124ba6djH11112826a6ksr3112419nV5L19121A3P2c82128121o151264",
   "139aC282G18414r1aE1624891623K1d129dF27aS5y1ea691C1e116at3w1p17121H27121C1l19a66121B14211117a",
   "S9j249f1A1823nS21fO1dXsC3L315bA6IO2z3dMx1h6pXY35DiVR6uc33aCS1Vh7v1a4N21a6u71aM17faa171l5jMdW",
   "1C6X2B3H25U1bdw24sU_58SC1F1aDT8417121z9f1t321e48IcAE2H35d397a2121wX3W76QdY4Q3Y1S7aD12Y153m27",
   "u4Z1ly231W3kckcT29pD4R21D2122122241c11171x21428171s141511371Qa2A92OhT14O181e17Qz1v66B8.1O4J1",
   "a72a42wauiI14a51Mes4aS6u2b41wf714121f1B629M1A2714a42NoA2I2Z1y641r1211211a1411116141111113121",
   "12111111111121124171414111a1h53151hQ12K8I14A3cf2f1f1B1aK5U1tdI14972e6W4Uu4h3d3T34_26c41fc4U1",
   "8a6E18u2c42.1Qace2d3a5U17f2b697P41C3Cw1wTF1w1Wx46.62yQ5eNF7fKjyJ2.gyL1HW45wz4"]

/-- The property `Grapheme_Extend`. -/
def graphemeExtend : CharSet := CharSet.packed
  ["woM3P87D8J111121211E2bM1lg1B37262214z11urX2bW1991o4191315H13X19G1o1w1T1111484137a2t1W1111248",
   "191a2q122V1142422331u231b2V11451241k2m611W1112148173a2u1X1111c191E1131T1113531472b2t1W112211",
   "331472b2s2V1211248191a2t1E2141231181N2127c8y3129b7F22r11111T1e15125b1A191C34161222p243g4d122",
   "61f1_l3Ot4s3t2u2w2217812b91J1311R32y11S33429163X6221W11171111286a21M1vN14M1a43C19c2w1426U111",
   "23115U1822U431d17416132C6w2Ig1z6x1._23J41w3w1Gh6F32QKt41aw12M22M813141p251T42qid1C18pb11I13M",
   "11242221A11z262222c181L11P1113225211G1281K712141MVj1xngggKb2Zi1y71R45CQ131254E1341B52Zh4x25Z",
   "92L24C2bN14X31S1fF1122a3N142271Z13A1518.11c2Q19118421_23246121Z4138l2V121111c191e735z2126112",
   "1134311e2R282311n1N212611211212H71246212r2R282112G311128B31112415z8912R71a441M442241w1aE1624",
   "819623K1d12Sc71611O2m271212W3631121711E223111Xa2b2Q1553n1BD516fECbc33wK25X17Uw11_14N21b2HBj2",
   "xP4K12n.g5368827u4Q43XZ1T14O181e1m51fMG171h271215A31w57Tb1Z14Yf4.72wn7J37RSBow3w4M7"]

/-- The property `Grapheme_Link`. -/
def graphemeLink : CharSet := CharSet.packed
  ["JG21_31_31_31_31_31_31_31J32g1Y31L31_31F61Q52VS12u1Z41Jk1z71B32C22HI41CQu1B11T41K41I31R91S71",
   "NOn1CM11F11e1V11V32H41Q31Q51y31w43N31_31Y71_31S31Q31J81z82x51P21i1N21Bd1A82N21Fd2ILg1"]

/-- The property `Hex_Digit`. -/
def hexDigit : CharSet := CharSet.packed
  ["M1a76q6FR_1a76q6"]

/-- The property `Hyphen`. -/
def hyphen : CharSet := CharSet.packed
  ["J11_31YC11XP41Fw22BM31zn1DHP11F51T21"]

/-- The property `IDS_Binary_Operator`. -/
def idsBinaryOperator : CharSet := CharSet.packed
  ["M_b22aNf1"]

/-- The property `IDS_Trinary_Operator`. -/
def idsTrinaryOperator : CharSet := CharSet.packed
  ["O_b2"]

/-- The property `IDS_Unary_Operator`. -/
def idsUnaryOperator : CharSet := CharSet.packed
  ["._b2"]

/-- The property `ID_Compat_Math_Continue`. -/
def idCompatMathContinue : CharSet := CharSet.packed
  ["O5251SZ713b1fPb141m1yBJ31p1v1p1v1p1v1p1v1p1"]

/-- The property `ID_Compat_Math_Start`. -/
def idCompatMathStart : CharSet := CharSet.packed
  ["yM8141m1yBJ31p1v1p1v1p1v1p1v1p1"]

/-- The property `ID_Continue`. -/
def idContinue : CharSet := CharSet.packed
  ["M1a7q411qL11a111215n1v1Ge4ce57111hR312241165111k1P21H4152C51C1216F18J1111212118r44tb5G24C318",
   "2a1j21gX12B3eS141212K1is4b5o168H21x42a1j18222m1711342922248142152ca1112316422m17121212211542",
   "233174117gb319131m1712152a131321f42a971318222m1712152922237342152a11g216331432111232333c4533",
   "142161eagd131n1g291314721321242ag418131n1a152913147262142a13cd131P1131554752aa6131i3o1911273",
   "14611186a22dW15f1aD1211151o111n2511171a24w11n26ab111114a1A14k1i1A191V1G26K22C111512H11Ja1427",
   "11142F1142x1142711142f1V1142z22399eggS2263Ij2h1q5H23b7m9mbkcd1312cQ231422ax131b6V27H15C2av1c",
   "4caE125bI14q6bB1s4_11t2b6ad18e1gN1J23ah9cQ3cU18a3N12b5H123g31D15Sg262C126281111111v2R1171133",
   "1734264d5317f2N12j1s1d1gdP1d413ch1412a11266111111g245541hF1TP2B769cC111512U171fo971717171717",
   "17171w1Bg3pf15254S2271_25H11.2hw1M1gwgwK6w2JQlz2K12J83skM14a1P3B192D32z2221118lS141jQ1cC2aa6",
   "o311N12A1ct3x2eb6v1T19e2a6n3F2o32g25a6262697171H11e6X3122a6AZacn4N1AE8Kb2G3C17c55c1d15111212",
   "1I3x1Hbiw22S1E1c4ggg32o3w151D4ja7q411qaW236262623z1c1q1j121f2ey1X3B2R1E41y4t3N1f1vw1du5H15u2",
   "A14815G1.42a6A14A14E18Q1cb1f17121b1f17123Q1cT99ma8o61G119B26211I112312nan9vx2j12amaqC2U162w2",
   "41258131t2341w1t3tz181upS1amajdiK3F2T1P1dP1dE18a6C1351nW7G11232g3T1x1a18x1vmG1lrn9D2vg9Y171d",
   "p7a6R11a448A1219B2441d11z1i1B164.1711141f1a7X15a6418222m1712151a22232161572735ba11211C11a112",
   "11418d2tH25a44uC2118aC5S129n6y1x231baC1V17a6ksr2f4a67V5X1B3G2l82128121u1229caC282K12812r_181",
   "8G231iF2D6x1fa691J119faou2m1eF27121I13112198a66121B112167aS9n9h1F135dbR21L2WsC3L3hA6IO2x3fMx",
   "1gmaXY35DiVR6W1CS1Vh7v1a6L21a6u25bT194ca9l5jMdJ13aC6w2w4H24V17hw2212b2eU_58SC1F1aDT8417121z9",
   "f1t321e48IcAE2H35d397a32Ny4aCgK12n.g5368827u4Q43XdR21D2122122241c11171x21428171s141511371Qa2",
   "p1p1v1p1v1p1v1p1v1p182O1wgT14O181e1m51fMy1v66R671h2712155.1x11M3J13e2a41xavhW1SeG1S6H1Bf7141",
   "21f1B6b7F1I24aCB141r1211211a141111614111111312112111111111121124171414111a1h53151hQF3aCw1wTF",
   "1w1Wx46.62yQ5eNF7fKjyJ2.gyL1HW45wz4MGTlM7"]

/-- The property `ID_Start`. -/
def idStart : CharSet := CharSet.packed
  ["x2q6qL11a1415n1v1Ge4ce57111x451224116113111k1P21H48C51C1216F1D2r44J1H1z121z311f272a321g11utV",
   "2b1ox192415m419131np7b5o16hG1W1S131i17afg48222m17113431g1d213e2a186422m17121212v411j3g9131m1",
   "7121531i1f2n1b8222m17121531u213f1h116331432111232333cm1Q18131n1g31q32122u148131n1a1531v212f2",
   "h9131F121g15383o65i3o191127W1M112c7W1211151o111a12912511l4w11_181A1r5P3H1k1g6443132734dc1hC1",
   "11512H11Ja142711142F1142x1142711142f1V1142z2B1ggS2263Ij2h1q5H23b7idjeied13fQ1z1141z2V27F1115",
   "C2avN1u25bI14qS1n9R1O21Z2L1h8S1ud2aI1qA1F13aA12b5H123F141612315w6w2S8262C126281111111v2R1171",
   "1331734264d5317Q31d1gdB31412a11266111111g245541hF1TP2B76432cC111512U171gn9717171717171717Ch3",
   "p975254S2451W2145H11.2hw1M1gwgwK6w2JQlz2K12J83ga2kL1gv2M2D192D32z2221118lg13141ntQ1eO1.16311",
   "2bsanpt7L1s1g51aa51F1n318kn313O11132252111o32b73c6262697171H11e6P3tAZacn4N1AE8Kb2G3C17c5511a",
   "1d151112121I3x1Hbiw22S1E1cQ351D4A1q6qbV236262623z1c1q1j121f2ey1X3B2R1H8t3N1L1w1du5C1au2A1481",
   "5G1.4iA14A14E18Q1cb1f17121b1f17123Q1cT99ma8o61G119B26211I112312nan9vx2j12amaqC2U162w21f4131t",
   "G1t3tz181srS1amajdiK3F2T1P1dP1dA1C1s9nW7G162g3X1ta18mG1iK1lrncR1V1221dJ1w1pqA1t1218z131cM1e4",
   "l111z1i1pj2_1711141f1a7L1C18222m17121531i1c5ua11211C111p111I1R1i4k3uM1k211U5L1F14A1M1k1X1H1d",
   "1D2rB17V5I1Q3w2v82128121of111.282D1g111s1aE171l1bK1j1iF2D6x1v91B1h1N1uM37121C1l1p6121w1e1Daj",
   "f11d1y1Y31L2WsC3L3hA6IO2x3fMx1h6pXY35DiVR6uyT1Vh7vhL2huiM1g4vl5jMdJ1P6w2w4H251y2dw2211sU_58S",
   "C1F1aDT8417121z9f1t321e48IcAE2H35d397aCX5R21D2122122241c11171x21428171s141511371Qa2p1p1v1p1v",
   "1p1v1p1v1p18QV1v66B8.1O4J1a7g1xauiI1AfsA7u21Lf714121f1B6X1A271QB141r1211211a1411116141111113",
   "12112111111111121124171414111a1h53151hAG4wTF1w1Wx46.62yQ5eNF7fKjyJ2.gyL1HW45wz4"]

/-- The property `Ideographic`. -/
def ideographic : CharSet := CharSet.packed
  ["Cwc2p9e3BuwK6w2wMkwEmKb2G3GEt1rU_58SC1F1aDz9IcAEjwTF1w1Wx46.62yQ5eNF7fKjyJ2.gyL1HW45wz4"]

/-- The property `Join_Control`. -/
def joinControl : CharSet := CharSet.packed
  ["Iw82"]

/-- The property `Logical_Order_Exception`. -/
def logicalOrderException : CharSet := CharSet.packed
  ["wO35X35MT2321WDA122112"]

/-- The property `Lowercase`. -/
def lowercase : CharSet := CharSet.packed
  ["x3qL11a141A1o1811111111111111111111111111111111111111111111111111111112111111111111111211111",
   "11111111111111111111111111111111111111111211113211121324121332121111121121121311122236121211",
   "11111111111111211111111111111111221113111111111111111111111111111111111111111111111111111111",
   "11117212211411111111B21A172u5w31H11113124i1rz11233111111111111111111111115112122P1M111111111",
   "11111111111111111111111111911111111111111111111111111111111111111111111111111111211111111111",
   "12111111111111111111111111111111111111111111111111111111111111111111111111111111111111111111",
   "111111M1F1DW2H114Un6yA2911R3w6x2111111111111111111111111111111111111111111111111111111111111",
   "11111111111111111111111111111111111111111111111111111111111111111111111111111111111111119111",
   "11111111111111111111111111111111111111111111111111111111111111111111111111111111111111111111",
   "11986a88886a8888e2888888512613312842288a312V31d1gdJ313231r14141228441x1g41HqqCW1M11132111111",
   "41121831111111111111111111111111111111111111111111111111111111111111111111111111111111111111",
   "11111111111112711141cC11151PEu111111111111111111111111111111111111111111111j1111111111111111",
   "11111111113B411111111111131111111111111111111111111111111111111111111111111111111111111a1111",
   "21111111114111211311111111111111111111515111111111111111411121311111111111m31113RpH11e6M2wWj",
   "7c5Fx1qJC1E1E4A1X4b1f1712ze1231G119BE1P1Z3mWV2w1wIlw1WIpqq71iqqq411171bqqqqqqqqqqqqqqqqqssp1",
   "6qp16qp16qp16qp1611QV1a1k66B8.1QB2y1"]

/-- The property `Math`. -/
def math : CharSet := CharSet.packed
  ["H11g3v1t111J1141B11v1Um321q223Lg3JM61r3b131d1e4l5b5x2d413245i1412a112661322213163e11A2o16124",
   "24w11162eI884k2W21ur11o1b7Zd2ca46422235e11126b852V1111t493Maw2w8wgM1l26Y.P11Tp611y51g3t111t1",
   "11z4164xJ32MPN1R21D2122122241c11171x21428171s141511371Qa2A92O1wM541r1211211a1411116141111113",
   "12112111111111121124171414111a1h53151hQ12"]

/-- The property `Modifier_Combining_Mark`. -/
def modifierCombiningMark : CharSet := CharSet.packed
  ["QO1221z416132xf21331v1"]

/-- The property `Noncharacter_Code_Point`. -/
def noncharacterCodePoint : CharSet := CharSet.packed
  ["MK_1w1Kg2.__12.__12.__12.__12.__12.__12.__12.__12.__12.__12.__12.__12.__12.__12.__12.__1"]

/-- The property `Other_Alphabetic`. -/
def otherAlphabetic : CharSet := CharSet.packed
  ["Bq1tdwie11121211E2bM1d17g1B37442241z11ugC3bB32391314G31Y1c376kS122f1253a2t3W172222a1a2t3W154",
   "22241u231b3W181312l2m343W17222292a2u1X153313a1E15V17131382b2t3W17131382b2f1c4W171313a1a2t3H2",
   "61118i2Z1127i1z312612g1z5j9b1A1K3c1124n443132734dc11a4QP12u2u2u2y2jY52y11S3c49.65V1a2kG22b3N",
   "15M1fY13u922V1bO1jYcy1xS1Q1SD2w1Qzu8y12yb181n5U22O1g11V11C15scJ14M1cB11z2ec182J13O11132251I1",
   "551J78PVj1Ty25CQ131254Qo4x21xa2L21z83R1eJ12b3J1991Z13A1ci2V13M1de2Y29216121Z4an4W172222a1a2Q",
   "2911211412D3d13G3iJ7727t2O2f11G3bD3ex8dT7612223111K472641saG1514ibK1eTc817P2m1eW363112131131",
   "y251214Ya49211M1733ZKghwN311T174Z22IBj1xX871h271215A31TB21E_1q6q6q"]

/-- The property `Other_Default_Ignorable_Code_Point`. -/
def otherDefaultIgnorableCodePoint : CharSet := CharSet.packed
  ["Lq1LM32PO12LB21.D41XNP11L29Dwwq11uw3w4M7MM3"]

/-- The property `Other_Grapheme_Extend`. -/
def otherGraphemeExtend : CharSet := CharSet.packed
  [".J21o1Cb1o1C31o1E7111421292D31o1T31f1RF21u1ww11511152B31D22Uw11xx42zFu1I31ZKl2wN41Q31E81e191",
   "w3191211351w71c1N71C81Vj1c1zM11KBk2PHo266JRHow3"]

/-- The property `Other_ID_Continue`. -/
def otherIdContinue : CharSet := CharSet.packed
  ["T51Lm1x_39EP11NN12JD41FPP11"]

/-- The property `Other_ID_Start`. -/
def otherIdStart : CharSet := CharSet.packed
  ["BA62NA21l1IX32"]

/-- The property `Other_Lowercase`. -/
def otherLowercase : CharSet := CharSet.packed
  ["G51f1Rf972u5w31Q11xI31Lx3_1d1y1B1Nl1d1gdP6gMqqOY12.Mu2O61x4332yr491Swn1231G119RzS1.1"]

/-- The property `Other_Math`. -/
def otherMath : CharSet := CharSet.packed
  [".21Nr321q222wx71r3b1w14o2e2x2d413245i1412a113561322213163455H25241212111522424i2211171162y94",
   "E5211o1h1Zd2c955522235e11126o2V1111t492Sa2vaPcm_14w12zzR111141P6111xCR1R21D2122122241c11171x",
   "21428171s141511371Qa2p1p1v1p1v1p1v1p1v1p182O1wM541r1211211a141111614111111312112111111111121",
   "124171414111a1h53151h"]

/-- The property `Other_Uppercase`. -/
def otherUppercase : CharSet := CharSet.packed
  ["wH8gCqqwzP3q6q6q"]

/-- The property `Pattern_Syntax`. -/
def patternSyntax : CharSet := CharSet.packed
  ["x1fa7q411q4y1711121112414131n1v1UU7o8f2j1aN9Mmw5SjuIz1wgw4xc34pf1JEP12B82"]

/-- The property `Pattern_White_Space`. -/
def patternWhiteSpace : CharSet := CharSet.packed
  ["95i1A31EY72o2"]

/-- The property `Prepended_Concatenation_Mark`. -/
def prependedConcatenationMark : CharSet := CharSet.packed
  ["wM16T61N11wc2M21W.x21f1"]

/-- The property `Quotation_Mark`. -/
def quotationMark : CharSet := CharSet.packed
  ["y1141z41f1YW78p2DM31Fe4d3xNP14Z5141W22"]

/-- The property `Radical`. -/
def radical : CharSet := CharSet.packed
  ["wQbq1V2cS6"]

/-- The property `Regional_Indicator`. -/
def regionalIndicator : CharSet := CharSet.packed
  ["CLY3q"]

/-- The property `Sentence_Terminal`. -/
def sentenceTerminal : CharSet := CharSet.packed
  ["x11c1g1FG11P43Q51H13S71Z111132B92AT12So142Bo1C62Z42J1151W92yb4y52a222t3X52x22At1n293LB33O91d",
   "1m2Jd1YDt1K82z7131.b2S22_21U42P43M42V71CNk122X1132F51c1g1x21QT22ZD15I14Z52R34_33x4261g2U2212",
   "I31G92R32Rb25fF32V73Bg111X72T22Ad2Ql2G22FVi2B41x22b1Fh2E91CMj1EL71"]

/-- The property `Soft_Dotted`. -/
def softDotted : CharSet := CharSet.packed
  ["F32A61V81u1Q11k1wa1y3111FE61P11d131A41Z41Bd1S62OV21BZF32O12O12O12O12O12O12O12O12O12O12O12O12",
   "CA21N92q1"]

/-- The property `Terminal_Punctuation`. -/
def terminalPunctuation : CharSet := CharSet.packed
  ["x11a111b231.p181xg1V11E21e113Q51H1b11H72S1618v1B82QD12I5146T92Ro8Bo1Y33D22Z4331D1422W92yb4y5",
   "2a213t3X55.12At1n293LB33O91d141a11232Id2XDt2J83z75.b2S22_21T43P43_31g2V71CNk122V1314F51a111b",
   "231x2121Wx11M11CA11D61S92U46A26V24Ut5I14Z57M34_33x4261g2U25I31G92R33c2Cb43fF32V73Bg111X72T22",
   "42.c3J11Bk2G22HF15VLh2B41x23a1Fh2D92CMj1DL74"]

/-- The property `Unified_Ideograph`. -/
def unifiedIdeograph : CharSet := CharSet.packed
  ["wwdwK6w2wMkKMm21112a1111223SKx2wTF1w1Wx46.62yQ5eNF7fKjyJ4HW45wz4"]

/-- The property `Uppercase`. -/
def uppercase : CharSet := CharSet.packed
  ["x2qB3n17x11111111111111111111111111111111111111111111111111111111211111111111111121111111111",
   "11111111111111111111111111111111111121111321112132412133212111112112112131112317121212111111",
   "11111111121111111111111111121211311111111111111111111111111111111111111111111111111111111117",
   "212211411111111x91113181611311121h19z11233111111111111111111111115121122P1M11111111111111111",
   "11111111111111111911111111111111111111111111111111111111111111111111111121111111111112111111",
   "111111111111111111111111111111111111111111111111111111111111111111111111111111111111111112C1",
   "FW2C11151OmS2PA216H123wa11111111111111111111111111111111111111111111111111111111111111111111",
   "11111111111111111111111111111111111111111111111111111111111111111111111111111111191111111111",
   "1111111111111111111111111111111111111111111111111111111111111111111111111111111111111119886a",
   "88886b111111188E24c4c4c5b4C8141332321356111111424a251qgj1OpqMV1M1M11132111111411218311111111",
   "11111111111111111111111111111111111111111111111111111111111111111111111111111111111111111181",
   "1141JGu111111111111111111111111111111111111111111111j111111111111111111111111111D41111111111",
   "11131111111111111111111111111111111111111111111111111111111111111a11112111111114111211131111",
   "1111111111111111515111111111111111411123151111111o1HVlqBC1E1E4A1Y4b1f1712GT1P1Z4mWV2w1wIlw1w",
   "Jpqqqqqq11221222418qqq2142817r214151137rqqqqqqqqqqqupx1px1px1px1px11RF4y1Kw2q6q6q"]

/-- The property `Variation_Selector`. -/
def variationSelector : CharSet := CharSet.packed
  ["Hw6311MLV1gMTwqM7"]

/-- The property `White_Space`. -/
def whiteSpace : CharSet := CharSet.packed
  ["95i1A31q1_K51_H2bt251L11wZ31"]

/-- The property `XID_Continue`. -/
def xidContinue : CharSet := CharSet.packed
  ["M1a7q411qL11a111215n1v1Ge4ce57111hR312331165111k1P21H4152C51C1216F18J1111212118r44tb5G24C318",
   "2a1j21gX12B3eS141212K1is4b5o168H21x42a1j18222m1711342922248142152ca1112316422m17121212211542",
   "233174117gb319131m1712152a131321f42a971318222m1712152922237342152a11g216331432111232333c4533",
   "142161eagd131n1g291314721321242ag418131n1a152913147262142a13cd131P1131554752aa6131i3o1911273",
   "14611186a22dW15f1aD1211151o111n2511171a24w11n26ab111114a1A14k1i1A191V1G26K22C111512H11Ja1427",
   "11142F1142x1142711142f1V1142z22399eggS2263Ij2h1q5H23b7m9mbkcd1312cQ231422ax131b6V27H15C2av1c",
   "4caE125bI14q6bB1s4_11t2b6ad18e1gN1J23ah9cQ3cU18a3N12b5H123g31D15Sg262C126281111111v2R1171133",
   "1734264d5317f2N12j1s1d1gdP1d413ch1412a11266111111g245541hF1TP2B769cC111512U171fo971717171717",
   "17171w1Bg3pf15254S222231_25H11.2hw1M1gwgwK6w2JQlz2K12J83skM14a1P3B192D32z2221118lS141jQ1cC2a",
   "a6o311N12A1ct3x2eb6v1T19e2a6n3F2o32g25a6262697171H11e6X3122a6AZacn4N1AE8Kb2G3C17c55c1d151112",
   "121I3x1H46W6iw22S1E1a6ggg32o3x1111311111111.3ja7q411qaW236262623z1c1q1j121f2ey1X3B2R1E41y4t3",
   "N1f1vw1du5H15u2A14815G1.42a6A14A14E18Q1cb1f17121b1f17123Q1cT99ma8o61G119B26211I112312nan9vx2",
   "j12amaqC2U162w241258131t2341w1t3tz181upS1amajdiK3F2T1P1dP1dE18a6C1351nW7G11232g3T1x1a18x1vmG",
   "1lrn9D2vg9Y171dp7a6R11a448A1219B2441d11z1i1B164.1711141f1a7X15a6418222m1712151a2223216157273",
   "5ba11211C11a11211418d2tH25a44uC2118aC5S129n6y1x231baC1V17a6ksr2f4a67V5X1B3G2l82128121u1229ca",
   "C282K12812r_1818G231iF2D6x1fa691J119faou2m1eF27121I13112198a66121B112167aS9n9h1F135dbR21L2Ws",
   "C3L3hA6IO2x3fMx1gmaXY35DiVR6W1CS1Vh7v1a6L21a6u25bT194ca9l5jMdJ13aC6w2w4H24V17hw2212b2eU_58SC",
   "1F1aDT8417121z9f1t321e48IcAE2H35d397a32Ny4aCgK12n.g5368827u4Q43XdR21D2122122241c11171x214281",
   "71s141511371Qa2p1p1v1p1v1p1v1p1v1p182O1wgT14O181e1m51fMy1v66R671h2712155.1x11M3J13e2a41xavhW",
   "1SeG1S6H1Bf714121f1B6b7F1I24aCB141r1211211a141111614111111312112111111111121124171414111a1h5",
   "3151hQF3aCw1wTF1w1Wx46.62yQ5eNF7fKjyJ2.gyL1HW45wz4MGTlM7"]

/-- The property `XID_Start`. -/
def xidStart : CharSet := CharSet.packed
  ["x2q6qL11a1415n1v1Ge4ce57111x451233116113111k1P21H48C51C1216F1D2r44J1H1z121z311f272a321g11utV",
   "2b1ox192415m419131np7b5o16hG1W1S131i17afg48222m17113431g1d213e2a186422m17121212v411j3g9131m1",
   "7121531i1f2n1b8222m17121531u213f1h116331432111232333cm1Q18131n1g31q32122u148131n1a1531v212f2",
   "h9131F121g15383o65i3o191127W1M111d7W1211151o111a11a12511l4w11_181A1r5P3H1k1g6443132734dc1hC1",
   "11512H11Ja142711142F1142x1142711142f1V1142z2B1ggS2263Ij2h1q5H23b7idjeied13fQ1z1141z2V27F1115",
   "C2avN1u25bI14qS1n9R1O21Z2L1h8S1ud2aI1qA1F13aA12b5H123F141612315w6w2S8262C126281111111v2R1171",
   "1331734264d5317Q31d1gdB31412a11266111111g245541hF1TP2B76432cC111512U171gn9717171717171717Ch3",
   "p975254S2631W2145H11.2hw1M1gwgwK6w2JQlz2K12J83ga2kL1gv2M2D192D32z2221118lg13141ntQ1eO1.16311",
   "2bsanpt7L1s1g51aa51F1n318kn313O11132252111o32b73c6262697171H11e6P3tAZacn4N1AE8Kb2G3C17c5511a",
   "1d151112121I3x1H46W6iw22S1E1aT3111311111111.3A1q6qbU12v36262623z1c1q1j121f2ey1X3B2R1H8t3N1L1",
   "w1du5C1au2A14815G1.4iA14A14E18Q1cb1f17121b1f17123Q1cT99ma8o61G119B26211I112312nan9vx2j12amaq",
   "C2U162w21f4131tG1t3tz181srS1amajdiK3F2T1P1dP1dA1C1s9nW7G162g3X1ta18mG1iK1lrncR1V1221dJ1w1pqA",
   "1t1218z131cM1e4l111z1i1pj2_1711141f1a7L1C18222m17121531i1c5ua11211C111p111I1R1i4k3uM1k211U5L",
   "1F14A1M1k1X1H1d1D2rB17V5I1Q3w2v82128121of111.282D1g111s1aE171l1bK1j1iF2D6x1v91B1h1N1uM37121C",
   "1l1p6121w1e1Dajf11d1y1Y31L2WsC3L3hA6IO2x3fMx1h6pXY35DiVR6uyT1Vh7vhL2huiM1g4vl5jMdJ1P6w2w4H25",
   "1y2dw2211sU_58SC1F1aDT8417121z9f1t321e48IcAE2H35d397aCX5R21D2122122241c11171x21428171s141511",
   "371Qa2p1p1v1p1v1p1v1p1v1p18QV1v66B8.1O4J1a7g1xauiI1AfsA7u21Lf714121f1B6X1A271QB141r1211211a1",
   "41111614111111312112111111111121124171414111a1h53151hAG4wTF1w1Wx46.62yQ5eNF7fKjyJ2.gyL1HW45w",
   "z4"]

/-! ### Names -/

/-- The properties with the names they answer to. -/
def byName : List (List String × CharSet) :=
  [(["ahex", "asciihexdigit"], asciiHexDigit),
   (["alpha", "alphabetic"], alphabetic),
   (["bidic", "bidicontrol"], bidiControl),
   (["bidim", "bidimirrored"], bidiMirrored),
   (["ci", "caseignorable"], caseIgnorable),
   (["cased"], cased),
   (["cwcf", "changeswhencasefolded"], changesWhenCasefolded),
   (["cwcm", "changeswhencasemapped"], changesWhenCasemapped),
   (["cwl", "changeswhenlowercased"], changesWhenLowercased),
   (["cwt", "changeswhentitlecased"], changesWhenTitlecased),
   (["cwu", "changeswhenuppercased"], changesWhenUppercased),
   (["dash"], dash),
   (["di", "defaultignorablecodepoint"], defaultIgnorableCodePoint),
   (["dep", "deprecated"], deprecated),
   (["dia", "diacritic"], diacritic),
   (["emoji"], emoji),
   (["ecomp", "emojicomponent"], emojiComponent),
   (["emod", "emojimodifier"], emojiModifier),
   (["ebase", "emojimodifierbase"], emojiModifierBase),
   (["epres", "emojipresentation"], emojiPresentation),
   (["extpict", "extendedpictographic"], extendedPictographic),
   (["ext", "extender"], extender),
   (["grbase", "graphemebase"], graphemeBase),
   (["grext", "graphemeextend"], graphemeExtend),
   (["grlink", "graphemelink"], graphemeLink),
   (["hex", "hexdigit"], hexDigit),
   (["hyphen"], hyphen),
   (["idsb", "idsbinaryoperator"], idsBinaryOperator),
   (["idst", "idstrinaryoperator"], idsTrinaryOperator),
   (["idsu", "idsunaryoperator"], idsUnaryOperator),
   (["idcompatmathcontinue"], idCompatMathContinue),
   (["idcompatmathstart"], idCompatMathStart),
   (["idc", "idcontinue"], idContinue),
   (["ids", "idstart"], idStart),
   (["ideo", "ideographic"], ideographic),
   (["joinc", "joincontrol"], joinControl),
   (["loe", "logicalorderexception"], logicalOrderException),
   (["lower", "lowercase"], lowercase),
   (["math"], math),
   (["mcm", "modifiercombiningmark"], modifierCombiningMark),
   (["nchar", "noncharactercodepoint"], noncharacterCodePoint),
   (["oalpha", "otheralphabetic"], otherAlphabetic),
   (["odi", "otherdefaultignorablecodepoint"], otherDefaultIgnorableCodePoint),
   (["ogrext", "othergraphemeextend"], otherGraphemeExtend),
   (["oidc", "otheridcontinue"], otherIdContinue),
   (["oids", "otheridstart"], otherIdStart),
   (["olower", "otherlowercase"], otherLowercase),
   (["omath", "othermath"], otherMath),
   (["oupper", "otheruppercase"], otherUppercase),
   (["patsyn", "patternsyntax"], patternSyntax),
   (["patws", "patternwhitespace"], patternWhiteSpace),
   (["pcm", "prependedconcatenationmark"], prependedConcatenationMark),
   (["qmark", "quotationmark"], quotationMark),
   (["radical"], radical),
   (["ri", "regionalindicator"], regionalIndicator),
   (["sterm", "sentenceterminal"], sentenceTerminal),
   (["sd", "softdotted"], softDotted),
   (["term", "terminalpunctuation"], terminalPunctuation),
   (["uideo", "unifiedideograph"], unifiedIdeograph),
   (["upper", "uppercase"], uppercase),
   (["vs", "variationselector"], variationSelector),
   (["wspace", "whitespace", "space"], whiteSpace),
   (["xidc", "xidcontinue"], xidContinue),
   (["xids", "xidstart"], xidStart)]

end Admission.Unicode.Property
