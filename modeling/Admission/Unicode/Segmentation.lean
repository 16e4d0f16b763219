import Admission.Unicode.CharSet

/-!
# Segmentation — where graphemes, words and sentences may be divided

  For each of the three divisions the classes of characters that its rules speak of.
  The names are the short and the long name of a class in the loose form of
  `Names.normalize`.
-/

namespace Admission.Unicode.Segmentation

/-- Classes of `Grapheme_Cluster_Break`. -/
def graphemeClasses : List (List String × CharSet) :=
  [(["cr"], CharSet.packed
     ["d1"]),
   (["cn", "control"], CharSet.packed
     ["0a121i_2x1d1KH11NL41Y_1122o7N1gLQT11M7cQxdgwzy14LC58BQHow1w3w4M7MM3"]),
   (["ex", "extend"], CharSet.packed
     ["woM3P87D8J111121211E2bM1lg1B37262214z11urX2bW1991o4191315H13X19G1o1w1T1111484137a2t1W111",
      "1248191a2q122V1142422331u231b2V11451241k2m611W1112148173a2u1X1111c191E1131T1113531472b2t",
      "1W112211331472b2s2V1211248191a2t1E2141231181N2127c8y3129b7F22r11111T1e15125b1A191C341612",
      "22p243g4d12261f1_l3Ot4s3t2u2w2217812b91J1311R32y11S33429163X6221W11171111286a21M1vN14M1a",
      "43C19c2w1426U11123115U1822U431d17416132C6w2Ig1z6x1._23J41w3w1Gh6F32QKt41aw12M22M813141p2",
      "51T42qid1C18pb11I13M11242221A11z262222c181L11P1113225211G1281K712141MVj1xngggKb2Zi1y71R4",
      "5CQ131254E1341B52Zh4x25Z92L24C2bN14X31S1fF1122a3N142271Z13A1518.11c2Q19118421_23246121Z4",
      "138l2V121111c191e735z21261121134311e2R282311n1N212611211212H71246212r2R282112G311128B311",
      "12415z8912R71a441M442241w1aE1624819623K1d12Sc71611O2m271212W3631121711E223111Xa2b2Q1553n",
      "1BD516fECbc33wK25X17Uw11_14N21b2HBj2xP4K12n.g5368827u4Q43XZ1T14O181e1m51fMG171h271215A31",
      "w57Tb1Z14Yf4.72wn7J37MR25wxzow3w4M7"]),
   (["l"], CharSet.packed
     ["wE4w3wwC1t"]),
   (["lf"], CharSet.packed
     ["a1"]),
   (["lv"], CharSet.packed
     ["wwH11r1r1r1r1r1r1r1r1r1r1r1r1r1r1r1r1r1r1r1r1r1r1r1r1r1r1r1r1r1r1r1r1r1r1r1r1r1r1r1r1r1r",
      "1r1r1r1r1r1r1r1r1r1r1r1r1r1r1r1r1r1r1r1r1r1r1r1r1r1r1r1r1r1r1r1r1r1r1r1r1r1r1r1r1r1r1r1r",
      "1r1r1r1r1r1r1r1r1r1r1r1r1r1r1r1r1r1r1r1r1r1r1r1r1r1r1r1r1r1r1r1r1r1r1r1r1r1r1r1r1r1r1r1r",
      "1r1r1r1r1r1r1r1r1r1r1r1r1r1r1r1r1r1r1r1r1r1r1r1r1r1r1r1r1r1r1r1r1r1r1r1r1r1r1r1r1r1r1r1r",
      "1r1r1r1r1r1r1r1r1r1r1r1r1r1r1r1r1r1r1r1r1r1r1r1r1r1r1r1r1r1r1r1r1r1r1r1r1r1r1r1r1r1r1r1r",
      "1r1r1r1r1r1r1r1r1r1r1r1r1r1r1r1r1r1r1r1r1r1r1r1r1r1r1r1r1r1r1r1r1r1r1r1r1r1r1r1r1r1r1r1r",
      "1r1r1r1r1r1r1r1r1r1r1r1r1r1r1r1r1r1r1r1r1r1r1r1r1r1r1r1r1r1r1r1r1r1r1r1r1r1r1r1r1r1r1r1r",
      "1r1r1r1r1r1r1r1r1r1r1r1r1r1r1r1r1r1r1r1r1r1r1r1r1r1r1r1r1r1r1r1r1r1r1r1r1r1r1r1r1r1r1r1r",
      "1r1r1r1r1r1r1r1r1r1r1r1r1r1r1r1r1r1r1r1r1r1r1r1r1r1r1r1r1r1r1r1r1r1r1r1r1r1r1r1r1r1r1r1r",
      "1r1r1r1r1"]),
   (["lvt"], CharSet.packed
     ["xwH1r1r1r1r1r1r1r1r1r1r1r1r1r1r1r1r1r1r1r1r1r1r1r1r1r1r1r1r1r1r1r1r1r1r1r1r1r1r1r1r1r1r1",
      "r1r1r1r1r1r1r1r1r1r1r1r1r1r1r1r1r1r1r1r1r1r1r1r1r1r1r1r1r1r1r1r1r1r1r1r1r1r1r1r1r1r1r1r1",
      "r1r1r1r1r1r1r1r1r1r1r1r1r1r1r1r1r1r1r1r1r1r1r1r1r1r1r1r1r1r1r1r1r1r1r1r1r1r1r1r1r1r1r1r1",
      "r1r1r1r1r1r1r1r1r1r1r1r1r1r1r1r1r1r1r1r1r1r1r1r1r1r1r1r1r1r1r1r1r1r1r1r1r1r1r1r1r1r1r1r1",
      "r1r1r1r1r1r1r1r1r1r1r1r1r1r1r1r1r1r1r1r1r1r1r1r1r1r1r1r1r1r1r1r1r1r1r1r1r1r1r1r1r1r1r1r1",
      "r1r1r1r1r1r1r1r1r1r1r1r1r1r1r1r1r1r1r1r1r1r1r1r1r1r1r1r1r1r1r1r1r1r1r1r1r1r1r1r1r1r1r1r1",
      "r1r1r1r1r1r1r1r1r1r1r1r1r1r1r1r1r1r1r1r1r1r1r1r1r1r1r1r1r1r1r1r1r1r1r1r1r1r1r1r1r1r1r1r1",
      "r1r1r1r1r1r1r1r1r1r1r1r1r1r1r1r1r1r1r1r1r1r1r1r1r1r1r1r1r1r1r1r1r1r1r1r1r1r1r1r1r1r1r1r1",
      "r1r1r1r1r1r1r1r1r1r1r1r1r1r1r1r1r1r1r1r1r1r1r1r1r1r1r1r1r1r1r1r1r1r1r1r1r1r1r1r1r1r1r1r1",
      "r1r1r1r1r"]),
   (["pp", "prepend"], CharSet.packed
     ["wM16T61N11wc2M21Hz11KXw21f1Q72Jg1JH1111U71F26Yl1Xd1"]),
   (["ri", "regionalindicator"], CharSet.packed
     ["CLY3q"]),
   (["sm", "spacingmark"], CharSet.packed
     ["zE21T11238412O12X126222S11W13y21W138112R12Y116222O31123313Q13Z14Z12W112112K11e2X125313R1",
      "2I2267j2_11_31G42_11N5192p2I11NV117812Wa4234216w72W1111l6N41V14w21u142_112311R1882H51l1H",
      "Vy1221U22O1gK41M11M124222L3222o1Z412251J72121211Pwp111_31J1342P31o2X11M1391e1Z2332I53v2X",
      "11142222l2R22f112D338231H3261121121K726421N338211J3112K3171B8391U75127111K438441Q21t2.11",
      "Tc1e1G317121R654211.a2c1M1282GLg3AN3T1"]),
   (["t"], CharSet.packed
     ["EJ4U2HKN1N1"]),
   (["v"], CharSet.packed
     ["wH4E2EMN1nYIB1134"]),
   (["zwj"], CharSet.packed
     ["Jw81"])]

/-- Classes of `Word_Break`. -/
def wordClasses : List (List String × CharSet) :=
  [(["le", "aletter"], CharSet.packed
     ["x2q6qL11a1415n1v1wf6y1M351224116113111k1P21H48C51C124111F111E31I1H1z121z311f272a321f21ut",
      "V2b1ox192415m419131np7b5o16hG1W1S131i17afg48222m17113431g1d213e2a186422m17121212v411j3g9",
      "131m17121531i1f2n1b8222m17121531u213f1h116331432111232333cm1Q18131n1g31q32122u148131n1a1",
      "531v212f2h9131F121g15383o65i3o191127V91_181A1r5P8C111512H11Ja142711142F1142x1142711142f1",
      "V1142z2B1ggS2263Ij2h1q5H23b7idjeied13L5V2752y1115C2avx7nK7L1h8S1ud2aI1qA1F13aA12b5H123F1",
      "41612315w6w2S8262C126281111111v2R11711331734264d5317Q31d1gdB31412a1135611111141b245541hF",
      "1JpQ1SU1B76432cC111512U171gn9717171717171717M21Re1R12E6H11.2hw1wOrJA1z2K12J83ga2kL1gv2M2",
      "oC6221118lg13141ntQ1eO1.163112bsanpt7L1s1M1F1n318Q4b73c6262697171W16P3tAZacn4N1AU87c5U1y",
      "3x1Hbiw22S1E1cQ351D4A1q6qB2v36262623z1c1q1j121f2ey1X3B2R1H8t3N1L1w1du5C1au2A14815G1.4iA1",
      "4A14E18Q1cb1f17121b1f17123Q1cT99ma8o61G119B26211I112312nan9vx2j12amaqC2U162w21f4131tG1t3",
      "tz181srS1amajdiK3F2T1P1dP1dA1C1s9nW7G162g3X1ta18mG1iK1lrncR1V1221dJ1w1pqA1t1218z131cM1e4",
      "l111z1i1pj2_1711141f1a7L1C18222m17121531i1c5ua11211C111p111I1R1i4k3uM1k211U5L1F14A1M1k1X",
      "1H1d1DaI1Q3w2v82128121of111.282D1g111s1aE171l1bK1j1iF2D6x1v91B1h1N1uM37121C1l1p6121w1e1D",
      "ajf11d1y1Y31L2WsC3L3hA6IO2x3fMx1h6pXY35DiVR6uyT1Vh7vhL2huiM1g4vl5jMdJ1P6w2w4H251y2dw2211",
      "YwjH35d397aCX5R21D2122122241c11171x21428171s141511371Qa2p1p1v1p1v1p1v1p1v1p18QV1v66B8.1O",
      "4J1a7g1xauiI1AfsA7u21Lf714121f1B6X1A271QB141r1211211a14111161411111131211211111111112112",
      "4171414111a1h53151hQjq6q6q"]),
   (["cr"], CharSet.packed
     ["d1"]),
   (["dq", "doublequote"], CharSet.packed
     ["y11"]),
   (["extend"], CharSet.packed
     ["woM3P87D8J111121211E2bM1lg1B37262214z11urX2bW1991o4191315H13X19G1o1x1S131i17a2t3U1117222",
      "391a2q123U1115422331u231b3U11181313k2m613U1117222373a2u1X15331491E15T1117131472b2t3U1117",
      "131472b2f1c4T1217131491a2t3C21461118i2Z1127c8y3129b7F22r1111142N1k125b1A191A3kn443132734",
      "dc11a4_l3Ot4s3t2u2w2w191J1311R32y11S3c4cX65V1a1t21M1vN15L1hC19c3udU1eM1kU431l416123C6w2I",
      "g1z6x1._23J41w3w1Gh6F32QKt41aw12M22M813141n541P22O1iqid1C18pdI14L1eA11z2ec182J13O1113225",
      "211F1552I7812MVj1xngggKb2Zi1y71R45CQ131254E1341B52Zh4x25Z92L24C2bN14W33R1fF1122a4J1b71Z1",
      "3A1eg2I11c3M1e8412Y2c6121Z4cl4T1217222391a22735z291121141511e2O2in1N2kH7729r2O2hG3dB3fw8",
      "fR7612241112J472731saE1714819bK1gRc818O2m1eW3631121711y251215Xa49211M1735n1BD516fECbiwK2",
      "5X17Uw111T174N21b2HBj2xP4K12n.g5368827u4Q43XZ1T14O181e1m51fMG171h271215A31w57Tb1Z14Yf4.7",
      "2wn7J37MR25wxzow3w4M7"]),
   (["ex", "extendnumlet"], CharSet.packed
     ["_21L.71f2j1.KT12o3L71"]),
   (["fo", "format"], CharSet.packed
     ["J51KH11NL41__12q5N151aLQT11V73Qxdgwzy14LC58CQHo1"]),
   (["hl", "hebrewletter"], CharSet.packed
     ["MK1r44GFZ111a1d151112121a"]),
   (["ka", "katakana"], CharSet.packed
     ["Nxc5B323X214M7gM6L11U2KwP1U1OyI14171211_83O11e4"]),
   (["lf"], CharSet.packed
     ["a1"]),
   (["ml", "midletter"], CharSet.packed
     ["W11Y31Lm1Te1Q41ON61HLT11x21A61"]),
   (["mn", "midnum"], CharSet.packed
     ["I11e1yq1Gg1y42.21Hc1Hy61HMT1131T51e1"]),
   (["mb", "midnumlet"], CharSet.packed
     ["K11F_72a1JNT11Q5161"]),
   (["nl", "newline"], CharSet.packed
     ["b2U31yZ72"]),
   (["nu", "numeric"], CharSet.packed
     ["M1aCK16W2a11N31iaC6aC62M21z4aS3aS3aS3aS3aS3aS3aS3aS3aS3aw3aS3aC2aS8aC2aCW1aC1aI9aw4bB5a6",
      "aS5aS2aC4a6aCKy1aClaC1aC6amaS2aScaSUkaCI1aCA2a6aYoaJ21f1y1aY1aM4aS8aSaaS3aSbaC3a6kI2aCda",
      "C3aSkaS2aS7aC2aCdaSKgaCF2aS2aC4aSgaSXnaQS2O1wG2aCdaSfaT7aRqaSQ4a"]),
   (["ri", "regionalindicator"], CharSet.packed
     ["CLY3q"]),
   (["sq", "singlequote"], CharSet.packed
     ["D11"]),
   (["wsegspace"], CharSet.packed
     ["w11_O51_H2713Q21wZ31"]),
   (["zwj"], CharSet.packed
     ["Jw81"])]

/-- Classes of `Sentence_Break`. -/
def sentenceClasses : List (List String × CharSet) :=
  [(["at", "aterm"], CharSet.packed
     ["K11R_71JNT11X51"]),
   (["cr"], CharSet.packed
     ["d1"]),
   (["cl", "close"], CharSet.packed
     ["y1143N1111t111J11f1.P34ZW12XH28p2a2S12e2Vj4t2Mx167eL22vaPcm_14w12yw1ee22ao1i8Hda2813.EP1",
      "2T62sg22g6F52N1111t1111212OUZ13"]),
   (["ex", "extend"], CharSet.packed
     ["woM3P87D8J111121211E2bM1lg1B37262214z11urX2bW1991o4191315H13X19G1o1x1S131i17a2t3U1117222",
      "391a2q123U1115422331u231b3U11181313k2m613U1117222373a2u1X15331491E15T1117131472b2t3U1117",
      "131472b2f1c4T1217131491a2t3C21461118i2Z1127c8y3129b7F22r1111142N1k125b1A191A3kn443132734",
      "dc11a4_l3Ot4s3t2u2w2w191J1311R32y11S3c4cX65V1a1t21M1vN15L1hC19c3udU1eM1kU431l416123C6w2I",
      "g2y6x1._23J41w3w1Gh6F32QKt41aw12M22M813141n541P22O1iqid1C18pdI14L1eA11z2ec182J13O1113225",
      "211F1552I7812MVj1xngggKb2Zi1y71R45CQ131254E1341B52Zh4x25Z92L24C2bN14W33R1fF1122a4J1b71Z1",
      "3A1eg2I11c3M1e8412Y2c6121Z4cl4T1217222391a22735z291121141511e2O2in1N2kH7729r2O2hG3dB3fw8",
      "fR7612241112J472731saE1714819bK1gRc818O2m1eW3631121711y251215Xa49211M1735n1BD516fECbiwK2",
      "5X17Uw111T174N21b2HBj2xP4K12n.g5368827u4Q43XZ1T14O181e1m51fMG171h271215A31w57Tb1Z14Yf4.7",
      "2wn7J37RSBow3w4M7"]),
   (["fo", "format"], CharSet.packed
     ["J51KH11O71.D41Y_1122q5N151aLQT11V73Qxdgwzy14LC58CQHo1"]),
   (["lf"], CharSet.packed
     ["a1"]),
   (["lo", "lower"], CharSet.packed
     ["x3qL11a141A1o181111111111111111111111111111111111111111111111111111111211111111111111121",
      "1111111111111111111111111111111111111111111112111132111213241213321211111211211213111222",
      "3612121111111111111111211111111111111111221113111111111111111111111111111111111111111111",
      "11111111111111117212211411111111B21A172u5I41113124i1rz1123311111111111111111111111511212",
      "2P1M111111111111111111111111111111111119111111111111111111111111111111111111111111111111",
      "1111121111111111112111111111111111111111111111111111111111111111111111111111111111111111",
      "111111111111111111111111111M1F1PX21Xn6yA2911R3w6x211111111111111111111111111111111111111",
      "1111111111111111111111111111111111111111111111111111111111111111111111111111111111111111",
      "1111111111111111111111911111111111111111111111111111111111111111111111111111111111111111",
      "11111111111111111111111111111111986a88886a8888e2888888512613312842288a312V31d1gdJ313231r",
      "14141228441x1g41HqqCW1M11132111111411218311111111111111111111111111111111111111111111111",
      "1111111111111111111111111111111111111111111111111112711141cC11151PEu11111111111111111111",
      "1111111111111111111111111j111111111111111111111111113B4111111111111311111111111111111111",
      "11111111111111111111111111111111111111111a1111211111111141112113111111111111111111115151",
      "11111111111111411121311111111111m31113RpH11e6M2wWj7c5Fx1qJC1E1E4A1X4b1f1712ze1231G119BE1",
      "P1Z3mWV2w1wIlw1WIpqq71iqqq411171bqqqqqqqqqqqqqqqqqssp16qp16qp16qp16qp1611QV1a1k66B8.1QB2",
      "y1"]),
   (["nu", "numeric"], CharSet.packed
     ["M1aCK16W2a12M31iaC6aC62M21z4aS3aS3aS3aS3aS3aS3aS3aS3aS3aw3aS3aC2aS8aC2aCW1aC1aI9aw4bB5a6",
      "aS5aS2aC4a6aCKy1aClaC1aC6amaS2aScaSUkaCI1aCA2a6aYoaJ21f1y1aY1aM4aS8aSaaS3aSbaC3a6kI2aCda",
      "C3aSkaS2aS7aC2aCdaSKgaCF2aS2aC4aSgaSXnaQS2O1wG2aCdaSfaT7aRqaSQ4a"]),
   (["le", "oletter"], CharSet.packed
     ["Xd144M61A176cq111B41Af1S3r45I1H1z121z311f272a321g11utV2b1ox192415m419131np7b5o16hG1W1S13",
      "1i17afg48222m17113431g1d213e2a186422m17121212v411j3g9131m17121531i1f2n1b8222m17121531u21",
      "3f1h116331432111232333cm1Q18131n1g31q32122u148131n1a1531v212f2h9131F121g15383o65i3o19112",
      "7W1M112c7W1211151o111a12912511l4w11_181A1r5P3H1k1g6443132734dc1x2H12Ia142711142F1142x114",
      "2711142f1V1142z2B1gN3Ij2h1q5H23b7idjeied13fQ1z1141z2V2752y1115C2avN1u25bI14qS1n9R1O21Z2L",
      "1h8S1ud2aI1qA1F13aA1iH123F14161231Wx14D2324DZ2U171gn9717171717171717M21Re3p975254S2631W2",
      "145H11.2hw1M1gwgwK6w2JQlz2K12J83ga2y21g1w1M2D19E3161D313713141ntQ1eO1.163112bsanpt7L1s1g",
      "51aa51F1n318kn313O11132252111o32b73c626269717N4z1tAZacn4N1AE8Kb2G3z211a1d151112121I3x1Hb",
      "iw22S1E1cQ351D4F3U12v36262623z1c1q1j121f2ey1X3B2R1H8t3N1L1w1du5C1au2A14815W3K2y3E18Q1Y2Q",
      "1cT99ma8p2Z36211I112312nan9vx2j12amaqC2U162w21f4131tG1t3tz181srS1amajdiK3F2T5A1C16v1M8G1",
      "62g3X1ta18mG1iK1lrncR1V1221dJ1w1pqA1t1218z131cM1e4l111z1i1pj2_1711141f1a7L1C18222m171215",
      "31i1c5ua11211C111p111I1R1i4k3uM1k211U5L1F14A1M1k1X1H1d1D2rB17V5I1P682128121of111.282D1g1",
      "11s1aE171l1bK1j1iF2D6x1v91B1h1N1uM37121C1l1p6121w1e1Dajf11d1y1Y31L2WsC3L3hA6IO2x3fMx1h6p",
      "XY35DiVR6uyT1Vh7vhL2huiM1g4vl5jMdJ1PcH251y2dw2211sU_58SC1F1aDT8417121z9f1t321e48IcAE2H35",
      "d397aMP81RfJ1a7g1xauiI1AfsA7u21Lf714121f1B6C41QB141r1211211a1411116141111113121121111111",
      "11121124171414111a1h53151hAG4wTF1w1Wx46.62yQ5eNF7fKjyJ2.gyL1HW45wz4"]),
   (["sc", "scontinue"], CharSet.packed
     ["I12c2yq1.e1K52Gf1Fw4151Gw22I_31KMP1212s2t22221a1E52c2E21"]),
   (["st", "sterm"], CharSet.packed
     ["x11t1FG11P43Q51H13S71Z111132B92AT12So142Bo1C62Z42J1151W92yb4y52a222t3X52x22Yt293LB33O91d",
      "1m2Jd1YDt1K82z7131.b2S22_21U42P43M42V71CNk122_12F51t1x21QT22ZD15I14Z52R34_33x4261g2U2212",
      "I31G92R32Rb25fF32V73Bg111X72T22Ad2Ql2G22FVi2B41x22b1Fh2E91CMj1EL71"]),
   (["se", "sep"], CharSet.packed
     ["B41yZ72"]),
   (["sp"], CharSet.packed
     ["9112j1_31_K51_H2bA11L11wZ31"]),
   (["up", "upper"], CharSet.packed
     ["x2qB3n17x1111111111111111111111111111111111111111111111111111111121111111111111112111111",
      "1111111111111111111111111111111111111111211113211121324121332121111121121121311123172121",
      "2111111111111111121111111111111111122111311111111111111111111111111111111111111111111111",
      "111111111117212211411111111x91113181611311121h19z11233111111111111111111111115121122P1M1",
      "1111111111111111111111111111111119111111111111111111111111111111111111111111111111111111",
      "2111111111111211111111111111111111111111111111111111111111111111111111111111111111111111",
      "1111111111111111111112C1FW2C11151OmS2PA21Sb111111111111111111111111111111111111111111111",
      "1111111111111111111111111111111111111111111111111111111111111111111111111111111111111111",
      "1111111111111111911111111111111111111111111111111111111111111111111111111111111111111111",
      "111111111111111111111111119886a88886b111111188o8888885b5b4c5b5B8141332321356111111424a25",
      "1qgj1OpqMV1M1M11132111111411218311111111111111111111111111111111111111111111111111111111",
      "111111111111111111111111111111111111111111811141JGu1111111111111111111111111111111111111",
      "11111111j111111111111111111111111111D411111111111113111111111111111111111111111111111111",
      "1111111111111111111111111a11112111111114111211131111111111111111111151511111111111111141",
      "1123151111111o1HVlqBC1E1E4A1Y4b1f1712GT1P1Z4mWV2w1wIlw1wJpqqqqqq11221222418qqq2142817r21",
      "4151137rqqqqqqqqqqqupx1px1px1px1px11RF4y1Kw2q6q6q"])]

end Admission.Unicode.Segmentation
