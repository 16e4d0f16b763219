import Admission.Unicode.CharSet

/-!
# General categories — what kind of character each code point is

  Every code point has one general category of two letters; the first letter names
  the group. Code points of none of the categories listed here are unassigned.

  `byName` lists the names under which a pattern may ask for a category or a group:
  the letters, the long name and the historical ones, all in the loose form of
  `Names.normalize`.
-/

namespace Admission.Unicode.Category

/-! ### The categories -/

/-- The category `Lu`, uppercase letter. -/
def uppercaseLetter : CharSet := CharSet.packed
  ["x2qB3n17x11111111111111111111111111111111111111111111111111111111211111111111111121111111111",
   "11111111111111111111111111111111111121111321112132412133212111112112112131112317121212111111",
   "11111111121111111111111111121211311111111111111111111111111111111111111111111111111111111117",
   "212211411111111x91113181611311121h19z11233111111111111111111111115121122P1M11111111111111111",
   "11111111111111111911111111111111111111111111111111111111111111111111111121111111111112111111",
   "111111111111111111111111111111111111111111111111111111111111111111111111111111111111111112C1",
   "FW2C11151OmS2PA216H123wa11111111111111111111111111111111111111111111111111111111111111111111",
   "11111111111111111111111111111111111111111111111111111111111111111111111111111111191111111111",
   "1111111111111111111111111111111111111111111111111111111111111111111111111111111111111119886a",
   "88886b111111188E24c4c4c5b4C8141332321356111111424a251Z11YP2M1M111321111114112183111111111111",
   "11111111111111111111111111111111111111111111111111111111111111111111111111111111111111811141",
   "JGu111111111111111111111111111111111111111111111j111111111111111111111111111D411111111111113",
   "1111111111111111111111111111111111111111111111111111111111111a111121111111141112111311111111",
   "111111111111515111111111111111411123151111111o1HVlqBC1E1E4A1Y4b1f1712GT1P1Z4mWV2w1wIlw1wJpqq",
   "qqqq11221222418qqq2142817r214151137rqqqqqqqqqqqupx1px1px1px1px11RF4y1"]

/-- The category `Ll`, lowercase letter. -/
def lowercaseLetter : CharSet := CharSet.packed
  ["x3qW11F1o18111111111111111111111111111111111111111111111111111111121111111111111112111111111",
   "11111111111111111111111111111111111112111132111213241213321211111211211213111222361212111111",
   "11111111112111111111111111112211131111111111111111111111111111111111111111111111111111111111",
   "7212211411111111B21rx61113133i1rz11233111111111111111111111115112122P1M111111111111111111111",
   "11111111111111911111111111111111111111111111111111111111111111111111211111111111121111111111",
   "11111111111111111111111111111111111111111111111111111111111111111111111111111111111111M1F1DW",
   "2H123Un6yA2911R3I1_1d1y1C3111111111111111111111111111111111111111111111111111111111111111111",
   "11111111111111111111111111111111111111111111111111111111111111111111111111111111119111111111",
   "1111111111111111111111111111111111111111111111111111111111111111111111111111111111111111986a",
   "88886a8888e2888888512613312842288a312O813231r14141228441R11HR2M11132111111411216511111111111",
   "11111111111111111111111111111111111111111111111111111111111111111111111111111111111111127111",
   "41cC11151PEu111111111111111111111111111111111111111111111j111111111111111111111111111D411111",
   "11111113111111111111111111111111111111111111111111111111111111111111111811112111111111411121",
   "1311111111111111111111515111111111111111411121311111111111q131RpH1597M2wWj7c5Fx1qJC1E1E4A1X4",
   "b1f1712zU1P1Z3mWV2w1wIlw1WIpqq71iqqq411171bqqqqqqqqqqqqqqqqqssp16qp16qp16qp16qp1611QV1a1k66T",
   "L2y1"]

/-- The category `Lt`, titlecase letter. -/
def titlecaseLetter : CharSet := CharSet.packed
  ["Be12121C11RI788888c1f1L11"]

/-- The category `Lm`, modifier letter. -/
def modifierLetter : CharSet := CharSet.packed
  ["Mli4ce57111B4151.e1C71A52J8241v19131w51D51QC11_31Rh1WS11H31zj1Me6K5_1d1y1B1Nl1d1gd_.22N71_51",
   "Re1H1551x32Z23SUr1yD16K81O31s2V39M21n1F3332Re1m1F41I31l2D3491Cwl1J12w_161G119PI11w11MKn4Yf3E",
   "12Chdw2211Iwg41712Nxc.1F67Jt1_y11"]

/-- The category `Lo`, other letter. -/
def otherLetter : CharSet := CharSet.packed
  ["G51f1w8144M61Xpr44J1w11az121z311o2a321g11utV2b1ox1lmG1p7b5o16hF1X1S131i17agf48222m17113431g1",
   "d213e2a186422m17121212v411j3g9131m17121531i1f2n1b8222m17121531u213f1h116331432111232333cm1Q1",
   "8131n1g31q32122u148131n1a1531v212f2h9131F121g15383o65i3o191127W1M112c6X1211151o111a129125n4w",
   "11_181A1r5P3H1k1g6443132734dc1N3Fa142711142F1142x1142711142f1V1142z2B1gN3Ij2h1q5H2687idjeied",
   "13fQ1E11z2z11R1752y1115C2avN1u25bI14qS1n9R1M5L1h8S1ud2aI1qA1F13auN34161231Wx14T_2U1on9717171",
   "717171717Dh1R114S2811W2415H11.2hw1M1gwgwK6w2RMk1Tz1z2E18I84ga2y21N1C2F51D313713141ntQ1eO1.16",
   "3112bsanpt7L1J1529a51F1n318kg16313O11132252111o23b71e626269717N4z1tAZacn4N1AE8Kb2G3z211a1d15",
   "1112121I3x1Hbiw22S1E1cQ351D4F3a1J12v36262623z1c1q1j121f2ey1X3Bct3N1L1w1dk186C1au2A148w4K2y3E",
   "18Q1Y2Q1cT99ma8U46211I112312nan9vx2j12amaqC2U162w21f4131tG1t3tz181srS1amajdiK3F2T5A1C1411M9G",
   "162g3X1ta18mG1iK1lrncR1V1221dJ1w1pqA1t1218z131cM1e4l111z1i1pj2_1711141f1a7L1C18222m17121531i",
   "1c5ua11211C111p111I1R1i4k3uM1k211U5L1F14A1M1k1X1H1d1D2rB17V5I1P682128121of111.282D1g111s1aE1",
   "71l1bK1j1iF2D6x1v91B1h1N1uM37121C1l1p6121w1e1Dajf11d1y1Y31L2WsC7A6IO2x3fMx1h6pXY35DiVR6uyT1V",
   "h7vhL2huiM1P1l5jPdE1RcH251L5U_58SC1F1aTT8z9f1t321e48IcAE2H35d397aMP81RfJ1x11xauiI1AfrB7u21Lf",
   "714121f1B6XF141r1211211a141111614111111312112111111111121124171414111a1h53151hAG4wTF1w1Wx46.",
   "62yQ5eNF7fKjyJ2.gyL1HW45wz4"]

/-- The category `Mn`, nonspacing mark. -/
def nonspacingMark : CharSet := CharSet.packed
  ["woM3P85F8J111121211E2bM1lg1B37262214z11urX2bW1991o4191315H13X19G1o1w1T1111484137a2t1W114481k",
   "2q122V1142422331u231b2V11451241k2m611W1121148172b2u1Z11c1O1131T1113531472b2t1W11216152k2s2V1",
   "24481k2t1E217311W2127c8y3129b7F22r11111T1e15125b1A191C34161222p243g4d12261f1_l3Ot3t2u2u2w221",
   "7812b91J1311R32y11S33429163X6221W11171111286a21M1e1gN14M11151151E19c2w142213U11123113W1822U4",
   "31d17416132C6w2Mmd413c._23J41w3w1Gh4H32QKt14aw12M22M813141p251T42qid1C18pbK13M112422D11z2622",
   "22c181L11P1113225211G1281K712141MVj1xngggJu1y71R45CQ131254E1341B52Zh4x25Z92L24C2bN14X31S1fF1",
   "122a3N142271Z13A1518.11c2Q19a421_2321126121Z4138l2V1231B1735C26d11111e2R282311n1Q26114212K74",
   "6212r2R282112G31112611B31112415z8912w821141M442241w1aE1624819623K1d12Sc71611O2m271212W363112",
   "1711E223111Xa2b2Q155111n1BD516fECbc33wK25X17Uw11_14N21UBj2xP4K12nwh3h827u4Q43XZ1T14O181e1m51",
   "fMG171h271215A31w57Tb1Z14Yf4.72wn7J37RZBoM7"]

/-- The category `Mc`, spacing mark. -/
def spacingMark : CharSet := CharSet.packed
  ["zE21T11238412O12W136222a1H11W13y21W138112R12W11116222a1C32123313a1F13Z14Z12W1115221292s1e2W1",
   "35313a1G12H2368i2Ga2_11H52416122p2a327l22621a3UP11u1x417812Wa4234216w72W1111911286N41M115115",
   "12Z11u14221Y11231132M1882H51l1SV42P_t221U22O1gK42L11M124223K3222o1J1111J312251J72121211Pwp11",
   "1_31J1342P31o2X11M1392d1Z233211G53v2W1214222391a2Q237121141211B338231G33611421J736421N338211",
   "J311261D311241B8391T7612412111K438441Q21t2.11Tc1e1G317121R654211.a2c1M128211ELg3AN3T1E32PHo2",
   "66"]

/-- The category `Me`, enclosing mark. -/
def enclosingMark : CharSet := CharSet.packed
  ["EA12QN51.M1413HIx13"]

/-- The category `Nd`, decimal number. -/
def decimalNumber : CharSet := CharSet.packed
  ["M1aCN1aC4aC6aYcaS3aS3aS3aS3aS3aS3aS3aS3aS3aw3aS3aC2aS8aC2aCW1aC1aI9aw4aC5a6aS5aS2aC4a6aCKy1a",
   "ClaC1aC6amaS2aScaSUkaCI1aCA2a6aYoaw4aY1aM4aS8aSaaS3aSbaC3a6kI2aCdaC3aSkaS2aS7aC2aCdaSKgaCF2a",
   "S2aC4aSgaSXnaQS2O1wG2aCdaSfaT7aRqaSQ4a"]

/-- The category `Nl`, letter number. -/
def letterNumber : CharSet := CharSet.packed
  ["KT53LP2z124.P31p9e3HRtaMOmR1Ie181C45Gx8L3"]

/-- The category `No`, other number. -/
def otherNumber : CharSet := CharSet.packed
  ["O525123RF26Ub6U33B47V67h9NdaRx1kPz1awf1RQ11366aC6gF11SmY1K2mSjuFH11QA14G4au81fw1aD1fMHt6NCmJ",
   "1x24h2RarA14QF18p7D19H25m6w522g2K1w29Q12u3H25E38o8F17Ga6wbv.4aG14M37C4kXbkBG12Kd9DrjPqlCYi7.",
   "onFxpkckI3pKG59xtX11314I2J11fyud"]

/-- The category `Pc`, connector punctuation. -/
def connectorPunctuation : CharSet := CharSet.packed
  ["_21_.72j1.KT12o3L71"]

/-- The category `Pd`, dash punctuation. -/
def dashPunctuation : CharSet := CharSet.packed
  ["J11YG11P11xO31Bw11Fw26xM3121v241s1.d1j1L31MIP12B11a1F51wP31.91"]

/-- The category `Ps`, open punctuation. -/
def openPunctuation : CharSet := CharSet.packed
  ["E11O11v1.R3111.W11.H2131C11T11f1Wj111u1.x11111111111111M21w1111111111Qc111111111111111111111",
   "w2111x11Bx11111111p1i1111111Id1111111113111111121xFP11T61t11111111111111131h11111G51O11v1312",
   "1"]

/-- The category `Pe`, close punctuation. -/
def closePunctuation : CharSet := CharSet.packed
  ["F11P11v1ZR3111.W11FJ21T11f1Wj111u1.x11111111111111M21w1111111111Qc111111111111111111111w2111",
   "x11Bx11111111I11111111Id1111111113111111122.EP11V61t11111111111111131h11111G51P11v12121"]

/-- The category `Pi`, initial punctuation. -/
def initialPunctuation : CharSet := CharSet.packed
  ["H51IX712221p1EK31114121f131"]

/-- The category `Pf`, final punctuation. -/
def finalPunctuation : CharSet := CharSet.packed
  ["X51ZW7131s1EK31114121f131"]

/-- The category `Po`, other punctuation. -/
def otherPunctuation : CharSet := CharSet.packed
  ["x1313211112a232r1A2151e271.l181Oe6F11S112121I12k212d113G24C31H1eF73S1fv1B82a1I41U31V31Cc1c1L",
   "b1W21a2E5f11M31G2542L36H51Aj9Bo1Y33D22Z4313B1614V92U62w4716w52a7s3Y34X15.12w28b1yq2888924233",
   "b111aWA3412M31L42432129121122a51a24111d23Id3V11Z51ywt2J83z31a1P36Yb4S22E1311N12L11x3dg2Y34.3",
   "2g2V71ANk721m1k2243314736112R4313211112a232r1A1122Wc3Yk1M11.c1Dn1D61v1M89C11M37y27V24Ut5I14Z",
   "57J3214.34M12L2441d113U26H31G9212O35a211E31W7nF33sdI21y43Y71E83X41Y28P2315Z2aT61_25G12Bk2G2d",
   "L51Mz15YX22XPe2B41x2581Eh3D94Da1YBj1DL75PX21.q2"]

/-- The category `Sm`, math symbol. -/
def mathSymbol : CharSet := CharSet.packed
  ["H11g3Z1111J1141B11v1.n1Lg3XN61d1D13d3H41D1561A255241212171v22111vI8w12W21upE16Re191S18L31Ma5",
   "2vagw8z4m_14w12y8M1l26Y.P11Up113A51g3Z1111z4164xJ32NFO11p1v1p1v1p1v1p1v1p1IV52"]

/-- The category `Sc`, currency symbol. -/
def currencySymbol : CharSet := CharSet.packed
  ["A11Z34FD11X31Of2Of271R71D81Bi1XI21AC2x1TXx11zKl1I31W41X6232S_74.UM11MJ21"]

/-- The category `Sk`, modifier symbol. -/
def modifierSymbol : CharSet := CharSet.packed
  [".2111D21614131Fg4ce57111hR31e2yE11QV5113b3d3d3d2YA42zPtn92D32Mu1e2CykhXr111y51TwZ15"]

/-- The category `So`, other symbol. -/
def otherSymbol : CharSet := CharSet.packed
  ["C51214111Nu1G82_32K61a1j2T71zg1Rb1y4611A41L61F11Dc3f11326k11111B48161254B62MnaPm1Om1Z4y1xba9",
   "9zI121412a1126611111141b2e11211W1295241212171v22111vI884k272N21upE16E2mbN2K2mT5191S18L31U7I1",
   "I1w2w8wgM1l26D12w11F3B76Bb2K1q1V2cS6qg41d2c1l262Ma24aw1C191gvbu81fw1aD1fwawK6w2MQlT1xr4a211Z",
   "h3CSkg_31J13Af13142d2V99V1h231d31L1J1WP12Li1Sz31RA284hGWi451SGk1zX3M7gQdY4Q3Y1S7aD12Y153m27u",
   "4Z1ly231W5T2FB1wgT14O181e12ES11YW21x41NmI14A3cf2f1f1B1nx5U1tdI14972e6W4X75Um4h3d3T34_26c41fc",
   "4U18a6E18u2c42.1Qace2d3a5U17f2b697P41Y2"]

/-- The category `Zs`, space separator. -/
def spaceSeparator : CharSet := CharSet.packed
  ["w11_31_K51_H2bA11L11wZ31"]

/-- The category `Zl`, line separator. -/
def lineSeparator : CharSet := CharSet.packed
  ["Ex81"]

/-- The category `Zp`, paragraph separator. -/
def paragraphSeparator : CharSet := CharSet.packed
  ["Fx81"]

/-- The category `Cc`, control. -/
def control : CharSet := CharSet.packed
  ["0w1_2x1"]

/-- The category `Cf`, format. -/
def format : CharSet := CharSet.packed
  ["J51OG16m1w61N11wc2M21HV31Y_15q5N151aLQT11V73xC41f1yX8gwzy14LC58CQHo1uw3"]

/-- The category `Cs`, surrogate. -/
def surrogate : CharSet := CharSet.packed
  ["wwS1ww2"]

/-- The category `Co`, private use. -/
def privateUse : CharSet := CharSet.packed
  ["wwU1wE6wUxs.__12.__1"]

/-! ### Groups -/

/-- The characters of any of several sets. -/
def unions (sets : List CharSet) : CharSet := sets.foldl CharSet.union CharSet.empty

/-- The group `LC`, letters that have a case. -/
def casedLetter : CharSet := unions [uppercaseLetter, lowercaseLetter, titlecaseLetter]

/-- The group `L`, letters. -/
def letter : CharSet := unions [casedLetter, modifierLetter, otherLetter]

/-- The group `M`, marks. -/
def mark : CharSet := unions [nonspacingMark, spacingMark, enclosingMark]

/-- The group `N`, numbers. -/
def number : CharSet := unions [decimalNumber, letterNumber, otherNumber]

/-- The group `P`, punctuation. -/
def punctuation : CharSet :=
  unions [connectorPunctuation, dashPunctuation, openPunctuation, closePunctuation,
    initialPunctuation, finalPunctuation, otherPunctuation]

/-- The group `S`, symbols. -/
def symbol : CharSet := unions [mathSymbol, currencySymbol, modifierSymbol, otherSymbol]

/-- The group `Z`, separators. -/
def separator : CharSet := unions [spaceSeparator, lineSeparator, paragraphSeparator]

/-- The category `Cn`, code points that no other category holds. -/
def unassigned : CharSet :=
  (unions [letter, mark, number, punctuation, symbol, separator, control, format, surrogate,
    privateUse]).complement

/-- The group `C`, everything that is not a letter, mark, number, punctuation, symbol or
separator. -/
def other : CharSet := unions [control, format, surrogate, privateUse, unassigned]

/-! ### Names -/

/-- The categories and groups with the names they answer to; surrogates, which are no
characters, have no name. -/
def byName : List (List String × CharSet) :=
  [(["c", "other"], other),
   (["cc", "control", "cntrl"], control),
   (["cf", "format"], format),
   (["cn", "unassigned"], unassigned),
   (["co", "privateuse"], privateUse),
   (["l", "letter"], letter),
   (["lc", "casedletter"], casedLetter),
   (["ll", "lowercaseletter"], lowercaseLetter),
   (["lm", "modifierletter"], modifierLetter),
   (["lo", "otherletter"], otherLetter),
   (["lt", "titlecaseletter"], titlecaseLetter),
   (["lu", "uppercaseletter"], uppercaseLetter),
   (["m", "mark", "combiningmark"], mark),
   (["mc", "spacingmark"], spacingMark),
   (["me", "enclosingmark"], enclosingMark),
   (["mn", "nonspacingmark"], nonspacingMark),
   (["n", "number"], number),
   (["nd", "decimalnumber", "digit"], decimalNumber),
   (["nl", "letternumber"], letterNumber),
   (["no", "othernumber"], otherNumber),
   (["p", "punctuation", "punct"], punctuation),
   (["pc", "connectorpunctuation"], connectorPunctuation),
   (["pd", "dashpunctuation"], dashPunctuation),
   (["pe", "closepunctuation"], closePunctuation),
   (["pf", "finalpunctuation"], finalPunctuation),
   (["pi", "initialpunctuation"], initialPunctuation),
   (["po", "otherpunctuation"], otherPunctuation),
   (["ps", "openpunctuation"], openPunctuation),
   (["s", "symbol"], symbol),
   (["sc", "currencysymbol"], currencySymbol),
   (["sk", "modifiersymbol"], modifierSymbol),
   (["sm", "mathsymbol"], mathSymbol),
   (["so", "othersymbol"], otherSymbol),
   (["z", "separator"], separator),
   (["zl", "lineseparator"], lineSeparator),
   (["zp", "paragraphseparator"], paragraphSeparator),
   (["zs", "spaceseparator"], spaceSeparator),
   (["any"], CharSet.full),
   (["ascii"], CharSet.range 0 0x7f),
   (["assigned"], unassigned.complement)]

end Admission.Unicode.Category
