import Admission.Unicode.CharSet

/-!
# Ages — the version in which a character was assigned

  `byVersion` lists the versions in order, each with the characters that it added.
-/

namespace Admission.Unicode.Age

/-- The versions, oldest first, with their names and the characters they added. -/
def byVersion : List (List String × CharSet) :=
  [(["1.1", "v11"], CharSet.packed
     ["0Sf4uU1V27L11amC2q2i2413157111k1I117311111111idc1y21c1F19R122223s2822T1C1271D111C1a19cr5",
      "5n1e1311q5jde2E2251f1u2aDg31R12i253pg318222m171134211722239142152l7126422m17121212211542",
      "23b4117fc31711131m1712152a131321f15ah318222m1712242832238242134bh21633143211123233381345",
      "331491fce318131n1a1547131472924ai218131n1a154713147271124ai218131n1g46231491824aN4W14tB1",
      "2112211216417131111221d132511162a22yeC1aD1414W25A25O2Cw3X45W26m262C126281111111v2R11f1e2",
      "61j23191L11nz173rhbB1iuV1qM1dX2lO7e11V3B4B1rblH4lS4aM2gk6S2N44142s1z11114311727ev3o1exy2",
      "U1711Q2462.26E14.21gw3t3A1ss3O1fc4L11T34z32vxM6CJkWygKN6O67c56p151112121I3x1Jbgw22S1E1cA",
      "14cl4a1j1443111D4211.22.2362626233717e3"]),
   (["2.0", "v20"], CharSet.packed
     ["NI1h1dk1XF2E21x17r46111l3711xT31Lg1QWy1AZaWyG22.__12.__12.__12.__12.__12.__12.__12.__12.",
      "__12.__12.__12.__12.__1"]),
   (["2.1", "v21"], CharSet.packed
     ["IB81LWT11"]),
   (["3.0", "v30"], CharSet.packed
     ["Sf4u82iR35N11a5T29j1Q3131111111u1c1y21c1G1224Y22Y41E63y3251f1G151e1u3rR1N1NK121i3o191127",
      "31461118i3Rb1H11n371131f21M1y1151217346qCd71_111142711142D111142v111427111427171n1v11142",
      "71D11j6sz1R2cSj9t3N2L4Z23amf1a6U28G1BY11o6_23O12R22E21D39J81V311uG42Fe8x11S22Kcw8wI1q1V2",
      "cS6qcY1331xboEiSJ6GOkJA13i2g1c1311SOl1XC13"]),
   (["3.1", "v31"], CharSet.packed
     ["Qv2WK.1w1ME1v14crR5C12C1OZO1S7aD13Q5yhR21D2122122241c1114121x21428171s141511371Oa4y94O1w",
      "waTSF1FFk.gzLxm1uw3"]),
   (["3.2", "v32"], CharSet.packed
     ["wh1K91jdE32s1P42V122222N1g.a2xa1BG22DM1d17bn9kcd1312PC21654175d1.12O17O2fE5cO7eY31uQ1Y8k",
      "T4aU28m2W2c2a.6eW2s4gw8wgXF13T2282.21M7gN2fN2fyLs2g1c131GHlX1Ns13gR12I11H72"]),
   (["4.0", "v40"], CharSet.packed
     ["xh1i3T32_1hM2853T45Ag499w23R42f1J13t3Qd1U51z2111E41Q23d1z21X11x48x62_U21iaC8t3c4c413G125",
      "H3w1woI3Dn2C71Pk2K91Q82Q38e2.y1eLU12N11H12K24D54z32v1wK6w2Z_H11F22Tdc1q1j121f2ey1X3534J1",
      "39wiu11C42C1M22aSq6211I1123121wSO1T2Gb1.xHoM7"]),
   (["4.1", "v41"], CharSet.packed
     ["ThbS85_44S72G51y13z21i1W16N7uLg1M21Df1L11Fv2D9211G81_11_11D11v1v1v1f1D11n2vqCL1G16q6a42w",
      "1s22IqU2Nk217N15t4R11M21f1AkbYh1B32ib5gK87Dq6I7L11L1x1H3eJ1aS191gn9717171717171717x1o42y",
      "tgK51DFrmAW1nF7I1AOkG3SpaCpH2RgA14eGN141258131r434989DZN1C2.y12"]),
   (["5.0", "v50"], CharSet.packed
     ["yieH93Na1G16g4C51BgX1wc212yr2d2JM3I24J1Di7P12In4Z22R11TicGm1Q84Fq754Y9d74_Qu452.8U1EAoq5",
      "1wT5LrN4z3d4ITH1iUy12"]),
   (["5.1", "v51"], CharSet.packed
     ["Mr422T21T51I4gy75b5w15K9iNf2.61z11K61t2I31I31q282k8Z5161t2c637Hf2x3133J2151217346qw242Gw",
      "21RmH13cC2U13f3P1HasR54W26Ab1H41.21R14QE11la34E81v4Hp54F135U831346ybw1o42jYn1y5kUKr8YF1I",
      "9kw12i8sz452H3K35w4B29cC1Q2b1w5T19e2a24A.k3FrcQ1K1y4t3N1LO1q51F_N11SS7I14A3"]),
   (["5.2", "v52"], CharSet.packed
     ["AF12WmK12fx61J2161z12w41VK14x64Y55A25O26wg1Sj9MhC2Q52K11B2_11t2b6a6eyhz1G81Ul3T43S11.i1R",
      "l2t34a1j114oT21Zv5S81d2H37_91Ow1cQHr8AE1M1wdU2U9aC5sA3t3K21b42w4s4z2o5w7K12aSZan4N1LP83O",
      "K3m19W52Aaw1w4S13t2r58w4F2Tgvxgy2.V7Lx1NCL1b5v21b1112131358171p11221a421L31fy1e9TBJ1Rx4"]),
   (["6.0", "v60"], CharSet.packed
     ["CF12U71.11wfs21X62j162r5Wf6Nd1g1j1Zh4F22ys2xz2Q184Yf1Uk8s1LpbWm1j114t142s1z11114392Q13o1",
      "e1e2wJ11e1Ux13BBt2H9212eaM21Co626269717zAkg.x5K24uMYlVhDKh2.Agf2e2f1fM211b1112131358171a",
      "6911221a421aH2q12L19l2K5x1f61C23kcB115lhf_1111S5143.1ioP451g1311111113162411241c4bM1C2W1",
      "Q3I.L1.6"]),
   (["6.1", "v61"], CharSet.packed
     ["LI11Q31Xk11bT1rNf1Jv2Df151L13HR23c6w88H14QS2111AF12P1151U12G6aMIs1DR18z11O72m1J22CnnTVj2",
      "MW3U162MU1p7a6R11eY1F27aCB1U18aSxmB2bL1ghwPv41r1211211a141111614111111312112111111111121",
      "124171414111a1h53151hQ12Uj2Qu4Y51g1311111113162411241"]),
   (["6.2", "v62"], CharSet.packed
     ["WB81"]),
   (["6.3", "v63"], CharSet.packed
     ["YM11FO64"]),
   (["7.0", "v70"], CharSet.packed
     ["_r1Ed8Z22S31Xk1b6I21U3171_j1P11I21_31A7axE28Ah2NcfVh2J7fBm3Sp7Bo1Iy13aq2w12y13c18Gj7Ryu6",
      "S7cb322B21EfvZ34M5M142xSk7Zq2j1_9sz11M1H1BcE18Q1b1M4T99ma8U7_189Mew1w1D14cF4i74c7LC11M6D",
      "1S21c16kbi1H1O3X15a7318222m17121529222391572735H8E28aC5S12iS1B2baCiP2c1weV1Sz2G1G6c51HKh",
      "v1a42w3u26aC2aa171l5jMzkH35d397a28YWaB62gE_11w1ml2Qgc91C21mcB11545ch7D2111S5142_1247ti1F",
      "11S2C22dM1C2agd34I4R2H1c4U18a6E18u"]),
   (["8.0", "v80"], CharSet.packed
     ["PB22K11Rg1wb1A81RQ1126wC31H62wP24Z.s9ES11M71y16Aa2yj4cM2KPk2MR2j1255Y522g2K1wkP1dP176FC1",
      "4e5w5711141f1bS21L21Vjky9q3f4gVy31C7A6YR7DiTYy1bTM1Ikf51fZz63K22L25A18_71H25P72H41_h9D35",
      "X11_OL1yQ5"]),
   (["9.0", "v90"], CharSet.packed
     ["SB28mfZs1K614317n3DU39Ob1_L14AO22FHu1S81DCm2xpA14A1yG31xeW21111ygdPI191J11eat3w12m1eFVk1",
      "vJ_5jPnJEl71h271215RC2H25a42Xx2iK41.p1F11I92x13yh618812c1c4fC1d"]),
   (["10.0", "v100"], CharSet.packed
     ["wz2bNc2Y76wg1W12WZ31.74Bm1_p1O.11Oj5An1DRrlyWo3MS5E28Q12n15Zi7121I13112198aDQk1wxgZ8N2Ic",
      "AXf6Jz12y12Dgcj18812p1idC16U1nFCR1NF7"]),
   (["11.0", "v110"], CharSet.packed
     ["wH11D11C31Jg3P61G91T31Jc1_31P_21Tw1H123WT33mp4fHi5wn1XRr5_Z1182Aa2QFo2i1TlE18aCeE18G1Pb1",
      "S33Qf1y91Xl1B7Y1xj1ym6121B112167aS9pDWjX2OG65KTik.37UD6A2Wz11FK11X64Qb3s5243114obda72A1p",
      "w3e"]),
   (["12.0", "v120"], CharSet.packed
     ["Tz31Kg121211641717221d1_N31KS31R11Li1GHu625_s2UzpnEz11Ui1Dn82K12b_42WF1O1d1Mx59IUe641L19",
      "W22Kw66UGa3h4UYbJ13e2a42MbW151HO11RtZ1Kx11EH11A11B7cx93L11N1191F1632a63823M1Q2s44353d6"]),
   (["12.1", "v121"], CharSet.packed
     ["_Tc1"]),
   (["13.0", "v130"], CharSet.packed
     [".B2aJk1Kd1Y31ZF32SC41Ul3Er5S_6aMNkdG.14G12R11Xp4MNl1zD3G11322.7sXb1C42Gk152.A172128121u1",
      "22c9aSO11Pxk1b2xU6zfG19Awp3Z23Z11EF12z12Pd2W21B3142G1263t1E51e4fj7793d7F1P41T1B1aZSG17yF",
      "mHW4"]),
   (["14.0", "v140"], CharSet.packed
     ["ZM11Oiv1268l1ibFr1w11_31LN217191L71NleZ31M12Xj1Bm1KX21L11Pfb_Is3w.12e21115o3J.k1Zbg_31K1",
      "2MX1b1f17121b1f1712ze61G119RZ1qC76I21SL11C47FrgMC5z3ZPeL21aCFh41712w94ZK7K12n9Q3Bh2RE3vN",
      "rvNF1714121f.S33M81Ec1O21K52I14a483h36887D_G12Ry44"]),
   (["15.0", "v150"], CharSet.packed
     ["PD31We1Kxw23_p3.B2aSvh1F13sRC519tYCv1y11GH8kNy36B8.1x11wy1G1yL41T4345V21Xk3f2A13b311e2a2",
      "c1e2wyL11Swnwz4"]),
   (["15.1", "v151"], CharSet.packed
     ["Y_b4Lf1wMK5Kj"]),
   (["16.0", "v160"], CharSet.packed
     ["TA21SR42L11F82YY13WJ32BLt3c3zLnQ1IW1C13t82O93T11zA1a11211C11a1121141a1282JnkYC1y1eawr1BE",
      "5XY3BE7W1Cw3W1BY71wUfW76QdYU5H141OR4a42De151K1171l12191x7B1"])]

end Admission.Unicode.Age
