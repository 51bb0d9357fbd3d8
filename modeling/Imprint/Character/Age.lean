import Imprint.Character.Runs

/-!
# Ages

Code points were assigned in one version of the character set after another.
-/

namespace Imprint

namespace Character

/-- The versions of the character set, with the labels of the code points that came with
them. -/
def ageLabels : List (String × String) :=
  [("1.1", "a"), ("2.0", "b"), ("2.1", "c"), ("3.0", "d"), ("3.1", "e"), ("3.2", "f"), ("4.0", "g"),
    ("4.1", "h"), ("5.0", "i"), ("5.1", "j"), ("5.2", "k"), ("6.0", "l"), ("6.1", "m"), ("6.2", "n"),
    ("6.3", "o"), ("7.0", "p"), ("8.0", "q"), ("9.0", "r"), ("10.0", "s"), ("11.0", "t"), ("12.0", "u"),
    ("12.1", "v"), ("13.0", "w"), ("14.0", "x"), ("15.0", "y"), ("15.1", "z"), ("16.0", "A")]

def ageRuns : List String :=
  ["502a4d30a8d1f1g18d3g11h14i89a5d2g47a1d10a5d17g70a9d1f8g5h3g2a1d13f4j2a2j2U1a3i1a1p4U7a1U1a1U20",
   "a1U44a1j7a1d2f1a1d1a1d1a1d1a1d18a2e1f5g4h1d12a1d66a1d12a1d41a1j2d2f4d53a2f2a2f2a2f1i28a2d8a2h2",
   "a6i16f4i16j2k2l8p1U38a2U7a1t39a1t1a1d2U2p1m1U17b1h13b10a1i9a1b3h8U27a4U1t5a11U4g1m1p5j1h1a9g5j",
   "1a1o1x1h1a1l26a5j19a3d3g6h1l14a2f72a2d5a1d15a1d30a2g10a5d1g14d1U30d3g27d2U3g30h18j49d1f14U59i2",
   "U3t46k2U15k1U28l2U1l1U11s5U31x1U2x5U1A8x1m1p11m6p2q1x8r10w11x1t15r1q27m1p1k3a1g53a2l18a1k1l5a1",
   "k2l25a2j5l1p2k2i1h2i1p3a1U8a2U2a2U22a1U7a1U1a3U4a2U1a1g7a2U2a2U3a1h8U1a4U2a1U5a2U21a1k2s1t2U1g",
   "1a1g1U6a4U2a2U22a1U7a1U2a1U2a1U2a2U1a1U5a4U2a2U3a3U1j7U4a1U1a7U15a1j1t10U3a1U7a1g1a1U3a1U22a1U",
   "7a1U2a1U5a2U10a1U3a1U3a2U1a15U1a3g2U10a1m1g7U1q6s1U3a1U8a2U2a2U22a1U7a1U2a1U1g4a2U8a1j2U2a2U3a",
   "7U1w2a4U2a1U3a2j2U11a1g6l10U2a1U6a3U3a1U4a3U2a1U1a1U2a3U2a3U3a3U8a1h3a4U5a3U3a1U4a2U1j6U1a14U1",
   "h12a8g5U1p3a1t8a1U3a1U23a1U10a1p5a2U1x1j7a1U3a1U4a7U2a1U2j1q2U1x2U2a2j2U10a7U1u8j1r1p2a1t8a1U3",
   "a1U23a1U10a1U5a2U2g7a1U3a1U4a7U2a6U1x1a1U2a2i2U10a1U2i1y12U1s1p2a1w8a1U3a1U23a1l16a1l2s1j6a1j1",
   "U3a1U4a1l1r4U3r1a7r1q2a2j2U10a6j3r7j1U1w2d1U18d3U24d1U9d1U1d2U7d3U1d4U6d1U1d1U8d6U10p2U3d12U58",
   "a4U29a37U2a1U1a1U1u2a1u1a1U1u1a6u4a1u7a1u3a1U1a1U1a2u2a1u13a1u3a2U5a1U1a1U6a1y1U10a2U2a2m32U72",
   "b1U33b1d2j4U27b4l6b1d1b1U21b3d7b1d1b3d1U15d1U1j1d2h3j4k2l37U34d1j5d1j2d1j7d3j4d6j26d64j4k2j38a",
   "1U1m5U1m2U39a2f2h1a1h3m90a5k68a5k82a6k7d1h63d1h1d1U4d2U7d1U1d1U4d2U39d1h1d1U4d2U31d1h1d1U4d2U7",
   "d1U1d1U4d2U7d1h7d1U23d1h31d1h1d1U4d2U7d1h39d1h19d2U2l2h28d3U26h6U85d1q2U6q2U1k630d9k29d3U81d8p",
   "7U13f1x7f1x9U1x23f9U20f12U13f1U3f1U2f12U93d1g2U10d6U10g6U15d1x10d6U88d1t7U42d1j5U70k10U29g2p1U",
   "12g4U12g4U1g3U42g2U5g11U42h2k4U26h6U10h1k3U2h32g28h2U2h63k1U29k2U11k6U10k6U14k2U15p2w14x49U76i",
   "1x1U2A45i2x1A43j3m12j6m52l8U4l56j3U15j3U51j9r2A5U43t2U3t8m8U35k4m1s2p1u5U108g88h7i28j15p4s1x1r",
   "1l1k2i155a1b4j90a6j22a2U6a2U38a2U6a2U8a1U1a1U1a1U1a1U31a2U53a1U15a1U14a2U6a1U19a2U3a1U9a1U47a1",
   "d23a1f6d5f2g2h1f7h5f1j1U4o7a1f2U27a1U5h8l3U11a1b1c3d2f4h3k1l1n3p1q1s1x15U18a2d7f1h4i1j15U57a2d",
   "1g1h15f1h2i1j3k48a1d1i4j1k2q4U91a9d12f242a14f1a1d121a1d1f30d52f2g11h12i1k11l7p4r1s37a2d3A22U11",
   "a21U139a20f1g150a10f80a8d8f20a2g2f1h1d86a2d12f2h10f8g11h1j2k2g16h1i10j3k4j10k1l19k1l1k4l24k1p4",
   "a1l4a2l28a1l35a1l1a1l4a3l1a1k7a2l7a14f31a3l24a1l14a1l7h4i1m1j1m2l28f4j16f256d512f14g6h7i5j4i41",
   "j3p5j5k26p2U32p1U1w34p3t12p1u8p1s25t4q15t1u47h1x47h1x13i3j1k3j4i6j2k107h7k2m5U45h1U1m5U1m2U54h",
   "2m7U1h1l14U1l23h9U7h1U7h1U7h1U7h1U7h1U7h1U7h1U7h1U32j24h4j2h19j1k10m7p2r5s5t1u3w11x34U26d1U89d",
   "12U214d26U12d4z56a3d3f1d1a1U84a2f2U6a2f94a1f5U40a1j1s1t1U94a1U16a24d3l5w16h20j2A9U1z16f29a2g1U",
   "36a12k1g15f28a2g1h50a15f12a4g47a1v119a4g99a2g31a1g6582d10w64g20902a22h8j8k1m9q21s5t13w3x1165d3",
   "U18d2f16d1f12d1f3d1f1d9U48k300j20U32j2l18j8m28j6p1q1m88k8U23h4i5j2i107j2l1q2l2m12p10l1m3p1r1t2",
   "p6q2t6u2x5u4w3A2U2x1U1x1U5x3A21U3x2w1p2m1l5j44h1w3U10k6U56i8U69j1r8U12j6U28k2q2t84j11U1j29k3U7",
   "8k1U11k4U2k31p1U55j9U14j2U10j2U4j28k4p67k24U5k23m10U6l2U6l2U6l9U7l1U7l1U48p4q2p2u4w4U80q46k2U1",
   "0k6U11172b12U23k4U49k4U2048b6702a2m59f3k2U106h38U7a12U5a5U1d25a1U5a1U1a1U2a1U2a1U108a16l1x16U3",
   "65a16x64a2U54a7U1x32e12a1f1g2x16f10h6U4a3j7p2q21a2f2g10a1U19a1U4a4U3a1f1a1U135a2U1a1U94a2f94a3",
   "U6a2U6a2U6a2U3a3U7a1U7a10U3d1c3a12g1U26g1U19g1U2g1U15g2U14g34U123g5U3g4U45g3U9g75h2p2r1U12j1w3",
   "U1p47U46j130U29j3U49j15U28p4U31e1p4e9U3s27e5U43p5U30g1U1g36h4U14h42U38e2g38e80g2U10g6U36r4U36r",
   "4U40p8U52p11U1p11x1U15x1U7x1U2x1U11x1U15x1U7x1U2x3U52A12U311p9U22p10U8p24U6x1U42x1U9x69U6g2U1g",
   "1U44g1U2g3U1g2U1g22k1U9k63p8U9p48U19q1U2q5U5q26i2k3U1i26j5U1j64U56m4U2q2m16q2U46q4h1U2h5U8h1U3",
   "h1U27h2t2U3h4U9h1t7U9h7U32k32p32U39p4U12p9U54k3U29k2U27k5U8k18p7U4p12U7p80U73k55U51q13U51q7U6q",
   "40t8U10t6U38A3U29A8U2A208U31k1U42w1U3w2U2w16U3A55U1A3y40t8U42t22U26x38U28w20U23u9U78l4U30l6x9U",
   "1p66k1x10U1t2U25m7U10m6U53m1U14m3t1w8U39p9U73m4q1p2w10m1p5q1U20p11U18p1U43p1r3y62U7q1U1q1U4q1U",
   "15q1U11q6U59p5U10p6U1q3p1U8p2U2p2U22p1U7p1U2p1U5p1U1t9p2U2p2U3p2U1q6U1p5U7p2U7p3U5p11U10A1U1A2",
   "U1A1U38A1U10A1U1A2U1A1U4A1U10A1U2A8U2A29U90r1w1r1U1r1t1u2w30U72p8U10p166U54p2U18p20q34U69p11U1",
   "0p6U13r19U56m1u1x6U10m6U20A28U26q1t2U15q4U16q7x185U60t100U83p12U1p7w2U1w2U8w1U2w1U30w1U2w2U12w",
   "9U10w70U8u2U46u2U11u27U72s8U52s2u23s1t5s13U16x57p7U10y182U34A14U10A6U9r1U45r1U14r10U29r3U32r2U",
   "22r1U14r73U7s1U2s1U44s3U1s1U2s1U9s8U10s6U6t1U2t1U37t1U2t1U6t7U10t310U25t7U17y1U41y3U28y1A85U1w",
   "15U50u13U1u879i42p1q102U99i12p1U4i1p11U196q2636U99x13U1071k1y9u29y10U3995A5U583q6841U58A1734U5",
   "69l7U31p1U10p4U2p79x1U10x6U30p2U6p10U70p10U10p1U7p1U21p5U19p432U58A198U91t101U69m6u4U1u47m9u7U",
   "17m64U1r1s2u1w11U2w14U6125r5t6u8U755r483w41U1A9w8935U4x1U7x1U2x1U2l285s4x15U1y29U3u2U1y14U4u8U",
   "396s2308U107p5U13p3U9p7U10p2U8p3932U250A6U436A76U46x2U23x9U116x60U246e10U39e2U1j180e11q2x21U70",
   "h122U20y12U20t12U87g9U18i7t135U85e1U71e1U2e2U1e2U2e2U4e1U12e1U1e1U4e1g2e1U65e1U4e2U8e1U7e1U28e",
   "1U4e1U5e1U1e3U7e1U338e2h2U290e2i2U50e652q15U5q1U15q1104U31x6U6y213U7r1U17r2U7r1U2r1U5r5U62y33U",
   "1y112U45u3U14u2U10u4U2u320U31x17U58u5U1u464U42y214U43A4U1A480U7x1U4x1U2x1U15x1U197p2U16p41U75r",
   "1u4U10r4U2r785U68t76U61u194U4m1U27m1U2m1U1m2U1m1U10m1U4m1U1m1U1m6U1m4U1m1U1m1U1m1U3m1U2m1U1m2U",
   "1m1U1m1U1m1U1m1U1m1U2m1U1m2U4m1U7m1U4m1U4m1U1m1U10m1U17m5U3m1U5m1U17m52U2m270U44j4U100j12U15l2",
   "U14l1p1U15l1U15l22p10U11k2p3w31k1t1l1k11l1k1l1k2l1k3l1k3l5k8l1k7l1k10l2m1u3w9l1k1l2k2l1k10l4k2",
   "l1k10l18r1w56U26l1k2l13U34k9l1r4U9k7U2l14U6s154U33l12p3q6l1p70l1p2q20l12p37l1p5l4p5q12p17l7p8q",
   "63l1p1l1p182l1p4l2p1q62l2p4m7p5q24l18p1r41p1r86p5l1m16l1m3l1m1l1m1l1m1l1m3l1m6l2m4l1m1l2m4l1m1",
   "2l2p2q11l48p70l10p1q2r2s1u2w4U1y3x13p3U4p3r2s1t1u2w3U116l3y4U5y85p4t1y6U12u4U1x15U12p4U56p8U10",
   "p6U40p8U30p2U2w10A4U2A62U12s1w3u9q6r1s8r8s1r2s12r1u12r1s3t15r13s5t1u1w4t2w1x1t1u4t5q13r6s11t2w",
   "6u3w2u10t6u1q2t8u1w1x3u23s25t84u12U14t2U4u1w3y3u2x3U3u4w2y1A5U1A6u19w4x3y7w4x3y1A1y3w3x1A7U2y7",
   "w3x2y1A2U1A8x1y1A6U7x2y7U147w1U55w37A10w1028U2b42711e7w2x32U4149k4x1y6U222l2U5762q14U7473s15U6",
   "22z2466U542e1504U2b4939w5U4192y56398U2b65534U2b65534U2b65534U2b65534U2b65534U2b65534U2b65534U2",
   "b65534U2b65534U2b65534U2b1U1e30U96e128U240g65038U131074b"]

def ofAge? (version : String) : Option CharSet :=
  if ageLabels.any fun a => a.1 = version then
    let later := (ageLabels.dropWhile fun a => a.1 ≠ version).drop 1
    some (.ofRanges (rangesOfRuns (fun label => label ≠ "U" && later.all fun a => a.2 ≠ label) ageRuns))
  else
    none

end Character

end Imprint
