import Imprint.Character.Runs

/-!
# Scripts

Every code point belongs to one script, and some are used with several; those are
the extensions of scripts.  Scripts have a code of four letters and a name.
-/

namespace Imprint

namespace Character

def scriptRuns : List String :=
  ["65Zyyy26Latn6Zyyy26Latn47Zyyy1Latn15Zyyy1Latn5Zyyy23Latn1Zyyy31Latn1Zyyy449Latn39Zyyy5Latn5Zyy",
   "y2Bopo20Zyyy112Zinh4Grek1Zyyy3Grek2Zzzz4Grek1Zyyy1Grek4Zzzz1Grek1Zyyy1Grek1Zyyy3Grek1Zzzz1Grek",
   "1Zzzz20Grek1Zzzz63Grek14Copt16Grek133Cyrl2Zinh169Cyrl1Zzzz38Armn2Zzzz50Armn2Zzzz3Armn1Zzzz55He",
   "br8Zzzz27Hebr4Zzzz6Hebr11Zzzz5Arab1Zyyy6Arab1Zyyy14Arab1Zyyy3Arab1Zyyy32Arab1Zyyy10Arab11Zinh2",
   "6Arab1Zinh108Arab1Zyyy34Arab14Syrc1Zzzz60Syrc2Zzzz3Syrc48Arab50Thaa14Zzzz59Nkoo2Zzzz3Nkoo46Sam",
   "r2Zzzz15Samr1Zzzz28Mand2Zzzz1Mand1Zzzz11Syrc5Zzzz31Arab1Zzzz2Arab5Zzzz75Arab1Zyyy29Arab81Deva4",
   "Zinh15Deva2Zyyy26Deva4Beng1Zzzz8Beng2Zzzz2Beng2Zzzz22Beng1Zzzz7Beng1Zzzz1Beng3Zzzz4Beng2Zzzz9B",
   "eng2Zzzz2Beng2Zzzz4Beng8Zzzz1Beng4Zzzz2Beng1Zzzz5Beng2Zzzz25Beng2Zzzz3Guru1Zzzz6Guru4Zzzz2Guru",
   "2Zzzz22Guru1Zzzz7Guru1Zzzz2Guru1Zzzz2Guru1Zzzz2Guru2Zzzz1Guru1Zzzz5Guru4Zzzz2Guru2Zzzz3Guru3Zz",
   "zz1Guru7Zzzz4Guru1Zzzz1Guru7Zzzz17Guru10Zzzz3Gujr1Zzzz9Gujr1Zzzz3Gujr1Zzzz22Gujr1Zzzz7Gujr1Zzz",
   "z2Gujr1Zzzz5Gujr2Zzzz10Gujr1Zzzz3Gujr1Zzzz3Gujr2Zzzz1Gujr15Zzzz4Gujr2Zzzz12Gujr7Zzzz7Gujr1Zzzz",
   "3Orya1Zzzz8Orya2Zzzz2Orya2Zzzz22Orya1Zzzz7Orya1Zzzz2Orya1Zzzz5Orya2Zzzz9Orya2Zzzz2Orya2Zzzz3Or",
   "ya7Zzzz3Orya4Zzzz2Orya1Zzzz5Orya2Zzzz18Orya10Zzzz2Taml1Zzzz6Taml3Zzzz3Taml1Zzzz4Taml3Zzzz2Taml",
   "1Zzzz1Taml1Zzzz2Taml3Zzzz2Taml3Zzzz3Taml3Zzzz12Taml4Zzzz5Taml3Zzzz3Taml1Zzzz4Taml2Zzzz1Taml6Zz",
   "zz1Taml14Zzzz21Taml5Zzzz13Telu1Zzzz3Telu1Zzzz23Telu1Zzzz16Telu2Zzzz9Telu1Zzzz3Telu1Zzzz4Telu7Z",
   "zzz2Telu1Zzzz3Telu2Zzzz1Telu2Zzzz4Telu2Zzzz10Telu7Zzzz9Telu13Knda1Zzzz3Knda1Zzzz23Knda1Zzzz10K",
   "nda1Zzzz5Knda2Zzzz9Knda1Zzzz3Knda1Zzzz4Knda7Zzzz2Knda6Zzzz2Knda1Zzzz4Knda2Zzzz10Knda1Zzzz3Knda",
   "12Zzzz13Mlym1Zzzz3Mlym1Zzzz51Mlym1Zzzz3Mlym1Zzzz6Mlym4Zzzz16Mlym2Zzzz26Mlym1Zzzz3Sinh1Zzzz18Si",
   "nh3Zzzz24Sinh1Zzzz9Sinh1Zzzz1Sinh2Zzzz7Sinh3Zzzz1Sinh4Zzzz6Sinh1Zzzz1Sinh1Zzzz8Sinh6Zzzz10Sinh",
   "2Zzzz3Sinh12Zzzz58Thai4Zzzz1Zyyy28Thai37Zzzz2Laoo1Zzzz1Laoo1Zzzz5Laoo1Zzzz24Laoo1Zzzz1Laoo1Zzz",
   "z23Laoo2Zzzz5Laoo1Zzzz1Laoo1Zzzz7Laoo1Zzzz10Laoo2Zzzz4Laoo32Zzzz72Tibt1Zzzz36Tibt4Zzzz39Tibt1Z",
   "zzz36Tibt1Zzzz15Tibt1Zzzz7Tibt4Zyyy2Tibt37Zzzz160Mymr38Geor1Zzzz1Geor5Zzzz1Geor2Zzzz43Geor1Zyy",
   "y4Geor256Hang73Ethi1Zzzz4Ethi2Zzzz7Ethi1Zzzz1Ethi1Zzzz4Ethi2Zzzz41Ethi1Zzzz4Ethi2Zzzz33Ethi1Zz",
   "zz4Ethi2Zzzz7Ethi1Zzzz1Ethi1Zzzz4Ethi2Zzzz15Ethi1Zzzz57Ethi1Zzzz4Ethi2Zzzz67Ethi2Zzzz32Ethi3Zz",
   "zz26Ethi6Zzzz86Cher2Zzzz6Cher2Zzzz640Cans29Ogam3Zzzz75Runr3Zyyy11Runr7Zzzz22Tglg9Zzzz1Tglg21Ha",
   "no2Zyyy9Zzzz20Buhd12Zzzz13Tagb1Zzzz3Tagb1Zzzz2Tagb12Zzzz94Khmr2Zzzz10Khmr6Zzzz10Khmr6Zzzz2Mong",
   "2Zyyy1Mong1Zyyy20Mong6Zzzz89Mong7Zzzz43Mong5Zzzz70Cans10Zzzz31Limb1Zzzz12Limb4Zzzz12Limb4Zzzz1",
   "Limb3Zzzz12Limb30Tale2Zzzz5Tale11Zzzz44Talu4Zzzz26Talu6Zzzz11Talu3Zzzz2Talu32Khmr28Bugi2Zzzz2B",
   "ugi63Lana1Zzzz29Lana2Zzzz11Lana6Zzzz10Lana6Zzzz14Lana2Zzzz31Zinh49Zzzz77Bali1Zzzz50Bali64Sund5",
   "2Batk8Zzzz4Batk56Lepc3Zzzz15Lepc3Zzzz3Lepc48Olck11Cyrl5Zzzz43Geor2Zzzz3Geor8Sund8Zzzz3Zinh1Zyy",
   "y13Zinh1Zyyy7Zinh4Zyyy1Zinh6Zyyy1Zinh3Zyyy2Zinh1Zyyy5Zzzz38Latn5Grek1Cyrl49Latn5Grek4Latn5Grek",
   "13Latn1Cyrl70Latn1Grek64Zinh256Latn22Grek2Zzzz6Grek2Zzzz38Grek2Zzzz6Grek2Zzzz8Grek1Zzzz1Grek1Z",
   "zzz1Grek1Zzzz1Grek1Zzzz31Grek2Zzzz53Grek1Zzzz15Grek1Zzzz14Grek2Zzzz6Grek1Zzzz19Grek2Zzzz3Grek1",
   "Zzzz9Grek1Zzzz12Zyyy2Zinh87Zyyy1Zzzz11Zyyy1Latn2Zzzz11Zyyy1Latn15Zyyy1Zzzz13Latn3Zzzz33Zyyy15Z",
   "zzz33Zinh15Zzzz38Zyyy1Grek3Zyyy2Latn6Zyyy1Latn27Zyyy1Latn17Zyyy41Latn3Zyyy4Zzzz666Zyyy22Zzzz11",
   "Zyyy21Zzzz928Zyyy256Brai628Zyyy2Zzzz32Zyyy1Zzzz105Zyyy96Glag32Latn116Copt5Zzzz7Copt38Geor1Zzzz",
   "1Geor5Zzzz1Geor2Zzzz56Tfng7Zzzz2Tfng14Zzzz1Tfng23Ethi9Zzzz7Ethi1Zzzz7Ethi1Zzzz7Ethi1Zzzz7Ethi1",
   "Zzzz7Ethi1Zzzz7Ethi1Zzzz7Ethi1Zzzz7Ethi1Zzzz32Cyrl94Zyyy34Zzzz26Hani1Zzzz89Hani12Zzzz214Hani26",
   "Zzzz21Zyyy1Hani1Zyyy1Hani25Zyyy9Hani4Zinh2Hang8Zyyy4Hani4Zyyy1Zzzz86Hira2Zzzz2Zinh2Zyyy3Hira1Z",
   "yyy90Kana2Zyyy3Kana5Zzzz43Bopo1Zzzz94Hang1Zzzz16Zyyy32Bopo38Zyyy9Zzzz1Zyyy16Kana31Hang1Zzzz64Z",
   "yyy31Hang81Zyyy47Kana1Zyyy88Kana168Zyyy6592Hani64Zyyy20992Hani1165Yiii3Zzzz55Yiii9Zzzz48Lisu30",
   "0Vaii20Zzzz96Cyrl88Bamu8Zzzz34Zyyy102Latn3Zyyy67Latn2Zzzz2Latn1Zzzz1Latn1Zzzz8Latn21Zzzz14Latn",
   "45Sylo3Zzzz10Zyyy6Zzzz56Phag8Zzzz70Saur8Zzzz12Saur6Zzzz32Deva46Kali1Zyyy1Kali36Rjng11Zzzz1Rjng",
   "29Hang3Zzzz78Java1Zzzz1Zyyy10Java4Zzzz2Java31Mymr1Zzzz55Cham9Zzzz14Cham2Zzzz10Cham2Zzzz4Cham32",
   "Mymr67Tavt24Zzzz5Tavt23Mtei10Zzzz6Ethi2Zzzz6Ethi2Zzzz6Ethi9Zzzz7Ethi1Zzzz7Ethi1Zzzz43Latn1Zyyy",
   "9Latn1Grek4Latn2Zyyy4Zzzz80Cher46Mtei2Zzzz10Mtei6Zzzz11172Hang12Zzzz23Hang4Zzzz49Hang8452Zzzz3",
   "66Hani2Zzzz106Hani38Zzzz7Latn12Zzzz5Armn5Zzzz26Hebr1Zzzz5Hebr1Zzzz1Hebr1Zzzz2Hebr1Zzzz2Hebr1Zz",
   "zz10Hebr115Arab16Zzzz363Arab2Zyyy80Arab2Zzzz54Arab7Zzzz1Arab32Zzzz16Arab16Zinh10Zyyy6Zzzz14Zin",
   "h2Cyrl35Zyyy1Zzzz19Zyyy1Zzzz4Zyyy4Zzzz5Arab1Zzzz135Arab2Zzzz1Zyyy1Zzzz32Zyyy26Latn6Zyyy26Latn1",
   "1Zyyy10Kana1Zyyy45Kana2Zyyy31Hang3Zzzz6Hang2Zzzz6Hang2Zzzz6Hang2Zzzz3Hang3Zzzz7Zyyy1Zzzz7Zyyy1",
   "0Zzzz5Zyyy2Zzzz12Linb1Zzzz26Linb1Zzzz19Linb1Zzzz2Linb1Zzzz15Linb2Zzzz14Linb34Zzzz123Linb5Zzzz3",
   "Zyyy4Zzzz45Zyyy3Zzzz9Zyyy79Grek1Zzzz13Zyyy3Zzzz1Grek47Zzzz45Zyyy1Zinh130Zzzz29Lyci3Zzzz49Cari1",
   "5Zzzz1Zinh27Zyyy4Zzzz36Ital9Zzzz3Ital27Goth5Zzzz43Perm5Zzzz30Ugar1Zzzz1Ugar36Xpeo4Zzzz14Xpeo42",
   "Zzzz80Dsrt48Shaw30Osma2Zzzz10Osma6Zzzz36Osge4Zzzz36Osge4Zzzz40Elba8Zzzz52Aghb11Zzzz1Aghb11Vith",
   "1Zzzz15Vith1Zzzz7Vith1Zzzz2Vith1Zzzz11Vith1Zzzz15Vith1Zzzz7Vith1Zzzz2Vith3Zzzz52Todr12Zzzz311L",
   "ina9Zzzz22Lina10Zzzz8Lina24Zzzz6Latn1Zzzz42Latn1Zzzz9Latn69Zzzz6Cprt2Zzzz1Cprt1Zzzz44Cprt1Zzzz",
   "2Cprt3Zzzz1Cprt2Zzzz1Cprt22Armi1Zzzz9Armi32Palm31Nbat8Zzzz9Nbat48Zzzz19Hatr1Zzzz2Hatr5Zzzz5Hat",
   "r28Phnx3Zzzz1Phnx26Lydi5Zzzz1Lydi64Zzzz32Mero24Merc4Zzzz20Merc2Zzzz46Merc4Khar1Zzzz2Khar5Zzzz8",
   "Khar1Zzzz3Khar1Zzzz29Khar2Zzzz3Khar4Zzzz10Khar7Zzzz9Khar7Zzzz32Sarb32Narb32Zzzz39Mani4Zzzz12Ma",
   "ni9Zzzz54Avst3Zzzz7Avst22Prti2Zzzz8Prti19Phli5Zzzz8Phli18Phlp7Zzzz4Phlp12Zzzz7Phlp80Zzzz73Orkh",
   "55Zzzz51Hung13Zzzz51Hung7Zzzz6Hung40Rohg8Zzzz10Rohg6Zzzz38Gara3Zzzz29Gara8Zzzz2Gara208Zzzz31Ar",
   "ab1Zzzz42Yezi1Zzzz3Yezi2Zzzz2Yezi16Zzzz3Arab55Zzzz4Arab40Sogo8Zzzz42Sogd22Zzzz26Ougr38Zzzz28Ch",
   "rs20Zzzz23Elym9Zzzz78Brah4Zzzz36Brah9Zzzz1Brah67Kthi10Zzzz1Kthi2Zzzz25Sora7Zzzz10Sora6Zzzz53Ca",
   "km1Zzzz18Cakm8Zzzz39Mahj9Zzzz96Shrd1Zzzz20Sinh11Zzzz18Khoj1Zzzz47Khoj62Zzzz7Mult1Zzzz1Mult1Zzz",
   "z4Mult1Zzzz15Mult1Zzzz11Mult6Zzzz59Sind5Zzzz10Sind6Zzzz4Gran1Zzzz8Gran2Zzzz2Gran2Zzzz22Gran1Zz",
   "zz7Gran1Zzzz2Gran1Zzzz5Gran1Zzzz1Zinh9Gran2Zzzz2Gran2Zzzz3Gran2Zzzz1Gran6Zzzz1Gran5Zzzz7Gran2Z",
   "zzz7Gran3Zzzz5Gran11Zzzz10Tutg1Zzzz1Tutg2Zzzz1Tutg1Zzzz38Tutg1Zzzz10Tutg1Zzzz1Tutg2Zzzz1Tutg1Z",
   "zzz4Tutg1Zzzz10Tutg1Zzzz2Tutg8Zzzz2Tutg29Zzzz92Newa1Zzzz5Newa30Zzzz72Tirh8Zzzz10Tirh166Zzzz54S",
   "idd2Zzzz38Sidd34Zzzz69Modi11Zzzz10Modi6Zzzz13Mong19Zzzz58Takr6Zzzz10Takr6Zzzz20Mymr28Zzzz27Aho",
   "m2Zzzz15Ahom4Zzzz23Ahom185Zzzz60Dogr100Zzzz83Wara12Zzzz1Wara7Diak2Zzzz1Diak2Zzzz8Diak1Zzzz2Dia",
   "k1Zzzz30Diak1Zzzz2Diak2Zzzz12Diak9Zzzz10Diak70Zzzz8Nand2Zzzz46Nand2Zzzz11Nand27Zzzz72Zanb8Zzzz",
   "83Soyo13Zzzz16Cans57Pauc7Zzzz10Deva182Zzzz34Sunu14Zzzz10Sunu6Zzzz9Bhks1Zzzz45Bhks1Zzzz14Bhks10",
   "Zzzz29Bhks3Zzzz32Marc2Zzzz22Marc1Zzzz14Marc73Zzzz7Gonm1Zzzz2Gonm1Zzzz44Gonm3Zzzz1Gonm1Zzzz2Gon",
   "m1Zzzz9Gonm8Zzzz10Gonm6Zzzz6Gong1Zzzz2Gong1Zzzz37Gong1Zzzz2Gong1Zzzz6Gong7Zzzz10Gong310Zzzz25M",
   "aka7Zzzz17Kawi1Zzzz41Kawi3Zzzz29Kawi85Zzzz1Lisu15Zzzz50Taml13Zzzz1Taml922Xsux102Zzzz111Xsux1Zz",
   "zz5Xsux11Zzzz196Xsux2636Zzzz99Cpmn13Zzzz1110Egyp10Zzzz3995Egyp5Zzzz583Hluw6841Zzzz58Gukh1734Zz",
   "zz569Bamu7Zzzz31Mroo1Zzzz10Mroo4Zzzz2Mroo79Tnsa1Zzzz10Tnsa6Zzzz30Bass2Zzzz6Bass10Zzzz70Hmng10Z",
   "zzz10Hmng1Zzzz7Hmng1Zzzz21Hmng5Zzzz19Hmng432Zzzz58Krai198Zzzz91Medf101Zzzz75Plrd4Zzzz57Plrd7Zz",
   "zz17Plrd64Zzzz1Tang1Nshu2Hani1Kits11Zzzz2Hani14Zzzz6136Tang8Zzzz768Tang470Kits41Zzzz1Kits9Tang",
   "8935Zzzz4Kana1Zzzz7Kana1Zzzz2Kana1Zzzz1Kana287Hira3Kana15Zzzz1Hira29Zzzz3Hira2Zzzz1Kana14Zzzz4",
   "Kana8Zzzz396Nshu2308Zzzz107Dupl5Zzzz13Dupl3Zzzz9Dupl7Zzzz10Dupl2Zzzz4Dupl4Zyyy3932Zzzz250Zyyy6",
   "Zzzz436Zyyy76Zzzz46Zinh2Zzzz23Zinh9Zzzz116Zyyy60Zzzz246Zyyy10Zzzz39Zyyy2Zzzz62Zyyy3Zinh17Zyyy8",
   "Zinh2Zyyy7Zinh30Zyyy4Zinh61Zyyy21Zzzz70Grek122Zzzz20Zyyy12Zzzz20Zyyy12Zzzz87Zyyy9Zzzz25Zyyy135",
   "Zzzz85Zyyy1Zzzz71Zyyy1Zzzz2Zyyy2Zzzz1Zyyy2Zzzz2Zyyy2Zzzz4Zyyy1Zzzz12Zyyy1Zzzz1Zyyy1Zzzz7Zyyy1Z",
   "zzz65Zyyy1Zzzz4Zyyy2Zzzz8Zyyy1Zzzz7Zyyy1Zzzz28Zyyy1Zzzz4Zyyy1Zzzz5Zyyy1Zzzz1Zyyy3Zzzz7Zyyy1Zzz",
   "z340Zyyy2Zzzz292Zyyy2Zzzz50Zyyy652Sgnw15Zzzz5Sgnw1Zzzz15Sgnw1104Zzzz31Latn6Zzzz6Latn213Zzzz7Gl",
   "ag1Zzzz17Glag2Zzzz7Glag1Zzzz2Glag1Zzzz5Glag5Zzzz62Cyrl33Zzzz1Cyrl112Zzzz45Hmnp3Zzzz14Hmnp2Zzzz",
   "10Hmnp4Zzzz2Hmnp320Zzzz31Toto17Zzzz58Wcho5Zzzz1Wcho464Zzzz42Nagm214Zzzz43Onao4Zzzz1Onao480Zzzz",
   "7Ethi1Zzzz4Ethi1Zzzz2Ethi1Zzzz15Ethi1Zzzz197Mend2Zzzz16Mend41Zzzz76Adlm4Zzzz10Adlm4Zzzz2Adlm78",
   "5Zzzz68Zyyy76Zzzz61Zyyy194Zzzz4Arab1Zzzz27Arab1Zzzz2Arab1Zzzz1Arab2Zzzz1Arab1Zzzz10Arab1Zzzz4A",
   "rab1Zzzz1Arab1Zzzz1Arab6Zzzz1Arab4Zzzz1Arab1Zzzz1Arab1Zzzz1Arab1Zzzz3Arab1Zzzz2Arab1Zzzz1Arab2",
   "Zzzz1Arab1Zzzz1Arab1Zzzz1Arab1Zzzz1Arab1Zzzz1Arab1Zzzz2Arab1Zzzz1Arab2Zzzz4Arab1Zzzz7Arab1Zzzz",
   "4Arab1Zzzz4Arab1Zzzz1Arab1Zzzz10Arab1Zzzz17Arab5Zzzz3Arab1Zzzz5Arab1Zzzz17Arab52Zzzz2Arab270Zz",
   "zz44Zyyy4Zzzz100Zyyy12Zzzz15Zyyy2Zzzz15Zyyy1Zzzz15Zyyy1Zzzz37Zyyy10Zzzz174Zyyy56Zzzz26Zyyy1Hir",
   "a2Zyyy13Zzzz44Zyyy4Zzzz9Zyyy7Zzzz2Zyyy14Zzzz6Zyyy154Zzzz984Zyyy4Zzzz17Zyyy3Zzzz13Zyyy3Zzzz119Z",
   "yyy4Zzzz95Zyyy6Zzzz12Zyyy4Zzzz1Zyyy15Zzzz12Zyyy4Zzzz56Zyyy8Zzzz10Zyyy6Zzzz40Zyyy8Zzzz30Zyyy2Zz",
   "zz12Zyyy4Zzzz2Zyyy62Zzzz340Zyyy12Zzzz14Zyyy2Zzzz13Zyyy3Zzzz10Zyyy5Zzzz56Zyyy7Zzzz15Zyyy2Zzzz11",
   "Zyyy6Zzzz9Zyyy7Zzzz147Zyyy1Zzzz102Zyyy1030Zzzz42720Hani32Zzzz4154Hani6Zzzz222Hani2Zzzz5762Hani",
   "14Zzzz7473Hani15Zzzz622Hani2466Zzzz542Hani1506Zzzz4939Hani5Zzzz4192Hani711761Zzzz1Zyyy30Zzzz96",
   "Zyyy128Zzzz240Zinh196112Zzzz"]

/-- The code points that are used with other scripts than their own, as runs whose labels are
the codes of these scripts. -/
def scriptExtensionRuns : List String :=
  ["183o1AvstCariCoptDuplElbaGeorGlagGongGothGrekHaniLatnLydiMahjPermShaw516o1BengCyrlDevaLatnLisu",
   "ThaiToto10o1BopoLatn1o3BopoLatn1o1LatnLisu9o1LatnThai1o1BopoLatn38o1CherCoptCyrlGrekLatnPermSu",
   "nuTale1CherCyrlGrekLatnOsgeSunuTaleTodr1CherCyrlLatnTfng1GlagLatnSunuSyrcThai1AghbCherCoptCyrl",
   "GothGrekLatnOsgeSyrcTfngTodr1CoptElbaGlagGothKanaLatn1CyrlGrekLatnPerm1CoptDuplHebrLatnPermSyr",
   "cTaleTfngTodr1ArmnCyrlDuplGothGrekHebrLatnPermSyrcTale1LatnTfng1DuplLatnSyrc1CherCyrlLatnOsge1",
   "CherLatnTale1LatnSunu1EthiLatn1o1LatnSunu1CyrlLatnTodr1o1GrekLatnPermTodr12o1LatnSyrc2o1CherDu",
   "plKanaLatnSyrc1CherDuplLatnSyrc1LatnSyrc7o1LatnSunuSyrc1LatnSyrc1o1CherLatnSyrc1AghbCherGothLa",
   "tnSunuThai16o1Grek2o1Grek18o1LatnOsge5o1AghbLatnTodr4o13Latn4o2CoptGrek269o1CyrlPerm1CyrlGlag2",
   "CyrlLatn1CyrlGlag257o1ArmnGeorGlag130o1ArabGaraNkooRohgSyrcThaaYezi14o1ArabGaraNkooRohgSyrcTha",
   "aYezi1ArabSyrcThaa2o1AdlmArabGaraNkooRohgSyrcThaaYezi32o1AdlmArabMandManiOugrPhlpRohgSogdSyrc1",
   "0o11ArabSyrc10o10ArabThaaYezi6o1ArabSyrc99o1ArabRohg636o1BengDevaGranGujrGuruKndaLatnMlymOryaS",
   "hrdTamlTeluTirh1BengDevaGranGujrGuruKndaLatnMlymOryaTamlTeluTirh17o1BengDevaDogrGongGonmGranGu",
   "jrGuruKndaMahjMlymNandOnaoOryaSindSinhSyloTakrTamlTeluTirh1BengDevaDogrGongGonmGranGujrGukhGur",
   "uKndaLimbMahjMlymNandOnaoOryaSindSinhSyloTakrTamlTeluTirh10DevaDogrKthiMahj118o10BengCakmSylo1",
   "18o10GuruMult118o10GujrKhoj246o14GranTaml242o10KndaNandTutg848o10CakmMymrTale177o1GeorGlagLatn",
   "1519o3Runr71o2BuhdHanoTagbTglg203o2MongPhag1o1MongPhag1226o1BengDevaGranKnda1Deva1BengDevaGran",
   "Knda1DevaGranKnda1Deva2BengDeva1DevaShrd1BengDeva1DevaShrd1DevaKndaMlymOryaTamlTelu1Deva2DevaS",
   "hrd2Deva1DevaShrd1BengDeva7Deva1DevaNand1BengDeva2Deva1BengDeva4Deva1BengDevaGranKndaMlymNandO",
   "ryaSinhTeluTirhTutg1DevaGran1DevaGranKndaTutg2BengDeva1Beng2DevaGran1Nand197o2Grek54o1CyrlLatn",
   "Syrc1o1Syrc564o1LatnMongPhag31o1AdlmArab10o1CariGeorGlagHungLyciOrkh2o1CariGrekHungMero146o1De",
   "vaGranLatn3366o1CoptLatn24o1AvstOrkh1AvstCariGeorHungKthiLydiSamr10o1Dupl4o1AdlmArabHung1o1Cyr",
   "lGlag428o16HaniTang1o1BopoHangHaniHiraKanaMongYiii1BopoHangHaniHiraKanaMongPhagYiii1BopoHangHa",
   "niHiraKana2o1Hani1o2BopoHangHaniHiraKanaMongTibtYiii2BopoHangHaniHiraKanaLisuMongTibtYiii6Bopo",
   "HangHaniHiraKanaYiii1o1BopoHangHaniHiraKana8BopoHangHaniHiraKanaYiii4BopoHangHaniHiraKana10o4B",
   "opoHani2o1BopoHangHaniHiraKana5HiraKana1o1BopoHangHaniHiraKana4o2HaniHiraKana2Hani89o4HiraKana",
   "3o1HiraKana90o1BopoHangHaniHiraKanaYiii1HiraKana147o16Hani32o38Hani9o1HaniTang48o40Hani56o49Ha",
   "ni15o12Hani51o1Hani88o25Hani10o5Hani96o31Hani29296o1CyrlGlag144o8HaniLatn296o3DevaDogrGujrGuru",
   "KhojKndaKthiMahjMlymModiNandShrdSindTakrTirhTutg3DevaDogrGujrGuruKhojKndaKthiMahjModiNandShrdS",
   "indTakrTirhTutg2DevaDogrGujrGuruKhojKthiMahjModiSindTakrTirh1DevaDogrGujrGuruKhojKthiMahjModiS",
   "hrdSindTakrTirh1DevaDogrGujrGuruKhojKthiMahjModiSindTakrTirh183o1BengDevaTutg1o1DevaTaml58o1Ka",
   "liLatnMymr160o1BugiJava21358o2ArabNkoo178o1ArabThaa10o1ArabThaa71o2BopoHangHaniHiraKana282o5Bo",
   "poHangHaniHiraKanaYiii10o1HiraKana45o2HiraKana352o2CpmnCprtLinb1CprtLinb4o45CprtLinaLinb3o9Cpr",
   "tLinb416o28ArabCopt2038o1ManiOugr2062o1GranTaml1o1GranTaml55o2GranTaml3219o2GranTaml1o1GranTam",
   "l40140o4Dupl5820o18Hani7902o2Hani"]

def scriptNames : List (String × List String) :=
  [
    ("Adlm", ["adlam"]),
    ("Aghb", ["caucasianalbanian"]),
    ("Ahom", ["ahom"]),
    ("Arab", ["arabic"]),
    ("Armi", ["imperialaramaic"]),
    ("Armn", ["armenian"]),
    ("Avst", ["avestan"]),
    ("Bali", ["balinese"]),
    ("Bamu", ["bamum"]),
    ("Bass", ["bassavah"]),
    ("Batk", ["batak"]),
    ("Beng", ["bengali"]),
    ("Bhks", ["bhaiksuki"]),
    ("Bopo", ["bopomofo"]),
    ("Brah", ["brahmi"]),
    ("Brai", ["braille"]),
    ("Bugi", ["buginese"]),
    ("Buhd", ["buhid"]),
    ("Cakm", ["chakma"]),
    ("Cans", ["canadianaboriginal"]),
    ("Cari", ["carian"]),
    ("Cham", ["cham"]),
    ("Cher", ["cherokee"]),
    ("Chrs", ["chorasmian"]),
    ("Copt", ["coptic", "qaac"]),
    ("Cpmn", ["cyprominoan"]),
    ("Cprt", ["cypriot"]),
    ("Cyrl", ["cyrillic"]),
    ("Deva", ["devanagari"]),
    ("Diak", ["divesakuru"]),
    ("Dogr", ["dogra"]),
    ("Dsrt", ["deseret"]),
    ("Dupl", ["duployan"]),
    ("Egyp", ["egyptianhieroglyphs"]),
    ("Elba", ["elbasan"]),
    ("Elym", ["elymaic"]),
    ("Ethi", ["ethiopic"]),
    ("Gara", ["garay"]),
    ("Geor", ["georgian"]),
    ("Glag", ["glagolitic"]),
    ("Gong", ["gunjalagondi"]),
    ("Gonm", ["masaramgondi"]),
    ("Goth", ["gothic"]),
    ("Gran", ["grantha"]),
    ("Grek", ["greek"]),
    ("Gujr", ["gujarati"]),
    ("Gukh", ["gurungkhema"]),
    ("Guru", ["gurmukhi"]),
    ("Hang", ["hangul"]),
    ("Hani", ["han"]),
    ("Hano", ["hanunoo"]),
    ("Hatr", ["hatran"]),
    ("Hebr", ["hebrew"]),
    ("Hira", ["hiragana"]),
    ("Hluw", ["anatolianhieroglyphs"]),
    ("Hmng", ["pahawhhmong"]),
    ("Hmnp", ["nyiakengpuachuehmong"]),
    ("Hung", ["oldhungarian"]),
    ("Ital", ["olditalic"]),
    ("Java", ["javanese"]),
    ("Kali", ["kayahli"]),
    ("Kana", ["katakana"]),
    ("Kawi", ["kawi"]),
    ("Khar", ["kharoshthi"]),
    ("Khmr", ["khmer"]),
    ("Khoj", ["khojki"]),
    ("Kits", ["khitansmallscript"]),
    ("Knda", ["kannada"]),
    ("Krai", ["kiratrai"]),
    ("Kthi", ["kaithi"]),
    ("Lana", ["taitham"]),
    ("Laoo", ["lao"]),
    ("Latn", ["latin"]),
    ("Lepc", ["lepcha"]),
    ("Limb", ["limbu"]),
    ("Lina", ["lineara"]),
    ("Linb", ["linearb"]),
    ("Lisu", ["lisu"]),
    ("Lyci", ["lycian"]),
    ("Lydi", ["lydian"]),
    ("Mahj", ["mahajani"]),
    ("Maka", ["makasar"]),
    ("Mand", ["mandaic"]),
    ("Mani", ["manichaean"]),
    ("Marc", ["marchen"]),
    ("Medf", ["medefaidrin"]),
    ("Mend", ["mendekikakui"]),
    ("Merc", ["meroiticcursive"]),
    ("Mero", ["meroitichieroglyphs"]),
    ("Mlym", ["malayalam"]),
    ("Modi", ["modi"]),
    ("Mong", ["mongolian"]),
    ("Mroo", ["mro"]),
    ("Mtei", ["meeteimayek"]),
    ("Mult", ["multani"]),
    ("Mymr", ["myanmar"]),
    ("Nagm", ["nagmundari"]),
    ("Nand", ["nandinagari"]),
    ("Narb", ["oldnortharabian"]),
    ("Nbat", ["nabataean"]),
    ("Newa", ["newa"]),
    ("Nkoo", ["nko"]),
    ("Nshu", ["nushu"]),
    ("Ogam", ["ogham"]),
    ("Olck", ["olchiki"]),
    ("Onao", ["olonal"]),
    ("Orkh", ["oldturkic"]),
    ("Orya", ["oriya"]),
    ("Osge", ["osage"]),
    ("Osma", ["osmanya"]),
    ("Ougr", ["olduyghur"]),
    ("Palm", ["palmyrene"]),
    ("Pauc", ["paucinhau"]),
    ("Perm", ["oldpermic"]),
    ("Phag", ["phagspa"]),
    ("Phli", ["inscriptionalpahlavi"]),
    ("Phlp", ["psalterpahlavi"]),
    ("Phnx", ["phoenician"]),
    ("Plrd", ["miao"]),
    ("Prti", ["inscriptionalparthian"]),
    ("Rjng", ["rejang"]),
    ("Rohg", ["hanifirohingya"]),
    ("Runr", ["runic"]),
    ("Samr", ["samaritan"]),
    ("Sarb", ["oldsoutharabian"]),
    ("Saur", ["saurashtra"]),
    ("Sgnw", ["signwriting"]),
    ("Shaw", ["shavian"]),
    ("Shrd", ["sharada"]),
    ("Sidd", ["siddham"]),
    ("Sind", ["khudawadi"]),
    ("Sinh", ["sinhala"]),
    ("Sogd", ["sogdian"]),
    ("Sogo", ["oldsogdian"]),
    ("Sora", ["sorasompeng"]),
    ("Soyo", ["soyombo"]),
    ("Sund", ["sundanese"]),
    ("Sunu", ["sunuwar"]),
    ("Sylo", ["sylotinagri"]),
    ("Syrc", ["syriac"]),
    ("Tagb", ["tagbanwa"]),
    ("Takr", ["takri"]),
    ("Tale", ["taile"]),
    ("Talu", ["newtailue"]),
    ("Taml", ["tamil"]),
    ("Tang", ["tangut"]),
    ("Tavt", ["taiviet"]),
    ("Telu", ["telugu"]),
    ("Tfng", ["tifinagh"]),
    ("Tglg", ["tagalog"]),
    ("Thaa", ["thaana"]),
    ("Thai", ["thai"]),
    ("Tibt", ["tibetan"]),
    ("Tirh", ["tirhuta"]),
    ("Tnsa", ["tangsa"]),
    ("Todr", ["todhri"]),
    ("Toto", ["toto"]),
    ("Tutg", ["tulutigalari"]),
    ("Ugar", ["ugaritic"]),
    ("Vaii", ["vai"]),
    ("Vith", ["vithkuqi"]),
    ("Wara", ["warangciti"]),
    ("Wcho", ["wancho"]),
    ("Xpeo", ["oldpersian"]),
    ("Xsux", ["cuneiform"]),
    ("Yezi", ["yezidi"]),
    ("Yiii", ["yi"]),
    ("Zanb", ["zanabazarsquare"]),
    ("Zinh", ["inherited", "qaai"]),
    ("Zyyy", ["common"])]

def ofScript (code : String) : CharSet :=
  .ofRanges (rangesOfRuns (· = code) scriptRuns)

def codesOfLabel : Text → List String
  | a :: b :: c :: d :: rest => String.ofList [a, b, c, d] :: codesOfLabel rest
  | _ => []

/-- The characters that are used with a script: its own, less those with other extensions,
and those whose extensions have it. -/
def ofScriptExtension (code : String) : CharSet :=
  let others := CharSet.ofRanges (rangesOfRuns (· ≠ "o") scriptExtensionRuns)
  let used := CharSet.ofRanges
    (rangesOfRuns (fun label => (codesOfLabel label.toList).contains code) scriptExtensionRuns)
  ((ofScript code).difference others).union used

end Character

end Imprint
