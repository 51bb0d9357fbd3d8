import Imprint.Character.Category

/-!
# Binary properties

Properties that a code point has or lacks.  Each is told by general categories and
by the code points that depart from them.
-/

namespace Imprint

namespace Character

/-- A binary property: its names, the categories that mostly have it, and the exceptions to
that, as runs of code points outside and inside. -/
structure BinaryProperty where
  names : List String
  categories : List String
  exceptions : List String

/-- The code points that have a property: those of its categories, where the exceptions
change sides. -/
def BinaryProperty.set (p : BinaryProperty) : CharSet :=
  (ofCategories p.categories).symmetricDifference
    (.ofRanges (rangesOfRuns (· = "i") p.exceptions))

def binaryProperties : List BinaryProperty :=
  [
    { names := ["asciihexdigit", "ahex"]
      categories := []
      exceptions :=
        ["48o10i7o6i26o6i"] },
    { names := ["alphabetic", "alpha"]
      categories := ["Ll", "Lm", "Lo", "Lt", "Lu", "Nl"]
      exceptions :=
        ["837o1i29o13i576o14i1o1i1o2i1o2i1o1i72o11i48o13i1o7i16o1i101o7i4o4i2o2i4o1i35o1i30o16i102",
         "o11i101o2i3o9i1o3i1o4i106o1i60o12i3o7i6o20i54o2i2o15i1o2i5o3i10o2i29o3i58o7i2o2i2o2i10o1",
         "i10o2i29o3i58o5i4o2i2o2i4o1i30o2i3o1i11o3i58o8i1o3i1o2i21o2i22o3i4o3i58o7i2o2i2o2i9o2i10",
         "o2i30o1i59o5i3o3i1o3i10o1i40o5i57o7i1o3i1o3i8o2i11o2i29o3i58o7i1o3i1o3i8o2i11o2i15o1i12o",
         "4i58o7i1o3i1o3i10o1i10o2i29o3i75o6i1o1i1o8i18o2i61o1i2o7i18o1i99o1i2o6i1o2i16o1i163o19i9",
         "o11i1o36i110o12i1o1i2o4i23o4i4o3i1o3i2o7i3o4i13o12i1o1i10o4i1652o2i30o2i30o2i30o2i66o19i",
         "188o2i34o1i118o12i4o9i222o5i57o10i2o20i74o2i11o3i49o5i48o15i60o3i30o9i2o2i57o11i50o19i41",
         "2o34i1729o52i2294o32i30836o8i34o2i354o1i8o1i23o5i88o2i50o16i1o1i57o1i38o5i28o12i45o4i48o",
         "12i37o1i67o14i12o1i8o2i45o3i50o1i1o3i2o2i5o1i44o5i5o1i237o8i20275o1i2135o5i1670o3i1o2i5o",
         "4i788o4i65o1i321o2i79o1i259o3i53o14i45o2i11o3i45o9i9o1i61o3i36o12i18o2i57o3i48o13i14o2i9",
         "2o9i2o1i6o1i2o1i157o10i23o4i58o7i2o2i2o2i10o1i10o2i84o9i1o1i2o1i1o4i1o2i103o13i1o3i106o1",
         "8i237o7i2o7i29o2i82o15i1o1i106o11i103o14i257o13i247o6i1o2i2o2i3o1i1o1i142o7i2o6i4o1i28o1",
         "0i42o5i1o4i18o11i46o14i407o8i1o7i83o22i1o14i122o6i3o1i1o2i1o3i1o1i3o1i66o5i1o2i1o4i348o4",
         "i9o2i1o1i48o7i3o3i16861o17i3616o1i1o55i7o4i93o2i19628o1i9057o7i1o17i2o7i1o2i1o5i100o1i22",
         "31o1i2024o26i6o26i6o26i"] },
    { names := ["bidicontrol", "bidic"]
      categories := []
      exceptions :=
        ["1564o1i6641o2i26o5i55o4i"] },
    { names := ["bidimirrored", "bidim"]
      categories := ["Pe", "Pf", "Pi", "Ps"]
      exceptions :=
        ["60o1i1o1i8153o8i288o1i192o4i3o6i3o1i3o2i3o4i1o4i1o1i1o1i4o9i5o1i1o18i5o4i9o2i1o1i1o8i1o3",
         "2i2o4i5o1i9o2i2o19i5o2i9o5i2o2i4o24i2o16i32o2i1182o1i2o2i3o2i1o3i5o4i5o3i3o4i437o6i1o14i",
         "8o1i7o6i3o1i4o5i1o2i6o1i4o1i1o3i2o2i10o6i16o19i1o4i2o1i1o1i2o1i1o4i5o2i6o3i24o2i11o2i4o4",
         "i1o2i2o2i4o43i2o8i1o40i5o1i1o1i3o5i5o3i4o1i3o5i1o1i256o1i579o1i474o3i52510o2i215o2i28o16",
         "i2o2i27o2i182o1i1o1i55228o1i57o1i57o1i57o1i57o1i"] },
    { names := ["caseignorable", "ci"]
      categories := ["Cf", "Lm", "Me", "Mn", "Sk"]
      exceptions :=
        ["39o1i6o1i11o1i124o1i719o1i471o1i148o1i6691o2i10o1i2o1i56811o1i62o1i2o1i177o1i6o1i11o1i"] },
    { names := ["cased"]
      categories := ["Ll", "Lt", "Lu"]
      exceptions :=
        ["170o1i15o1i501o9i7o2i30o5i96o1i52o1i3457o1i3119o63i13o1i34o37i689o1i13o1i16o13i195o32i82",
         "2o52i1938o2i31262o2i210o1i129o3i3o2i866o4i9o1i23574o1i2o3i1o42i1o9i55413o62i4290o26i6o26",
         "i6o26i"] },
    { names := ["changeswhencasefolded", "cwcf"]
      categories := ["Lt", "Lu"]
      exceptions :=
        ["181o1i41o1i105o1i53o1i453o1i124o1i13o7i25o2i3o1i401o1i3608o86i2o6i2178o9i529o2i228o8i8o8",
         "i8o8i10o3i2o1i10o3i2o1i42o3i2o1i266o1i4o1i3o3i2o3i2o1i3o5i6o1i3o1i3o2i2o2i1o1i10o2i5o1i2",
         "6o16i838o26i34464o80i20288o7i12o5i55528o26i26o26i26o26i26o1i1o2i2o1i2o2i2o4i1o8i26o26i26",
         "o2i1o4i2o8i1o7i27o2i1o4i1o5i1o1i3o7i27o26i26o26i26o26i26o26i26o26i26o26i30o25i33o25i33o2",
         "5i33o25i33o25i33o1i"] },
    { names := ["changeswhencasemapped", "cwcm"]
      categories := ["Ll", "Lt", "Lu"]
      exceptions :=
        ["312o1i84o1i28o2i14o1i3o1i98o1i18o6i27o1i2o1i1o1i2o3i2o1i4o1i5o2i1o1i2o2i1o7i1o2i1o1i2o3i",
         "6o5i1o1i1o8i2o17i149o1i140o3i39o1i355o1i39o1i6007o44i63o13i2o3i1o16i1o12i257o2i1o1i610o1",
         "i4o1i2o10i1o1i3o5i6o1i3o1i3o2i1o3i1o2i4o1i2o4i5o5i22o32i822o52i1927o1i2o1i2o5i104o1i3130",
         "7o2i63o8i21o1i6o1i25o1i35o1i1o1i36o1i821o35i1o7i5o9i75927o85i1o71i1o2i2o1i2o2i2o4i1o12i1",
         "o1i1o7i1o65i1o4i2o8i1o7i1o28i1o4i1o5i1o1i3o7i1o340i2o25i1o25i1o31i1o25i1o31i1o25i1o31i1o",
         "25i1o31i1o25i1o8i1844o10i1o20i6o6i"] },
    { names := ["changeswhenlowercased", "cwl"]
      categories := ["Lt", "Lu"]
      exceptions :=
        ["978o3i7469o1i4o1i3o3i2o3i2o1i3o5i6o1i3o1i3o2i2o2i1o1i10o2i5o1i26o16i838o26i110384o26i26o",
         "26i26o26i26o1i1o2i2o1i2o2i2o4i1o8i26o26i26o2i1o4i2o8i1o7i27o2i1o4i1o5i1o1i3o7i27o26i26o2",
         "6i26o26i26o26i26o26i26o26i30o25i33o25i33o25i33o25i33o25i33o1i"] },
    { names := ["changeswhentitlecased", "cwt"]
      categories := ["Ll"]
      exceptions :=
        ["312o1i84o1i28o2i14o1i3o1i5o1i2o1i2o1i38o1i47o1i18o6i27o1i2o1i1o1i2o3i2o1i4o1i5o2i1o1i2o2",
         "i1o7i1o2i1o1i2o3i6o5i1o1i1o8i2o17i149o1i182o1i355o1i39o1i2887o43i2o3i3072o44i63o13i2o3i1",
         "o16i1o12i257o2i1o1i618o1i3o2i3o1i27o1i4o1i4o1i2o2i8o4i38o16i848o26i1927o1i2o1i2o5i104o1i",
         "31307o2i63o8i21o1i6o1i25o1i35o1i1o1i36o1i821o35i1o7i5o9i75953o26i26o7i1o18i26o26i26o4i1o",
         "1i1o7i1o11i26o26i26o26i26o26i26o26i26o26i26o26i26o26i26o26i26o28i28o25i1o6i26o25i1o6i26o",
         "25i1o6i26o25i1o6i26o25i1o6i1o1i1844o10i1o20i6o6i"] },
    { names := ["changeswhenuppercased", "cwu"]
      categories := ["Ll", "Lt"]
      exceptions :=
        ["312o1i84o1i28o2i14o1i3o1i98o1i18o6i27o1i2o1i1o1i2o3i2o1i4o1i5o2i1o1i2o2i1o7i1o2i1o1i2o3i",
         "6o5i1o1i1o8i2o17i149o1i182o1i355o1i39o1i6007o44i63o13i2o3i1o16i1o12i257o2i1o1i618o1i3o2i",
         "3o1i27o1i4o1i4o1i2o2i8o4i38o16i848o26i1927o1i2o1i2o5i104o1i31307o2i63o8i21o1i6o1i25o1i35",
         "o1i1o1i36o1i821o35i1o7i5o9i75953o26i26o7i1o18i26o26i26o4i1o1i1o7i1o11i26o26i26o26i26o26i",
         "26o26i26o26i26o26i26o26i26o26i26o28i28o25i1o6i26o25i1o6i26o25i1o6i26o25i1o6i26o25i1o6i1o",
         "1i1844o10i1o20i6o6i"] },
    { names := ["dash"]
      categories := ["Pd"]
      exceptions :=
        ["8275o1i39o1i15o1i390o1i"] },
    { names := ["defaultignorablecodepoint", "di"]
      categories := []
      exceptions :=
        ["173o1i673o1i716o1i2882o2i1619o2i85o5i2043o5i26o5i49o16i4340o1i52379o16i239o1i160o1i79o9i",
         "48295o4i5327o8i798341o4096i"] },
    { names := ["deprecated", "dep"]
      categories := []
      exceptions :=
        ["329o1i1321o1i2307o1i1o1i2089o2i2245o6i697o2i908502o1i"] },
    { names := ["diacritic", "dia"]
      categories := ["Sk"]
      exceptions :=
        ["183o1i504o18i4o12i14o5i7o1i1o1i17o79i1o8i5o6i17o1i5o1i264o5i209o1i55o17i1o27i1o1i1o2i1o1",
         "i134o8i4o2i134o2i4o2i3o3i67o27i91o11i58o11i34o2i110o1i15o8i41o10i16o28i61o1i16o1i3o4i28o",
         "1i74o1i16o1i110o1i16o1i110o1i16o1i47o3i60o1i16o1i7o1i119o1i110o1i16o1i110o1i16o1i109o2i1",
         "6o1i124o1i111o1i12o6i1o1i107o1i13o5i75o2i27o1i1o1i1o1i4o2i66o3i1o2i62o1i112o1i1o2i40o2i4",
         "o5i25o7i1o1i10o2i705o3i948o2i30o1i148o11i9o1i347o3i292o1i20o8i2o1i48o15i2o11i104o1i15o1i",
         "38o9i54o2i58o1i11o2i66o2i64o6i82o25i4o1i6o1i2o3i50o63i89o12i37o11i3823o3i317o1i506o6i105",
         "o2i97o1i30066o1i12o2i1o1i28o2i82o2i37o9i104o1i111o2i12o1i37o1i151o1i27o18i57o4i36o1i95o1",
         "i12o1i36o1i149o3i65o4i51o1i101o4i9o1i130o2i20272o1i147o17i605o16i320o1i45o2i832o1i1183o6",
         "i1o42i1o9i637o3i4o1i165o2i571o6i38o1i26o5i399o3i70o11i49o4i192o1i41o1i72o2i120o2i62o1i76",
         "o1i9o3i104o2i178o2i80o2i16o1i24o7i3o5i89o3i1o2i13o2i95o1i3o1i123o2i251o2i126o1i118o2i115",
         "o1i269o2i258o2i4o1i156o1i83o1i18o1i81o1i421o1i258o1i1o2i81o1i425o2i23o1i5356o15i11481o1i",
         "2496o5i59o7i564o2i546o17i80o2i16382o4i1o7i1o2i7937o46i2o23i544o3i3o6i8o8i2o7i30o4i3714o6",
         "2i194o7i375o1i61o4i766o2i736o7i109o3i1o3i2736o5i"] },
    { names := ["emoji"]
      categories := []
      exceptions :=
        ["35o1i6o1i5o10i111o1i4o1i8077o1i12o1i216o1i22o1i90o6i15o2i367o2i12o1i166o1i25o11i4o3i199o",
         "1i231o2i10o1i9o1i58o4i1o5i9o1i2o1i2o2i2o1i4o1i2o1i1o2i2o1i3o1i3o2i8o3i5o1i1o1i5o12i11o2i",
         "2o1i1o2i1o1i18o1i2o2i18o6i1o1i1o2i3o2i5o1i2o2i4o2i11o2i5o2i2o1i5o2i1o1i1o2i20o2i5o6i1o4i",
         "2o1i4o1i2o1i2o6i1o1i2o1i1o1i1o1i6o1i3o1i6o1i10o2i15o1i2o1i4o1i1o1i4o3i1o1i11o2i48o3i9o1i",
         "14o1i14o1i372o2i463o3i19o2i51o1i4o1i1242o1i12o1i601o1i1o1i114026o1i202o1i160o2i12o2i14o1",
         "i2o10i75o26i1o2i23o1i20o1i2o9i21o2i174o34i2o112i2o2i1o3i2o83i2o3i1o263i1o63i11o6i1o24i7o",
         "2i2o8i12o1i2o4i2o1i4o2i13o2i2o1i8o2i9o1i5o3i12o3i8o3i2o1i1o1i4o1i6o1i3o1i6o86i48o70i5o8i",
         "2o3i4o10i3o1i1o2i3o1i2o10i227o12i4o1i283o47i1o10i1o185i112o13i3o10i5o56i7o15i2o11i6o9i"] },
    { names := ["emojicomponent", "ecomp"]
      categories := []
      exceptions :=
        ["35o1i6o1i5o10i8147o1i213o1i56619o1i62422o26i507o5i1456o4i788076o96i"] },
    { names := ["emojimodifier", "emod"]
      categories := []
      exceptions :=
        ["127995o5i"] },
    { names := ["emojimodifierbase", "ebase"]
      categories := []
      exceptions :=
        ["9757o1i219o1i16o4i117879o1i60o3i2o1i2o3i117o2i2o11i21o19i3o1i4o3i1o3i7o1i1o1i24o1i201o2i",
         "4o1i21o1i4o2i174o3i3o5i83o1i16o3i9o1i11o1i575o1i2o1i8o8i6o1i9o10i2o3i56o1i61o2i1o2i1o1i1",
         "7o3i1o13i229o3i42o9i"] },
    { names := ["emojipresentation", "epres"]
      categories := []
      exceptions :=
        ["8986o2i205o4i3o1i2o1i521o2i21o2i50o12i43o1i19o1i13o1i8o2i17o2i5o2i8o1i5o1i21o1i7o2i1o1i4",
         "o1i2o1i7o1i4o2i28o1i35o1i1o1i4o3i1o1i61o3i24o1i14o1i859o2i51o1i4o1i115886o1i202o1i190o1i",
         "2o10i75o26i1o1i24o1i20o1i2o5i1o3i21o2i174o33i12o9i1o70i1o22i12o43i4o5i12o17i3o1i3o71i1o1",
         "i1o187i2o63i13o4i1o24i18o1i26o2i13o1i86o85i48o70i6o1i3o3i2o3i4o4i11o2i7o9i227o12i4o1i283",
         "o47i1o10i1o185i112o13i3o10i5o56i7o15i2o11i6o9i"] },
    { names := ["extendedpictographic", "extpict"]
      categories := []
      exceptions :=
        ["169o1i4o1i8077o1i12o1i216o1i22o1i90o6i15o2i367o2i12o1i95o1i70o1i25o11i4o3i199o1i231o2i10",
         "o1i9o1i58o4i1o6i1o12i1o114i10o118i2o11i1o1i1o1i6o1i3o1i6o1i10o2i15o1i2o1i4o1i1o1i4o3i1o1",
         "i11o5i45o3i9o1i14o1i14o1i372o2i463o3i19o2i51o1i4o1i1242o1i12o1i601o1i1o1i114022o256i13o3",
         "i31o1i60o6i12o2i14o1i2o10i18o57i27o15i10o1i20o1i2o9i1o4i9o434i5o318i8o266i48o128i116o12i",
         "85o43i12o4i56o8i10o6i40o8i30o82i12o47i1o10i1o441i256o1022i"] },
    { names := ["extender", "ext"]
      categories := []
      exceptions :=
        ["183o1i536o2i878o1i441o1i630o1i137o1i89o1i752o1i127o1i2371o1i56o1i611o1i398o1i68o1i5001o1",
         "i43o5i103o2i93o3i28438o1i1526o1i962o1i22o1i137o1i108o1i21o2i21627o1i2064o2i1483o1i27o1i4",
         "o1i1223o1i293o1i116o2i498o3i1231o1i20649o2i1180o2i1o1i29016o2i1201o1i852o3i"] },
    { names := ["graphemebase", "grbase"]
      categories := ["Ll", "Lm", "Lo", "Lt", "Lu", "Mc", "Nd", "Nl", "No", "Pc", "Pd", "Pe", "Pf",
        "Pi", "Po", "Ps", "Sc", "Sk", "Sm", "So", "Zs"]
      exceptions :=
        ["2494o1i24o1i358o1i24o1i102o1i24o1i232o1i1o1i4o2i1o2i9o2i103o1i24o1i119o1i15o1i2357o1i30o",
         "1i1024o1i5o1i1o1i5o2i101o1i71o2i5178o2i31011o1i108o1i21981o2i4640o1i116o1i264o1i14o1i9o1",
         "i96o1i9o1i2o1i1o3i5o1i224o1i12o1i241o1i262o1i633o1i12o1i1539o1i20654o2i24947o2i6o6i"] },
    { names := ["graphemeextend", "grext"]
      categories := ["Me", "Mn"]
      exceptions :=
        ["2494o1i24o1i358o1i24o1i102o1i24o1i232o1i1o1i4o2i1o2i9o2i103o1i24o1i119o1i15o1i2357o1i30o",
         "1i1024o1i5o1i1o1i5o2i101o1i71o2i1048o1i4129o2i31011o1i108o1i21981o2i4640o1i116o1i264o1i1",
         "4o1i9o1i96o1i9o1i2o1i1o3i5o1i224o1i12o1i241o1i262o1i633o1i12o1i1539o1i20654o2i24947o2i6o",
         "6i798381o96i"] },
    { names := ["graphemelink", "grlink"]
      categories := []
      exceptions :=
        ["2381o1i127o1i127o1i127o1i127o1i127o1i127o1i127o1i109o2i16o1i124o1i111o1i127o1i201o1i180o",
         "2i1753o2i30o1i157o1i653o1i227o1i101o2i70o2i4491o1i31366o1i37o1i151o1i142o1i108o1i309o1i2",
         "46o1i24145o1i1542o1i41o1i14o1i57o1i121o2i139o1i116o1i180o1i98o1i128o3i113o1i127o1i252o1i",
         "127o1i118o1i116o1i269o1i259o2i161o1i83o1i18o1i81o1i421o1i260o2i81o1i425o2i16876o1i"] },
    { names := ["hexdigit", "hex"]
      categories := []
      exceptions :=
        ["48o10i7o6i26o6i65193o10i7o6i26o6i"] },
    { names := ["hyphen"]
      categories := []
      exceptions :=
        ["45o1i127o1i1244o1i4731o1i2057o2i3589o1i739o1i52583o1i169o1i87o1i"] },
    { names := ["idsbinaryoperator", "idsb"]
      categories := []
      exceptions :=
        ["12272o2i2o10i497o1i"] },
    { names := ["idstrinaryoperator", "idst"]
      categories := []
      exceptions :=
        ["12274o2i"] },
    { names := ["idsunaryoperator", "idsu"]
      categories := []
      exceptions :=
        ["12286o2i"] },
    { names := ["idcompatmathcontinue"]
      categories := []
      exceptions :=
        ["178o2i5o1i8118o1i3o11i1o15i371o1i4o1i22o1i111778o1i25o1i31o1i25o1i31o1i25o1i31o1i25o1i31",
         "o1i25o1i"] },
    { names := ["idcompatmathstart"]
      categories := []
      exceptions :=
        ["8706o1i4o1i22o1i111778o1i25o1i31o1i25o1i31o1i25o1i31o1i25o1i31o1i25o1i"] },
    { names := ["idcontinue", "idc"]
      categories := ["Ll", "Lm", "Lo", "Lt", "Lu", "Mc", "Mn", "Nd", "Nl", "Pc"]
      exceptions :=
        ["183o1i719o1i4065o9i1640o1i1585o2i266o1i21o1i3328o1i619o2i94o1i52841o1i"] },
    { names := ["idstart", "ids"]
      categories := ["Ll", "Lm", "Lo", "Lt", "Lu", "Nl"]
      exceptions :=
        ["6277o2i2193o1i21o1i3328o1i619o2i"] },
    { names := ["ideographic", "ideo"]
      categories := []
      exceptions :=
        ["12294o2i25o9i14o3i965o6592i64o20992i22784o366i2o106i29962o1i27o6136i8o1238i41o10i9319o39",
         "6i19716o42720i32o4154i6o222i2o5762i14o7473i15o622i2466o542i1506o4939i5o4192i"] },
    { names := ["joincontrol", "joinc"]
      categories := []
      exceptions :=
        ["8204o2i"] },
    { names := ["logicalorderexception", "loe"]
      categories := []
      exceptions :=
        ["3648o5i123o5i2800o3i2o1i37114o2i2o1i1o2i"] },
    { names := ["lowercase", "lower"]
      categories := ["Ll"]
      exceptions :=
        ["170o1i15o1i501o9i7o2i30o5i96o1i52o1i3457o1i3119o63i13o1i34o37i689o1i13o1i16o13i211o16i84",
         "8o26i1938o2i31262o2i210o1i129o3i3o2i866o4i9o1i23574o1i2o3i1o42i1o9i55413o62i"] },
    { names := ["math"]
      categories := ["Sm"]
      exceptions :=
        ["94o1i881o3i2o1i26o2i2o2i7200o1i27o3i11o1i32o4i24o2i14o2i65o13i4o1i3o2i4o5i18o1i4o1i2o10i",
         "1o1i3o5i6o1i3o2i2o2i1o3i1o6i3o4i5o5i75o5i2o4i1o2i1o2i1o1i1o5i2o2i4o2i4o18i2o2i1o1i1o7i1o",
         "1i6o2i290o4i168o2i1o1i24o1i17o1i445o2i12o9i5o5i5o2i2o2i3o5i14o1i1o1i2o6i24o2i57o1i1o1i29",
         "o4i9o2i342o2i31o10i403o22i63o4i32o2i54371o1i1o1i4o1i211o1i1o1i54465o85i1o71i1o2i2o1i2o2i",
         "2o4i1o12i1o1i1o7i1o65i1o4i2o8i1o7i1o28i1o4i1o5i1o1i3o7i1o340i2o25i1o25i1o31i1o25i1o31i1o",
         "25i1o31i1o25i1o31i1o25i1o8i2o50i5632o4i1o27i1o2i1o1i2o1i1o10i1o4i1o1i1o1i6o1i4o1i1o1i1o1",
         "i1o3i1o2i1o1i2o1i1o1i1o1i1o1i1o1i1o2i1o1i2o4i1o7i1o4i1o4i1o1i1o10i1o17i5o3i1o5i1o17i"] },
    { names := ["modifiercombiningmark", "mcm"]
      categories := []
      exceptions :=
        ["1620o2i2o1i131o1i6o1i3o2i481o2i1o3i3o1i31o1i"] },
    { names := ["noncharactercodepoint", "nchar"]
      categories := []
      exceptions :=
        ["64976o32i526o2i65534o2i65534o2i65534o2i65534o2i65534o2i65534o2i65534o2i65534o2i65534o2i6",
         "5534o2i65534o2i65534o2i65534o2i65534o2i65534o2i65534o2i"] },
    { names := ["otheralphabetic", "oalpha"]
      categories := []
      exceptions :=
        ["837o1i29o13i576o14i1o1i1o2i1o2i1o1i72o11i48o13i1o7i16o1i101o7i4o4i2o2i4o1i35o1i30o16i102",
         "o11i101o2i3o9i1o3i1o4i106o1i60o12i3o7i6o20i54o2i2o15i1o2i5o3i10o2i29o3i58o7i2o2i2o2i10o1",
         "i10o2i29o3i58o5i4o2i2o2i4o1i30o2i3o1i11o3i58o8i1o3i1o2i21o2i22o3i4o3i58o7i2o2i2o2i9o2i10",
         "o2i30o1i59o5i3o3i1o3i10o1i40o5i57o7i1o3i1o3i8o2i11o2i29o3i58o7i1o3i1o3i8o2i11o2i15o1i12o",
         "4i58o7i1o3i1o3i10o1i10o2i29o3i75o6i1o1i1o8i18o2i61o1i2o7i18o1i99o1i2o6i1o2i16o1i163o19i9",
         "o11i1o36i110o12i1o1i2o4i23o4i4o3i1o3i2o7i3o4i13o12i1o1i10o4i1652o2i30o2i30o2i30o2i66o19i",
         "188o2i34o1i118o12i4o9i222o5i57o10i2o20i74o2i11o3i49o5i48o15i60o3i30o9i2o2i57o11i50o19i41",
         "2o34i1729o52i2294o32i30836o8i34o2i354o1i8o1i23o5i88o2i50o16i1o1i57o1i38o5i28o12i45o4i48o",
         "12i37o1i67o14i12o1i8o2i45o3i50o1i1o3i2o2i5o1i44o5i5o1i237o8i20275o1i2135o5i1670o3i1o2i5o",
         "4i788o4i65o1i321o2i79o1i259o3i53o14i45o2i11o3i45o9i9o1i61o3i36o12i18o2i57o3i48o13i14o2i9",
         "2o9i2o1i6o1i2o1i157o10i23o4i58o7i2o2i2o2i10o1i10o2i84o9i1o1i2o1i1o4i1o2i103o13i1o3i106o1",
         "8i237o7i2o7i29o2i82o15i1o1i106o11i103o14i257o13i247o6i1o2i2o2i3o1i1o1i142o7i2o6i4o1i28o1",
         "0i42o5i1o4i18o11i46o14i407o8i1o7i83o22i1o14i122o6i3o1i1o2i1o3i1o1i3o1i66o5i1o2i1o4i348o4",
         "i9o2i1o1i48o7i3o3i16861o17i3616o1i1o55i7o4i93o2i19628o1i9057o7i1o17i2o7i1o2i1o5i100o1i22",
         "31o1i2024o26i6o26i6o26i"] },
    { names := ["otherdefaultignorablecodepoint", "odi"]
      categories := []
      exceptions :=
        ["847o1i3599o2i1619o2i2223o1i4350o1i52795o1i79o9i851975o1i1o30i96o128i240o3600i"] },
    { names := ["othergraphemeextend", "ogrext"]
      categories := []
      exceptions :=
        ["2494o1i24o1i358o1i24o1i102o1i24o1i232o1i1o1i4o2i1o2i9o2i103o1i24o1i119o1i15o1i2357o1i30o",
         "1i1024o1i5o1i1o1i5o2i101o1i71o2i1048o1i4129o2i31011o1i108o1i21981o2i4640o1i116o1i264o1i1",
         "4o1i9o1i96o1i9o1i2o1i1o3i5o1i224o1i12o1i241o1i262o1i633o1i12o1i1539o1i20654o2i24947o2i6o",
         "6i798381o96i"] },
    { names := ["otheridcontinue", "oidc"]
      categories := []
      exceptions :=
        ["183o1i719o1i4065o9i1640o1i1585o2i4333o1i52841o1i"] },
    { names := ["otheridstart", "oids"]
      categories := []
      exceptions :=
        ["6277o2i2193o1i21o1i3948o2i"] },
    { names := ["otherlowercase", "olower"]
      categories := []
      exceptions :=
        ["170o1i15o1i501o9i7o2i30o5i96o1i52o1i3457o1i3119o63i13o1i34o37i689o1i13o1i16o13i211o16i84",
         "8o26i1938o2i31262o2i210o1i129o3i3o2i866o4i9o1i23574o1i2o3i1o42i1o9i55413o62i"] },
    { names := ["othermath", "omath"]
      categories := []
      exceptions :=
        ["94o1i881o3i2o1i26o2i2o2i7200o1i27o3i11o1i32o4i24o2i14o2i65o13i4o1i3o2i4o5i18o1i4o1i2o10i",
         "1o1i3o5i6o1i3o2i2o2i1o3i1o6i3o4i5o5i75o5i2o4i1o2i1o2i1o1i1o5i2o2i4o2i4o18i2o2i1o1i1o7i1o",
         "1i6o2i290o4i168o2i1o1i24o1i17o1i445o2i12o9i5o5i5o2i2o2i3o5i14o1i1o1i2o6i24o2i57o1i1o1i29",
         "o4i9o2i342o2i31o10i403o22i63o4i32o2i54371o1i1o1i4o1i211o1i1o1i54465o85i1o71i1o2i2o1i2o2i",
         "2o4i1o12i1o1i1o7i1o65i1o4i2o8i1o7i1o28i1o4i1o5i1o1i3o7i1o340i2o25i1o25i1o31i1o25i1o31i1o",
         "25i1o31i1o25i1o31i1o25i1o8i2o50i5632o4i1o27i1o2i1o1i2o1i1o10i1o4i1o1i1o1i6o1i4o1i1o1i1o1",
         "i1o3i1o2i1o1i2o1i1o1i1o1i1o1i1o1i1o2i1o1i2o4i1o7i1o4i1o4i1o1i1o10i1o17i5o3i1o5i1o17i"] },
    { names := ["otheruppercase", "oupper"]
      categories := []
      exceptions :=
        ["8544o16i838o26i117856o26i6o26i6o26i"] },
    { names := ["patternsyntax", "patsyn"]
      categories := ["Pe", "Pf", "Pi", "Ps"]
      exceptions :=
        ["33o7i2o6i10o7i27o1i1o1i1o1i27o1i1o1i34o7i1o1i2o1i1o1i1o2i4o1i8o1i23o1i31o1i3650o4i1885o2",
         "i2419o8i8o8i8o9i2o4i2o4i2o13i1o10i30o2i14o2i257o376i4o29i2o309i160o616i44o49i2o31i10o403",
         "i22o63i4o32i2o514i512o2i4o3i2o1i2o14i2o2i10o24i1o18i8o35i385o3i14o2i8o1i3o1i15o1i52710o2",
         "i28o20i16o6i169o2i49o1i1o1i29o1i1o1i1o2i1o2i"] },
    { names := ["patternwhitespace", "patws"]
      categories := []
      exceptions :=
        ["9o5i18o1i100o1i8072o2i24o2i"] },
    { names := ["prependedconcatenationmark", "pcm"]
      categories := []
      exceptions :=
        ["1536o6i215o1i49o1i384o2i80o1i67546o1i15o1i"] },
    { names := ["quotationmark", "qmark"]
      categories := []
      exceptions :=
        ["34o1i4o1i131o1i15o1i8028o8i25o2i3591o1i457o4i13o3i52769o4i189o1i4o1i90o2i"] },
    { names := ["radical"]
      categories := []
      exceptions :=
        ["11904o26i1o89i12o214i"] },
    { names := ["regionalindicator", "ri"]
      categories := []
      exceptions :=
        ["127462o26i"] },
    { names := ["sentenceterminal", "sterm"]
      categories := []
      exceptions :=
        ["33o1i12o1i16o1i1353o1i147o3i180o1i43o3i246o1i61o1i1o1i3o2i293o2i1764o2i790o1i4o2i773o1i1",
         "98o2i157o2i45o1i5o1i314o2i354o4i162o2i10o2i2o2i29o3i187o2i65o2i932o1i23o2i9o3i3247o3i306",
         "o1i13o1i22o2i429o1i29948o1i270o2i227o1i3o1i382o2i86o2i95o1i152o2i147o3i144o2i249o1i21030",
         "o1i2o2i59o1i3o2i169o1i12o1i16o1i65o1i2804o2i1277o5i44o4i189o2i117o4i127o3i129o2i6o1i16o2",
         "i88o2i1o2i108o1i298o2i117o2i373o2i5o15i105o2i249o3i517o1i1o1i251o2i87o2i420o2i692o2i74o2",
         "i19241o2i133o1i65o2i11o1i553o2i296o1i19974o1i7656o1i"] },
    { names := ["softdotted", "sd"]
      categories := []
      exceptions :=
        ["105o2i196o1i281o1i30o1i52o1i20o1i320o1i98o1i1o1i6409o1i51o1i13o1i3o1i132o1i157o1i421o1i2",
         "14o2i2866o1i108453o2i50o2i50o2i50o2i50o2i50o2i50o2i50o2i50o2i50o2i50o2i50o2i50o2i2182o1i",
         "305o2i26o1i"] },
    { names := ["terminalpunctuation", "term"]
      categories := []
      exceptions :=
        ["33o1i10o1i1o1i11o2i3o1i830o1i8o1i513o1i57o1i72o1i14o1i1o3i180o1i43o11i1o1i235o2i54o6i1o8",
         "i31o1i261o2i1268o2i172o1i4o6i311o2i789o8i773o1i124o3i71o2i157o3i3o1i39o4i2o2i314o2i354o4",
         "i162o2i10o2i1o3i29o3i187o5i62o2i932o1i23o2i9o3i3247o3i306o1i13o1i4o1i10o1i1o2i3o2i428o2i",
         "29947o2i269o3i227o5i382o2i86o2i95o1i151o3i147o3i127o1i16o2i249o1i21030o1i2o2i57o3i1o4i16",
         "9o1i10o1i1o1i11o2i3o1i65o1i2o1i1082o1i48o1i1158o1i199o1i310o2i152o6i68o6i89o4i952o5i44o4",
         "i189o7i112o4i127o3i129o2i6o1i16o2i88o5i108o1i298o2i117o3i12o2i358o4i3o15i105o2i249o3i517",
         "o1i1o1i251o2i87o2i4o2i414o3i45o1i645o2i74o2i1323o5i17913o2i133o1i65o3i10o1i553o2i295o2i1",
         "9974o1i7655o4i"] },
    { names := ["unifiedideograph", "uideo"]
      categories := []
      exceptions :=
        ["13312o6592i64o20992i23054o2i1o1i1o2i10o1i1o1i1o2i2o3i67030o42720i32o4154i6o222i2o5762i14",
         "o7473i15o622i4514o4939i5o4192i"] },
    { names := ["uppercase", "upper"]
      categories := ["Lu"]
      exceptions :=
        ["8544o16i838o26i117856o26i6o26i6o26i"] },
    { names := ["variationselector", "vs"]
      categories := []
      exceptions :=
        ["6155o3i1o1i58864o16i852720o240i"] },
    { names := ["whitespace", "space", "wspace"]
      categories := ["Zl", "Zp", "Zs"]
      exceptions :=
        ["9o5i119o1i"] },
    { names := ["xidcontinue", "xidc"]
      categories := ["Ll", "Lm", "Lo", "Lt", "Lu", "Mc", "Mn", "Nd", "Nl", "Pc"]
      exceptions :=
        ["183o1i706o1i12o1i4065o9i1640o1i1585o2i266o1i21o1i3328o1i715o1i52066o6i406o2i116o1i1o1i1o",
         "1i1o1i1o1i1o1i1o1i1o1i230o1i"] },
    { names := ["xidstart", "xids"]
      categories := ["Ll", "Lm", "Lo", "Lt", "Lu", "Nl"]
      exceptions :=
        ["890o1i2744o1i127o1i2513o2i2193o1i21o1i3328o1i52782o6i406o2i116o1i1o1i1o1i1o1i1o1i1o1i1o1",
         "i1o1i287o2i"] }]

def ofBinaryProperty? (name : String) : Option CharSet :=
  (binaryProperties.find? fun p => p.names.contains name).map BinaryProperty.set

end Character

end Imprint
