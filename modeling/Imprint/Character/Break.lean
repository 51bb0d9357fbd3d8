import Imprint.Character.Property

/-!
# Breaks

Where a text may be broken into the marks, the words and the sentences that a reader
sees depends on properties of its characters, which have one of several values.
-/

namespace Imprint

namespace Character

def graphemeBreaks : List BinaryProperty :=
  [
    { names := ["cr"]
      categories := []
      exceptions :=
        ["13o1i"] },
    { names := ["control", "cn"]
      categories := ["Cc", "Cf"]
      exceptions :=
        ["10o1i2o1i1522o6i215o1i49o1i384o2i80o1i5929o2i26o2i59o1i57226o9i4292o1i15o1i847666o1i1o25",
         "4i240o3600i"] },
    { names := ["extend", "ex"]
      categories := ["Me", "Mn"]
      exceptions :=
        ["2494o1i24o1i358o1i24o1i102o1i24o1i232o1i1o1i4o2i1o2i9o2i103o1i24o1i119o1i15o1i2357o1i30o",
         "1i1024o1i5o1i1o1i5o2i101o1i71o2i1048o1i4129o2i31011o1i108o1i21981o2i4640o1i116o1i264o1i1",
         "4o1i9o1i96o1i9o1i2o1i1o3i5o1i224o1i12o1i241o1i262o1i633o1i12o1i1539o1i20654o2i24947o2i6o",
         "6i8840o5i789536o96i"] },
    { names := ["l"]
      categories := []
      exceptions :=
        ["4352o96i38912o29i"] },
    { names := ["lf"]
      categories := []
      exceptions :=
        ["10o1i"] },
    { names := ["prepend", "pp"]
      categories := []
      exceptions :=
        ["1536o6i215o1i49o1i384o2i80o1i1131o1i66414o1i15o1i244o2i525o1i1389o1i1o1i248o1i73o6i700o1",
         "i443o1i"] },
    { names := ["regionalindicator", "ri"]
      categories := []
      exceptions :=
        ["127462o26i"] },
    { names := ["spacingmark", "sm"]
      categories := ["Mc"]
      exceptions :=
        ["2494o1i24o1i358o1i24o1i102o1i24o1i232o1i1o1i4o2i1o2i9o2i103o1i24o1i119o1i15o1i83o1i127o1",
         "i375o2i11o1i41o3i2o7i21o1i3o6i2o1i10o3i1656o1i30o1i812o1i1o2i208o1i5o1i1o1i5o2i101o1i71o",
         "2i5178o2i31011o1i108o1i186o1i1o1i26434o1i116o1i264o1i14o1i9o1i96o1i9o1i2o1i1o3i5o1i224o1",
         "i12o1i241o1i262o1i105o2i526o1i12o1i1539o1i20654o2i24947o2i6o6i"] },
    { names := ["t"]
      categories := []
      exceptions :=
        ["4520o88i50635o49i"] },
    { names := ["v"]
      categories := []
      exceptions :=
        ["4448o72i50696o23i38300o1i3o4i"] },
    { names := ["zwj"]
      categories := []
      exceptions :=
        ["8205o1i"] }]

def wordBreaks : List BinaryProperty :=
  [
    { names := ["aletter", "le"]
      categories := ["Ll", "Lm", "Lo", "Lt", "Lu", "Nl"]
      exceptions :=
        ["706o4i12o6i6o2i5o7i1o1i1o17i602o3i1o1i43o1i69o27i4o5i283o1i1777o48i1o2i12o7i58o2i1o1i1o5",
         "i1o24i1o1i1o10i1o2i9o1i2o5i1o1i21o4i288o43i20o1i16o6i4o4i3o1i3o2i7o3i4o13i12o1i1777o52i3",
         "5o1i4o1i371o30i2o5i11o44i4o26i86o53i82o1i2574o52i2844o2i25o9i7o5i2o3i6o86i6o3i1o90i1o4i2",
         "40o16i512o6592i64o20992i1800o15i9o2i103o2i597o5i1o10i10o5i97o23i3o1i3o50i1o1i3o2i2o5i2o1",
         "i1o1i24o3i125o1i19876o366i2o106i67o1i1o10i1o13i1o5i1o1i1o2i1o2i1o10i1046o58i5984o27i37o7",
         "i22713o6136i8o1238i41o10i8935o4i1o7i1o2i1o291i15o1i29o3i2o1i14o4i8o396i15924o26i6o26i6o2",
         "6i3702o42720i32o4154i6o222i2o5762i14o7473i15o622i2466o542i1506o4939i5o4192i"] },
    { names := ["cr"]
      categories := []
      exceptions :=
        ["13o1i"] },
    { names := ["doublequote", "dq"]
      categories := []
      exceptions :=
        ["34o1i"] },
    { names := ["extend"]
      categories := ["Mc", "Me", "Mn"]
      exceptions :=
        ["8204o1i57233o2i62555o5i789536o96i"] },
    { names := ["extendnumlet", "ex"]
      categories := ["Pc"]
      exceptions :=
        ["8239o1i"] },
    { names := ["format", "fo"]
      categories := ["Cf"]
      exceptions :=
        ["1536o6i215o1i49o1i384o2i80o1i5928o3i61615o1i15o1i847698o96i"] },
    { names := ["hebrewletter", "hl"]
      categories := []
      exceptions :=
        ["1488o27i4o4i62762o1i1o10i1o13i1o5i1o1i1o2i1o2i1o10i"] },
    { names := ["katakana", "ka"]
      categories := []
      exceptions :=
        ["12337o5i101o2i3o91i1o4i240o16i208o47i1o88i52238o56i45138o4i1o7i1o2i1o1i287o3i50o1i14o4i"] },
    { names := ["lf"]
      categories := []
      exceptions :=
        ["10o1i"] },
    { names := ["midletter", "ml"]
      categories := []
      exceptions :=
        ["58o1i124o1i719o1i471o1i148o1i6706o1i56811o1i65o1i196o1i"] },
    { names := ["midnum", "mn"]
      categories := []
      exceptions :=
        ["44o1i14o1i834o1i522o1i130o2i94o1i395o1i6219o1i56843o1i3o1i183o1i14o1i"] },
    { names := ["midnumlet", "mb"]
      categories := []
      exceptions :=
        ["46o1i8169o2i10o1i56877o1i180o1i6o1i"] },
    { names := ["newline", "nl"]
      categories := ["Zl", "Zp"]
      exceptions :=
        ["11o2i120o1i"] },
    { names := ["numeric", "nu"]
      categories := ["Nd"]
      exceptions :=
        ["1536o6i101o1i113o1i434o2i80o1i4343o1i63202o1i15o1i"] },
    { names := ["regionalindicator", "ri"]
      categories := []
      exceptions :=
        ["127462o26i"] },
    { names := ["singlequote", "sq"]
      categories := []
      exceptions :=
        ["39o1i"] },
    { names := ["wsegspace"]
      categories := ["Zs"]
      exceptions :=
        ["160o1i8038o1i39o1i"] },
    { names := ["zwj"]
      categories := []
      exceptions :=
        ["8205o1i"] }]

def sentenceBreaks : List BinaryProperty :=
  [
    { names := ["aterm", "at"]
      categories := []
      exceptions :=
        ["46o1i8181o1i56877o1i187o1i"] },
    { names := ["cr"]
      categories := []
      exceptions :=
        ["13o1i"] },
    { names := ["close", "cl"]
      categories := ["Pe", "Pf", "Pi", "Ps"]
      exceptions :=
        ["34o1i4o1i10035o6i1695o2i4o3i2o1i116842o3i"] },
    { names := ["extend", "ex"]
      categories := ["Mc", "Me", "Mn"]
      exceptions :=
        ["8204o2i57232o2i852096o96i"] },
    { names := ["format", "fo"]
      categories := ["Cf"]
      exceptions :=
        ["1536o6i215o1i434o2i80o1i5929o2i61615o1i15o1i847698o96i"] },
    { names := ["lf"]
      categories := []
      exceptions :=
        ["10o1i"] },
    { names := ["lower", "lo"]
      categories := ["Ll"]
      exceptions :=
        ["170o1i15o1i501o9i7o2i30o5i149o1i3413o43i1o4i3116o63i13o1i34o37i689o1i13o1i16o13i211o16i8",
         "48o26i1938o2i31262o2i210o1i129o3i3o2i866o4i9o1i23574o1i2o3i1o42i1o9i55413o62i"] },
    { names := ["numeric", "nu"]
      categories := ["Nd"]
      exceptions :=
        ["1536o6i101o2i112o1i434o2i80o1i4343o1i63202o1i15o1i"] },
    { names := ["oletter", "le"]
      categories := ["Lm", "Lo", "Nl"]
      exceptions :=
        ["170o1i15o1i501o9i7o2i30o5i149o1i632o1i2780o43i1o4i2960o43i2o3i108o63i13o1i34o37i689o1i13",
         "o1i16o13i195o32i2812o2i31262o2i210o1i129o3i3o2i866o4i9o1i21556o2i2016o1i2o3i1o42i1o9i554",
         "13o62i"] },
    { names := ["scontinue", "sc"]
      categories := []
      exceptions :=
        ["44o2i12o2i834o1i478o1i174o2i490o1i4105o1i5o1i2058o2i4076o1i52750o2i1o2i28o2i29o2i2o2i2o1",
         "i10o1i168o2i12o2i72o1i"] },
    { names := ["sterm", "st"]
      categories := []
      exceptions :=
        ["33o1i29o1i1353o1i147o3i180o1i43o3i246o1i61o1i1o1i3o2i293o2i1764o2i790o1i4o2i773o1i198o2i",
         "157o2i45o1i5o1i314o2i354o4i162o2i10o2i2o2i29o3i187o2i65o2i956o2i9o3i3247o3i306o1i13o1i22",
         "o2i429o1i29948o1i270o2i227o1i3o1i382o2i86o2i95o1i152o2i147o3i144o2i249o1i21030o1i2o2i63o",
         "2i169o1i29o1i65o1i2804o2i1277o5i44o4i189o2i117o4i127o3i129o2i6o1i16o2i88o2i1o2i108o1i298",
         "o2i117o2i373o2i5o15i105o2i249o3i517o1i1o1i251o2i87o2i420o2i692o2i74o2i19241o2i133o1i65o2",
         "i11o1i553o2i296o1i19974o1i7656o1i"] },
    { names := ["sep", "se"]
      categories := ["Zl", "Zp"]
      exceptions :=
        ["133o1i"] },
    { names := ["sp"]
      categories := ["Zs"]
      exceptions :=
        ["9o1i1o2i"] },
    { names := ["upper", "up"]
      categories := ["Lt", "Lu"]
      exceptions :=
        ["7312o43i2o3i1184o16i838o26i117856o26i6o26i6o26i"] }]

def syllables : CharSet :=
  .ofRanges [(0xAC00, 0xD7A3)]

def openSyllables : CharSet :=
  .ofRanges ((List.range 399).map fun n => (0xAC00 + 28 * n, 0xAC00 + 28 * n))

def ofBreak? (breaks : List BinaryProperty) (name : String) : Option CharSet :=
  (breaks.find? fun p => p.names.contains name).map BinaryProperty.set

def ofGraphemeBreak? (name : String) : Option CharSet :=
  match name with
  | "lv" => some openSyllables
  | "lvt" => some (syllables.difference openSyllables)
  | name => ofBreak? graphemeBreaks name

end Character

end Imprint
