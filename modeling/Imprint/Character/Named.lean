import Imprint.Character.Age
import Imprint.Character.Break
import Imprint.Character.Property
import Imprint.Character.Script

/-!
# Sets with names

Sets of characters by the names of properties and of their values.  Case, blanks,
dashes, underscores and a leading `is` do not count in names.
-/

namespace Imprint

namespace Character

def plainName (t : Text) : String :=
  let plain (t : Text) : Text :=
    (t.filter fun c => c != ' ' && c != '_' && c != '-' && c.toNat < 0x80).map Char.toLower
  match t.map Char.toLower with
  | 'i' :: 's' :: _ =>
      let rest := plain (t.drop 2)
      String.ofList (if rest = ['c'] then "isc".toList else rest)
  | _ => String.ofList (plain t)

def ofCategoryName? (name : String) : Option CharSet :=
  match name with
  | "any" => some .all
  | "ascii" => some (.ofRanges [(0, 0x7F)])
  | "assigned" => some (ofCategories ["Cn"]).complement
  | name =>
      match categoryGroups.find? fun g => g.1.contains name with
      | some g => some (ofCategories g.2)
      | none =>
          (categoryNames.find? fun n => plainName n.1.toList = name || n.2.contains name).map
            fun n => ofCategories [n.1]

def scriptCode? (name : String) : Option String :=
  (scriptNames.find? fun n => plainName n.1.toList = name || n.2.contains name).map Prod.fst

/-- The characters with a property of a name: a binary one, a general category or a script. -/
def named? (t : Text) : Option CharSet :=
  let name := plainName t
  let isCategory := name = "cf" || name = "sc" || name = "lc"
  match if isCategory then none else ofBinaryProperty? name with
  | some s => some s
  | none =>
      match ofCategoryName? name with
      | some s => some s
      | none => (scriptCode? name).map ofScript

def versionOfName (name : String) : String :=
  match ageLabels.find? fun a => "v" ++ String.ofList (a.1.toList.filter (· ≠ '.')) = name with
  | some a => a.1
  | none => name

def valued? (property value : Text) : Option CharSet :=
  let value := plainName value
  match plainName property with
  | "gc" | "generalcategory" => ofCategoryName? value
  | "sc" | "script" => (scriptCode? value).map ofScript
  | "scx" | "scriptextensions" => (scriptCode? value).map ofScriptExtension
  | "age" => ofAge? (versionOfName value)
  | "gcb" | "graphemeclusterbreak" => ofGraphemeBreak? value
  | "wb" | "wordbreak" => ofBreak? wordBreaks value
  | "sb" | "sentencebreak" => ofBreak? sentenceBreaks value
  | _ => none

/-- The letters that version 17.0 of the character set added to those of the tables. -/
def newLetters : CharSet :=
  ⟨[(0x88F, 0x88F), (0xC5C, 0xC5C), (0xCDC, 0xCDC), (0xA7CE, 0xA7CF), (0xA7D2, 0xA7D2),
    (0xA7D4, 0xA7D4), (0xA7F1, 0xA7F1), (0x10940, 0x10959), (0x10EC5, 0x10EC7),
    (0x10EFA, 0x10EFB), (0x11B60, 0x11B67), (0x11DB0, 0x11DDB), (0x16EA0, 0x16EB8),
    (0x16EBB, 0x16ED3), (0x16FF2, 0x16FF6), (0x187F8, 0x187FF), (0x18D09, 0x18D1E),
    (0x18D80, 0x18DF2), (0x1E6C0, 0x1E6DE), (0x1E6E0, 0x1E6F5), (0x1E6FE, 0x1E6FF),
    (0x2B73A, 0x2B73F), (0x2CEA2, 0x2CEAD), (0x323B0, 0x33479)], false⟩

def newNumbers : CharSet :=
  ⟨[(0x11DE0, 0x11DE9)], false⟩

/-- The letters that a name may begin with.  Names are read with newer tables than sets. -/
def nameLetterSet : CharSet :=
  ((ofBinaryProperty? "alphabetic").getD ⟨[], false⟩).union newLetters

def nameNumberSet : CharSet :=
  (ofCategories ["Nd", "Nl", "No"]).union newNumbers

def digitSet : CharSet :=
  ofCategories ["Nd"]

/-- The characters that words are made of: letters and what is like them, marks, digits,
connectors, and the controls that join. -/
def wordSet : CharSet :=
  ((ofBinaryProperty? "alphabetic").getD ⟨[], false⟩).union
    ((ofCategories ["Mc", "Me", "Mn", "Nd", "Pc"]).union (.ofRanges [(0x200C, 0x200D)]))

def blankSet : CharSet :=
  ⟨Text.blankRanges, false⟩

end Character

end Imprint
