import Imprint.Store.Basic

/-!
# Files with several names

What is written to a file is read under each of its names.  A further name takes the
place of a file or link, or a free one.
-/

namespace Imprint

theorem Located.lookup_le_foldr_max {numbers : Located Nat} {place : Location} {number : Nat}
    (h : numbers.lookup place = some number) : number ≤ (numbers.map Prod.snd).foldr max 0 := by
  induction numbers with
  | nil => cases h
  | cons first rest ih =>
      obtain ⟨here, old⟩ := first
      rw [List.lookup_cons] at h
      rw [List.map_cons, List.foldr_cons]
      split at h
      · cases h
        exact Nat.le_max_left _ _
      · exact Nat.le_trans (ih h) (Nat.le_max_right _ _)

namespace Store

/-!
## Names of one file
-/

/-- The number of the file at a location, where it has or had several names. -/
def number? (s : Store) (location : Location) : Option Nat :=
  s.numbers.lookup location

def SameFile (s : Store) (place other : Location) : Prop :=
  place = other ∨ s.number? place ≠ none ∧ s.number? place = s.number? other

instance (s : Store) (place other : Location) : Decidable (s.SameFile place other) := by
  unfold SameFile
  infer_instance

theorem SameFile.refl (s : Store) (place : Location) : s.SameFile place place :=
  Or.inl rfl

theorem SameFile.symm {s : Store} {place other : Location} (h : s.SameFile place other) :
    s.SameFile other place := by
  rcases h with rfl | ⟨hn, he⟩
  · exact .refl s place
  · exact Or.inr ⟨he ▸ hn, he.symm⟩

theorem SameFile.trans {s : Store} {place other third : Location} (h : s.SameFile place other)
    (h' : s.SameFile other third) : s.SameFile place third := by
  rcases h with rfl | ⟨hn, he⟩
  · exact h'
  · rcases h' with rfl | ⟨-, he'⟩
    · exact Or.inr ⟨hn, he⟩
    · exact Or.inr ⟨hn, he.trans he'⟩

theorem SameFile.at?_eq {s : Store} {place other : Location} (h : s.SameFile place other) :
    s.at? place = s.at? other := by
  rcases h with rfl | ⟨hn, he⟩
  · rfl
  · obtain ⟨number, hnumber⟩ := Option.ne_none_iff_exists'.mp hn
    obtain ⟨contents, executable, hp, ho⟩ :=
      s.numbered place other number hnumber (he.symm.trans hnumber)
    exact hp.trans ho.symm

def Direct (s : Store) : Prop :=
  ∀ location target, s.at? location ≠ some (.link target)

def Unshared (s : Store) : Prop :=
  ∀ place other, s.SameFile place other → place = other

/-- There are no links, neither symbolic ones nor further names of files. -/
structure LinkFree (s : Store) : Prop where
  direct : s.Direct
  unshared : s.Unshared

/-!
## Overwriting
-/

def HoldsFile (s : Store) (location : Location) : Prop :=
  ∃ contents executable, s.at? location = some (.file contents executable)

def holdsFile (s : Store) (location : Location) : Bool :=
  match s.at? location with
  | some (.file ..) => true
  | _ => false

theorem holdsFile_iff (s : Store) (location : Location) :
    s.holdsFile location = true ↔ s.HoldsFile location := by
  unfold holdsFile HoldsFile
  split
  · rename_i contents executable hfile
    simp [hfile]
  · rename_i hnone
    simpa using fun contents executable => hnone contents executable

instance (s : Store) (location : Location) : Decidable (s.HoldsFile location) :=
  decidable_of_iff _ (s.holdsFile_iff location)

theorem HoldsFile.of_sameFile {s : Store} {place location : Location}
    (h : s.HoldsFile location) (hsame : s.SameFile place location) : s.HoldsFile place := by
  obtain ⟨contents, executable, hfile⟩ := h
  exact ⟨contents, executable, hsame.at?_eq.trans hfile⟩

/-- The entries after all names of a file were given other contents. -/
def overwritten (s : Store) (location : Location) (entry : Entry) : Entries :=
  s.entries.replace (fun place => decide (s.SameFile place location)) entry

theorem at?_overwritten {s : Store} {location : Location} (h : s.HoldsFile location)
    (entry : Entry) (place : Location) :
    (s.overwritten location entry).at? place =
      if s.SameFile place location then some entry else s.at? place := by
  by_cases hsame : s.SameFile place location
  · obtain ⟨contents, executable, hfile⟩ := h.of_sameFile hsame
    cases place with
    | nil => cases hfile
    | cons name dir =>
        have hlookup : s.entries.lookup (name :: dir) = some (.file contents executable) := hfile
        rw [if_pos hsame, Entries.at?, overwritten, Located.lookup_replace,
          if_pos (decide_eq_true hsame), hlookup, Option.map_some]
  · cases place with
    | nil => rw [if_neg hsame]; rfl
    | cons name dir =>
        rw [if_neg hsame, Entries.at?, overwritten, Located.lookup_replace,
          if_neg (by simpa using hsame)]
        rfl

theorem directory_overwritten {s : Store} {location place : Location} (h : s.HoldsFile location)
    {entry : Entry} (hp : s.at? place = some .directory) :
    (s.overwritten location entry).at? place = some .directory := by
  rw [at?_overwritten h, if_neg, hp]
  intro hsame
  obtain ⟨contents, executable, hfile⟩ := h.of_sameFile hsame
  rw [hp] at hfile
  cases hfile

/-- Gives the file at a location other contents, which are read under all its names; where no file
stands, nothing changes. -/
def overwrite (s : Store) (location : Location) (contents : Bytes) (executable : Bool) : Store :=
  if h : s.HoldsFile location then
    { entries := s.overwritten location (.file contents executable)
      numbers := s.numbers
      workingDirectory := s.workingDirectory
      places_nodup := by
        rw [overwritten, Located.places_replace]
        exact s.places_nodup
      rooted := by
        intro place hp
        rw [overwritten, Located.places_replace] at hp
        obtain ⟨name, dir, rfl, hv, hd⟩ := s.rooted place hp
        exact ⟨name, dir, rfl, hv, directory_overwritten h hd⟩
      numbered := by
        intro place other number hp ho
        have hsame : s.SameFile place other :=
          Or.inr ⟨by rw [number?, hp]; simp, hp.trans ho.symm⟩
        rw [at?_overwritten h, at?_overwritten h]
        by_cases hplace : s.SameFile place location
        · exact ⟨contents, executable, if_pos hplace, if_pos (hsame.symm.trans hplace)⟩
        · rw [if_neg hplace, if_neg fun hother => hplace (hsame.trans hother)]
          exact s.numbered place other number hp ho
      working_directory := directory_overwritten h s.working_directory }
  else
    s

theorem at?_overwrite {s : Store} {location : Location} (h : s.HoldsFile location)
    (contents : Bytes) (executable : Bool) (place : Location) :
    (s.overwrite location contents executable).at? place =
      if s.SameFile place location then some (.file contents executable) else s.at? place := by
  rw [overwrite, dif_pos h]
  exact at?_overwritten h _ place

@[simp] theorem number?_overwrite (s : Store) (location : Location) (contents : Bytes)
    (executable : Bool) (place : Location) :
    (s.overwrite location contents executable).number? place = s.number? place := by
  unfold overwrite
  split <;> rfl

@[simp] theorem workingDirectory_overwrite (s : Store) (location : Location) (contents : Bytes)
    (executable : Bool) :
    (s.overwrite location contents executable).workingDirectory = s.workingDirectory := by
  unfold overwrite
  split <;> rfl

/-!
## Further names
-/

def freshNumber (s : Store) : Nat :=
  (s.numbers.map Prod.snd).foldr max 0 + 1

theorem number?_ne_freshNumber (s : Store) (place : Location) :
    s.number? place ≠ some s.freshNumber := by
  intro h
  have hle := Located.lookup_le_foldr_max h
  unfold freshNumber at hle
  omega

def numberFor (s : Store) (location : Location) : Nat :=
  (s.number? location).getD s.freshNumber

theorem number?_of_eq_numberFor {s : Store} {place location : Location}
    (h : s.number? place = some (s.numberFor location)) :
    s.number? location = some (s.numberFor location) := by
  cases hnumber : s.number? location with
  | some number =>
      rw [numberFor, hnumber, Option.getD_some]
  | none =>
      rw [numberFor, hnumber, Option.getD_none] at h
      exact absurd h (s.number?_ne_freshNumber place)

def sharedNumbers (s : Store) (source target : Location) : Located Nat :=
  (s.numbers.assign source (s.numberFor source)).assign target (s.numberFor source)

@[simp] theorem lookup_sharedNumbers (s : Store) (source target place : Location) :
    (s.sharedNumbers source target).lookup place =
      if place = target ∨ place = source then some (s.numberFor source) else s.number? place := by
  rw [sharedNumbers, Located.lookup_assign, Located.lookup_assign]
  by_cases htarget : place = target
  · simp [htarget]
  · by_cases hsource : place = source
    · simp [hsource]
    · simp [htarget, hsource, number?]

theorem at?_put_of_shared {s : Store} {source target place : Location} {entry : Entry}
    (hsource : s.at? source = some entry) (htarget : s.Accepts target)
    (hnumber : (s.sharedNumbers source target).lookup place = some (s.numberFor source)) :
    (s.put target entry).at? place = some entry := by
  rw [at?_put htarget]
  by_cases hplace : place = target
  · exact if_pos hplace
  · rw [if_neg hplace]
    by_cases hown : place = source
    · rw [hown]
      exact hsource
    · rw [lookup_sharedNumbers, if_neg (not_or.mpr ⟨hplace, hown⟩)] at hnumber
      have hsame : s.SameFile place source :=
        Or.inr ⟨by simp [hnumber], hnumber.trans (number?_of_eq_numberFor hnumber).symm⟩
      exact hsame.at?_eq.trans hsource

theorem numbered_share {s : Store} {source target : Location} {contents : Bytes}
    {executable : Bool} (hsource : s.at? source = some (.file contents executable))
    (htarget : s.Accepts target) :
    (s.put target (.file contents executable)).entries.Numbered
      (s.sharedNumbers source target) := by
  intro place other number hp ho
  by_cases hnumber : number = s.numberFor source
  · subst hnumber
    exact ⟨contents, executable, at?_put_of_shared hsource htarget hp,
      at?_put_of_shared hsource htarget ho⟩
  · have hold : ∀ spot, (s.sharedNumbers source target).lookup spot = some number →
        s.number? spot = some number ∧
          (s.put target (.file contents executable)).at? spot = s.at? spot := by
      intro spot hspot
      rw [lookup_sharedNumbers] at hspot
      split at hspot
      · cases hspot
        exact absurd rfl hnumber
      · rename_i hne
        exact ⟨hspot, by rw [at?_put htarget, if_neg fun h => hne (Or.inl h)]⟩
    obtain ⟨hp, hpat⟩ := hold place hp
    obtain ⟨ho, hoat⟩ := hold other ho
    obtain ⟨old, mode, hfile, hfile'⟩ := s.numbered place other number hp ho
    exact ⟨old, mode, hpat.trans hfile, hoat.trans hfile'⟩

/-- Gives a file a further name at a location that takes an entry; otherwise nothing changes. -/
def share (s : Store) (source target : Location) : Store :=
  match hsource : s.at? source with
  | some (.file contents executable) =>
      if htarget : s.Accepts target then
        { s.put target (.file contents executable) with
          numbers := s.sharedNumbers source target
          numbered := numbered_share hsource htarget }
      else
        s
  | _ => s

theorem share_of_file {s : Store} {source target : Location} {contents : Bytes}
    {executable : Bool} (hsource : s.at? source = some (.file contents executable))
    (htarget : s.Accepts target) :
    (s.share source target).entries = (s.put target (.file contents executable)).entries ∧
      (s.share source target).numbers = s.sharedNumbers source target := by
  unfold share
  split
  · rename_i contents' executable' hsource'
    rw [hsource] at hsource'
    cases hsource'
    rw [dif_pos htarget]
    exact ⟨rfl, rfl⟩
  · rename_i hnone
    exact absurd hsource (hnone contents executable)

theorem at?_share {s : Store} {source target : Location} (hsource : s.HoldsFile source)
    (htarget : s.Accepts target) (place : Location) :
    (s.share source target).at? place =
      if place = target then s.at? source else s.at? place := by
  obtain ⟨contents, executable, hfile⟩ := hsource
  have hentries := (share_of_file hfile htarget).1
  rw [hfile, ← at?_put htarget, at?, hentries, at?]

theorem sameFile_share {s : Store} {source target : Location} (hsource : s.HoldsFile source)
    (htarget : s.Accepts target) : (s.share source target).SameFile source target := by
  obtain ⟨contents, executable, hfile⟩ := hsource
  have hnumbers := (share_of_file hfile htarget).2
  right
  rw [number?, number?, hnumbers, lookup_sharedNumbers, lookup_sharedNumbers]
  simp

end Store

end Imprint
