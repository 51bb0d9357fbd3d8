import Imprint.Path

/-!
# File stores

A store is a tree of directories, files and links, kept as a list of entries in
the order in which a directory lists them.  Every entry has a valid name, stands
in a directory, and is the only one of its place.  A file may have several names:
then each of them is an entry, all have the number of the file, and they hold the
same.

Left out are pipes, sockets and devices, the owners of entries, and every
permission but that to execute a file, so that what a path leads to and is no
directory can be read and written.
-/

namespace Imprint

abbrev Name := Bytes

namespace Name

def maxLength : Nat := 255

/-- A name is not empty nor made of dots alone up to two, has no slash and no zero
byte, and is not too long. -/
def Valid (name : Name) : Prop :=
  name ≠ [] ∧ name ≠ [Path.dot] ∧ name ≠ [Path.dot, Path.dot] ∧
    Path.slash ∉ name ∧ 0 ∉ name ∧ name.length ≤ maxLength

instance (name : Name) : Decidable (Valid name) := by
  unfold Valid
  infer_instance

end Name

/-- The place of an entry: the names from the entry itself up to the root. -/
abbrev Location := List Name

/-- What can stand at a location. -/
inductive Entry where
  | directory
  | file (contents : Bytes) (executable : Bool)
  | link (target : Path)
deriving DecidableEq

abbrev Located (α : Type) := List (Location × α)

namespace Located

variable {α : Type}

/-- Gives a location a value, in place of the one that it has or else last. -/
def assign (location : Location) (value : α) : Located α → Located α
  | [] => [(location, value)]
  | (place, old) :: rest =>
      if place = location then
        (place, value) :: rest
      else
        (place, old) :: assign location value rest

def erase (location : Location) (values : Located α) : Located α :=
  values.filter fun v => v.1 ≠ location

def replace (isMeant : Location → Bool) (value : α) (values : Located α) : Located α :=
  values.map fun v => if isMeant v.1 then (v.1, value) else v

theorem lookup_assign (location place : Location) (value : α) (values : Located α) :
    (assign location value values).lookup place =
      if place = location then some value else values.lookup place := by
  induction values with
  | nil =>
      by_cases h : place = location
      · simp [assign, h]
      · have hne : (place == location) = false := by simpa using h
        simp [assign, List.lookup_cons, h, hne]
  | cons first rest ih =>
      obtain ⟨here, old⟩ := first
      by_cases hh : here = location
      · by_cases hp : place = location
        · simp [assign, hh, hp]
        · have hne : (place == location) = false := by simpa using hp
          simp [assign, hh, hp, List.lookup_cons, hne]
      · by_cases hp : place = here
        · subst hp
          simp [assign, hh]
        · have hne : (place == here) = false := by simpa using hp
          simp [assign, hh, List.lookup_cons, hne, ih]

theorem lookup_erase (location place : Location) (values : Located α) :
    (erase location values).lookup place =
      if place = location then none else values.lookup place := by
  induction values with
  | nil =>
      simp [erase]
  | cons first rest ih =>
      obtain ⟨here, old⟩ := first
      by_cases hh : here = location
      · subst hh
        have heq : erase here ((here, old) :: rest) = erase here rest := by
          simp [erase]
        rw [heq, ih]
        by_cases hp : place = here
        · simp [hp]
        · have hne : (place == here) = false := by simpa using hp
          simp [hp, List.lookup_cons, hne]
      · have heq : erase location ((here, old) :: rest) =
            (here, old) :: erase location rest := by
          simp [erase, hh]
        rw [heq]
        by_cases hp : place = here
        · subst hp
          simp [hh]
        · have hne : (place == here) = false := by simpa using hp
          simp [List.lookup_cons, hne, ih]

theorem lookup_replace (isMeant : Location → Bool) (place : Location) (value : α)
    (values : Located α) :
    (replace isMeant value values).lookup place =
      if isMeant place then (values.lookup place).map fun _ => value
      else values.lookup place := by
  induction values with
  | nil =>
      simp [replace]
  | cons first rest ih =>
      obtain ⟨here, old⟩ := first
      rw [replace, List.map_cons, ← replace]
      by_cases hp : place = here
      · subst hp
        by_cases hm : isMeant place = true
        · simp [hm]
        · simp [hm]
      · have hne : (place == here) = false := by simpa using hp
        by_cases hm : isMeant here = true
        · simp [hm, List.lookup_cons, hne, ih]
        · simp [hm, List.lookup_cons, hne, ih]

theorem lookup_eq_some_iff_mem {values : Located α} (hnodup : (values.map Prod.fst).Nodup)
    {place : Location} {value : α} :
    values.lookup place = some value ↔ (place, value) ∈ values := by
  induction values with
  | nil => simp
  | cons first rest ih =>
      obtain ⟨here, old⟩ := first
      obtain ⟨hfresh, hnodupRest⟩ := List.nodup_cons.mp hnodup
      by_cases hplace : place = here
      · subst hplace
        rw [List.lookup_cons_self, List.mem_cons]
        constructor
        · intro hold
          cases hold
          exact Or.inl rfl
        · rintro (hfirst | hrest)
          · cases hfirst
            rfl
          · exact absurd (List.mem_map_of_mem hrest) hfresh
      · rw [List.lookup_cons, beq_false_of_ne hplace, List.mem_cons, ih hnodupRest]
        refine (or_iff_right ?_).symm
        intro hfirst
        cases hfirst
        exact hplace rfl

theorem mem_places_assign {location place : Location} {value : α} {values : Located α} :
    place ∈ (assign location value values).map Prod.fst ↔
      place = location ∨ place ∈ values.map Prod.fst := by
  induction values with
  | nil =>
      simp [assign]
  | cons first rest ih =>
      obtain ⟨here, old⟩ := first
      by_cases hh : here = location
      · subst hh
        simp [assign]
      · simp only [assign, if_neg hh, List.map_cons, List.mem_cons, ih]
        constructor
        · rintro (h | h | h)
          · exact Or.inr (Or.inl h)
          · exact Or.inl h
          · exact Or.inr (Or.inr h)
        · rintro (h | h | h)
          · exact Or.inr (Or.inl h)
          · exact Or.inl h
          · exact Or.inr (Or.inr h)

theorem nodup_assign {location : Location} {value : α} {values : Located α}
    (h : (values.map Prod.fst).Nodup) :
    ((assign location value values).map Prod.fst).Nodup := by
  induction values with
  | nil =>
      simp [assign]
  | cons first rest ih =>
      obtain ⟨here, old⟩ := first
      simp only [List.map_cons, List.nodup_cons] at h
      by_cases hh : here = location
      · simp [assign, hh] at h ⊢
        exact h
      · simp only [assign, if_neg hh, List.map_cons, List.nodup_cons]
        refine ⟨fun hm => ?_, ih h.2⟩
        rcases mem_places_assign.mp hm with hm | hm
        · exact hh hm
        · exact h.1 hm

theorem mem_places_of_erase {location place : Location} {values : Located α}
    (h : place ∈ (erase location values).map Prod.fst) : place ∈ values.map Prod.fst := by
  obtain ⟨v, hv, rfl⟩ := List.mem_map.mp h
  exact List.mem_map_of_mem (List.mem_filter.mp hv).1

theorem nodup_erase {location : Location} {values : Located α}
    (h : (values.map Prod.fst).Nodup) : ((erase location values).map Prod.fst).Nodup :=
  (List.Sublist.map _ List.filter_sublist).nodup h

theorem places_replace (isMeant : Location → Bool) (value : α) (values : Located α) :
    (replace isMeant value values).map Prod.fst = values.map Prod.fst := by
  rw [replace, List.map_map]
  refine List.map_congr_left fun v _ => ?_
  rw [Function.comp_apply]
  split <;> rfl

end Located

abbrev Entries := Located Entry

namespace Entries

def at? (entries : Entries) : Location → Option Entry
  | [] => some .directory
  | name :: dir => entries.lookup (name :: dir)

def Rooted (entries : Entries) (location : Location) : Prop :=
  ∃ name dir, location = name :: dir ∧ name.Valid ∧ entries.at? dir = some .directory

def Numbered (entries : Entries) (numbers : Located Nat) : Prop :=
  ∀ place other number, numbers.lookup place = some number →
    numbers.lookup other = some number →
      ∃ contents executable, entries.at? place = some (.file contents executable) ∧
        entries.at? other = some (.file contents executable)

@[simp] theorem at?_assign {location : Location} (hl : location ≠ []) (place : Location)
    (entry : Entry) (entries : Entries) :
    at? (entries.assign location entry) place =
      if place = location then some entry else entries.at? place := by
  cases place with
  | nil =>
      simp [at?, hl.symm]
  | cons name dir =>
      simp [at?, Located.lookup_assign]

@[simp] theorem at?_erase {location : Location} (hl : location ≠ []) (place : Location)
    (entries : Entries) :
    at? (entries.erase location) place =
      if place = location then none else entries.at? place := by
  cases place with
  | nil =>
      simp [at?, hl.symm]
  | cons name dir =>
      simp [at?, Located.lookup_erase]

theorem Numbered.erase {entries changed : Entries} {numbers : Located Nat} {location : Location}
    (h : entries.Numbered numbers)
    (hsame : ∀ place, place ≠ location → changed.at? place = entries.at? place) :
    changed.Numbered (numbers.erase location) := by
  intro place other number hp ho
  rw [Located.lookup_erase] at hp ho
  split at hp
  · cases hp
  · split at ho
    · cases ho
    · rename_i hpne hone
      rw [hsame place hpne, hsame other hone]
      exact h place other number hp ho

end Entries

/-- A tree of entries together with the numbers of the files that have several names and with
the directory in which relative paths begin. -/
@[ext] structure Store where
  entries : Entries
  numbers : Located Nat
  workingDirectory : Location
  places_nodup : (entries.map Prod.fst).Nodup
  rooted : ∀ location ∈ entries.map Prod.fst, entries.Rooted location
  numbered : entries.Numbered numbers
  working_directory : entries.at? workingDirectory = some .directory

namespace Store

def empty : Store where
  entries := []
  numbers := []
  workingDirectory := []
  places_nodup := by simp
  rooted := by simp
  numbered := by simp [Entries.Numbered]
  working_directory := rfl

def at? (s : Store) (location : Location) : Option Entry :=
  s.entries.at? location

/-- A location takes a new entry when its name is valid, it stands in a directory,
and it is no directory itself. -/
def Accepts (s : Store) (location : Location) : Prop :=
  s.entries.Rooted location ∧ s.at? location ≠ some .directory

def accepts (s : Store) : Location → Bool
  | [] => false
  | name :: dir =>
      decide name.Valid && s.at? dir == some .directory &&
        s.at? (name :: dir) != some .directory

theorem accepts_iff (s : Store) (location : Location) :
    s.accepts location = true ↔ s.Accepts location := by
  cases location with
  | nil =>
      simp [accepts, Accepts, Entries.Rooted]
  | cons name dir =>
      simp only [accepts, Accepts, Entries.Rooted, Bool.and_eq_true, decide_eq_true_eq,
        beq_iff_eq, bne_iff_ne, ne_eq, List.cons.injEq]
      constructor
      · rintro ⟨⟨hv, hd⟩, hn⟩
        exact ⟨⟨name, dir, ⟨rfl, rfl⟩, hv, hd⟩, hn⟩
      · rintro ⟨⟨_, _, ⟨rfl, rfl⟩, hv, hd⟩, hn⟩
        exact ⟨⟨hv, hd⟩, hn⟩

instance (s : Store) (location : Location) : Decidable (s.Accepts location) :=
  decidable_of_iff _ (s.accepts_iff location)

theorem Accepts.ne_nil {s : Store} {location : Location} (h : s.Accepts location) :
    location ≠ [] := by
  obtain ⟨⟨name, dir, rfl, _⟩, _⟩ := h
  simp

theorem directory_assign {s : Store} {location place : Location} {entry : Entry}
    (h : s.Accepts location) (hp : s.entries.at? place = some .directory) :
    Entries.at? (s.entries.assign location entry) place = some .directory := by
  rw [Entries.at?_assign h.ne_nil]
  by_cases he : place = location
  · subst he
    exact absurd hp h.2
  · simpa [he] using hp

/-- Puts an entry where the location takes one, and else changes nothing. -/
def put (s : Store) (location : Location) (entry : Entry) : Store :=
  if h : s.Accepts location then
    { entries := s.entries.assign location entry
      numbers := s.numbers.erase location
      workingDirectory := s.workingDirectory
      places_nodup := Located.nodup_assign s.places_nodup
      rooted := by
        intro place hp
        rcases Located.mem_places_assign.mp hp with rfl | hp
        · obtain ⟨name, dir, rfl, hv, hd⟩ := h.1
          exact ⟨name, dir, rfl, hv, directory_assign h hd⟩
        · obtain ⟨name, dir, rfl, hv, hd⟩ := s.rooted place hp
          exact ⟨name, dir, rfl, hv, directory_assign h hd⟩
      numbered := s.numbered.erase fun place hp => by
        rw [Entries.at?_assign h.ne_nil, if_neg hp]
      working_directory := directory_assign h s.working_directory }
  else
    s

theorem at?_put {s : Store} {location : Location} (h : s.Accepts location)
    (entry : Entry) (place : Location) :
    (s.put location entry).at? place =
      if place = location then some entry else s.at? place := by
  simp only [put, dif_pos h, at?]
  exact Entries.at?_assign h.ne_nil place entry s.entries

theorem directory_erase {s : Store} {location place : Location} (hl : location ≠ [])
    (hn : s.at? location ≠ some .directory) (hp : s.entries.at? place = some .directory) :
    Entries.at? (s.entries.erase location) place = some .directory := by
  rw [Entries.at?_erase hl]
  by_cases he : place = location
  · subst he
    exact absurd hp hn
  · simpa [he] using hp

def remove (s : Store) (location : Location) : Store :=
  if h : location ≠ [] ∧ s.at? location ≠ some .directory then
    { entries := s.entries.erase location
      numbers := s.numbers.erase location
      workingDirectory := s.workingDirectory
      places_nodup := Located.nodup_erase s.places_nodup
      rooted := by
        intro place hp
        have hmem := Located.mem_places_of_erase hp
        obtain ⟨name, dir, rfl, hv, hd⟩ := s.rooted place hmem
        exact ⟨name, dir, rfl, hv, directory_erase h.1 h.2 hd⟩
      numbered := s.numbered.erase fun place hp => by
        rw [Entries.at?_erase h.1, if_neg hp]
      working_directory := directory_erase h.1 h.2 s.working_directory }
  else
    s

def namesIn (s : Store) (dir : Location) : List Name :=
  s.entries.filterMap fun e =>
    match e.1 with
    | [] => none
    | name :: place => if place = dir then some name else none

theorem ne_of_namesIn_nil {s : Store} {location dir : Location} {name : Name}
    (h : s.namesIn location = []) (hp : name :: dir ∈ s.entries.map Prod.fst) :
    dir ≠ location := by
  rintro rfl
  obtain ⟨e, he, hfst⟩ := List.mem_map.mp hp
  have hmem : name ∈ s.namesIn dir := by
    refine List.mem_filterMap.mpr ⟨e, he, ?_⟩
    simp [hfst]
  rw [h] at hmem
  exact absurd hmem (by simp)

/-- Takes away a directory that is empty and in which relative paths do not begin; others
stay. -/
def removeDirectory (s : Store) (location : Location) : Store :=
  if h : location ≠ [] ∧ s.namesIn location = [] ∧ location ≠ s.workingDirectory then
    { entries := s.entries.erase location
      numbers := s.numbers.erase location
      workingDirectory := s.workingDirectory
      places_nodup := Located.nodup_erase s.places_nodup
      rooted := by
        intro place hp
        have hmem := Located.mem_places_of_erase hp
        obtain ⟨name, dir, rfl, hv, hd⟩ := s.rooted place hmem
        refine ⟨name, dir, rfl, hv, ?_⟩
        rw [Entries.at?_erase h.1]
        simpa [ne_of_namesIn_nil h.2.1 hmem] using hd
      numbered := s.numbered.erase fun place hp => by
        rw [Entries.at?_erase h.1, if_neg hp]
      working_directory := by
        rw [Entries.at?_erase h.1]
        simpa [h.2.2.symm] using s.working_directory }
  else
    s

/-- Lets relative paths begin in another directory; other locations are not entered. -/
def enter (s : Store) (location : Location) : Store :=
  if h : s.at? location = some .directory then
    { s with workingDirectory := location, working_directory := h }
  else
    s

end Store

end Imprint
