import Imprint.Proofs.Store.Resemblance

/-!
# Stores that differ in one file

Two stores that are the same but for the contents of one file look alike, take and
refuse the same directories and files, and are still the same but for that file
whatever is written to both.
-/

namespace Imprint

/-- Two lists with the same entries in the same order, but for the contents of a file at the
location. -/
inductive Entries.SameBut (location : Location) : Entries → Entries → Prop
  | nil : SameBut location [] []
  | same (e : Location × Entry) {rest rest' : Entries} (hrest : SameBut location rest rest') :
      SameBut location (e :: rest) (e :: rest')
  | file (old new : Bytes) (executable : Bool) {rest rest' : Entries}
      (hrest : SameBut location rest rest') :
      SameBut location ((location, .file old executable) :: rest)
        ((location, .file new executable) :: rest')

namespace Entries

theorem SameBut.lookup {location : Location} {first second : Entries}
    (hsame : SameBut location first second) (place : Location) :
    second.lookup place = first.lookup place ∨
      ∃ old new executable, first.lookup place = some (.file old executable) ∧
        second.lookup place = some (.file new executable) := by
  induction hsame with
  | nil => exact Or.inl rfl
  | same e hrest ih =>
      rw [List.lookup_cons, List.lookup_cons]
      cases place == e.1 with
      | true => exact Or.inl rfl
      | false => exact ih
  | file old new executable hrest ih =>
      rw [List.lookup_cons, List.lookup_cons]
      cases place == location with
      | true => exact Or.inr ⟨old, new, executable, rfl, rfl⟩
      | false => exact ih

theorem SameBut.assign {location : Location} {first second : Entries}
    (hsame : SameBut location first second) (place : Location) (e : Entry) :
    SameBut location (first.assign place e) (second.assign place e) := by
  induction hsame with
  | nil => exact .same _ .nil
  | same other hrest ih =>
      rw [Located.assign, Located.assign]
      split
      · exact .same _ hrest
      · exact .same _ ih
  | file old new executable hrest ih =>
      rw [Located.assign, Located.assign]
      split
      · exact .same _ hrest
      · exact .file old new executable ih

theorem SameBut.replace {location : Location} {first second : Entries}
    (hsame : SameBut location first second) (isMeant : Location → Bool) (e : Entry) :
    SameBut location (first.replace isMeant e) (second.replace isMeant e) := by
  induction hsame with
  | nil => exact .nil
  | same other hrest ih => exact .same _ ih
  | file old new executable hrest ih =>
      unfold Located.replace at ih ⊢
      rw [List.map_cons, List.map_cons]
      dsimp only
      split
      · exact .same _ ih
      · exact .file old new executable ih

end Entries

namespace Store

/-- The stores are the same but for the contents of a file at the location. -/
structure SameBut (location : Location) (s t : Store) : Prop where
  workingDirectory : t.workingDirectory = s.workingDirectory
  numbers : t.numbers = s.numbers
  entries : s.entries.SameBut location t.entries

/-- Both works are refused for one cause, or both leave stores that are the same but for the
file. -/
inductive SameOutcome (location : Location) : Except Cause Store → Except Cause Store → Prop
  | refused (cause : Cause) : SameOutcome location (.error cause) (.error cause)
  | done {s t : Store} (hsame : s.SameBut location t) : SameOutcome location (.ok s) (.ok t)

/-- Both works have one result and leave stores that are the same but for the file. -/
structure Agree (location : Location) (first second : α × Store) : Prop where
  result : first.1 = second.1
  store : first.2.SameBut location second.2

namespace SameBut

variable {s t : Store} {location : Location}

/-!
## What stands in the stores
-/

theorem at? (hsame : s.SameBut location t) (place : Location) :
    t.at? place = s.at? place ∨
      ∃ old new executable, s.at? place = some (.file old executable) ∧
        t.at? place = some (.file new executable) := by
  cases place with
  | nil => exact Or.inl rfl
  | cons name dir => exact hsame.entries.lookup (name :: dir)

theorem resembles (hsame : s.SameBut location t) : s.Resembles t where
  workingDirectory := hsame.workingDirectory
  at? := hsame.at?

theorem accepts_iff (hsame : s.SameBut location t) (place : Location) :
    t.Accepts place ↔ s.Accepts place := by
  have hrooted : t.entries.Rooted place ↔ s.entries.Rooted place := by
    refine exists_congr fun name => exists_congr fun dir => ?_
    exact and_congr_right fun _ => and_congr_right fun _ => hsame.resembles.directory_iff dir
  exact and_congr hrooted (not_congr (hsame.resembles.directory_iff place))

theorem put (hsame : s.SameBut location t) (place : Location) (e : Entry) :
    (s.put place e).SameBut location (t.put place e) := by
  by_cases haccepts : s.Accepts place
  · rw [Store.put, Store.put, dif_pos haccepts, dif_pos ((hsame.accepts_iff place).mpr haccepts)]
    exact ⟨hsame.workingDirectory, congrArg (Located.erase place) hsame.numbers,
      hsame.entries.assign place e⟩
  · have hrefuses := mt (hsame.accepts_iff place).mp haccepts
    rw [Store.put, Store.put, dif_neg haccepts, dif_neg hrefuses]
    exact hsame

theorem holdsFile_iff (hsame : s.SameBut location t) (place : Location) :
    t.HoldsFile place ↔ s.HoldsFile place := by
  unfold HoldsFile
  rcases hsame.at? place with heq | ⟨old, new, executable, hs, ht⟩
  · rw [heq]
  · simp [hs, ht]

theorem sameFile_iff (hsame : s.SameBut location t) (place other : Location) :
    t.SameFile place other ↔ s.SameFile place other := by
  unfold SameFile number?
  rw [hsame.numbers]

theorem overwrite (hsame : s.SameBut location t) (place : Location) (contents : Bytes)
    (executable : Bool) :
    (s.overwrite place contents executable).SameBut location
      (t.overwrite place contents executable) := by
  have hnames : (fun name => decide (t.SameFile name place)) =
      fun name => decide (s.SameFile name place) :=
    funext fun name => decide_eq_decide.mpr (hsame.sameFile_iff name place)
  by_cases hfile : s.HoldsFile place
  · rw [Store.overwrite, Store.overwrite, dif_pos hfile,
      dif_pos ((hsame.holdsFile_iff place).mpr hfile)]
    refine ⟨hsame.workingDirectory, hsame.numbers, ?_⟩
    dsimp only
    rw [overwritten, overwritten, hnames]
    exact hsame.entries.replace _ _
  · rw [Store.overwrite, Store.overwrite, dif_neg hfile,
      dif_neg (mt (hsame.holdsFile_iff place).mp hfile)]
    exact hsame

/-!
## Files and directories
-/

theorem write (hsame : s.SameBut location t) (p : Path) (contents : Bytes) :
    SameOutcome location (s.write p contents) (t.write p contents) := by
  unfold Store.write
  rw [hsame.resembles.locate]
  cases s.locate .writable p with
  | error cause => exact .refused cause
  | ok spot =>
      cases spot with
      | vacant dir name => exact .done (hsame.put _ _)
      | found place =>
          rcases hsame.at? place with heq | ⟨old, new, executable, hs, ht⟩
          · simp only [heq]
            split
            · exact .done (hsame.overwrite _ _ _)
            · exact .refused _
          · simp only [hs, ht]
            exact .done (hsame.overwrite _ _ _)

theorem makeDirectory (hsame : s.SameBut location t) (p : Path) :
    SameOutcome location (s.makeDirectory p) (t.makeDirectory p) := by
  unfold Store.makeDirectory Store.locateDirectory
  rw [hsame.resembles.locate]
  split
  · exact .refused _
  · exact .refused _
  · exact .done (hsame.put _ _)

theorem settle (hsame : s.SameBut location t) (p : Path) (cause : Cause) :
    Agree location
      (if s.isDirectory p then ((.ok () : Except Cause Unit), s) else (.error cause, s))
      (if t.isDirectory p then (.ok (), t) else (.error cause, t)) := by
  rw [hsame.resembles.isDirectory]
  split
  · exact ⟨rfl, hsame⟩
  · exact ⟨rfl, hsame⟩

theorem ensureDirectories (hsame : s.SameBut location t) (paths : List Path) :
    Agree location (s.ensureDirectories paths) (t.ensureDirectories paths) := by
  induction paths with
  | nil => exact ⟨rfl, hsame⟩
  | cons p outer ih =>
      have hmake := hsame.makeDirectory p
      rw [Store.ensureDirectories, Store.ensureDirectories]
      generalize s.makeDirectory p = first at hmake ⊢
      generalize t.makeDirectory p = second at hmake ⊢
      cases hmake with
      | done hdone => exact ⟨rfl, hdone⟩
      | refused cause =>
          cases cause with
          | notFound =>
              generalize s.ensureDirectories outer = first at ih ⊢
              generalize t.ensureDirectories outer = second at ih ⊢
              obtain ⟨result, made⟩ := first
              obtain ⟨result', made'⟩ := second
              obtain ⟨rfl, hmade⟩ := ih
              cases result with
              | error cause => exact ⟨rfl, hmade⟩
              | ok =>
                  have hagain := hmade.makeDirectory p
                  have hsettle := hmade.settle p
                  dsimp only at hagain hsettle ⊢
                  generalize made.makeDirectory p = first at hagain ⊢
                  generalize made'.makeDirectory p = second at hagain ⊢
                  cases hagain with
                  | done hdone => exact ⟨rfl, hdone⟩
                  | refused cause => exact hsettle cause
          | _ => exact hsame.settle p _

theorem makeDirectories (hsame : s.SameBut location t) (p : Path) :
    Agree location (s.makeDirectories p) (t.makeDirectories p) := by
  unfold Store.makeDirectories
  split
  · exact ⟨rfl, hsame⟩
  · exact hsame.ensureDirectories _

end SameBut

end Store

end Imprint
