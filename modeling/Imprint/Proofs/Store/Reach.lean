import Imprint.Proofs.Store.Writing

/-!
# Walks without symbolic links

Where no entry is a link, a walk is a descent through directories followed by at
most one more name.  Steps that stay count for nothing in a descent, and what an
entry of a directory is found to be depends on that one entry.
-/

namespace Imprint

namespace Step

def isMove : Step → Bool
  | slash => false
  | stay => false
  | up => true
  | name _ => true

theorem eq_of_ofPiece {piece : Bytes} {name : Name} (hpiece : ofPiece piece = .name name) :
    piece = name := by
  unfold ofPiece at hpiece
  split at hpiece
  · cases hpiece
  · split at hpiece
    · cases hpiece
    · split at hpiece
      · cases hpiece
      · cases hpiece
        rfl

end Step

def Path.moves (p : Path) : List Step :=
  p.steps.filter Step.isMove

/-- A name that is a piece of a path and asks to be looked up. -/
def Name.Plain (name : Name) : Prop :=
  Path.slash ∉ name ∧ Step.ofPiece name = .name name

theorem Name.Valid.plain {name : Name} (hvalid : name.Valid) : name.Plain := by
  obtain ⟨hempty, hdot, hdots, hslash, -, -⟩ := hvalid
  exact ⟨hslash, by simp [Step.ofPiece, hempty, hdot, hdots]⟩

namespace Store

/-!
## Descents
-/

def advance (s : Store) : Location → List Step → Option Location
  | here, [] => some here
  | here, .slash :: rest => advance s here rest
  | here, .stay :: rest => advance s here rest
  | here, .up :: rest => advance s here.tail rest
  | here, .name name :: rest =>
      if s.at? (name :: here) = some .directory then advance s (name :: here) rest else none

theorem advance_append (s : Store) (here : Location) (first second : List Step) :
    s.advance here (first ++ second) =
      (s.advance here first).bind fun o => s.advance o second := by
  fun_induction advance s here first with
  | case1 here => rfl
  | case2 here rest ih => exact ih
  | case3 here rest ih => exact ih
  | case4 here rest ih => exact ih
  | case5 here name rest hdir ih =>
      rw [← ih, List.cons_append, advance, if_pos hdir]
  | case6 here name rest hdir =>
      rw [List.cons_append, advance, if_neg hdir]
      rfl

theorem advance_filter_isMove (s : Store) (here : Location) (steps : List Step) :
    s.advance here (steps.filter Step.isMove) = s.advance here steps := by
  fun_induction advance s here steps with
  | case1 here => rfl
  | case2 here rest ih => exact ih
  | case3 here rest ih => exact ih
  | case4 here rest ih => exact ih
  | case5 here name rest hdir ih =>
      rw [← ih, List.filter_cons_of_pos rfl, advance, if_pos hdir]
  | case6 here name rest hdir =>
      rw [List.filter_cons_of_pos rfl, advance, if_neg hdir]

theorem advance_of_beginning {s : Store} {here o : Location} {first steps : List Step}
    (hbegins : first <+: steps) (hadvance : s.advance here steps = some o) :
    ∃ between, s.advance here first = some between := by
  obtain ⟨second, rfl⟩ := hbegins
  rw [advance_append] at hadvance
  cases hfirst : s.advance here first with
  | none =>
      rw [hfirst] at hadvance
      cases hadvance
  | some between =>
      exact ⟨between, rfl⟩

theorem at?_advance {s : Store} {here o : Location} {steps : List Step}
    (hhere : s.at? here = some .directory) (hadvance : s.advance here steps = some o) :
    s.at? o = some .directory := by
  fun_induction advance s here steps with
  | case1 here =>
      cases hadvance
      exact hhere
  | case2 here rest ih => exact ih hhere hadvance
  | case3 here rest ih => exact ih hhere hadvance
  | case4 here rest ih => exact ih (at?_tail hhere) hadvance
  | case5 here name rest hdir ih => exact ih hdir hadvance
  | case6 => cases hadvance

/-!
## Walks that begin with a descent
-/

/-- A walk goes on from where the descent at its beginning leads.  A name to write to may
only be followed by slashes alone when it is the last one. -/
theorem walkWith_append {s : Store} {ending : Ending}
    {jump : Location → List Step → Except Cause Spot} {here o : Location}
    {first rest : List Step} (hending : ending ≠ .writable ∨ rest.all (· = .slash) = false)
    (hadvance : s.advance here first = some o) :
    s.walkWith ending jump here (first ++ rest) = s.walkWith ending jump o rest := by
  fun_induction advance s here first with
  | case1 here =>
      cases hadvance
      rfl
  | case2 here first ih => exact ih hadvance
  | case3 here first ih => exact ih hadvance
  | case4 here first ih => exact ih hadvance
  | case5 here name first hdir ih =>
      have hguard : ¬ (ending = .writable ∧ first ++ rest ≠ [] ∧
          (first ++ rest).all (· = .slash) = true) := by
        rintro ⟨hwritable, -, hall⟩
        rcases hending with hne | hrest
        · exact hne hwritable
        · rw [List.all_append, hrest, Bool.and_false] at hall
          cases hall
      rw [← ih hadvance, List.cons_append, walkWith, if_neg hguard,
        if_pos (rooted_of_at? hdir).1, hdir]
  | case6 => cases hadvance

theorem advance_of_walkWith {s : Store} (hdirect : s.Direct) {ending : Ending}
    {jump : Location → List Step → Except Cause Spot} {here o : Location} {steps : List Step}
    (hdir : s.at? o = some .directory)
    (hwalk : s.walkWith ending jump here steps = .ok (.found o)) :
    s.advance here steps = some o := by
  fun_induction walkWith s ending jump here steps with
  | case1 here =>
      cases hwalk
      rfl
  | case2 here rest ih => exact ih hwalk
  | case3 here rest ih => exact ih hwalk
  | case4 here rest ih => exact ih hwalk
  | case5 => cases hwalk
  | case6 => cases hwalk
  | case7 => cases hwalk
  | case8 here name rest _ hvalid hnext ih =>
      rw [advance, if_pos hnext]
      exact ih hwalk
  | case9 here name hvalid contents executable hfile _ =>
      cases hwalk
      rw [hfile] at hdir
      cases hdir
  | case10 => cases hwalk
  | case11 here name rest _ hvalid target hlink _ => exact absurd hlink (hdirect _ target)
  | case12 here name rest _ hvalid target hlink _ => exact absurd hlink (hdirect _ target)
  | case13 => cases hwalk

theorem moves_of_walkWith {s : Store} (hdirect : s.Direct) {ending : Ending}
    {jump : Location → List Step → Except Cause Spot} {here dir : Location} {name : Name}
    {steps : List Step} (hwalk : s.walkWith ending jump here steps = .ok (.vacant dir name)) :
    ∃ front, steps.filter Step.isMove = front ++ [.name name] ∧
      s.advance here front = some dir := by
  fun_induction walkWith s ending jump here steps with
  | case1 => cases hwalk
  | case2 here rest ih => exact ih hwalk
  | case3 here rest ih => exact ih hwalk
  | case4 here rest ih =>
      obtain ⟨front, hmoves, hadvance⟩ := ih hwalk
      exact ⟨.up :: front, by rw [List.filter_cons_of_pos rfl, hmoves]; rfl, hadvance⟩
  | case5 => cases hwalk
  | case6 here name hvalid hnone _ =>
      cases hwalk
      exact ⟨[], rfl, rfl⟩
  | case7 => cases hwalk
  | case8 here next rest _ hvalid hnext ih =>
      obtain ⟨front, hmoves, hadvance⟩ := ih hwalk
      refine ⟨.name next :: front, ?_, ?_⟩
      · rw [List.filter_cons_of_pos rfl, hmoves]
        rfl
      · rw [advance, if_pos hnext]
        exact hadvance
  | case9 => cases hwalk
  | case10 => cases hwalk
  | case11 here name rest _ hvalid target hlink _ => exact absurd hlink (hdirect _ target)
  | case12 here name rest _ hvalid target hlink _ => exact absurd hlink (hdirect _ target)
  | case13 => cases hwalk

theorem last_of_walkWith {s : Store} (hdirect : s.Direct) {ending : Ending}
    {jump : Location → List Step → Except Cause Spot} {here location : Location}
    {steps : List Step} {contents : Bytes} {executable : Bool}
    (hhere : s.at? here = some .directory)
    (hfile : s.at? location = some (.file contents executable))
    (hwalk : s.walkWith ending jump here steps = .ok (.found location)) :
    ∃ front name dir, steps = front ++ [.name name] ∧ location = name :: dir := by
  fun_induction walkWith s ending jump here steps with
  | case1 here =>
      cases hwalk
      rw [hhere] at hfile
      cases hfile
  | case2 here rest ih =>
      obtain ⟨front, name, dir, rfl, hlocation⟩ := ih hhere hwalk
      exact ⟨.slash :: front, name, dir, rfl, hlocation⟩
  | case3 here rest ih =>
      obtain ⟨front, name, dir, rfl, hlocation⟩ := ih hhere hwalk
      exact ⟨.stay :: front, name, dir, rfl, hlocation⟩
  | case4 here rest ih =>
      obtain ⟨front, name, dir, rfl, hlocation⟩ := ih (at?_tail hhere) hwalk
      exact ⟨.up :: front, name, dir, rfl, hlocation⟩
  | case5 => cases hwalk
  | case6 => cases hwalk
  | case7 => cases hwalk
  | case8 here next rest _ hvalid hnext ih =>
      obtain ⟨front, name, dir, rfl, hlocation⟩ := ih hnext hwalk
      exact ⟨.name next :: front, name, dir, rfl, hlocation⟩
  | case9 here name hvalid old mode hat _ =>
      cases hwalk
      exact ⟨[], name, here, rfl, rfl⟩
  | case10 => cases hwalk
  | case11 here name rest _ hvalid target hlink _ => exact absurd hlink (hdirect _ target)
  | case12 here name rest _ hvalid target hlink _ => exact absurd hlink (hdirect _ target)
  | case13 => cases hwalk

/-!
## Paths to directories
-/

theorem walk_eq_walkWith (s : Store) (ending : Ending) (links : Nat) :
    ∃ jump, s.walk ending links = s.walkWith ending jump := by
  cases links with
  | zero =>
      exact ⟨_, rfl⟩
  | succ links =>
      exact ⟨_, rfl⟩

theorem locate_of_advance {s : Store} {ending : Ending} {p : Path} {o : Location}
    (hending : ending ≠ .writable) (hp : Walkable p)
    (hadvance : s.advance (s.origin p) p.steps = some o) :
    s.locate ending p = .ok (.found o) := by
  obtain ⟨jump, hjump⟩ := walk_eq_walkWith s ending maxLinks
  rw [locate_of_walkable hp, hjump, ← List.append_nil p.steps,
    walkWith_append (Or.inl hending) hadvance]
  rfl

theorem advance_of_locate {s : Store} (hdirect : s.Direct) {ending : Ending} {p : Path}
    {o : Location} (hdir : s.at? o = some .directory)
    (hlocate : s.locate ending p = .ok (.found o)) :
    s.advance (s.origin p) p.steps = some o := by
  obtain ⟨jump, hjump⟩ := walk_eq_walkWith s ending maxLinks
  have hwalk := walk_of_locate hlocate
  rw [hjump] at hwalk
  exact advance_of_walkWith hdirect hdir hwalk

theorem isDirectory_iff_advance {s : Store} (hdirect : s.Direct) {p : Path} :
    s.isDirectory p = true ↔ Walkable p ∧ ∃ o, s.advance (s.origin p) p.moves = some o := by
  rw [isDirectory_iff, Path.moves]
  simp only [advance_filter_isMove]
  constructor
  · rintro ⟨o, hlocate, hdir⟩
    exact ⟨walkable_of_locate hlocate, o, advance_of_locate hdirect hdir hlocate⟩
  · rintro ⟨hp, o, hadvance⟩
    exact ⟨o, locate_of_advance (by simp) hp hadvance, at?_advance (s.at?_origin p) hadvance⟩

theorem advance_of_leads {s : Store} (hdirect : s.Direct) {p : Path} {o : Location}
    (hleads : s.Leads p o) : s.advance (s.origin p) p.steps = some o := by
  rcases hleads with ⟨hempty, rfl⟩ | ⟨hlocate, hdir⟩
  · simp [origin, Path.isAbsolute, Path.steps, Path.pieces, hempty, cutAt, Step.ofPiece, advance]
  · exact advance_of_locate hdirect hdir hlocate

theorem name_of_read {s : Store} (hdirect : s.Direct) {p : Path} {contents : Bytes}
    (hread : s.read p = .ok contents) :
    ∃ front name dir executable, p.pieces = front ++ [name] ∧
      s.locate .followed p = .ok (.found (name :: dir)) ∧
        s.at? (name :: dir) = some (.file contents executable) := by
  obtain ⟨location, executable, hlocate, hfile⟩ := locate_of_read hread
  obtain ⟨jump, hjump⟩ := walk_eq_walkWith s .followed maxLinks
  have hwalk := walk_of_locate hlocate
  rw [hjump] at hwalk
  obtain ⟨steps, name, dir, hsteps, rfl⟩ :=
    last_of_walkWith hdirect (s.at?_origin p) hfile hwalk
  obtain ⟨front, last, hpieces, -, hlast⟩ := List.map_eq_append_iff.mp hsteps
  obtain ⟨piece, others, rfl, hpiece, hothers⟩ := List.map_eq_cons_iff.mp hlast
  rw [List.map_eq_nil_iff.mp hothers] at hpieces
  cases Step.eq_of_ofPiece hpiece
  exact ⟨front, name, dir, executable, hpieces, hlocate, hfile⟩

/-!
## Entries of directories
-/

/-- What a walk finds that comes to a directory and goes on to one more name. -/
def arrive (s : Store) (o : Location) (name : Name) : Except Cause Spot :=
  if name.Valid then
    match s.at? (name :: o) with
    | none => .ok (.vacant o name)
    | some _ => .ok (.found (name :: o))
  else
    .error (if Name.maxLength < name.length then .nameTooLong else .notFound)

theorem arrive_congr {s t : Store} {o : Location} {name : Name}
    (hat : t.at? (name :: o) = s.at? (name :: o)) : t.arrive o name = s.arrive o name := by
  rw [arrive, arrive, hat]

theorem arrive_of_at? {s : Store} {o : Location} {name : Name} {e : Entry}
    (he : s.at? (name :: o) = some e) : s.arrive o name = .ok (.found (name :: o)) := by
  rw [arrive, if_pos (rooted_of_at? he).1, he]

theorem location_of_arrive {s : Store} {o : Location} {name : Name} {spot : Spot}
    (harrive : s.arrive o name = .ok spot) : spot.location = name :: o := by
  unfold arrive at harrive
  split at harrive
  · split at harrive
    · cases harrive
      rfl
    · cases harrive
      rfl
  · cases harrive

theorem walkWith_name {s : Store} (hdirect : s.Direct) {ending : Ending}
    {jump : Location → List Step → Except Cause Spot} (o : Location) (name : Name) :
    s.walkWith ending jump o [.name name] = s.arrive o name := by
  rw [walkWith, if_neg (by simp), arrive]
  cases hat : s.at? (name :: o) with
  | none =>
      rfl
  | some e =>
      cases e with
      | directory => rfl
      | file contents executable => rfl
      | link target => exact absurd hat (hdirect _ target)

theorem advance_concat_slash (s : Store) (here : Location) (steps : List Step) :
    s.advance here (steps ++ [.slash]) = s.advance here steps := by
  rw [advance_append]
  cases s.advance here steps with
  | none => rfl
  | some o => rfl

theorem steps_child (dir : Path) {name : Name} (hname : name.Plain) :
    ∃ front, (dir.child name).steps = front ++ [.name name] ∧
      (dir.steps = front ∨ dir.steps = front ++ [.slash]) := by
  obtain ⟨hslash, hpiece⟩ := hname
  rcases Path.pieces_child dir hslash with ⟨hempty, hchild⟩ | ⟨front, hdir, hchild⟩ | hchild
  · refine ⟨[], ?_, Or.inr ?_⟩
    · simp [Path.steps, hchild, hpiece]
    · simp [Path.steps, Path.pieces, hempty, cutAt, Step.ofPiece]
  · refine ⟨front.map Step.ofPiece, ?_, Or.inr ?_⟩
    · simp [Path.steps, hchild, hpiece]
    · simp [Path.steps, hdir, Step.ofPiece]
  · refine ⟨dir.steps, ?_, Or.inl rfl⟩
    simp [Path.steps, hchild, hpiece]

theorem origin_child (s : Store) {dir : Path} {name : Name} (hname : name.Plain) :
    s.origin (dir.child name) = s.origin dir := by
  rw [origin, origin, Path.isAbsolute_child hname.1]

theorem locate_child {s : Store} (hdirect : s.Direct) {ending : Ending} {dir : Path}
    {name : Name} {o : Location} (hleads : s.Leads dir o) (hname : name.Plain)
    (hchild : Walkable (dir.child name)) :
    s.locate ending (dir.child name) = s.arrive o name := by
  obtain ⟨front, hsteps, hfront⟩ := steps_child dir hname
  obtain ⟨jump, hjump⟩ := walk_eq_walkWith s ending maxLinks
  have hadvance : s.advance (s.origin dir) front = some o := by
    have hleads' := advance_of_leads hdirect hleads
    rcases hfront with hsame | hslash
    · rwa [hsame] at hleads'
    · rwa [hslash, advance_concat_slash] at hleads'
  rw [locate_of_walkable hchild, hjump, origin_child s hname, hsteps,
    walkWith_append (Or.inr rfl) hadvance, walkWith_name hdirect]

theorem walkable_child_iff {dir : Path} {name : Name} (hdir : 0 ∉ dir.bytes)
    (hname : name.Valid) :
    Walkable (dir.child name) ↔ (dir.child name).bytes.length ≤ Path.maxLength := by
  obtain ⟨hempty, -, -, -, hzero, -⟩ := hname
  constructor
  · exact fun hchild => hchild.2.2
  · intro hlength
    refine ⟨fun hmem => ?_, fun hnil => ?_, hlength⟩
    · rcases List.mem_append.mp ((Path.bytes_child_sublist dir name).subset hmem) with h | h
      · exact hdir h
      · rcases List.mem_cons.mp h with h | h
        · exact absurd h (by decide)
        · exact hzero h
    · rcases Path.bytes_child_cases dir name with hbytes | ⟨front, hbytes⟩
      · exact hempty (hbytes.symm.trans hnil)
      · rw [hbytes] at hnil
        simp at hnil

theorem locate_of_not_walkable {p : Path} (hp : ¬ Walkable p) :
    ∃ cause, ∀ (s : Store) (ending : Ending), s.locate ending p = .error cause := by
  by_cases hzero : 0 ∈ p.bytes
  · exact ⟨.nulInPath, fun s ending => by rw [locate, if_pos hzero]⟩
  · by_cases hempty : p.bytes = []
    · exact ⟨.notFound, fun s ending => by rw [locate, if_neg hzero, if_pos hempty]⟩
    · have hlength : Path.maxLength < p.bytes.length :=
        Nat.lt_of_not_le fun hle => hp ⟨hzero, hempty, hle⟩
      exact ⟨.nameTooLong, fun s ending => by
        rw [locate, if_neg hzero, if_neg hempty, if_pos hlength]⟩

theorem locate_child_congr {s t : Store} (hs : s.Direct) (ht : t.Direct)
    {ending : Ending} {dir : Path} {name : Name} {o : Location} (hsdir : s.Leads dir o)
    (htdir : t.Leads dir o) (hname : name.Plain)
    (hat : t.at? (name :: o) = s.at? (name :: o)) :
    t.locate ending (dir.child name) = s.locate ending (dir.child name) := by
  by_cases hchild : Walkable (dir.child name)
  · rw [locate_child hs hsdir hname hchild, locate_child ht htdir hname hchild,
      arrive_congr hat]
  · obtain ⟨cause, hcause⟩ := locate_of_not_walkable hchild
    rw [hcause, hcause]

theorem location_child {s : Store} (hdirect : s.Direct) {ending : Ending} {dir : Path}
    {name : Name} {o : Location} {spot : Spot} (hleads : s.Leads dir o) (hname : name.Plain)
    (hlocate : s.locate ending (dir.child name) = .ok spot) : spot.location = name :: o := by
  rw [locate_child hdirect hleads hname (walkable_of_locate hlocate)] at hlocate
  exact location_of_arrive hlocate

theorem Wrote.location_child {s t : Store} {dir : Path} {name : Name} {contents : Bytes}
    {location o : Location} (hwrote : s.Wrote (dir.child name) contents t location)
    (hdirect : s.Direct) (hleads : s.Leads dir o) (hname : name.Plain) :
    location = name :: o :=
  Store.location_child (hwrote.direct hdirect) (hleads.grows hwrote.grows) hname hwrote.leads

theorem write_child_congr {s t : Store} (hs : s.Direct) (ht : t.Direct) {dir : Path}
    {name : Name} {o : Location} (hsdir : s.Leads dir o) (htdir : t.Leads dir o)
    (hname : name.Plain) (hat : t.at? (name :: o) = s.at? (name :: o)) (contents : Bytes) :
    (t.write (dir.child name) contents).isOk = (s.write (dir.child name) contents).isOk := by
  have hlocate : t.locate .writable (dir.child name) = s.locate .writable (dir.child name) :=
    locate_child_congr hs ht hsdir htdir hname hat
  unfold write
  rw [hlocate]
  cases hspot : s.locate .writable (dir.child name) with
  | error cause => rfl
  | ok spot =>
      cases spot with
      | vacant parent free => rfl
      | found location =>
          have hlocation : location = name :: o :=
            Store.location_child hs hsdir hname hspot
          dsimp only
          rw [hlocation, hat]
          cases s.at? (name :: o) with
          | none => rfl
          | some e =>
              cases e with
              | directory => rfl
              | file old executable => rfl
              | link target => rfl

theorem read_child_congr {s t : Store} (hs : s.Direct) (ht : t.Direct) {dir : Path}
    {name : Name} {o : Location} (hsdir : s.Leads dir o) (htdir : t.Leads dir o)
    (hname : name.Plain) (hat : t.at? (name :: o) = s.at? (name :: o)) :
    t.read (dir.child name) = s.read (dir.child name) := by
  have hlocate : t.locate .followed (dir.child name) = s.locate .followed (dir.child name) :=
    locate_child_congr hs ht hsdir htdir hname hat
  unfold read entry
  rw [hlocate]
  cases hspot : s.locate .followed (dir.child name) with
  | error cause => rfl
  | ok spot =>
      cases spot with
      | vacant parent free => rfl
      | found location =>
          have hlocation : location = name :: o :=
            Store.location_child hs hsdir hname hspot
          dsimp only
          rw [hlocation, hat]

theorem write_child_same {s : Store} (hdirect : s.Direct) {dir : Path} {name : Name}
    {o : Location} (hleads : s.Leads dir o) (hname : name.Plain)
    (hchild : Walkable (dir.child name)) {contents : Bytes} {executable : Bool}
    (hfile : s.at? (name :: o) = some (.file contents executable)) :
    s.write (dir.child name) contents = .ok s := by
  rw [write, locate_child hdirect hleads hname hchild, arrive_of_at? hfile]
  simp only [hfile, overwrite_same hfile]

theorem isDirectory_child {s : Store} (hdirect : s.Direct) {dir : Path} {name : Name}
    {o : Location} (hleads : s.Leads dir o) (hname : name.Plain) :
    s.isDirectory (dir.child name) = true ↔
      Walkable (dir.child name) ∧ s.at? (name :: o) = some .directory := by
  rw [isDirectory_iff]
  constructor
  · rintro ⟨location, hlocate, hdir⟩
    have hlocation := Store.location_child hdirect hleads hname hlocate
    cases hlocation
    exact ⟨walkable_of_locate hlocate, hdir⟩
  · rintro ⟨hchild, hdir⟩
    refine ⟨name :: o, ?_, hdir⟩
    rw [locate_child hdirect hleads hname hchild, arrive_of_at? hdir]

end Store

end Imprint
