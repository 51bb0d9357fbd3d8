import Imprint.Proofs.Store.Reach

/-!
# Links

A walk follows the links in its way, but not too many.  As a relation, a walk
counts the links that it follows and sets no limit to them: its steps resolve to a
place.  A path leads to a place exactly when its steps resolve there by few enough
links and it is not too long to be looked at.
-/

namespace Imprint

namespace Store

/-- Steps from a directory resolve to a place, and so many links are followed in between. -/
inductive Resolves (s : Store) : Nat → Location → List Step → Location → Prop
  | done (here : Location) : Resolves s 0 here [] here
  | slash {links : Nat} {here place : Location} {rest : List Step}
      (hrest : Resolves s links here rest place) : Resolves s links here (.slash :: rest) place
  | stay {links : Nat} {here place : Location} {rest : List Step}
      (hrest : Resolves s links here rest place) : Resolves s links here (.stay :: rest) place
  | up {links : Nat} {here place : Location} {rest : List Step}
      (hrest : Resolves s links here.tail rest place) : Resolves s links here (.up :: rest) place
  | directory {links : Nat} {here place : Location} {name : Name} {rest : List Step}
      (hdir : s.at? (name :: here) = some .directory)
      (hrest : Resolves s links (name :: here) rest place) :
      Resolves s links here (.name name :: rest) place
  | file {here : Location} {name : Name} {contents : Bytes} {executable : Bool}
      (hfile : s.at? (name :: here) = some (.file contents executable)) :
      Resolves s 0 here [.name name] (name :: here)
  | link {links : Nat} {here place : Location} {name : Name} {target : Path} {rest : List Step}
      (hlink : s.at? (name :: here) = some (.link target))
      (hrest : Resolves s links (if target.isAbsolute then [] else here) (target.steps ++ rest)
        place) :
      Resolves s (links + 1) here (.name name :: rest) place

theorem resolves_directory_iff {s : Store} {links : Nat} {here place : Location} {name : Name}
    {rest : List Step} (hdir : s.at? (name :: here) = some .directory) :
    s.Resolves links here (.name name :: rest) place ↔
      s.Resolves links (name :: here) rest place := by
  constructor
  · intro hall
    cases hall with
    | directory _ hrest => exact hrest
    | file hfile =>
        rw [hdir] at hfile
        cases hfile
    | link hlink _ =>
        rw [hdir] at hlink
        cases hlink
  · exact fun hrest => .directory hdir hrest

theorem resolves_file_iff {s : Store} {links : Nat} {here place : Location} {name : Name}
    {rest : List Step} {contents : Bytes} {executable : Bool}
    (hfile : s.at? (name :: here) = some (.file contents executable)) :
    s.Resolves links here (.name name :: rest) place ↔
      links = 0 ∧ rest = [] ∧ place = name :: here := by
  constructor
  · intro hall
    cases hall with
    | directory hdir _ =>
        rw [hfile] at hdir
        cases hdir
    | file _ => exact ⟨rfl, rfl, rfl⟩
    | link hlink _ =>
        rw [hfile] at hlink
        cases hlink
  · rintro ⟨rfl, rfl, rfl⟩
    exact .file hfile

theorem resolves_link_iff {s : Store} {links : Nat} {here place : Location} {name : Name}
    {rest : List Step} {target : Path} (hlink : s.at? (name :: here) = some (.link target)) :
    s.Resolves links here (.name name :: rest) place ↔
      ∃ less, links = less + 1 ∧
        s.Resolves less (if target.isAbsolute then [] else here) (target.steps ++ rest) place := by
  constructor
  · intro hall
    cases hall with
    | directory hdir _ =>
        rw [hlink] at hdir
        cases hdir
    | file hfile =>
        rw [hlink] at hfile
        cases hfile
    | link hlink' hrest =>
        rw [hlink] at hlink'
        cases hlink'
        exact ⟨_, rfl, hrest⟩
  · rintro ⟨less, rfl, hrest⟩
    exact .link hlink hrest

/-!
## Walks as resolutions
-/

theorem resolves_of_walkWith {s : Store} {jump : Location → List Step → Except Cause Spot}
    {limit : Nat} {place : Location}
    (hjump : ∀ here steps, jump here steps = .ok (.found place) →
      ∃ links < limit, s.Resolves links here steps place)
    {here : Location} {steps : List Step}
    (hwalk : s.walkWith .followed jump here steps = .ok (.found place)) :
    ∃ links ≤ limit, s.Resolves links here steps place := by
  fun_induction walkWith s .followed jump here steps with
  | case1 here =>
      cases hwalk
      exact ⟨0, Nat.zero_le limit, .done _⟩
  | case2 here rest ih =>
      obtain ⟨links, hlimit, hrest⟩ := ih hwalk
      exact ⟨links, hlimit, .slash hrest⟩
  | case3 here rest ih =>
      obtain ⟨links, hlimit, hrest⟩ := ih hwalk
      exact ⟨links, hlimit, .stay hrest⟩
  | case4 here rest ih =>
      obtain ⟨links, hlimit, hrest⟩ := ih hwalk
      exact ⟨links, hlimit, .up hrest⟩
  | case5 here name rest hending => simp at hending
  | case6 => cases hwalk
  | case7 => cases hwalk
  | case8 here name rest _ hvalid hdir ih =>
      obtain ⟨links, hlimit, hrest⟩ := ih hwalk
      exact ⟨links, hlimit, .directory hdir hrest⟩
  | case9 here name hvalid contents executable hfile _ =>
      cases hwalk
      exact ⟨0, Nat.zero_le limit, .file hfile⟩
  | case10 => cases hwalk
  | case11 here name rest _ hvalid target hlink hkept => simp at hkept
  | case12 here name rest _ hvalid target hlink _ =>
      obtain ⟨links, hlimit, hrest⟩ := hjump _ _ hwalk
      exact ⟨links + 1, hlimit, .link hlink hrest⟩
  | case13 => cases hwalk

theorem resolves_of_walk {s : Store} {limit : Nat} {here place : Location} {steps : List Step}
    (hwalk : s.walk .followed limit here steps = .ok (.found place)) :
    ∃ links ≤ limit, s.Resolves links here steps place := by
  induction limit generalizing here steps with
  | zero =>
      refine resolves_of_walkWith ?_ hwalk
      intro _ _ hjump
      cases hjump
  | succ limit ih =>
      refine resolves_of_walkWith ?_ hwalk
      intro _ _ hjump
      obtain ⟨links, hlimit, hrest⟩ := ih hjump
      exact ⟨links, Nat.lt_succ_of_le hlimit, hrest⟩

namespace Resolves

variable {s : Store} {links : Nat} {here place : Location} {steps : List Step}

theorem walk (hresolves : s.Resolves links here steps place) {limit : Nat}
    (hlimit : links ≤ limit) : s.walk .followed limit here steps = .ok (.found place) := by
  induction hresolves generalizing limit with
  | done here =>
      obtain ⟨jump, hjump⟩ := walk_eq_walkWith s .followed limit
      rw [hjump]
      rfl
  | slash _ ih =>
      obtain ⟨jump, hjump⟩ := walk_eq_walkWith s .followed limit
      have hrest := ih hlimit
      rw [hjump] at hrest ⊢
      exact hrest
  | stay _ ih =>
      obtain ⟨jump, hjump⟩ := walk_eq_walkWith s .followed limit
      have hrest := ih hlimit
      rw [hjump] at hrest ⊢
      exact hrest
  | up _ ih =>
      obtain ⟨jump, hjump⟩ := walk_eq_walkWith s .followed limit
      have hrest := ih hlimit
      rw [hjump] at hrest ⊢
      exact hrest
  | directory hdir _ ih =>
      obtain ⟨jump, hjump⟩ := walk_eq_walkWith s .followed limit
      have hrest := ih hlimit
      rw [hjump] at hrest ⊢
      rw [walkWith, if_neg (by simp), if_pos (rooted_of_at? hdir).1, hdir]
      exact hrest
  | file hfile =>
      obtain ⟨jump, hjump⟩ := walk_eq_walkWith s .followed limit
      rw [hjump, walkWith, if_neg (by simp), if_pos (rooted_of_at? hfile).1, hfile]
      rfl
  | link hlink _ ih =>
      obtain ⟨less, rfl⟩ := Nat.exists_eq_add_of_lt hlimit
      have hrest := ih (Nat.le_add_right _ less)
      rw [Store.walk, walkWith, if_neg (by simp), if_pos (rooted_of_at? hlink).1, hlink]
      dsimp only
      rw [if_neg (by simp)]
      exact hrest

theorem unique (hresolves : s.Resolves links here steps place) {links' : Nat} {place' : Location}
    (hresolves' : s.Resolves links' here steps place') : links' = links ∧ place' = place := by
  induction hresolves generalizing links' place' with
  | done here =>
      cases hresolves'
      exact ⟨rfl, rfl⟩
  | slash _ ih =>
      cases hresolves' with
      | slash hrest' => exact ih hrest'
  | stay _ ih =>
      cases hresolves' with
      | stay hrest' => exact ih hrest'
  | up _ ih =>
      cases hresolves' with
      | up hrest' => exact ih hrest'
  | directory hdir _ ih => exact ih ((resolves_directory_iff hdir).mp hresolves')
  | file hfile =>
      obtain ⟨hlinks, -, hplace⟩ := (resolves_file_iff hfile).mp hresolves'
      exact ⟨hlinks, hplace⟩
  | link hlink _ ih =>
      obtain ⟨less, rfl, hrest'⟩ := (resolves_link_iff hlink).mp hresolves'
      obtain ⟨rfl, hplace⟩ := ih hrest'
      exact ⟨rfl, hplace⟩

/-!
## One walk after the other
-/

theorem append {o : Location} (hresolves : s.Resolves links here steps o)
    (ho : s.at? o = some .directory) {more : Nat} {rest : List Step}
    (hrest : s.Resolves more o rest place) :
    s.Resolves (links + more) here (steps ++ rest) place := by
  induction hresolves with
  | done here =>
      rw [Nat.zero_add]
      exact hrest
  | slash _ ih => exact .slash (ih ho hrest)
  | stay _ ih => exact .stay (ih ho hrest)
  | up _ ih => exact .up (ih ho hrest)
  | directory hdir _ ih => exact .directory hdir (ih ho hrest)
  | file hfile =>
      rw [ho] at hfile
      cases hfile
  | link hlink _ ih =>
      have hall := ih ho hrest
      rw [List.append_assoc] at hall
      rw [Nat.succ_add]
      exact .link hlink hall

theorem of_append {o : Location} (hresolves : s.Resolves links here steps o)
    (ho : s.at? o = some .directory) {total : Nat} {rest : List Step}
    (hall : s.Resolves total here (steps ++ rest) place) :
    ∃ more, total = links + more ∧ s.Resolves more o rest place := by
  induction hresolves generalizing total with
  | done here => exact ⟨total, (Nat.zero_add total).symm, hall⟩
  | slash _ ih =>
      cases hall with
      | slash hrest => exact ih ho hrest
  | stay _ ih =>
      cases hall with
      | stay hrest => exact ih ho hrest
  | up _ ih =>
      cases hall with
      | up hrest => exact ih ho hrest
  | directory hdir _ ih => exact ih ho ((resolves_directory_iff hdir).mp hall)
  | file hfile =>
      rw [ho] at hfile
      cases hfile
  | link hlink _ ih =>
      rw [List.cons_append] at hall
      obtain ⟨less, rfl, hless⟩ := (resolves_link_iff hlink).mp hall
      rw [← List.append_assoc] at hless
      obtain ⟨more, rfl, hmore⟩ := ih ho hless
      exact ⟨more, (Nat.succ_add _ more).symm, hmore⟩

theorem of_concat_slash {all : List Step} (hresolves : s.Resolves links here all place)
    (hall : all = steps ++ [.slash]) : s.Resolves links here steps place := by
  induction hresolves generalizing steps with
  | done here => exact absurd hall.symm (List.append_ne_nil_of_right_ne_nil _ (by simp))
  | slash hrest ih =>
      rcases List.cons_eq_append_iff.mp hall with ⟨rfl, hlast⟩ | ⟨others, rfl, hothers⟩
      · cases hlast
        exact hrest
      · exact .slash (ih hothers)
  | stay _ ih =>
      rcases List.cons_eq_append_iff.mp hall with ⟨rfl, hlast⟩ | ⟨others, rfl, hothers⟩
      · cases hlast
      · exact .stay (ih hothers)
  | up _ ih =>
      rcases List.cons_eq_append_iff.mp hall with ⟨rfl, hlast⟩ | ⟨others, rfl, hothers⟩
      · cases hlast
      · exact .up (ih hothers)
  | directory hdir _ ih =>
      rcases List.cons_eq_append_iff.mp hall with ⟨rfl, hlast⟩ | ⟨others, rfl, hothers⟩
      · cases hlast
      · exact .directory hdir (ih hothers)
  | file hfile =>
      rcases List.cons_eq_append_iff.mp hall with ⟨rfl, hlast⟩ | ⟨others, rfl, hothers⟩
      · cases hlast
      · exact absurd hothers.symm (List.append_ne_nil_of_right_ne_nil _ (by simp))
  | link hlink _ ih =>
      rcases List.cons_eq_append_iff.mp hall with ⟨rfl, hlast⟩ | ⟨others, rfl, rfl⟩
      · cases hlast
      · exact .link hlink (ih (List.append_assoc _ _ _).symm)

end Resolves

/-!
## Paths
-/

/-- A path leads to a place: it can be looked at, and its steps resolve there by no more links
than one walk follows. -/
def Reaches (s : Store) (p : Path) (place : Location) : Prop :=
  Walkable p ∧ ∃ links ≤ maxLinks, s.Resolves links (s.origin p) p.steps place

theorem locate_iff_reaches {s : Store} {p : Path} {place : Location} :
    s.locate .followed p = .ok (.found place) ↔ s.Reaches p place := by
  constructor
  · intro hlocate
    exact ⟨walkable_of_locate hlocate, resolves_of_walk (walk_of_locate hlocate)⟩
  · rintro ⟨hp, links, hlimit, hresolves⟩
    rw [locate_of_walkable hp]
    exact hresolves.walk hlimit

theorem isDirectory_iff_reaches {s : Store} {p : Path} :
    s.isDirectory p = true ↔ ∃ place, s.Reaches p place ∧ s.at? place = some .directory := by
  rw [isDirectory_iff]
  exact exists_congr fun place => and_congr_left fun _ => locate_iff_reaches

theorem read_iff_reaches {s : Store} {p : Path} {contents : Bytes} :
    s.read p = .ok contents ↔
      ∃ place executable, s.Reaches p place ∧ s.at? place = some (.file contents executable) := by
  constructor
  · intro hread
    obtain ⟨place, executable, hlocate, hfile⟩ := locate_of_read hread
    exact ⟨place, executable, locate_iff_reaches.mp hlocate, hfile⟩
  · rintro ⟨place, executable, hreaches, hfile⟩
    exact read_of_locate (locate_iff_reaches.mpr hreaches) hfile

theorem resolves_child_iff {s : Store} {dir : Path} {name : Name} {o place : Location}
    {links total : Nat} (hdir : s.Resolves links (s.origin dir) dir.steps o)
    (ho : s.at? o = some .directory) (hname : name.Plain) :
    s.Resolves total (s.origin (dir.child name)) (dir.child name).steps place ↔
      ∃ more, total = links + more ∧ s.Resolves more o [.name name] place := by
  obtain ⟨front, hsteps, hfront⟩ := steps_child dir hname
  have hresolves : s.Resolves links (s.origin dir) front o := by
    rcases hfront with hsame | hslash
    · rwa [hsame] at hdir
    · exact hdir.of_concat_slash hslash
  rw [origin_child s hname, hsteps]
  constructor
  · exact hresolves.of_append ho
  · rintro ⟨more, rfl, hmore⟩
    exact hresolves.append ho hmore

theorem reaches_child_iff {s : Store} {dir : Path} {name : Name} {o place : Location} {links : Nat}
    (hzero : 0 ∉ dir.bytes) (hdir : s.Resolves links (s.origin dir) dir.steps o)
    (ho : s.at? o = some .directory) (hname : name.Valid) :
    s.Reaches (dir.child name) place ↔
      (dir.child name).bytes.length ≤ Path.maxLength ∧
        ∃ more, links + more ≤ maxLinks ∧ s.Resolves more o [.name name] place := by
  unfold Reaches
  rw [walkable_child_iff hzero hname]
  refine and_congr_right fun _ => ?_
  simp only [resolves_child_iff hdir ho hname.plain]
  constructor
  · rintro ⟨total, hlimit, more, rfl, hmore⟩
    exact ⟨more, hlimit, hmore⟩
  · rintro ⟨more, hlimit, hmore⟩
    exact ⟨links + more, hlimit, more, rfl, hmore⟩

end Store

end Imprint
