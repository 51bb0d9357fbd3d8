import Imprint.Proofs.Batch.Calls
import Imprint.Proofs.Batch.Selection

/-!
# Discovered files

What is discovered is no directory, but it is a file only if its path leads
somewhere: it may be a link to nothing, one of links in a circle, or a path that is
too long.  Such a binary cannot be read.  Where the path of each candidate leads
somewhere, all binaries are files, for a store has no pipes, sockets or devices, and
a batch finds them so when their turns come.
-/

namespace Imprint

namespace Store

/-!
## Files
-/

def IsFile (s : Store) (p : Path) : Prop :=
  ∃ place contents executable, s.Reaches p place ∧ s.at? place = some (.file contents executable)

theorem Resolves.lands {s : Store} {links : Nat} {here place : Location} {steps : List Step}
    (hresolves : s.Resolves links here steps place) (hhere : s.at? here = some .directory) :
    s.at? place = some .directory ∨
      ∃ contents executable, s.at? place = some (.file contents executable) := by
  induction hresolves with
  | done here => exact Or.inl hhere
  | slash _ ih => exact ih hhere
  | stay _ ih => exact ih hhere
  | up _ ih => exact ih (at?_tail hhere)
  | directory hdir _ ih => exact ih hdir
  | file hfile => exact Or.inr ⟨_, _, hfile⟩
  | link hlink _ ih =>
      refine ih ?_
      split
      · exact at?_root _
      · exact hhere

theorem isFile_of_reaches {s : Store} {p : Path} {place : Location} (hplace : s.Reaches p place)
    (hnotDirectory : s.at? place ≠ some .directory) : s.IsFile p := by
  obtain ⟨links, -, hresolves⟩ := hplace.2
  rcases hresolves.lands (s.at?_origin p) with hdir | ⟨contents, executable, hfile⟩
  · exact absurd hdir hnotDirectory
  · exact ⟨place, contents, executable, hplace, hfile⟩

theorem isFile_iff_read {s : Store} {p : Path} :
    s.IsFile p ↔ ∃ contents, s.read p = .ok contents := by
  simp only [read_iff_reaches, IsFile]
  exact exists_comm

theorem IsFile.grows {s t : Store} {p : Path} (hp : s.IsFile p) (hgrows : s.Grows t) :
    t.IsFile p := by
  obtain ⟨place, contents, executable, hplace, hfile⟩ := hp
  obtain ⟨new, hnew⟩ := hgrows.file hfile
  have hlocate := locate_grows hgrows (locate_iff_reaches.mpr hplace) (occupied_of_file hnew)
  exact ⟨place, new, executable, locate_iff_reaches.mp hlocate, hnew⟩

end Store

def Disassembler.Preserving (d : Disassembler) : Prop :=
  ∀ (earlier : List Call) (store : Store) (call : Call),
    store.Grows (d.answer earlier store call).2

theorem Disassembler.ReadOnly.preserving {d : Disassembler} (hreadOnly : d.ReadOnly) :
    d.Preserving := by
  intro earlier store call
  rw [hreadOnly]
  exact .refl store

theorem inspect_io_iff {s : Store} {binary : Path} :
    (∃ cause, inspect s binary = .error (.io binary cause)) ↔ ¬ s.IsFile binary := by
  rw [Store.isFile_iff_read]
  unfold inspect
  cases hread : s.read binary with
  | error cause => simp
  | ok contents =>
      simp only [Except.ok.injEq, exists_eq', not_true_eq_false, iff_false, not_exists]
      intro cause himage
      unfold imageOf at himage
      split at himage
      · cases himage
      · split at himage
        · cases himage
        · cases himage

namespace Batch

/-!
## Files among what is discovered
-/

theorem isFile_of_discover {s : Store} {dir : Path} {stem : Text} {found : List Path}
    (hdiscover : discover s dir stem = .ok found) {binary : Path} (hbinary : binary ∈ found) :
    s.IsFile binary ∨ ¬ ∃ place, s.Reaches binary place := by
  obtain ⟨o, -, -, hlist⟩ := list_of_discover hdiscover
  obtain ⟨name, hname, rfl⟩ := (mem_of_discover hlist hdiscover).mp hbinary
  obtain ⟨-, -, hnotDirectory⟩ := mem_selected_iff_reaches.mp hname
  by_cases hplace : ∃ place, s.Reaches (dir.child name) place
  · obtain ⟨place, hplace⟩ := hplace
    exact Or.inl (Store.isFile_of_reaches hplace fun hdir => hnotDirectory ⟨place, hplace, hdir⟩)
  · exact Or.inr hplace

theorem files_iff_accessible {s : Store} {dir : Path} {stem : Text} {found : List Path}
    {o : Location} {links : Nat} (hzero : 0 ∉ dir.bytes)
    (hlinks : s.Resolves links (s.origin dir) dir.steps o) (ho : s.at? o = some .directory)
    (hlist : s.list dir = .ok (s.namesIn o)) (hdiscover : discover s dir stem = .ok found) :
    (∀ binary ∈ found, s.IsFile binary) ↔ Accessible s dir o links stem := by
  rw [accessible_iff hzero hlinks ho]
  constructor
  · intro hfiles name hname hmatches
    by_cases hdir : ∃ place, s.Reaches (dir.child name) place ∧ s.at? place = some .directory
    · obtain ⟨place, hplace, -⟩ := hdir
      exact ⟨place, hplace⟩
    · have hselected := mem_selected_iff_reaches.mpr
        ⟨Store.mem_namesIn_iff.mp hname, hmatches, hdir⟩
      obtain ⟨place, -, -, hplace, -⟩ :=
        hfiles _ ((mem_of_discover hlist hdiscover).mpr ⟨name, hselected, rfl⟩)
      exact ⟨place, hplace⟩
  · intro haccessible binary hbinary
    rcases isFile_of_discover hdiscover hbinary with hfile | hnowhere
    · exact hfile
    · obtain ⟨name, hname, rfl⟩ := (mem_of_discover hlist hdiscover).mp hbinary
      obtain ⟨hin, hcandidate, -⟩ := mem_selected.mp hname
      exact absurd (haccessible name hin (isCandidate_iff_matches.mp hcandidate)) hnowhere

/-!
## Files in their turns
-/

theorem passage_grows : Job.Passage fun p q => p.store.Grows q.store where
  report p _ := .refl p.store
  trans := Store.Grows.trans

section

variable {d : Disassembler} (hpreserving : d.Preserving)

include hpreserving

theorem follows_process_grows (out binary : Path) :
    (process d out binary).Follows fun p q => p.store.Grows q.store := by
  refine follows_process passage_grows (fun pass p => ?_) fun m p => ?_
  · exact hpreserving p.calls p.store ⟨pass, binary⟩
  · have hyields : p.store.Yields (m.save out p.store).2 := yields_of_save rfl
    exact hyields.grows

theorem grows_of_turns {out : Path} {p q : Progress} {turns : List Turn}
    (hturns : Turns d out p turns q) : ∀ t ∈ turns, p.store.Grows t.before.store := by
  induction hturns with
  | done _ => exact fun t ht => absurd ht List.not_mem_nil
  | next hsame _ ih =>
      intro turn hturn
      rcases List.mem_cons.mp hturn with rfl | hothers
      · rw [hsame.1]
        exact .refl _
      · rw [← hsame.1]
        exact (follows_process_grows hpreserving out _ _).trans (ih turn hothers)

end

theorem Attended.mem {d : Disassembler} {b : Batch} {binaries : List Path} {turns : List Turn}
    (hattended : Attended d b binaries turns) {t : Turn} (ht : t ∈ turns) :
    t.binary ∈ binaries := by
  unfold Attended at hattended
  split at hattended
  · rw [← hattended]
    exact List.mem_map_of_mem ht
  · rcases hattended with ⟨hall, -⟩ | ⟨front, last, rest, rfl, rfl, -, -⟩
    · rw [← hall]
      exact List.mem_map_of_mem ht
    · rcases List.mem_append.mp ht with hfront | hlast
      · exact List.mem_append_left _ (List.mem_map_of_mem hfront)
      · rw [List.mem_singleton.mp hlast]
        exact List.mem_append_right _ List.mem_cons_self

theorem turns_of_files {d : Disassembler} (hpreserving : d.Preserving) {b : Batch} {p : Progress}
    {found : List Path} (hbinaries : b.binaries p.store = .ok found)
    (hfiles : ∀ binary ∈ found, p.store.IsFile binary) :
    ∃ turns, Turns d b.outputDir p turns (run d b p).2 ∧ Attended d b found turns ∧
      ∀ t ∈ turns, t.before.store.IsFile t.binary := by
  obtain ⟨start, hstore, hcalls, hrun⟩ := run_of_binaries hbinaries
  obtain ⟨turns, hturns, hattended⟩ := turns_of_processAll d b found {} start
  have hfrom := hturns.congr_start ⟨hstore, hcalls⟩
  rw [hrun]
  refine ⟨turns, hfrom, hattended, fun t ht => ?_⟩
  exact (hfiles _ (hattended.mem ht)).grows (grows_of_turns hpreserving hfrom t ht)

/-- What is discovered leads to a file or nowhere, and what cannot be inspected for a failure of
input is what leads to no file.  All binaries are files just when the path of each candidate leads
somewhere; then no binary of a batch fails in its turn because it cannot be read. -/
theorem discover_regular {s : Store} {dir : Path} {stem : Text} {found : List Path}
    (hdiscover : discover s dir stem = .ok found) :
    ∃ o links, s.at? o = some .directory ∧ s.Resolves links (s.origin dir) dir.steps o ∧
      (∀ binary ∈ found, s.IsFile binary ∨ ¬ ∃ place, s.Reaches binary place) ∧
      (∀ binary, (∃ cause, inspect s binary = .error (.io binary cause)) ↔ ¬ s.IsFile binary) ∧
      ((∀ binary ∈ found, s.IsFile binary) ↔ Accessible s dir o links stem) ∧
      (Accessible s dir o links stem → ∀ (d : Disassembler) (b : Batch) (p : Progress),
        d.Preserving → b.files = [] → b.inputDir = dir → b.stem = stem → p.store = s →
          ∃ turns, Turns d b.outputDir p turns (run d b p).2 ∧ Attended d b found turns ∧
            ∀ t ∈ turns, ¬ ∃ cause,
              inspect t.before.store t.binary = .error (.io t.binary cause)) := by
  obtain ⟨o, hlocate, ho, hlist⟩ := list_of_discover hdiscover
  obtain ⟨⟨hzero, -, -⟩, links, -, hlinks⟩ := Store.locate_iff_reaches.mp hlocate
  have hfiles := files_iff_accessible hzero hlinks ho hlist hdiscover
  refine ⟨o, links, ho, hlinks, fun _ => isFile_of_discover hdiscover, fun _ => inspect_io_iff,
    hfiles, ?_⟩
  rintro haccessible d b p hpreserving hnone rfl rfl rfl
  have hbinaries := (binaries_eq_discover hnone p.store).trans hdiscover
  obtain ⟨turns, hturns, hattended, hregular⟩ :=
    turns_of_files hpreserving hbinaries (hfiles.mpr haccessible)
  exact ⟨turns, hturns, hattended, fun t ht hio => inspect_io_iff.mp hio (hregular t ht)⟩

/-- The file and the link to it in the varied directory are files, and stay so in their turns. -/
theorem discover_regular_varied :
    variedStore.IsFile (.ofText "in/p-link".toList) ∧
      variedStore.IsFile (.ofText "in/p-one".toList) ∧
      ∃ turns, Attended silent { pairBatch with stem := "p-".toList }
          [.ofText "in/p-link".toList, .ofText "in/p-one".toList] turns ∧
        ∀ t ∈ turns, ¬ ∃ cause, inspect t.before.store t.binary = .error (.io t.binary cause) := by
  obtain ⟨o, links, -, hlinks, -, -, hfiles, hruns⟩ := discover_regular discover_varied
  have haccessible : Accessible variedStore (.ofText "in".toList) o links "p-".toList := by
    obtain ⟨-, links', -, hlinks'⟩ := Store.locate_iff_reaches.mp locate_varied
    obtain ⟨-, rfl⟩ := hlinks'.unique hlinks
    exact accessible_varied hlinks
  have hall := hfiles.mpr haccessible
  obtain ⟨turns, -, hattended, hturns⟩ := hruns haccessible silent
    { pairBatch with stem := "p-".toList } { store := variedStore }
    steady_silent.readOnly.preserving rfl rfl rfl rfl
  exact ⟨hall _ List.mem_cons_self, hall _ (List.mem_cons_of_mem _ List.mem_cons_self), turns,
    hattended, hturns⟩

/-!
## A link to nothing
-/

/-- A directory with an image, and before it a link to nothing. -/
def strandedStore : Store :=
  let dir : Location := [Utf8.encode "in".toList]
  ((Store.empty.put dir .directory).put (Utf8.encode "rv32ui-p-a".toList :: dir)
    (.link (.ofText "missing".toList))).put (Utf8.encode "rv32ui-p-b".toList :: dir)
      (.file bareImage false)

def strandedBatch : Batch where
  inputDir := .ofText "in".toList
  outputDir := .ofText "out".toList

theorem discover_stranded :
    discover strandedStore strandedBatch.inputDir strandedBatch.stem =
      .ok [.ofText "in/rv32ui-p-a".toList, .ofText "in/rv32ui-p-b".toList] := by
  have hlocate : strandedStore.locate .followed strandedBatch.inputDir =
      .ok (.found [Utf8.encode "in".toList]) := by
    decide +kernel
  have hselected : selected strandedStore strandedBatch.inputDir strandedBatch.stem
      (strandedStore.namesIn [Utf8.encode "in".toList]) =
        [Utf8.encode "rv32ui-p-a".toList, Utf8.encode "rv32ui-p-b".toList] := by
    decide +kernel
  exact discover_of_sorted (Store.list_of_locate hlocate (by decide +kernel)) hselected
    (by decide +kernel)

/-- The link to nothing is discovered, and the batch ends at it before the image has its turn. -/
theorem discover_regular_stranded :
    (∃ found, discover strandedStore strandedBatch.inputDir strandedBatch.stem = .ok found ∧
        ∃ binary ∈ found, ¬ strandedStore.IsFile binary) ∧
      (run silent strandedBatch { store := strandedStore }).1 =
        .error (.io (.ofText "in/rv32ui-p-a".toList) .notFound) := by
  have hinspect : inspect strandedStore (.ofText "in/rv32ui-p-a".toList) =
      .error (.io (.ofText "in/rv32ui-p-a".toList) .notFound) := by
    decide +kernel
  refine ⟨⟨_, discover_stranded, _, List.mem_cons_self, inspect_io_iff.mp ⟨_, hinspect⟩⟩, ?_⟩
  have hbinaries := (binaries_eq_discover (b := strandedBatch) rfl strandedStore).trans
    discover_stranded
  rw [run_apply, hbinaries]
  decide +kernel

end Batch

end Imprint
