import Imprint.Proofs.Processing

/-!
# Names of written models

A model is written under the file name of its binary as it is shown.  A name that
is text is shown as it is, and models of binaries whose names are text and differ
keep apart.  In any other name the ill-formed pieces are shown by a replacement
character, so names that differ there alone are written to one file.
-/

namespace Imprint

namespace Path

def HasTextName (p : Path) : Prop :=
  ∀ name, p.fileName? = some name → (Utf8.decode? name).isSome = true

def shownName? (p : Path) : Option Bytes :=
  p.fileName?.map Utf8.shown

theorem ne_nil_of_fileName? {p : Path} {name : Bytes} (hname : p.fileName? = some name) :
    name ≠ [] := by
  rw [fileName?_eq, Option.filter_eq_some_iff] at hname
  have hcounted := List.mem_of_getLast? hname.1
  exact ne_nil_of_counts (List.mem_filter.mp hcounted).2

theorem ne_nil_of_shownName? {p : Path} {name : Bytes} (hname : p.shownName? = some name) :
    name ≠ [] := by
  obtain ⟨whole, hwhole, rfl⟩ := Option.map_eq_some_iff.mp hname
  rw [Ne, Utf8.shown_eq_iff (by decide)]
  exact ne_nil_of_fileName? hwhole

theorem shownName?_eq_iff {p : Path} : p.shownName? = p.fileName? ↔ p.HasTextName := by
  unfold shownName? HasTextName
  cases p.fileName? with
  | none =>
      simp
  | some name =>
      simp [Utf8.shown_eq_self_iff]

instance (p : Path) : Decidable p.HasTextName :=
  decidable_of_iff (p.shownName? = p.fileName?) shownName?_eq_iff

end Path

/-!
## Paths of models
-/

theorem savedPath_eq (out binary : Path) :
    savedPath out binary =
      out.child (binary.shownName?.getD [] ++ Utf8.encode ('.' :: modelExtension)) := by
  rw [savedPath, outputPath, Path.fileName?_ofText_display]
  rfl

theorem child_name_inj {out : Path} {name other : Option Bytes} (hname : name ≠ some [])
    (hother : other ≠ some []) :
    out.child (name.getD [] ++ Utf8.encode ('.' :: modelExtension)) =
        out.child (other.getD [] ++ Utf8.encode ('.' :: modelExtension)) ↔ name = other := by
  constructor
  · intro heq
    have hsame := List.append_cancel_right (Path.child_injective heq)
    cases name with
    | none =>
        cases other with
        | none => rfl
        | some bytes => exact absurd (congrArg some hsame.symm) hother
    | some bytes =>
        cases other with
        | none => exact absurd (congrArg some hsame) hname
        | some bytes' => exact congrArg some hsame
  · rintro rfl
    rfl

theorem savedPath_inj {out binary other : Path} :
    savedPath out binary = savedPath out other ↔ binary.shownName? = other.shownName? := by
  rw [savedPath_eq, savedPath_eq]
  exact child_name_inj (fun h => Path.ne_nil_of_shownName? h rfl)
    (fun h => Path.ne_nil_of_shownName? h rfl)

theorem savedPath_eq_outputPath_iff {out binary : Path} :
    savedPath out binary = outputPath out binary ↔ binary.HasTextName := by
  rw [savedPath_eq, outputPath, ← Path.shownName?_eq_iff]
  exact child_name_inj (fun h => Path.ne_nil_of_shownName? h rfl)
    (fun h => Path.ne_nil_of_fileName? h rfl)

/-!
## The directory of models
-/

namespace Path

/-- The path that the last component of a path stands in, unless it is the root or there is none. -/
def parent? (p : Path) : Option Path :=
  match p.components.getLast? with
  | none => none
  | some .root => none
  | some _ => some (ofComponents p.components.dropLast)

theorem parent?_child (dir : Path) {name : Name} (hname : name.Plain) :
    ∃ parent, (dir.child name).parent? = some parent ∧ parent.components = dir.components := by
  refine ⟨ofComponents dir.components, ?_, components_ofComponents dir⟩
  rw [parent?, components_child dir hname.1 hname.componentOf?, List.getLast?_concat,
    List.dropLast_concat]

theorem components_child_inj {dir : Path} {name other : Name} (hname : name.Plain)
    (hother : other.Plain) :
    (dir.child name).components = (dir.child other).components ↔ name = other := by
  rw [components_child dir hname.1 hname.componentOf?,
    components_child dir hother.1 hother.componentOf?, List.append_cancel_left_eq]
  simp

end Path

theorem modelName_inj {binary other : Path} :
    modelName binary = modelName other ↔ binary.fileName? = other.fileName? := by
  have hinj : Path.child ⟨[]⟩ (modelName binary) = Path.child ⟨[]⟩ (modelName other) ↔
      binary.fileName? = other.fileName? :=
    child_name_inj (fun h => Path.ne_nil_of_fileName? h rfl)
      (fun h => Path.ne_nil_of_fileName? h rfl)
  rw [← hinj]
  exact ⟨congrArg _, Path.child_injective⟩

/-- Whatever a binary's path is, the path of its model is that of the directory and one more
component, a name that ends in the ending and is no step to anywhere.  So it stands in the
directory, by whose path it begins.  Two binaries have the same path, byte for byte or component by
component, exactly when they have the same file name or none. -/
theorem outputPath_placed (dir binary : Path) :
    (∃ name : Name, outputPath dir binary = dir.child name ∧
        (outputPath dir binary).components = dir.components ++ [.name name] ∧
        Utf8.encode ".ucl".toList <:+ name ∧ name ≠ [Path.dot] ∧ name ≠ [Path.dot, Path.dot] ∧
          Path.slash ∉ name) ∧
      (∃ parent, (outputPath dir binary).parent? = some parent ∧
        parent.components = dir.components) ∧
      dir.bytes <+: (outputPath dir binary).bytes ∧
      (outputPath dir binary).isAbsolute = dir.isAbsolute ∧
      ∀ other, (outputPath dir binary = outputPath dir other ↔
          binary.fileName? = other.fileName?) ∧
        ((outputPath dir binary).components = (outputPath dir other).components ↔
          binary.fileName? = other.fileName?) := by
  have hplain := plain_modelName binary
  have hcomponent := hplain.componentOf?
  rw [outputPath_eq]
  refine ⟨⟨modelName binary, rfl, ?_, ?_, ?_, ?_, hplain.1⟩, ?_, ?_, ?_, ?_⟩
  · exact Path.components_child dir hplain.1 hcomponent
  · exact List.suffix_append _ _
  · intro hdot
    rw [hdot] at hcomponent
    cases hcomponent
  · intro hdots
    rw [hdots] at hcomponent
    cases hcomponent
  · exact Path.parent?_child dir hplain
  · exact Path.prefix_child dir _
  · exact Path.isAbsolute_child hplain.1
  · intro other
    rw [outputPath_eq, Path.components_child_inj hplain (plain_modelName other), modelName_inj]
    refine ⟨?_, Iff.rfl⟩
    rw [← modelName_inj]
    exact ⟨Path.child_injective, congrArg _⟩

/-!
## Models side by side
-/

theorem eq_of_pieces_child {dir : Path} {name last : Bytes} (hname : Path.slash ∉ name)
    {front : List Bytes} (hpieces : (dir.child name).pieces = front ++ [last]) : last = name := by
  have hlast : (dir.child name).pieces.getLast? = some name := by
    rcases dir.pieces_child hname with ⟨-, hchild⟩ | ⟨before, -, hchild⟩ | hchild <;>
      rw [hchild] <;> simp
  rw [hpieces, List.getLast?_concat] at hlast
  exact Option.some.inj hlast

/-- Without links, processing a binary leaves the model of another one alone, if they are written
under different names. -/
theorem read_of_process {d : Disassembler} (hreadOnly : d.ReadOnly) {out binary other path : Path}
    {p : Progress} {contents : Bytes} (hok : (process d out binary p).1 = .ok path)
    (hne : other.shownName? ≠ binary.shownName?) (hfree : p.store.LinkFree)
    (hread : p.store.read (savedPath out other) = .ok contents) :
    (process d out binary p).2.store.read (savedPath out other) = .ok contents := by
  obtain ⟨-, m, hgenerate, hsave⟩ := save_of_process hok
  rw [store_generate_of_readOnly hreadOnly] at hsave
  refine read_of_save_of_ne hfree hsave hread fun front name hpieces heq => hne ?_
  have hname := eq_of_pieces_child (plain_modelName (Path.ofText other.display)).1 hpieces
  rw [source_of_generate hgenerate] at heq
  have hsaved : savedPath out other = savedPath out binary :=
    congrArg out.child (hname.symm.trans heq)
  exact savedPath_inj.mp hsaved

theorem linkFree_of_process {d : Disassembler} (hreadOnly : d.ReadOnly) {out binary path : Path}
    {p : Progress} (hok : (process d out binary p).1 = .ok path) (hfree : p.store.LinkFree) :
    (process d out binary p).2.store.LinkFree := by
  obtain ⟨-, m, -, hsave⟩ := save_of_process hok
  rw [store_generate_of_readOnly hreadOnly] at hsave
  obtain ⟨-, made, location, hmake, hwrote⟩ := wrote_of_save hsave
  have hadds := p.store.makeDirectories_adds out
  rw [hmake] at hadds
  exact hwrote.linkFree (hadds.linkFree hfree)

/-- A binary that is processed has its model written under its file name as it is shown, which is
the name byte for byte exactly when it is text.  Another binary has its model written to the same
path exactly when its name is shown alike.  Two names that are text and differ give two paths, and
without links processing the other binary leaves the model as it is. -/
theorem process_named {d : Disassembler} {out binary path : Path} {p : Progress}
    (hok : (process d out binary p).1 = .ok path) :
    path = out.child (binary.shownName?.getD [] ++ Utf8.encode ('.' :: modelExtension)) ∧
      (∃ m, (generate d binary p).1 = .ok m ∧
        (process d out binary p).2.store.read path = .ok (Utf8.encode m.render)) ∧
      (path = outputPath out binary ↔ binary.HasTextName) ∧
      ∀ d' other path' q, (process d' out other q).1 = .ok path' →
        (path' = path ↔ other.shownName? = binary.shownName?) ∧
          (binary.HasTextName → other.HasTextName → other.fileName? ≠ binary.fileName? →
            path' ≠ path ∧ (d'.ReadOnly → q.store.LinkFree → ∀ contents,
              q.store.read path = .ok contents →
                (process d' out other q).2.store.read path = .ok contents)) := by
  have hpath := path_of_process hok
  obtain ⟨-, m, hgenerate, hsave⟩ := save_of_process hok
  obtain ⟨-, location, hsaved, -⟩ := saved_of_save hsave
  refine ⟨hpath.trans (savedPath_eq out binary), ⟨m, hgenerate, hsaved.read⟩, ?_, ?_⟩
  · rw [hpath]
    exact savedPath_eq_outputPath_iff
  · intro d' other path' q hok'
    have hpath' := path_of_process hok'
    have hsame : path' = path ↔ other.shownName? = binary.shownName? := by
      rw [hpath, hpath']
      exact savedPath_inj
    refine ⟨hsame, fun htext htext' hnames => ?_⟩
    have hshown : binary.shownName? ≠ other.shownName? := by
      rw [Path.shownName?_eq_iff.mpr htext, Path.shownName?_eq_iff.mpr htext']
      exact hnames.symm
    refine ⟨fun heq => hshown (hsame.mp heq).symm, fun hreadOnly hfree contents hread => ?_⟩
    rw [hpath] at hread ⊢
    exact read_of_process hreadOnly hok' hshown hfree hread

def imagesStore (first second : Name) : Store :=
  (Store.empty.put [first] (.file bareImage false)).put [second] (.file bareImage false)

theorem linkFree_imagesStore (first second : Name) : (imagesStore first second).LinkFree :=
  Store.linkFree_put (Store.linkFree_put Store.linkFree_empty (by simp)) (by simp)

/-- A disassembler that lists one instruction of a binary, and nothing of any other. -/
def listsOnly (binary : Path) : Disassembler :=
  .ofReplies fun call =>
    if call.binary = binary then
      .ok "Disassembly of section .text.init:\n00000000: 00000073 ecall\n".toList
    else
      .ok []

theorem readOnly_listsOnly (binary : Path) : (listsOnly binary).ReadOnly :=
  (Disassembler.steady_ofReplies _).readOnly

def processFirst (first second : Name) : Except Failure Path × Progress :=
  process (listsOnly ⟨first⟩) (.ofText "out".toList) ⟨first⟩ { store := imagesStore first second }

def processSecond (first second : Name) : Except Failure Path × Progress :=
  process (listsOnly ⟨first⟩) (.ofText "out".toList) ⟨second⟩ (processFirst first second).2

def accented : Name :=
  Utf8.encode "\u00E9".toList

def unaccented : Name :=
  Utf8.encode "e".toList

/-- The accent in a name is kept, and so is the model of the accented name. -/
theorem process_named_accent :
    (processFirst accented unaccented).1 = .ok (outputPath (.ofText "out".toList) ⟨accented⟩) ∧
      (processSecond accented unaccented).1 = .ok (.ofText "out/e.ucl".toList) ∧
      .ofText "out/e.ucl".toList ≠ outputPath (.ofText "out".toList) ⟨accented⟩ ∧
      ∃ m, (generate (listsOnly ⟨accented⟩) ⟨accented⟩
          { store := imagesStore accented unaccented }).1 = .ok m ∧
        (processSecond accented unaccented).2.store.read
          (outputPath (.ofText "out".toList) ⟨accented⟩) = .ok (Utf8.encode m.render) := by
  have hfirst : (processFirst accented unaccented).1 =
      .ok (outputPath (.ofText "out".toList) ⟨accented⟩) := by
    decide +kernel
  have hsecond : (processSecond accented unaccented).1 = .ok (.ofText "out/e.ucl".toList) := by
    decide +kernel
  have hnames : (Path.mk unaccented).fileName? ≠ (Path.mk accented).fileName? := by
    decide +kernel
  have htext : (Path.mk unaccented).HasTextName := by
    decide +kernel
  obtain ⟨-, ⟨m, hgenerate, hread⟩, hiff, hothers⟩ := process_named hfirst
  obtain ⟨-, hapart⟩ := hothers _ _ _ _ hsecond
  obtain ⟨hne, hkept⟩ := hapart (hiff.mp rfl) htext hnames
  have hfree := linkFree_of_process (readOnly_listsOnly _) hfirst
    (linkFree_imagesStore accented unaccented)
  exact ⟨hfirst, hsecond, hne, m, hgenerate, hkept (readOnly_listsOnly _) hfree _ hread⟩

/-- Two names that differ in a byte that is no text are written to one file: the path is not that
of the name, and the first model is lost. -/
theorem process_named_marks :
    (processFirst [0x61, 0xFF] [0x61, 0xFE]).1 = .ok (.ofText "out/a\uFFFD.ucl".toList) ∧
      (processSecond [0x61, 0xFF] [0x61, 0xFE]).1 = .ok (.ofText "out/a\uFFFD.ucl".toList) ∧
      Path.ofText "out/a\uFFFD.ucl".toList ≠ outputPath (.ofText "out".toList) ⟨[0x61, 0xFF]⟩ ∧
      ∃ m, (generate (listsOnly ⟨[0x61, 0xFF]⟩) ⟨[0x61, 0xFF]⟩
          { store := imagesStore [0x61, 0xFF] [0x61, 0xFE] }).1 = .ok m ∧
        (processSecond [0x61, 0xFF] [0x61, 0xFE]).2.store.read (.ofText "out/a\uFFFD.ucl".toList) ≠
          .ok (Utf8.encode m.render) := by
  refine ⟨by decide +kernel, by decide +kernel, by decide +kernel, _, rfl, ?_⟩
  decide +kernel

end Imprint
