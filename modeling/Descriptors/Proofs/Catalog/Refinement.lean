import Descriptors.Proofs.Catalog.Load
import Descriptors.Proofs.Catalog.Refusal
import Descriptors.Proofs.Layout
import Descriptors.Proofs.LineEnds

/-!
# A directory of descriptors answers as their texts do

The texts of a catalog can be written to files below a root (`TextCatalog.written`). The catalog of these files then gives each
text with even line ends, nothing where there is no text, and the same rows and summaries, up to the place of a fault in a text
(`FileCatalog.answers_as_texts`). A file may go by several names where code points stand for bytes, so a name is only looked up
alike if it is no other spelling of a name that is there (`FileCatalog.answers_as_texts_false`); names without surrogates never
are.
-/

namespace Descriptors

/-! ## Catalogs as directories -/

namespace TextCatalog

/-- The files for the texts of a catalog, by their parts below the root, in the standard layout. -/
def placed (c : TextCatalog) : List (List Text × FileTree) :=
  let layout := Layout.standard ⟨.current, []⟩
  (c.artifacts.flatMap fun a => a.2.map fun e => ((layout.file a.1 e.1).parts, .file (.intact (Utf8.encode e.2)))) ++
    c.mainConfiguration.toList.map fun t => (layout.mainPath.parts, .file (.intact (Utf8.encode t)))

/-- The directory in which these files, and nothing else, have been written one after the other. -/
def written (c : TextCatalog) : FileTree := FileTree.putAll c.placed (.directory [])

/-- A catalog of texts that can be written to files: every kind comes once, the names of a kind are plain and name different
files, none of which has too long a name, and no text holds a surrogate. -/
structure Writable (c : TextCatalog) : Prop where
  kinds : (c.artifacts.map Prod.fst).Nodup
  names : ∀ a ∈ c.artifacts, (a.2.map fun e => FileName.ofText? e.1).Nodup
  plain : ∀ a ∈ c.artifacts, ∀ e ∈ a.2, FileCatalog.isPlain e.1 = true ∧ CodePoint.null ∉ e.1
  sized : ∀ a ∈ c.artifacts, ∀ e ∈ a.2, ∃ f, Layout.fileName? e.1 = some f ∧ f.length ≤ FileTree.greatestNameSize
  scalar : ∀ a ∈ c.artifacts, ∀ e ∈ a.2, ∀ x ∈ e.2, x.isScalar
  mainScalar : ∀ t, c.mainConfiguration = some t → ∀ x ∈ t, x.isScalar

/-- A name that can be asked for: its file has not too long a name, and it is no other spelling of a name that is there. -/
structure Askable (c : TextCatalog) (k : Kind) (name : Text) : Prop where
  sized : ∀ f, Layout.fileName? name = some f → f.length ≤ FileTree.greatestNameSize
  sole : ∀ a ∈ c.artifacts, a.1 = k → ∀ e ∈ a.2, FileName.ofText? e.1 = FileName.ofText? name → e.1 = name

variable {c : TextCatalog} {k : Kind} {name t : Text} {entries : Entries Text}

/-- A name without surrogates is no other spelling of one without surrogates. -/
theorem askable_of_isScalar (hsized : ∀ f, Layout.fileName? name = some f → f.length ≤ FileTree.greatestNameSize)
    (hname : ∀ x ∈ name, x.isScalar) (hnames : ∀ a ∈ c.artifacts, ∀ e ∈ a.2, ∀ x ∈ e.1, x.isScalar) : c.Askable k name where
  sized := hsized
  sole a ha _ e he := FileName.ofText?_injective (hnames a ha e he) hname

/-- A catalog has the texts that it was given. -/
theorem Writable.text?_eq_some_iff (hc : c.Writable) :
    c.text? k name = some t ↔ ∃ entries, (k, entries) ∈ c.artifacts ∧ (name, t) ∈ entries := by
  have hentries : ∀ {entries : Entries Text}, (k, entries) ∈ c.artifacts → (Entries.keys entries).Nodup := by
    intro entries ha
    refine List.Nodup.of_map FileName.ofText? ?_
    rw [Entries.keys, List.map_map]
    exact hc.names _ ha
  rw [text?, Option.bind_eq_some_iff]
  refine exists_congr fun entries => ?_
  rw [lookup_eq_some_iff_mem hc.kinds]
  exact and_congr_right fun ha => Entries.get?_eq_some_iff (hentries ha)

/-- A text is there under a plain name for which there is a file name, and has no surrogates. -/
theorem Writable.of_text? (hc : c.Writable) (h : c.text? k name = some t) :
    FileCatalog.isPlain name = true ∧ CodePoint.null ∉ name ∧ (∃ f, Layout.fileName? name = some f) ∧ ∀ x ∈ t, x.isScalar := by
  obtain ⟨entries, ha, he⟩ := hc.text?_eq_some_iff.1 h
  obtain ⟨f, hf, _⟩ := hc.sized _ ha _ he
  exact ⟨(hc.plain _ ha _ he).1, (hc.plain _ ha _ he).2, ⟨f, hf⟩, hc.scalar _ ha _ he⟩

/-- No text is there under another name. -/
theorem Writable.text?_eq_none (hc : c.Writable)
    (h : FileCatalog.isPlain name = true → CodePoint.null ∉ name → Layout.fileName? name = none) : c.text? k name = none := by
  cases htext : c.text? k name with
  | none => rfl
  | some t =>
    obtain ⟨hplain, hnull, ⟨f, hf⟩, _⟩ := hc.of_text? htext
    rw [h hplain hnull] at hf
    cases hf

/-- Names of a kind that name the same file are the same. -/
theorem Writable.name_eq (hc : c.Writable) {name' t' : Text} (h : c.text? k name = some t) (h' : c.text? k name' = some t')
    (hsame : FileName.ofText? name = FileName.ofText? name') : name = name' := by
  obtain ⟨entries, ha, he⟩ := hc.text?_eq_some_iff.1 h
  obtain ⟨entries', ha', he'⟩ := hc.text?_eq_some_iff.1 h'
  have hentries := (lookup_eq_some_iff_mem hc.kinds).2 ha
  rw [(lookup_eq_some_iff_mem hc.kinds).2 ha'] at hentries
  cases hentries
  exact congrArg Prod.fst (List.inj_on_of_nodup_map (hc.names _ ha) he he' hsame)

/-- A file of a catalog is that of a descriptor, in the directory of its kind, or of the main configuration. -/
theorem Writable.mem_placed (hc : c.Writable) {f : List Text × FileTree} (hf : f ∈ c.placed) :
    (∃ k name t, c.text? k name = some t ∧ f = (Layout.partsBelow k name, .file (.intact (Utf8.encode t)))) ∨
      ∃ t, c.mainConfiguration = some t ∧ f = ([Layout.standardMainFile], .file (.intact (Utf8.encode t))) := by
  rcases List.mem_append.1 hf with hf | hf
  · obtain ⟨⟨k, entries⟩, ha, hf⟩ := List.mem_flatMap.1 hf
    obtain ⟨⟨name, t⟩, he, rfl⟩ := List.mem_map.1 hf
    refine Or.inl ⟨k, name, t, hc.text?_eq_some_iff.2 ⟨entries, ha, he⟩, ?_⟩
    dsimp only
    rw [Layout.file_standard (FileCatalog.slash_notMem_of_isPlain (hc.plain _ ha _ he).1), List.nil_append]
  · obtain ⟨t, ht, rfl⟩ := List.mem_map.1 hf
    exact Or.inr ⟨t, Option.mem_toList.1 ht, by rw [Layout.mainPath_standard, List.nil_append]⟩

/-- Every text of a catalog has its file. -/
theorem Writable.placed_of_text? (hc : c.Writable) (h : c.text? k name = some t) :
    (Layout.partsBelow k name, .file (.intact (Utf8.encode t))) ∈ c.placed := by
  obtain ⟨entries, ha, he⟩ := hc.text?_eq_some_iff.1 h
  refine List.mem_append_left _ (List.mem_flatMap.2 ⟨(k, entries), ha, List.mem_map.2 ⟨(name, t), he, ?_⟩⟩)
  dsimp only
  rw [Layout.file_standard (FileCatalog.slash_notMem_of_isPlain (hc.plain _ ha _ he).1), List.nil_append]

/-- Where a text is, its file stands in the directory. -/
theorem Writable.at?_written (hc : c.Writable) {f : FileName} (h : c.text? k name = some t)
    (hf : Layout.fileName? name = some f) :
    FileTree.at? [Layout.kindDirectory k, f] c.written = some (.file (.intact (Utf8.encode t))) := by
  refine FileTree.at?_putAll (fun g hg names hnames => ?_) (Or.inl ⟨_, hc.placed_of_text? h, ?_⟩)
  · rcases hc.mem_placed hg with ⟨k', name', t', h', rfl⟩ | ⟨t', _, rfl⟩
    · rw [Layout.ofParts?_partsBelow] at hnames
      obtain ⟨f', hf', rfl⟩ := Option.map_eq_some_iff.1 hnames
      by_cases hsame : [Layout.kindDirectory k', f'] = [Layout.kindDirectory k, f]
      · obtain ⟨hdirectory, hfile⟩ := List.cons.inj hsame
        obtain rfl := Layout.kindDirectory_injective hdirectory
        obtain rfl := (List.cons.inj hfile).1
        obtain rfl := hc.name_eq h' h (FileName.ofText?_eq_of_append hf' hf)
        cases h.symm.trans h'
        exact Or.inr ⟨rfl, rfl⟩
      · exact Or.inl (FileTree.part_of_length_eq rfl hsame)
    · cases Layout.ofParts?_main.symm.trans hnames
      exact Or.inl (FileTree.part_cons (Layout.kindDirectory_ne_mainFile k).symm)
  · rw [Layout.ofParts?_partsBelow, hf]
    rfl

/-- Where no text is, the directory has no file, under any spelling of the name. -/
theorem Writable.at?_written_eq_none (hc : c.Writable) (hname : c.Askable k name) {f : FileName} (h : c.text? k name = none)
    (hf : Layout.fileName? name = some f) : FileTree.at? [Layout.kindDirectory k, f] c.written = none := by
  rw [written, FileTree.at?_putAll_of_part, FileTree.at?_empty (List.cons_ne_nil _ _)]
  intro g hg names hnames
  rcases hc.mem_placed hg with ⟨k', name', t', h', rfl⟩ | ⟨t', _, rfl⟩
  · rw [Layout.ofParts?_partsBelow] at hnames
    obtain ⟨f', hf', rfl⟩ := Option.map_eq_some_iff.1 hnames
    refine FileTree.part_of_length_eq rfl fun hsame => ?_
    obtain ⟨hdirectory, hfile⟩ := List.cons.inj hsame
    obtain rfl := Layout.kindDirectory_injective hdirectory
    obtain rfl := (List.cons.inj hfile).1
    obtain ⟨entries, ha, he⟩ := hc.text?_eq_some_iff.1 h'
    obtain rfl : name' = name := hname.sole _ ha rfl _ he (FileName.ofText?_eq_of_append hf' hf)
    rw [h] at h'
    cases h'
  · cases Layout.ofParts?_main.symm.trans hnames
    exact FileTree.part_cons (Layout.kindDirectory_ne_mainFile k).symm

/-- Where a main configuration is, its file stands in the directory, and else none does. -/
theorem Writable.at?_written_main (hc : c.Writable) :
    FileTree.at? [Layout.standardMainFile] c.written = c.mainConfiguration.map fun t => .file (.intact (Utf8.encode t)) := by
  cases hmain : c.mainConfiguration with
  | none =>
    rw [written, FileTree.at?_putAll_of_part, FileTree.at?_empty (List.cons_ne_nil _ _)]
    · rfl
    intro g hg names hnames
    rcases hc.mem_placed hg with ⟨k', name', t', h', rfl⟩ | ⟨t', ht', rfl⟩
    · rw [Layout.ofParts?_partsBelow] at hnames
      obtain ⟨f', hf', rfl⟩ := Option.map_eq_some_iff.1 hnames
      exact FileTree.part_cons (Layout.kindDirectory_ne_mainFile k')
    · rw [hmain] at ht'
      cases ht'
  | some t =>
    refine FileTree.at?_putAll (fun g hg names hnames => ?_)
      (Or.inl ⟨([Layout.standardMainFile], .file (.intact (Utf8.encode t))), ?_, Layout.ofParts?_main⟩)
    · rcases hc.mem_placed hg with ⟨k', name', t', h', rfl⟩ | ⟨t', ht', rfl⟩
      · rw [Layout.ofParts?_partsBelow] at hnames
        obtain ⟨f', hf', rfl⟩ := Option.map_eq_some_iff.1 hnames
        exact Or.inl (FileTree.part_cons (Layout.kindDirectory_ne_mainFile k'))
      · cases Layout.ofParts?_main.symm.trans hnames
        cases hmain.symm.trans ht'
        exact Or.inr ⟨rfl, rfl⟩
    · refine List.mem_append_right _ (List.mem_map.2 ⟨t, Option.mem_toList.2 hmain, ?_⟩)
      rw [Layout.mainPath_standard, List.nil_append]

/-- No directory that was written is closed. -/
theorem isOpen_written (c : TextCatalog) : c.written.IsOpen := by
  refine FileTree.IsOpen.putAll (fun f hf => ?_) FileTree.isOpen_empty
  rcases List.mem_append.1 hf with hf | hf
  · obtain ⟨a, _, hf⟩ := List.mem_flatMap.1 hf
    obtain ⟨e, _, rfl⟩ := List.mem_map.1 hf
    exact FileTree.isOpen_file _
  · obtain ⟨t, _, rfl⟩ := List.mem_map.1 hf
    exact FileTree.isOpen_file _

end TextCatalog

/-! ## What is read from the files -/

/-- The bytes that the longest path of a descriptor takes below its root: two slashes, the longest directory and the longest
name. -/
def Layout.greatestSizeBelow : Nat := 13 + FileTree.greatestNameSize

/-- A root that leads to a directory, with room for the paths of descriptors below it. -/
structure FileSystem.Holds (files : FileSystem) (root : Path) (place : FileTree) : Prop where
  leads : files.find root = .ok place
  noNull : root.holdsNull = false
  room : ∀ names, FileName.ofParts? root.parts = some names →
    FileTree.pathSize root.start names + Layout.greatestSizeBelow ≤ FileTree.greatestPathSize

namespace FileCatalog

variable {c : TextCatalog} {files : FileSystem} {codecs : Codecs} {root : Path} {k : Kind} {name t : Text}

/-- The catalog of the files below a root in the standard layout. -/
def below (root : Path) (files : FileSystem) (codecs : Codecs) : FileCatalog := ⟨Layout.standard root, files, codecs⟩

/-- A path below a root holds a NUL where one of the parts below does. -/
theorem holdsNull_below (hroot : root.holdsNull = false) (parts : List Text) :
    Path.holdsNull ⟨root.start, root.parts ++ parts⟩ = parts.any (·.contains CodePoint.null) := by
  rw [Path.holdsNull] at hroot ⊢
  rw [List.any_append, hroot, Bool.false_or]

/-- A file of a text in UTF-8 has that text, with even line ends. -/
theorem read_utf8 {path : Path} (hfile : files.file? path = .ok (some (.intact (Utf8.encode t)))) (ht : ∀ x ∈ t, x.isScalar) :
    (below root files codecs).read path = .ok (some t.normalizeLines) := by
  have henc : encodingFault? (Layout.standard root).encoding = none :=
    show encodingFault? (Text.ofString "utf-8") = none by decide
  rw [read_file (c := below root files codecs) hfile, readFile_intact (c := below root files codecs) henc codecs.utf8, decoded,
    Encoding.readText_utf8_encode ht]

/-- Below a root, a file of a text in UTF-8 is read with even line ends, and where no file stands nothing is read. -/
theorem read_below (codecs : Codecs) {place : FileTree} {parts : List Text} {names : List FileName} (hroot : files.Holds root place)
    (hopen : place.IsOpen) (hparts : FileName.ofParts? parts = some names)
    (hnull : parts.any (·.contains CodePoint.null) = false) (hplain : ∀ name ∈ names, FileTree.IsPlainName name)
    (hsize : FileTree.sizeBelow names ≤ Layout.greatestSizeBelow) :
    (∀ t, (∀ x ∈ t, x.isScalar) → FileTree.at? names place = some (.file (.intact (Utf8.encode t))) →
      ((below root files codecs).read ⟨root.start, root.parts ++ parts⟩).outcome = .ok (some t.normalizeLines)) ∧
    (FileTree.at? names place = none →
      ((below root files codecs).read ⟨root.start, root.parts ++ parts⟩).outcome = .ok none) := by
  have hfile := FileSystem.file?_below hroot.leads hopen hparts (fun names' hnames' => by
    have hroom := hroot.room names' hnames'
    have hbelow := FileTree.pathSize_append_le root.start names' names
    omega) hplain ((holdsNull_below hroot.noNull parts).trans hnull)
  constructor
  · intro t ht hat
    rw [read_utf8 (hfile.1 _ hat) ht]
    rfl
  · intro hat
    rw [read_absent (c := below root files codecs) (hfile.2 hat)]

/-- A descriptor of the directory has the text that was written for it, with even line ends, if there is one. -/
theorem text_written (hc : c.Writable) (hroot : files.Holds root c.written) (hname : c.Askable k name) :
    ((below root files codecs).text k name).outcome = .ok ((c.text? k name).map Text.normalizeLines) := by
  -- a name that is not plain, holds a NUL or has no bytes leads to no file, and no text can have been written under it
  rw [text]
  by_cases hplain : isPlain name = true
  swap
  · rw [if_neg hplain, hc.text?_eq_none fun h => absurd h hplain]
    rfl
  have hpath : (below root files codecs).layout.file k name = ⟨root.start, root.parts ++ Layout.partsBelow k name⟩ :=
    Layout.file_standard (slash_notMem_of_isPlain hplain)
  have hholds := Layout.any_null_partsBelow k name
  rw [if_pos hplain, hpath]
  by_cases hnull : CodePoint.null ∈ name
  · have hcontains : name.contains CodePoint.null = true := by simpa using hnull
    have hholds' := (holdsNull_below hroot.noNull (Layout.partsBelow k name)).trans (hholds.trans hcontains)
    rw [read_absent (c := below root files codecs) (FileSystem.file?_eq_none_iff.2 (Or.inl hholds')),
      hc.text?_eq_none fun _ h => absurd hnull h]
    rfl
  cases hf : Layout.fileName? name with
  | none =>
    have hparts : FileName.ofParts? (Layout.partsBelow k name) = none := by rw [Layout.ofParts?_partsBelow, hf, Option.map_none]
    have hfile := FileSystem.file?_below_of_nameless files root hparts
    rw [read_absent (c := below root files codecs) hfile, hc.text?_eq_none fun _ _ => hf]
    rfl
  | some f =>
    have hparts := Layout.ofParts?_partsBelow k name
    rw [hf, Option.map_some] at hparts
    have hsize := hname.sized f hf
    have hlength := Layout.length_kindDirectory_le k
    have hread := read_below codecs hroot c.isOpen_written hparts (hholds.trans (by simpa using hnull))
      (List.forall_mem_cons.2 ⟨(Layout.isFixedPart_kindDirectory k).plain,
        List.forall_mem_singleton.2 ⟨Layout.ne_upName_of_fileName? hf, hsize⟩⟩)
      (by simp only [FileTree.sizeBelow, Layout.greatestSizeBelow]; omega)
    cases htext : c.text? k name with
    | none => exact hread.2 (hc.at?_written_eq_none hname htext hf)
    | some t => exact hread.1 t (hc.of_text? htext).2.2.2 (hc.at?_written htext hf)

/-- The main configuration of the directory has the text that was written for it, with even line ends, if there is one. -/
theorem mainText_written (hc : c.Writable) (hroot : files.Holds root c.written) :
    ((below root files codecs).read (below root files codecs).layout.mainPath).outcome =
      .ok (c.mainConfiguration.map Text.normalizeLines) := by
  have hread := read_below codecs hroot c.isOpen_written Layout.ofParts?_main (by decide)
    (List.forall_mem_singleton.2 Layout.isFixedPart_mainFile.plain) (by decide)
  have hpath : (below root files codecs).layout.mainPath = ⟨root.start, root.parts ++ [Layout.standardMainFile]⟩ :=
    Layout.mainPath_standard
  have hmain := hc.at?_written_main
  rw [hpath]
  cases htext : c.mainConfiguration with
  | none => exact hread.2 (by rw [hmain, htext]; rfl)
  | some t => exact hread.1 t (hc.mainScalar t htext) (by rw [hmain, htext]; rfl)

end FileCatalog

/-! ## What is loaded -/

/-- The same failure of a descriptor, wherever in its text the cause is. A fault of a catalog is none of these. -/
def LoadFault.SameButPlace : LoadFault → LoadFault → Prop
  | descriptor fault, descriptor fault' => fault.SameButPlace fault'
  | _, _ => False

namespace Catalog

variable {α : Type}

/-- What is taken alike from a text with even line ends is loaded alike. -/
theorem loadFrom_normalizeLines (absent : α) {take : Text → Except DescriptorFault α}
    (h : ∀ t, Outcome.Alike DescriptorFault.SameButPlace (take t) (take t.normalizeLines)) (answer : Option Text) :
    Outcome.Alike LoadFault.SameButPlace (loadFrom absent take answer)
      (loadFrom absent take (answer.map Text.normalizeLines)) := by
  cases answer with
  | none => exact .ok absent
  | some t =>
    have htake := h t
    rw [Option.map_some, loadFrom, loadFrom]
    generalize take t = x at htake
    generalize take t.normalizeLines = y at htake
    cases htake with
    | ok a => exact .ok a
    | error h => exact .error h

end Catalog

namespace FileCatalog

/-- The texts of a catalog and the directory in which they have been written, below a root that leaves room for it, give the
same answers. Every getter of the directory gives the text that the catalog has, with even line ends, and nothing where the
catalog has none. The rows of a group, the rows of the main configuration and the summary of a component are the same from
both, or the same failure of the descriptor, wherever in its text that is. The names asked for are no other spellings of names
that are there. -/
theorem answers_as_texts (c : TextCatalog) (files : FileSystem) (codecs : Codecs) (root : Path) (hc : c.Writable)
    (hroot : files.Holds root c.written) :
    (∀ k name, c.Askable k name →
      (∃ answer, ((Catalog.texts c).text k name).outcome = .ok answer ∧
        ((Catalog.files (below root files codecs)).text k name).outcome = .ok (answer.map Text.normalizeLines)) ∧
      (∀ group form, Outcome.Alike LoadFault.SameButPlace ((Catalog.texts c).loadRows k name group form).outcome
        ((Catalog.files (below root files codecs)).loadRows k name group form).outcome)) ∧
    (∀ name, c.Askable .component name → Outcome.Alike LoadFault.SameButPlace ((Catalog.texts c).loadComponent name).outcome
      ((Catalog.files (below root files codecs)).loadComponent name).outcome) ∧
    (∃ answer, (Catalog.texts c).mainText.outcome = .ok answer ∧
      (Catalog.files (below root files codecs)).mainText.outcome = .ok (answer.map Text.normalizeLines)) ∧
    Outcome.Alike LoadFault.SameButPlace (Catalog.texts c).loadMainRows.outcome
      (Catalog.files (below root files codecs)).loadMainRows.outcome := by
  have htexts : ∀ k name, ((Catalog.texts c).text k name).outcome = .ok (c.text? k name) := fun _ _ => rfl
  have hfiles : ∀ k name, c.Askable k name →
      ((Catalog.files (below root files codecs)).text k name).outcome = .ok ((c.text? k name).map Text.normalizeLines) :=
    fun k name hname => text_written hc hroot hname
  have hmain : (Catalog.texts c).mainText.outcome = .ok c.mainConfiguration := rfl
  have hmainFile : (Catalog.files (below root files codecs)).mainText.outcome = .ok (c.mainConfiguration.map Text.normalizeLines) :=
    mainText_written hc hroot
  refine ⟨fun k name hname => ⟨⟨_, htexts k name, hfiles k name hname⟩, fun group form => ?_⟩, fun name hname => ?_,
    ⟨_, hmain, hmainFile⟩, ?_⟩
  · rw [Catalog.loadRows_outcome (htexts k name), Catalog.loadRows_outcome (hfiles k name hname)]
    exact Catalog.loadFrom_normalizeLines [] (Group.rows_normalizeLines group form) _
  · rw [Catalog.loadComponent_outcome (htexts .component name), Catalog.loadComponent_outcome (hfiles .component name hname)]
    exact Catalog.loadFrom_normalizeLines none (fun t => (Group.rows_normalizeLines _ _ t).map _) _
  · rw [Catalog.loadMainRows_outcome hmain, Catalog.loadMainRows_outcome hmainFile]
    exact Catalog.loadFrom_normalizeLines [] MainConfiguration.rows_normalizeLines _

/-- A catalog with a component whose name is no ASCII and whose text has line ends of all sorts, a model of the same name, and a
main configuration that is no JSON. -/
def accented : TextCatalog where
  artifacts := [(.component, [([0xE9], "\x7b\"component\":\r\n\x7b\"a\":\r1\x7d\x7d\n")]), (.model, [([0xE9], "[]")])]
  mainConfiguration := some "[\r\n"

/-- A file system in which the files of `accented` lie below `d` in the root. -/
def accentedFiles : FileSystem := ⟨.directory [(Text.ofString "d", accented.written)], []⟩

theorem accented_writable : accented.Writable where
  kinds := by decide
  names := by decide
  plain := by decide
  sized a ha e he := by
    simp only [accented, List.mem_cons, List.not_mem_nil, or_false] at ha
    rcases ha with rfl | rfl <;> obtain rfl := List.mem_singleton.1 he <;> exact ⟨_, rfl, by decide⟩
  scalar := by decide
  mainScalar := by decide

theorem accentedFiles_holds : accentedFiles.Holds (Path.ofText "/d") accented.written where
  leads := rfl
  noNull := by decide
  room names h := by
    cases h
    decide

/-- The directory of `accented` answers as its texts do for the name of its component. -/
theorem answers_as_texts_accented :
    accented.Writable ∧ accentedFiles.Holds (Path.ofText "/d") accented.written ∧ accented.Askable .component [0xE9] ∧
      ((Catalog.files (below (Path.ofText "/d") accentedFiles .listed)).text .component [0xE9]).outcome =
        .ok (some (Text.ofString "\x7b\"component\":\n\x7b\"a\":\n1\x7d\x7d\n")) ∧
      Outcome.Alike LoadFault.SameButPlace (Catalog.texts accented).loadMainRows.outcome
        (Catalog.files (below (Path.ofText "/d") accentedFiles .listed)).loadMainRows.outcome := by
  have hname : accented.Askable .component [0xE9] := by
    refine ⟨fun f h => ?_, by decide⟩
    cases h
    decide
  obtain ⟨hgetters, _, _, hmain⟩ :=
    answers_as_texts accented accentedFiles .listed (Path.ofText "/d") accented_writable accentedFiles_holds
  obtain ⟨⟨answer, hanswer, hfile⟩, _⟩ := hgetters .component [0xE9] hname
  cases hanswer
  exact ⟨accented_writable, accentedFiles_holds, hname, hfile, hmain⟩

/-- Not every name is looked up alike: the two code points that stand for the bytes of a name in UTF-8 are another spelling of
it, under which the directory has its file and the texts have none. -/
theorem answers_as_texts_false :
    ¬ ∀ (c : TextCatalog) (files : FileSystem) (codecs : Codecs) (root : Path), c.Writable → files.Holds root c.written →
      ∀ k name, (∀ f, Layout.fileName? name = some f → f.length ≤ FileTree.greatestNameSize) →
        (((Catalog.files (below root files codecs)).text k name).outcome = .ok none ↔
          ((Catalog.texts c).text k name).outcome = .ok none) := by
  intro h
  have hsized : ∀ f, Layout.fileName? [0xDCC3, 0xDCA9] = some f → f.length ≤ FileTree.greatestNameSize := by
    intro f hf
    cases hf
    decide
  have hsame :=
    h accented accentedFiles .listed (Path.ofText "/d") accented_writable accentedFiles_holds .component [0xDCC3, 0xDCA9] hsized
  have hfile := hsame.2 (by decide)
  revert hfile
  decide

end FileCatalog

end Descriptors
