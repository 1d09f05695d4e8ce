import Descriptors.Proofs.Catalog.Refusal
import Descriptors.Proofs.Layout
import Mathlib.Data.List.Infix

/-!
# What a catalog of files looks at

The check of a name is made before the suffix is put behind it, and the path is read from both together. As long as the suffix has
no slash, the path still ends in a part that is the name with its suffix, right below the directory of the kind
(`FileCatalog.placed_file`), and different names have different paths. A catalog answers from that one path: file systems that
answer alike for it (`FileSystem.AgreeAt`) have the same descriptor (`FileCatalog.read_congr`). To have the same file there is not
enough (`FileCatalog.text_confined_false`), as a file system may refuse a path at which another has no file. Nothing is kept between
two questions, so after any session the answers are those of a new catalog of the files as they are by then
(`FileCatalog.Session.answers_run_ask`).
-/

namespace Descriptors

namespace FileSystem

/-- Two file systems that answer alike for a path: with the same file, with none, or with the same refusal. -/
def AgreeAt (p : Path) (files files' : FileSystem) : Prop := files.file? p = files'.file? p

/-- Two file systems that have the same file at a path, or both have none. -/
def SameFileAt (p : Path) (files files' : FileSystem) : Prop :=
  ∀ f, files.file? p = .ok (some f) ↔ files'.file? p = .ok (some f)

variable {p : Path} {files files' : FileSystem}

/-- File systems that both take a path answer alike for it when they have the same file there, or both have none. -/
theorem Admits.agreeAt_iff (h : files.Admits p) (h' : files'.Admits p) : AgreeAt p files files' ↔ SameFileAt p files files' := by
  constructor
  · intro heq f
    rw [show files.file? p = files'.file? p from heq]
  · intro hsame
    have hanswer : ∀ {files : FileSystem}, files.Admits p → ∃ answer, files.file? p = .ok answer := by
      intro files hadmits
      cases hfile : files.file? p with
      | ok answer => exact ⟨answer, rfl⟩
      | error fault => exact absurd (file?_error_iff.1 hfile) hadmits.not_refuses
    obtain ⟨answer, hfile⟩ := hanswer h
    obtain ⟨answer', hfile'⟩ := hanswer h'
    unfold SameFileAt at hsame
    rw [hfile, hfile'] at hsame
    rw [AgreeAt, hfile, hfile']
    refine congrArg Except.ok (Option.ext fun f => ?_)
    simpa using hsame f

end FileSystem

namespace FileCatalog

variable {l : Layout} {codecs : Codecs} {k : Kind} {name name' : Text} {p : Path} {files files' : FileSystem}

/-! ## The path of a descriptor -/

/-- A path that lies right below a directory, under a part that is a name of its own there. -/
structure Placed (p directory : Path) (part : Text) : Prop where
  parent : p.parent = directory
  last : p.parts.getLast? = some part
  ne_nil : part ≠ []
  ne_here : part ≠ Path.here
  ne_up : part ≠ Path.up

/-- A plain name is no start of the two dots that lead up. -/
theorem not_prefix_up_of_isPlain (h : isPlain name = true) : ¬ name <+: Path.up := by
  have hinits : Path.up.inits = [[], Path.here, Path.up] := by decide
  rw [← List.mem_inits, hinits]
  simp only [isPlain, Bool.and_eq_true, bne_iff_ne] at h
  obtain ⟨⟨⟨⟨hempty, _⟩, _⟩, hhere⟩, hup⟩ := h
  simp_all

/-- Whatever stands behind a plain name, the whole is neither empty nor one dot or two. -/
theorem append_ne_of_isPlain (h : isPlain name = true) (suffix : Text) :
    name ++ suffix ≠ [] ∧ name ++ suffix ≠ Path.here ∧ name ++ suffix ≠ Path.up := by
  have hprefix : ¬ name ++ suffix <+: Path.up := fun hpre =>
    not_prefix_up_of_isPlain h ((List.prefix_append name suffix).trans hpre)
  refine ⟨?_, ?_, ?_⟩ <;> intro heq <;> rw [heq] at hprefix <;> exact hprefix (by decide)

/-- A plain name with a suffix that has no slash is a path of one part. -/
theorem ofText_append_suffix (hsuffix : CodePoint.slash ∉ l.suffix) (h : isPlain name = true) :
    Path.ofText (name ++ l.suffix) = ⟨.current, [name ++ l.suffix]⟩ := by
  obtain ⟨hne, hhere, _⟩ := append_ne_of_isPlain h l.suffix
  exact Path.ofText_of_part hne (by simp [slash_notMem_of_isPlain h, hsuffix]) hhere

/-- The path of a descriptor, where neither the name nor the suffix can lead elsewhere. -/
theorem file_of_isPlain (hsuffix : CodePoint.slash ∉ l.suffix) (h : isPlain name = true) :
    l.file k name = ⟨(l.directory k).start, (l.directory k).parts ++ [name ++ l.suffix]⟩ := by
  rw [Layout.file, ofText_append_suffix hsuffix h, Path.join]

/-- A descriptor lies right below the directory of its kind, under its name with the suffix. -/
theorem placed_file (hsuffix : CodePoint.slash ∉ l.suffix) (h : isPlain name = true) :
    Placed (l.file k name) (l.directory k) (name ++ l.suffix) := by
  obtain ⟨hne, hhere, hup⟩ := append_ne_of_isPlain h l.suffix
  rw [file_of_isPlain hsuffix h]
  exact ⟨by rw [Path.parent, List.dropLast_concat], List.getLast?_concat, hne, hhere, hup⟩

/-- No two plain names of a kind have the same path. -/
theorem file_injective (hsuffix : CodePoint.slash ∉ l.suffix) (h : isPlain name = true) (h' : isPlain name' = true)
    (heq : l.file k name = l.file k name') : name = name' := by
  have hlast := (placed_file (k := k) hsuffix h).last
  rw [heq, (placed_file hsuffix h').last] at hlast
  exact (List.append_cancel_right (Option.some.inj hlast)).symm

/-! ## One path -/

/-- What is read at a path, and what is logged of it, is settled by the answer for that path. -/
theorem read_congr (h : FileSystem.AgreeAt p files files') : read ⟨l, files, codecs⟩ p = read ⟨l, files', codecs⟩ p := by
  rw [read, read]
  dsimp only
  rw [show files.file? p = files'.file? p from h]
  rfl

/-- A descriptor with a plain name is read at its path. -/
theorem text_of_isPlain (h : isPlain name = true) (files : FileSystem) :
    (Catalog.files ⟨l, files, codecs⟩).text k name = read ⟨l, files, codecs⟩ (l.file k name) :=
  if_pos h

/-- The text of a descriptor is settled by the answer for its path. -/
theorem text_congr (h : FileSystem.AgreeAt (l.file k name) files files') :
    text ⟨l, files, codecs⟩ k name = text ⟨l, files', codecs⟩ k name := by
  rw [text, text, read_congr h]

/-! ## Sessions -/

/-- How files can change, by the parts of their paths below the root. -/
inductive Change where
  | write (parts : List Text) (f : File)
  | makeDirectory (parts : List Text)
  | remove (parts : List Text)

/-- The tree of files after a change. -/
def Change.tree (top : FileTree) : Change → FileTree
  | write parts f => FileTree.put (.file f) parts top
  | makeDirectory parts => top.makeDirectory parts
  | remove parts => top.remove parts

/-- The file system after a change. -/
def Change.apply (files : FileSystem) (change : Change) : FileSystem := { files with root := change.tree files.root }

/-- What can happen in a session: the files change, or the catalog is asked. -/
inductive Event where
  | change (c : Change)
  | ask (k : Kind) (name : Text)
  | askMain

/-- The change that an event is, if it is one. -/
def Event.change? : Event → Option Change
  | change c => some c
  | ask .. => none
  | askMain => none

/-- A catalog in use, with the answers that it has given, the first one first. -/
structure Session where
  catalog : FileCatalog
  answers : List (Logged CatalogFault (Option Text))

namespace Session

/-- What one event makes of a session. -/
def step (s : Session) : Event → Session
  | .change c => { s with catalog := { s.catalog with files := c.apply s.catalog.files } }
  | .ask k name => { s with answers := s.answers ++ [(Catalog.files s.catalog).text k name] }
  | .askMain => { s with answers := s.answers ++ [(Catalog.files s.catalog).mainText] }

/-- A session after some events. -/
def run (s : Session) (events : List Event) : Session := events.foldl step s

end Session

/-- The files after the changes among some events. -/
def filesAfter (events : List Event) (files : FileSystem) : FileSystem :=
  (events.filterMap Event.change?).foldl Change.apply files

variable {events : List Event} {s : Session}

/-- An event leaves the catalog as it is, unless it changes its files. -/
theorem Session.catalog_step (e : Event) :
    (s.step e).catalog = { s.catalog with files := filesAfter [e] s.catalog.files } := by
  cases e <;> rfl

/-- The changes of some events are made one event after the other. -/
theorem filesAfter_cons (e : Event) (events : List Event) (files : FileSystem) :
    filesAfter (e :: events) files = filesAfter events (filesAfter [e] files) := by
  cases e <;> rfl

/-- After a session the catalog is a new one of the files as they are by then. -/
theorem Session.catalog_run (events : List Event) :
    ∀ s : Session, (s.run events).catalog = { s.catalog with files := filesAfter events s.catalog.files } := by
  induction events with
  | nil => exact fun _ => rfl
  | cons e events ih =>
    intro s
    have hstep : s.run (e :: events) = (s.step e).run events := rfl
    rw [hstep, ih, catalog_step, filesAfter_cons e events]

/-- A question at the end of a session is answered as by a new catalog. -/
theorem Session.answers_run_ask (s : Session) (events : List Event) (k : Kind) (name : Text) :
    (s.run (events ++ [.ask k name])).answers =
      (s.run events).answers ++
        [(Catalog.files { s.catalog with files := filesAfter events s.catalog.files }).text k name] := by
  rw [← catalog_run, run, List.foldl_append]
  rfl

/-! ## The getters -/

/-- No name of a descriptor leads out of the directory of its kind, as long as the suffix has no slash. A name that is not plain is
answered with nothing, whatever the files are. For a plain name the answer is read at one path, right below the directory of
the kind and ending in the name with the suffix; it is another path for every other plain name. File systems that answer alike
for that path give the same descriptor, and the same holds for the main configuration with its path. A catalog that has been in
use answers like a new one of the files as they are by then. Where both take a path, they answer alike for it when they have the
same file there, or both have none. -/
theorem text_confined (l : Layout) (codecs : Codecs) (hsuffix : CodePoint.slash ∉ l.suffix) (k : Kind) :
    (∀ name files, isPlain name = false →
      (Catalog.files ⟨l, files, codecs⟩).text k name = ⟨.ok none, [.nameRejected name]⟩) ∧
    (∀ name, isPlain name = true →
      Placed (l.file k name) (l.directory k) (name ++ l.suffix) ∧
      (∀ files, (Catalog.files ⟨l, files, codecs⟩).text k name = read ⟨l, files, codecs⟩ (l.file k name)) ∧
      (∀ name', isPlain name' = true → l.file k name = l.file k name' → name = name') ∧
      ∀ files files', FileSystem.AgreeAt (l.file k name) files files' →
        (Catalog.files ⟨l, files, codecs⟩).text k name = (Catalog.files ⟨l, files', codecs⟩).text k name) ∧
    (∀ files files', FileSystem.AgreeAt l.mainPath files files' →
      (Catalog.files ⟨l, files, codecs⟩).mainText = (Catalog.files ⟨l, files', codecs⟩).mainText) ∧
    (∀ name events files answers, (Session.run ⟨⟨l, files, codecs⟩, answers⟩ (events ++ [.ask k name])).answers =
      (Session.run ⟨⟨l, files, codecs⟩, answers⟩ events).answers ++
        [(Catalog.files ⟨l, filesAfter events files, codecs⟩).text k name]) ∧
    ∀ p files files', FileSystem.Admits files p → FileSystem.Admits files' p →
      (FileSystem.AgreeAt p files files' ↔ FileSystem.SameFileAt p files files') := by
  refine ⟨fun name files hplain => ?_, fun name hplain => ⟨placed_file hsuffix hplain, fun files => ?_, ?_, ?_⟩, ?_, ?_, ?_⟩
  · change text ⟨l, files, codecs⟩ k name = _
    rw [text, if_neg (by simp [hplain])]
  · exact text_of_isPlain hplain files
  · exact fun name' hplain' heq => file_injective hsuffix hplain hplain' heq
  · exact fun files files' hagree => text_congr hagree
  · exact fun files files' hagree => read_congr hagree
  · exact fun name events files answers => Session.answers_run_ask ⟨⟨l, files, codecs⟩, answers⟩ events k name
  · exact fun p files files' hadmits hadmits' => hadmits.agreeAt_iff hadmits'

/-- A layout below the root whose suffix is a dot. -/
def dotted : Layout := { root := ⟨.root, []⟩, suffix := "." }

/-- Files below the root with a component and something else beside it. -/
def besides (other : FileTree) : FileSystem where
  root := .directory [(Text.ofString "components", .directory [(Text.ofString "a.", .file (.intact [0x7B, 0x7D]))]),
    (Text.ofString "b", other)]
  current := []

/-- With a dot for a suffix, the name of one dot would lead up and is not looked up; the component is found under its name whatever
lies beside it, also after that was removed. -/
theorem text_confined_dotted :
    CodePoint.slash ∉ dotted.suffix ∧
      (Catalog.files ⟨dotted, besides (.file (.intact [])), .listed⟩).text .component "." = ⟨.ok none, [.nameRejected "."]⟩ ∧
      Placed (dotted.file .component "a") (Path.ofText "/components") "a." ∧
      (Catalog.files ⟨dotted, besides (.file (.intact [])), .listed⟩).text .component "a" =
        (Catalog.files ⟨dotted, besides (.directory []), .listed⟩).text .component "a" ∧
      (Session.run ⟨⟨dotted, besides (.file (.intact [])), .listed⟩, []⟩ [.change (.remove ["b"]), .ask .component "a"]).answers =
        [Logged.ok (some (Text.ofString "\x7b\x7d"))] := by
  have hsuffix : CodePoint.slash ∉ dotted.suffix := by decide
  obtain ⟨hrejected, hplain, _, hsession, _⟩ := text_confined dotted .listed hsuffix .component
  obtain ⟨hplaced, _, _, hagree⟩ := hplain "a" (by decide)
  exact ⟨hsuffix, hrejected "." _ (by decide), hplaced, hagree _ _ rfl,
    hsession "a" [.change (.remove ["b"])] (besides (.file (.intact []))) []⟩

/-- Files with some entries right below the root. -/
def atRoot (entries : List (FileName × FileTree)) : FileSystem := ⟨.directory entries, []⟩

/-- A name whose file has a name that is too long. -/
def longName : Text := List.replicate 251 CodePoint.letterN

/-- It is not enough that two file systems have no file at the path of a component. One that has the directory of the components
refuses a name that is too long, and one without it answers that nothing is there. -/
theorem text_confined_false :
    ¬ ∀ (l : Layout) (codecs : Codecs) (k : Kind) (name : Text) (files files' : FileSystem), CodePoint.slash ∉ l.suffix →
      isPlain name = true → FileSystem.SameFileAt (l.file k name) files files' →
      (Catalog.files ⟨l, files, codecs⟩).text k name = (Catalog.files ⟨l, files', codecs⟩).text k name := by
  intro h
  have hwith : (atRoot [(Text.ofString "components", .directory [])]).file?
      ((Layout.standard ⟨.root, []⟩).file .component longName) = .error .nameTooLong := by decide +kernel
  have hwithout : (atRoot []).file? ((Layout.standard ⟨.root, []⟩).file .component longName) = .ok none := by decide +kernel
  have hplain : isPlain longName = true := by decide +kernel
  have hsame := h (Layout.standard ⟨.root, []⟩) .listed .component longName
    (atRoot [(Text.ofString "components", .directory [])]) (atRoot []) (by decide) hplain
    (fun f => by rw [hwith, hwithout]; simp)
  rw [text_of_isPlain hplain, text_of_isPlain hplain,
    read_refused (c := ⟨_, atRoot [(Text.ofString "components", .directory [])], _⟩) hwith,
    read_absent (c := ⟨_, atRoot [], _⟩) hwithout] at hsame
  cases hsame

end FileCatalog

end Descriptors
