import Descriptors.Proofs.Catalog.Load
import Descriptors.Proofs.Catalog.Refusal
import Descriptors.Proofs.Descriptor.GroupRows
import Descriptors.Proofs.Json.RoundTrip

/-!
# What a load logs

A catalog of files logs nothing where it has a text, and one event where it has none (`FileCatalog.read_ends`): a warning where a
file is there that cannot be read, else an event for debugging. A load logs one event more where there is no descriptor, one where
rows are taken, with their number, and none where the descriptor is at fault. So its log tells how a load has ended
(`FileCatalog.loadRows_log`), and no rows for want of a descriptor are told from no rows of an empty group.
-/

namespace Descriptors

/-! ## Lines -/

/-- The line of a group whose rows are taken. -/
theorem LogEvent.line_groupParsed (count : Nat) (group : Text) :
    (groupParsed count group).line =
      Text.ofString "DEBUG propcatalog.kernel.parser: Parsed " ++ Text.ofNat count ++ Text.ofString " rows from group '" ++
        group ++ Text.ofString "'" := by
  have hfront : Text.ofString "DEBUG propcatalog.kernel.parser: Parsed " =
      LogLevel.debug.name ++ CodePoint.space :: Text.ofString "propcatalog.kernel.parser" ++ Text.ofString ": " ++
        Text.ofString "Parsed " := by decide
  rw [hfront]
  simp [line, message, level, logger]

/-- The line of a descriptor that is not there. -/
theorem LogEvent.line_noDescriptor (k : Kind) (name : Text) :
    (noDescriptor k name).line =
      Text.ofString "DEBUG propcatalog.api: No " ++ k.name ++ Text.ofString " descriptor named '" ++ name ++
        Text.ofString "'" := by
  have hfront : Text.ofString "DEBUG propcatalog.api: No " =
      LogLevel.debug.name ++ CodePoint.space :: Text.ofString "propcatalog.api" ++ Text.ofString ": " ++
        Text.ofString "No " := by decide
  rw [hfront]
  simp [line, message, level, logger]

namespace FileCatalog

variable {c : FileCatalog} {k : Kind} {name group t : Text} {form : GroupForm} {path : Path} {e : LogEvent}

/-! ## Why there is no text -/

/-- How reading a file fails, where its encoding is given by a name that is looked up: it cannot be opened, or there is a codec of
this name and the file cannot be read, or its bytes are not allowed. -/
inductive FailsWith (c : FileCatalog) : File → ReadFault → Prop where
  | opening {fault : FileFault} : FailsWith c (.sealed fault) (.notOpened fault)
  | reading {fault : FileFault} {codec : Codec} : c.codecs.codec? c.layout.encoding = some codec →
      FailsWith c (.broken fault) (.notRead fault)
  | decoding {bytes : List Byte} {fault : DecodeFault} {codec : Codec} : c.codecs.codec? c.layout.encoding = some codec →
      codec.readText bytes = .error (.undecodable fault) → FailsWith c (.intact bytes) (.undecodable fault)

/-- A file is at a path, and reading it fails. -/
def Unreadable (c : FileCatalog) (path : Path) (fault : ReadFault) : Prop :=
  encodingFault? c.layout.encoding = none ∧ ∃ f, c.files.file? path = .ok (some f) ∧ c.FailsWith f fault

/-- What is logged where nothing is read at a path. -/
inductive TellsAt (c : FileCatalog) (path : Path) : LogEvent → Prop where
  | noFile : (∀ f, c.files.file? path ≠ .ok (some f)) → TellsAt c path (.noFile path)
  | unreadable {fault : ReadFault} : c.Unreadable path fault → TellsAt c path (.unreadable path fault)

/-- What is logged where a descriptor has no text. -/
inductive Tells (c : FileCatalog) (k : Kind) (name : Text) : LogEvent → Prop where
  | nameRejected : isPlain name = false → Tells c k name (.nameRejected name)
  | ofPath {e : LogEvent} : isPlain name = true → c.TellsAt (c.layout.file k name) e → Tells c k name e

/-- The name of a descriptor is looked up, a file lies at its path, and reading it fails. -/
def FailsToRead (c : FileCatalog) (k : Kind) (name : Text) : Prop :=
  isPlain name = true ∧ ∃ fault, c.Unreadable (c.layout.file k name) fault

/-- A descriptor without a text is a warning where a file cannot be read. -/
theorem Tells.level_eq (h : c.Tells k name e) :
    e.level = .warning ∧ c.FailsToRead k name ∨ e.level = .debug ∧ ¬ c.FailsToRead k name := by
  cases h with
  | nameRejected hplain => exact Or.inr ⟨rfl, fun hfails => by simp [hfails.1] at hplain⟩
  | ofPath hplain h =>
    cases h with
    | noFile hnone =>
      refine Or.inr ⟨rfl, ?_⟩
      rintro ⟨_, fault, _, f, hfile, _⟩
      exact hnone f hfile
    | unreadable hfault => exact Or.inl ⟨rfl, hplain, _, hfault⟩

/-! ## What one question logs -/

/-- How a question for a text can end: with the text and no event, with nothing and one event of some sort, or with a fault. -/
inductive Ends (tells : LogEvent → Prop) : Logged CatalogFault (Option Text) → Prop where
  | text (t : Text) : Ends tells ⟨.ok (some t), []⟩
  | nothing {e : LogEvent} : tells e → Ends tells ⟨.ok none, [e]⟩
  | fault (fault : CatalogFault) : Ends tells ⟨.error fault, []⟩

/-- Reading a file gives why it has no text exactly where it fails. -/
theorem readFile_fails_iff {f : File} {fault : ReadFault} : c.readFile f = .ok (.error fault) ↔
    encodingFault? c.layout.encoding = none ∧ c.FailsWith f fault := by
  cases henc : encodingFault? c.layout.encoding with
  | some fault' => simp [readFile_of_encodingFault henc]
  | none =>
    rw [eq_self, true_and]
    constructor
    · intro h
      cases f with
      | sealed fault' =>
        cases (readFile_sealed henc fault').symm.trans h
        exact .opening
      | intact bytes =>
        cases hcodec : c.codecs.codec? c.layout.encoding with
        | none => cases (readFile_unknown henc hcodec (by simp)).symm.trans h
        | some codec =>
          obtain ⟨_, hread, rfl⟩ := decoded_fails_iff.1 ((readFile_intact henc hcodec bytes).symm.trans h)
          exact .decoding hcodec hread
      | broken fault' =>
        cases hcodec : c.codecs.codec? c.layout.encoding with
        | none => cases (readFile_unknown henc hcodec (by simp)).symm.trans h
        | some codec =>
          cases (readFile_broken henc hcodec fault').symm.trans h
          exact .reading hcodec
    · intro h
      cases h with
      | opening => exact readFile_sealed henc _
      | reading hcodec => exact readFile_broken henc hcodec _
      | decoding hcodec hread =>
        rw [readFile_intact henc hcodec]
        exact decoded_fails_iff.2 ⟨_, hread, rfl⟩

/-- Reading at a path ends with a text, with the event that tells why there is none, or with a fault. -/
theorem read_ends (c : FileCatalog) (path : Path) : Ends (c.TellsAt path) (c.read path) := by
  cases hfile : c.files.file? path with
  | error fault =>
    rw [read_refused hfile]
    exact .fault _
  | ok answer =>
    cases answer with
    | none =>
      rw [read_absent hfile]
      exact .nothing (.noFile fun f hfile' => nomatch hfile.symm.trans hfile')
    | some f =>
      rw [read_file hfile]
      split
      · exact .text _
      · next hread =>
        obtain ⟨henc, hfails⟩ := readFile_fails_iff.1 hread
        exact .nothing (.unreadable ⟨henc, f, hfile, hfails⟩)
      · exact .fault _

/-- The question for a descriptor ends likewise. -/
theorem text_ends (c : FileCatalog) (k : Kind) (name : Text) : Ends (c.Tells k name) (c.text k name) := by
  unfold text
  cases hplain : isPlain name with
  | false => exact .nothing (.nameRejected hplain)
  | true =>
    have hread := c.read_ends (c.layout.file k name)
    rw [if_pos rfl]
    generalize c.read (c.layout.file k name) = x at hread ⊢
    cases hread with
    | text t => exact .text t
    | nothing htells => exact .nothing (.ofPath hplain htells)
    | fault fault => exact .fault fault

/-- A question logs nothing if the answer is a text, and exactly one event if it is nothing. -/
def LogsNothingButAbsence (x : Logged CatalogFault (Option Text)) : Prop :=
  (∀ t, x.outcome = .ok (some t) → x.log = []) ∧ (x.outcome = .ok none → ∃ e, x.log = [e])

theorem Ends.logsNothingButAbsence {tells : LogEvent → Prop} {x : Logged CatalogFault (Option Text)} (h : Ends tells x) :
    LogsNothingButAbsence x := by
  cases h with
  | text t => exact ⟨fun _ _ => rfl, nofun⟩
  | nothing _ => exact ⟨nofun, fun _ => ⟨_, rfl⟩⟩
  | fault fault => exact ⟨nofun, nofun⟩

/-! ## What a load logs -/

/-- The log of a load of rows tells how it has ended. -/
inductive Accounts (c : FileCatalog) (k : Kind) (name group : Text) (form : GroupForm) : Logged LoadFault (List Row) → Prop where
  /-- There is no text, so there are no rows: one event tells why, a warning exactly where a file is there and reading it fails,
  and one that there is no descriptor of this kind and name. -/
  | absent {e : LogEvent} : (c.text k name).outcome = .ok none → c.Tells k name e →
      (e.level = .warning ↔ c.FailsToRead k name) → (e.level = .debug ↔ ¬ c.FailsToRead k name) →
      Accounts c k name group form ⟨.ok [], [e, .noDescriptor k name]⟩
  /-- The rows are taken from the text, and their number is told. -/
  | parsed {t : Text} {rows : List Row} : (c.text k name).outcome = .ok (some t) → Group.rows group form t = .ok rows →
      Accounts c k name group form ⟨.ok rows, [.groupParsed rows.length group]⟩
  /-- The text gives no rows, and nothing is told. -/
  | failed {t : Text} {fault : DescriptorFault} : (c.text k name).outcome = .ok (some t) →
      Group.rows group form t = .error fault → Accounts c k name group form ⟨.error (.descriptor fault), []⟩

variable {log : List LogEvent} {load : Logged LoadFault (List Row)}

/-- The account of a load that finds no text. -/
theorem Accounts.of_none (h : Accounts c k name group form load) (hnone : (c.text k name).outcome = .ok none) :
    ∃ e, load = ⟨.ok [], [e, .noDescriptor k name]⟩ ∧ (e.level = .warning ↔ c.FailsToRead k name) ∧
      (e.level = .debug ↔ ¬ c.FailsToRead k name) := by
  cases h with
  | absent _ _ hwarning hdebug => exact ⟨_, rfl, hwarning, hdebug⟩
  | parsed hsome _ => cases hnone.symm.trans hsome
  | failed hsome _ => cases hnone.symm.trans hsome

/-- The account of a load that takes rows from a text. -/
theorem Accounts.of_rows {rows : List Row} (h : Accounts c k name group form load)
    (hsome : (c.text k name).outcome = .ok (some t)) (hrows : Group.rows group form t = .ok rows) :
    load = ⟨.ok rows, [.groupParsed rows.length group]⟩ := by
  cases h with
  | absent hnone => cases hsome.symm.trans hnone
  | parsed hsome' hrows' =>
    cases hsome.symm.trans hsome'
    cases hrows.symm.trans hrows'
    rfl
  | failed hsome' hfault =>
    cases hsome.symm.trans hsome'
    cases hrows.symm.trans hfault

/-- Where there is no text, the load adds its own event. -/
theorem loadRows_of_nothing (h : c.text k name = ⟨.ok none, log⟩) :
    (Catalog.files c).loadRows k name group form = ⟨.ok [], log ++ [.noDescriptor k name]⟩ := by
  rw [Catalog.loadRows, Catalog.text, h]
  rfl

/-- Where there is a text, the log of the load ends with that of its rows. -/
theorem loadRows_of_text (h : c.text k name = ⟨.ok (some t), log⟩) :
    (Catalog.files c).loadRows k name group form =
      match Group.rows group form t with
      | .ok rows => ⟨.ok rows, log ++ [.groupParsed rows.length group]⟩
      | .error fault => ⟨.error (.descriptor fault), log⟩ := by
  rw [Catalog.loadRows, Catalog.text, h]
  cases hrows : Group.rows group form t <;> simp [Logged.andThen, Logged.mapError, Group.load, hrows, Except.mapError, Logged.error]

/-- A fault of the catalog is one of the load. -/
theorem loadRows_of_fault {fault : CatalogFault} (h : c.text k name = ⟨.error fault, log⟩) :
    (Catalog.files c).loadRows k name group form = ⟨.error (.catalog fault), log⟩ := by
  rw [Catalog.loadRows, Catalog.text, h]
  rfl

/-- Where the catalog gives an answer, the load does not end in a fault of the catalog. -/
theorem outcome_ne_of_text {answer : Option Text} (h : (c.text k name).outcome = .ok answer) (fault : CatalogFault) :
    ((Catalog.files c).loadRows k name group form).outcome ≠ .error (.catalog fault) := by
  have houtcome := Catalog.loadRows_outcome (c := .files c) h group form
  rw [houtcome]
  cases answer with
  | none => simp [Catalog.loadFrom]
  | some t => cases hrows : Group.rows group form t <;> simp [Catalog.loadFrom, hrows, Except.mapError]

/-- The log of a load tells how it has ended, unless the catalog gives no answer. -/
theorem accounts_loadRows (h : ∀ fault, ((Catalog.files c).loadRows k name group form).outcome ≠ .error (.catalog fault)) :
    Accounts c k name group form ((Catalog.files c).loadRows k name group form) := by
  have hends := c.text_ends k name
  generalize hx : c.text k name = x at hends
  cases hends with
  | text t =>
    rw [loadRows_of_text hx]
    cases hrows : Group.rows group form t with
    | ok rows => exact .parsed (by rw [hx]) hrows
    | error fault => exact .failed (by rw [hx]) hrows
  | nothing htells =>
    rw [loadRows_of_nothing hx]
    refine .absent (by rw [hx]) htells ?_ ?_ <;>
      rcases htells.level_eq with ⟨hlevel, hfails⟩ | ⟨hlevel, hfails⟩ <;> simp [hlevel, hfails]
  | fault fault => exact absurd (by rw [loadRows_of_fault hx]) (h fault)

/-- A load of rows from a catalog of files is told by what it logs, unless the catalog gives no answer. Where the descriptor has no
text, there are no rows and exactly two events: why there is none, a warning exactly where a file lies at the path and reading it
fails and else an event for debugging, and that there is no descriptor of this kind and name. Where rows are taken, there is one
event with their number, and where the descriptor is at fault there is none. A single question for a descriptor, or for the main
configuration, logs nothing with a text and one event with nothing. The lines of the two events of the load are these. -/
theorem loadRows_log (c : FileCatalog) (k : Kind) (name : Text) :
    (∀ group form, (∀ fault, ((Catalog.files c).loadRows k name group form).outcome ≠ .error (.catalog fault)) →
      Accounts c k name group form ((Catalog.files c).loadRows k name group form)) ∧
    LogsNothingButAbsence ((Catalog.files c).text k name) ∧ LogsNothingButAbsence (Catalog.files c).mainText ∧
    (LogEvent.noDescriptor k name).line =
      Text.ofString "DEBUG propcatalog.api: No " ++ k.name ++ Text.ofString " descriptor named '" ++ name ++
        Text.ofString "'" ∧
    ∀ count group, (LogEvent.groupParsed count group).line =
      Text.ofString "DEBUG propcatalog.kernel.parser: Parsed " ++ Text.ofNat count ++ Text.ofString " rows from group '" ++
        group ++ Text.ofString "'" :=
  ⟨fun _ _ h => accounts_loadRows h, (c.text_ends k name).logsNothingButAbsence,
    (c.read_ends c.layout.mainPath).logsNothingButAbsence, LogEvent.line_noDescriptor k name, LogEvent.line_groupParsed⟩

/-- A catalog with an empty object for the component `a`, with a byte that is no text for the component `b`, and with a file that
cannot be opened for the component `d`. -/
def damaged : FileCatalog where
  layout := { root := ⟨.root, []⟩ }
  files := ⟨.directory [(Text.ofString "components",
    .directory [(Text.ofString "a.json", .file (.intact [0x7B, 0x7D])), (Text.ofString "b.json", .file (.intact [0xFF])),
      (Text.ofString "d.json", .file (.sealed (.other 13 "Permission denied")))])], []⟩
  codecs := .listed

/-- No component of `damaged` has rows, and the log tells why: for `a` the group is empty, for `b` and `d` the file cannot be read,
and for `c` there is none. -/
theorem loadRows_log_damaged :
    ((Catalog.files damaged).loadRows .component "a" Group.properties .properties).log = [.groupParsed 0 Group.properties] ∧
      (∀ name ∈ [Text.ofString "b", Text.ofString "d"],
        ∃ e, ((Catalog.files damaged).loadRows .component name Group.properties .properties).log =
          [e, .noDescriptor .component name] ∧ e.level = .warning) ∧
      ∃ e, ((Catalog.files damaged).loadRows .component "c" Group.properties .properties).log =
        [e, .noDescriptor .component "c"] ∧ e.level = .debug := by
  have htext : (damaged.text .component "a").outcome = .ok (some (Text.ofString "\x7b\x7d")) := by decide
  have hnothing : ∀ name ∈ [Text.ofString "b", Text.ofString "d", Text.ofString "c"],
      (damaged.text .component name).outcome = .ok none := by decide
  have hread : Json.read (Text.ofString "\x7b\x7d") = .ok (.object []) := by
    have hwrite : Text.ofString "\x7b\x7d" = Json.write (.object []) := by decide
    rw [hwrite]
    exact Json.read_write (by simp [Json.KeysDistinct, Json.EntriesDistinct, Entries.keys]) trivial (by decide)
  have hrows : Group.rows Group.properties .properties (Text.ofString "\x7b\x7d") = .ok [] :=
    Group.rows_ok_iff.2 ⟨_, hread, rfl⟩
  have hcodec : damaged.codecs.codec? damaged.layout.encoding = some Encoding.utf8.codec := Codecs.listed.utf8
  have hfails : ∀ name ∈ [Text.ofString "b", Text.ofString "d"], damaged.FailsToRead .component name := by
    simp only [List.mem_cons, List.not_mem_nil, or_false, forall_eq_or_imp, forall_eq]
    exact ⟨⟨by decide, _, by decide, .intact [0xFF], by decide, .decoding hcodec rfl⟩,
      ⟨by decide, _, by decide, .sealed (.other 13 "Permission denied"), by decide, .opening⟩⟩
  refine ⟨?_, fun name hname => ?_, ?_⟩
  · have haccounts := (loadRows_log damaged .component "a").1 Group.properties .properties (outcome_ne_of_text htext)
    rw [haccounts.of_rows htext hrows]
    rfl
  · have hnone := hnothing name (by simp only [List.mem_cons] at hname ⊢; tauto)
    have haccounts := (loadRows_log damaged .component name).1 Group.properties .properties (outcome_ne_of_text hnone)
    obtain ⟨e, hload, hwarning, _⟩ := haccounts.of_none hnone
    exact ⟨e, congrArg Logged.log hload, hwarning.2 (hfails name hname)⟩
  · have hfails : ¬ damaged.FailsToRead .component "c" := by
      rintro ⟨_, _, _, f, hfile, _⟩
      have hnofile : damaged.files.file? (damaged.layout.file .component "c") = .ok none := by decide
      cases hnofile.symm.trans hfile
    have hnone := hnothing "c" (by decide)
    have haccounts := (loadRows_log damaged .component "c").1 Group.properties .properties (outcome_ne_of_text hnone)
    obtain ⟨e, hload, _, hdebug⟩ := haccounts.of_none hnone
    exact ⟨e, congrArg Logged.log hload, hdebug.2 hfails⟩

end FileCatalog

end Descriptors
