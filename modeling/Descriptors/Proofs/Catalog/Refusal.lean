import Descriptors.Catalog
import Descriptors.Proofs.FileSystem

/-!
# When a catalog of files refuses to answer

A descriptor that is not there is answered with nothing, and so are a directory in place of its file, a file that cannot be opened
or read, and bytes that are not allowed. `FileCatalog.Refuses` names the cases that end in a fault instead: a path that the file
system refuses, an encoding that cannot be looked up or has no codec, and a codec that fails in another way, as that of UTF-16
does without its byte order mark. There are no others (`FileCatalog.text_error_iff`), so not every descriptor that is missing or
unreadable is answered with nothing (`FileCatalog.text_total_false`).
-/

namespace Descriptors.FileCatalog

variable {c : FileCatalog} {path : Path} {fault : CatalogFault} {bytes : List Byte} {f : File} {codec : Codec} {name : Text}

/-- A plain name has no slash. -/
theorem slash_notMem_of_isPlain (h : isPlain name = true) : CodePoint.slash ∉ name := by
  simp only [isPlain, Bool.and_eq_true] at h
  simpa using h.1.1.1.2

/-- The name of an encoding is looked up where it has no surrogate and no NUL. -/
theorem encodingFault?_eq_none_iff : encodingFault? name = none ↔
    (∀ x ∈ name, x.isSurrogate = false) ∧ CodePoint.null ∉ name := by
  have hencode : Utf8.encodeFault? name = none ↔ ∀ x ∈ name, x.isSurrogate = false := by
    rw [Utf8.encodeFault?, EncodeFault.first?_eq_none_iff]
    simp
  rw [← hencode, encodingFault?]
  cases Utf8.encodeFault? name with
  | some fault => simp
  | none =>
    by_cases hnull : CodePoint.null ∈ name <;> simp [hnull]

/-- The name of an encoding is at fault for a surrogate, or else for a NUL. -/
theorem encodingFault?_eq_some_iff : encodingFault? name = some fault ↔
    (∃ f, Utf8.encodeFault? name = some f ∧ fault = .encodingUnencodable f) ∨
      Utf8.encodeFault? name = none ∧ CodePoint.null ∈ name ∧ fault = .nullInEncoding := by
  rw [encodingFault?]
  cases Utf8.encodeFault? name with
  | some f => simp [eq_comm]
  | none =>
    by_cases hnull : CodePoint.null ∈ name <;> simp [hnull, eq_comm]

/-! ## What is read, case by case -/

/-- Where no file is, nothing is read. -/
theorem read_absent (h : c.files.file? path = .ok none) : c.read path = ⟨.ok none, [.noFile path]⟩ := by
  rw [read, h]

/-- A path that the file system refuses ends in a fault. -/
theorem read_refused {fault : FileFault} (h : c.files.file? path = .error fault) : c.read path = .error (.refusedPath fault) := by
  rw [read, h]

/-- Where a file is, what reading it gives counts. -/
theorem read_file (h : c.files.file? path = .ok (some f)) :
    c.read path =
      match c.readFile f with
      | .ok (.ok t) => .ok (some t)
      | .ok (.error fault) => ⟨.ok none, [.unreadable path fault]⟩
      | .error fault => .error fault := by
  rewrite [read, h]
  rfl

/-- With an encoding that is not looked up, reading any file ends in the fault of its name. -/
theorem readFile_of_encodingFault (henc : encodingFault? c.layout.encoding = some fault) (f : File) : c.readFile f = .error fault := by
  rw [readFile.eq_def, henc]

/-- A file that cannot be opened has no text, before the codec is looked up. -/
theorem readFile_sealed (henc : encodingFault? c.layout.encoding = none) (fault : FileFault) :
    c.readFile (.sealed fault) = .ok (.error (.notOpened fault)) := by
  rw [readFile.eq_def, henc]

/-- Where there is no codec, reading a file that can be opened ends in a fault. -/
theorem readFile_unknown (henc : encodingFault? c.layout.encoding = none) (hcodec : c.codecs.codec? c.layout.encoding = none)
    (hopen : ∀ fault, f ≠ .sealed fault) : c.readFile f = .error (.unknownEncoding c.layout.encoding) := by
  rw [readFile.eq_def, henc]
  cases f with
  | sealed fault => exact absurd rfl (hopen fault)
  | intact | broken => simp only [hcodec]

/-- A file that cannot be read to its end has no text. -/
theorem readFile_broken (henc : encodingFault? c.layout.encoding = none) (hcodec : c.codecs.codec? c.layout.encoding = some codec)
    (fault : FileFault) : c.readFile (.broken fault) = .ok (.error (.notRead fault)) := by
  rw [readFile.eq_def, henc]
  simp only [hcodec, File.read]

/-- A file that can be read has the text that the codec makes of it. -/
theorem readFile_intact (henc : encodingFault? c.layout.encoding = none) (hcodec : c.codecs.codec? c.layout.encoding = some codec)
    (bytes : List Byte) : c.readFile (.intact bytes) = decoded codec bytes := by
  rw [readFile.eq_def, henc]
  simp only [hcodec, File.read]

/-! ## What is refused -/

/-- Why reading a file ends in a fault, where its encoding is given by a name. -/
inductive RefusesFile (c : FileCatalog) : File → CatalogFault → Prop where
  /-- The name of the encoding holds a surrogate. -/
  | encodingUnencodable {f : File} {fault : EncodeFault} : Utf8.encodeFault? c.layout.encoding = some fault →
      RefusesFile c f (.encodingUnencodable fault)
  /-- The name of the encoding holds a NUL. -/
  | nullInEncoding {f : File} : Utf8.encodeFault? c.layout.encoding = none → CodePoint.null ∈ c.layout.encoding →
      RefusesFile c f .nullInEncoding
  /-- The file can be opened, and there is no codec of this name. -/
  | unknownEncoding {f : File} : encodingFault? c.layout.encoding = none → (∀ fault, f ≠ .sealed fault) →
      c.codecs.codec? c.layout.encoding = none → RefusesFile c f (.unknownEncoding c.layout.encoding)
  /-- The codec misses a byte order mark. -/
  | markMissing {bytes : List Byte} {codec : Codec} : encodingFault? c.layout.encoding = none →
      c.codecs.codec? c.layout.encoding = some codec → codec.readText bytes = .error .markMissing →
      RefusesFile c (.intact bytes) .markMissing
  /-- The codec fails in another way than at bytes that are not allowed. -/
  | codecFailed {bytes : List Byte} {codec : Codec} {description : Text} : encodingFault? c.layout.encoding = none →
      c.codecs.codec? c.layout.encoding = some codec → codec.readText bytes = .error (.other description) →
      RefusesFile c (.intact bytes) (.codecFailed description)

/-- Decoding ends in a fault of the catalog where the codec fails, but not at bytes that are not allowed. -/
theorem decoded_error_iff : decoded codec bytes = .error fault ↔
    codec.readText bytes = .error .markMissing ∧ fault = .markMissing ∨
      ∃ description, codec.readText bytes = .error (.other description) ∧ fault = .codecFailed description := by
  rw [decoded]
  split <;> rename_i hread <;> simp [hread, eq_comm]

/-- Decoding gives why there is no text where the codec fails at bytes that are not allowed. -/
theorem decoded_fails_iff {fault : ReadFault} : decoded codec bytes = .ok (.error fault) ↔
    ∃ f, codec.readText bytes = .error (.undecodable f) ∧ fault = .undecodable f := by
  rw [decoded]
  split <;> rename_i hread <;> simp [hread, eq_comm]

/-- Where there is a codec, reading a file ends in a fault only by decoding its bytes. -/
theorem readFile_error_iff_decoded (henc : encodingFault? c.layout.encoding = none)
    (hcodec : c.codecs.codec? c.layout.encoding = some codec) :
    c.readFile f = .error fault ↔ ∃ bytes, f = .intact bytes ∧ decoded codec bytes = .error fault := by
  cases f with
  | sealed fault' => simp [readFile_sealed henc]
  | broken fault' => simp [readFile_broken henc hcodec]
  | intact bytes => simp [readFile_intact henc hcodec]

/-- Reading a file ends in a fault exactly for the encoding. -/
theorem readFile_error_iff : c.readFile f = .error fault ↔ c.RefusesFile f fault := by
  constructor
  · intro h
    cases henc : encodingFault? c.layout.encoding with
    | some fault' =>
      rw [readFile_of_encodingFault henc] at h
      cases h
      rcases encodingFault?_eq_some_iff.1 henc with ⟨_, hencode, rfl⟩ | ⟨hencode, hnull, rfl⟩
      · exact .encodingUnencodable hencode
      · exact .nullInEncoding hencode hnull
    | none =>
      cases hcodec : c.codecs.codec? c.layout.encoding with
      | none =>
        cases f with
        | sealed => cases (readFile_sealed henc _).symm.trans h
        | intact | broken =>
          cases (readFile_unknown henc hcodec (by simp)).symm.trans h
          exact .unknownEncoding henc (by simp) hcodec
      | some codec =>
        obtain ⟨bytes, rfl, hdecoded⟩ := (readFile_error_iff_decoded henc hcodec).1 h
        rcases decoded_error_iff.1 hdecoded with ⟨hread, rfl⟩ | ⟨_, hread, rfl⟩
        · exact .markMissing henc hcodec hread
        · exact .codecFailed henc hcodec hread
  · intro h
    cases h with
    | encodingUnencodable hencode =>
      exact readFile_of_encodingFault (encodingFault?_eq_some_iff.2 (Or.inl ⟨_, hencode, rfl⟩)) _
    | nullInEncoding hencode hnull =>
      exact readFile_of_encodingFault (encodingFault?_eq_some_iff.2 (Or.inr ⟨hencode, hnull, rfl⟩)) _
    | unknownEncoding henc hopen hcodec => exact readFile_unknown henc hcodec hopen
    | markMissing henc hcodec hread =>
      rw [readFile_intact henc hcodec]
      exact decoded_error_iff.2 (Or.inl ⟨hread, rfl⟩)
    | codecFailed henc hcodec hread =>
      rw [readFile_intact henc hcodec]
      exact decoded_error_iff.2 (Or.inr ⟨_, hread, rfl⟩)

/-- Why a catalog of files gives no answer for the file at a path, neither a text nor nothing. -/
inductive Refuses (c : FileCatalog) (path : Path) : CatalogFault → Prop where
  /-- The file system refuses the path. -/
  | path {fault : FileFault} : c.files.Refuses path fault → Refuses c path (.refusedPath fault)
  /-- A file is there, and reading it ends in a fault. -/
  | file {f : File} {fault : CatalogFault} : c.files.file? path = .ok (some f) → c.RefusesFile f fault → Refuses c path fault

/-- What is read at a path is a text or nothing, unless the catalog refuses the path. -/
theorem read_error_iff (c : FileCatalog) (path : Path) (fault : CatalogFault) :
    (c.read path).outcome = .error fault ↔ c.Refuses path fault := by
  constructor
  · intro h
    cases hfile : c.files.file? path with
    | error fileFault =>
      rw [read_refused hfile] at h
      cases h
      exact .path (FileSystem.file?_error_iff.1 hfile)
    | ok answer =>
      cases answer with
      | none =>
        rw [read_absent hfile] at h
        cases h
      | some f =>
        refine .file hfile (readFile_error_iff.1 ?_)
        rw [read_file hfile] at h
        split at h <;> cases h
        assumption
  · intro h
    cases h with
    | path hrefuses =>
      rw [read_refused (FileSystem.file?_error_iff.2 hrefuses)]
      rfl
    | file hfile hrefuses =>
      rw [read_file hfile, readFile_error_iff.2 hrefuses]
      rfl

/-! ## Codecs -/

/-- With a codec that is listed a file is refused only for a byte order mark: in UTF-16, where its bytes have none and could be
decoded without it. -/
theorem refusesFile_listed_iff {e : Encoding} (henc : encodingFault? c.layout.encoding = none)
    (hcodec : c.codecs.codec? c.layout.encoding = some e.codec) :
    c.RefusesFile f fault ↔ fault = .markMissing ∧ e = .utf16 ∧ ∃ bytes, f = .intact bytes ∧ bytes ≠ [] ∧
      ¬ [0xFF, 0xFE] <+: bytes ∧ ¬ [0xFE, 0xFF] <+: bytes ∧ ∃ t, Utf16.decode .littleEndian bytes = .ok t := by
  rw [← readFile_error_iff, readFile_error_iff_decoded henc hcodec]
  constructor
  · rintro ⟨bytes, rfl, h⟩
    rcases decoded_error_iff.1 h with ⟨hread, rfl⟩ | ⟨_, hread, rfl⟩
    · obtain ⟨_, he, hbytes⟩ := (Encoding.readText_error_iff (by simp)).1 hread
      exact ⟨rfl, he, bytes, rfl, hbytes⟩
    · obtain ⟨heq, _⟩ := (Encoding.readText_error_iff (by simp)).1 hread
      cases heq
  · rintro ⟨rfl, he, bytes, rfl, hbytes⟩
    have hread := (Encoding.readText_error_iff (by simp)).2 ⟨rfl, he, hbytes⟩
    exact ⟨bytes, rfl, decoded_error_iff.2 (Or.inl ⟨hread, rfl⟩)⟩

/-- No file is refused with a codec that fails only at bytes that are not allowed. -/
theorem not_refusesFile (henc : encodingFault? c.layout.encoding = none) (hcodec : c.codecs.codec? c.layout.encoding = some codec)
    (hfails : ∀ bytes fault, codec bytes = .error fault → ∃ f, fault = .undecodable f) : ¬ c.RefusesFile f fault := by
  rw [← readFile_error_iff, readFile_error_iff_decoded henc hcodec]
  rintro ⟨bytes, _, h⟩
  have hread : ∀ {fault}, codec.readText bytes = .error fault → ∃ f, fault = .undecodable f :=
    fun h => hfails _ _ (Outcome.map_error_iff.1 h)
  rcases decoded_error_iff.1 h with ⟨hmark, _⟩ | ⟨_, hother, _⟩
  · obtain ⟨_, heq⟩ := hread hmark
    cases heq
  · obtain ⟨_, heq⟩ := hread hother
    cases heq

/-! ## The getters -/

/-- The only faults of a catalog of files. A descriptor of any kind is refused where its name is plain and the path of its file is
refused, and the main configuration where its path is; every other answer is a text or nothing. With a codec that is listed a
file is refused only for a byte order mark: in UTF-16, where its bytes have none and could be decoded without it. A path is never
refused where the layout names a codec that fails only at bytes that are not allowed, the path and each name in it are of a length
that the file system takes, and no directory on the way is closed. -/
theorem text_error_iff (c : FileCatalog) :
    (∀ k name fault, ((Catalog.files c).text k name).outcome = .error fault ↔
      isPlain name = true ∧ c.Refuses (c.layout.file k name) fault) ∧
    (∀ fault, (Catalog.files c).mainText.outcome = .error fault ↔ c.Refuses c.layout.mainPath fault) ∧
    (∀ e f fault, encodingFault? c.layout.encoding = none → c.codecs.codec? c.layout.encoding = some (Encoding.codec e) →
      (c.RefusesFile f fault ↔ fault = .markMissing ∧ e = .utf16 ∧ ∃ bytes, f = .intact bytes ∧ bytes ≠ [] ∧
        ¬ [0xFF, 0xFE] <+: bytes ∧ ¬ [0xFE, 0xFF] <+: bytes ∧ ∃ t, Utf16.decode .littleEndian bytes = .ok t)) ∧
    ∀ path codec, encodingFault? c.layout.encoding = none → c.codecs.codec? c.layout.encoding = some codec →
      (∀ bytes fault, codec bytes = .error fault → ∃ f, fault = .undecodable f) → c.files.Admits path →
      ∀ fault, ¬ c.Refuses path fault := by
  refine ⟨fun k name fault => ?_, fun fault => read_error_iff c _ fault,
    fun e f fault henc hcodec => refusesFile_listed_iff henc hcodec, fun path codec henc hcodec hfails hadmits fault h => ?_⟩
  · change (c.text k name).outcome = .error fault ↔ _
    rw [text]
    cases hplain : isPlain name with
    | true =>
      rw [if_pos rfl, read_error_iff]
      simp
    | false => simp
  · cases h with
    | path hrefuses => exact hadmits.not_refuses hrefuses
    | file _ hrefuses => exact not_refusesFile henc hcodec hfails hrefuses

/-- A catalog with one file of a component, as it is laid out where nothing else is said but the encoding. -/
def single (encoding : Text) (f : File) : FileCatalog where
  layout := { root := ⟨.current, []⟩, encoding := encoding }
  files := ⟨.directory [(Text.ofString "components", .directory [(Text.ofString "a.json", .file f)])], []⟩
  codecs := .listed

/-- Not every descriptor has an answer: a name of 251 letters with its suffix is too long for the file system to look for, and
UTF-16 without its mark is no text, but neither is answered with nothing. -/
theorem text_total_false :
    ¬ (∀ (c : FileCatalog) (k : Kind) (name : Text), ∃ answer, ((Catalog.files c).text k name).outcome = .ok answer) ∧
      ((Catalog.files (single "utf-16" (.intact [0x7B, 0, 0x7D, 0]))).text .component "a").outcome = .error .markMissing := by
  refine ⟨fun h => ?_, by decide⟩
  obtain ⟨answer, hanswer⟩ := h (single "utf-8" (.intact [0x7B, 0x7D])) .component (List.replicate 251 CodePoint.letterN)
  have hrefused :
      ((Catalog.files (single "utf-8" (.intact [0x7B, 0x7D]))).text .component (List.replicate 251 CodePoint.letterN)).outcome =
        .error (.refusedPath .nameTooLong) := by decide +kernel
  rw [hrefused] at hanswer
  cases hanswer

end Descriptors.FileCatalog
