import Descriptors.FileSystem
import Descriptors.Proofs.Encoding
import Descriptors.Proofs.OrderedMap
import Descriptors.Proofs.Outcome

/-!
# Names and ways in the file system

The name of a file is what its text stands for, code point by code point, so that names are put together as texts are
(`FileName.ofText?_append`). A text without surrogates stands for its UTF-8 bytes, and no two such texts name the same file
(`FileName.ofText?_injective`). Where surrogates stand for bytes, several texts may. A text has no name exactly where there is
something to be said against it (`FileName.fault?_eq_none_iff`).

What stands at the end of some names (`FileTree.at?`) is what following them gives, as long as no name leads up, none is too long
and no directory is closed (`FileTree.follow_of_plain`). Something that is put at the end of some names stands there, and what
stands at the end of names that part from these is left as it is (`FileTree.at?_putAt_self`, `FileTree.at?_putAt_of_part`).
Following names fails where one of them hinders it (`FileTree.follow_error_iff`), so the file system refuses to say whether a file
is at a path only for a name that is too long, for the whole path, or for a closed directory on the way
(`FileSystem.file?_error_iff`).
-/

namespace Descriptors

/-! ## Names -/

namespace FileName

variable {c : CodePoint} {s s' t : Text} {f : FileName}

/-- A scalar value stands for its UTF-8 bytes. -/
theorem bytes?_of_isScalar (hc : c.isScalar) : bytes? c = some (Utf8.encodeCodePoint c) := by
  have hscalar : c < 0xD800 ∨ (0xDFFF < c ∧ c < 0x110000) := by simpa [CodePoint.isScalar] using hc
  have hescaped : isEscapedByte c = false := by
    simp only [isEscapedByte, Bool.and_eq_false_iff, decide_eq_false_iff_not]
    dsimp only [CodePoint] at c hscalar ⊢
    omega
  have hsurrogate : c.isSurrogate = false := by
    simp only [CodePoint.isSurrogate, Bool.and_eq_false_iff, decide_eq_false_iff_not]
    dsimp only [CodePoint] at c hscalar ⊢
    omega
  rw [bytes?, hescaped, hsurrogate]
  rfl

/-- A text that starts with a code point has a name when both do. -/
theorem ofText?_cons (c : CodePoint) (t : Text) :
    ofText? (c :: t) = (bytes? c).bind fun front => (ofText? t).map (front ++ ·) := by
  rw [ofText?]
  cases bytes? c with
  | none => rfl
  | some front => cases ofText? t <;> rfl

/-- Names are put together as texts are. -/
theorem ofText?_append (s t : Text) : ofText? (s ++ t) = (ofText? s).bind fun f => (ofText? t).map (f ++ ·) := by
  induction s with
  | nil =>
    rw [List.nil_append, ofText?, Option.bind_some]
    cases ofText? t <;> rfl
  | cons c s ih =>
    rw [List.cons_append, ofText?_cons, ofText?_cons, ih]
    cases bytes? c with
    | none => rfl
    | some front =>
      cases ofText? s with
      | none => rfl
      | some f => cases ofText? t <;> simp

/-- A text without surrogates stands for its UTF-8 bytes. -/
theorem ofText?_of_isScalar (ht : ∀ c ∈ t, c.isScalar) : ofText? t = some (Utf8.encode t) := by
  induction t with
  | nil => rfl
  | cons c t ih =>
    obtain ⟨hc, ht⟩ := List.forall_mem_cons.1 ht
    rw [ofText?_cons, bytes?_of_isScalar hc, ih ht]
    rfl

/-- No two texts without surrogates name the same file. -/
theorem ofText?_injective (hs : ∀ c ∈ s, c.isScalar) (ht : ∀ c ∈ t, c.isScalar) (h : ofText? s = ofText? t) : s = t := by
  rw [ofText?_of_isScalar hs, ofText?_of_isScalar ht] at h
  exact Utf8.encode_injective hs ht (Option.some.inj h)

/-- Texts that name the same file with the same end behind them name the same file without it. -/
theorem ofText?_eq_of_append (hs : ofText? (s ++ t) = some f) (hs' : ofText? (s' ++ t) = some f) : ofText? s = ofText? s' := by
  rw [ofText?_append] at hs hs'
  obtain ⟨front, hfront, h⟩ := Option.bind_eq_some_iff.1 hs
  obtain ⟨front', hfront', h'⟩ := Option.bind_eq_some_iff.1 hs'
  obtain ⟨behind, hbehind, rfl⟩ := Option.map_eq_some_iff.1 h
  obtain ⟨behind', hbehind', heq⟩ := Option.map_eq_some_iff.1 h'
  obtain rfl : behind = behind' := Option.some.inj (hbehind.symm.trans hbehind')
  rw [hfront, hfront', List.append_cancel_right heq]

/-- A text has a name when each of its code points stands for bytes. -/
theorem isSome_ofText?_iff : (ofText? t).isSome = true ↔ ∀ c ∈ t, (bytes? c).isSome = true := by
  induction t with
  | nil => simp [ofText?]
  | cons c t ih =>
    rw [ofText?_cons, List.forall_mem_cons, ← ih]
    cases bytes? c <;> simp

/-- A text names no file exactly when something is found wrong with it. -/
theorem fault?_eq_none_iff : fault? t = none ↔ (ofText? t).isSome = true := by
  rw [fault?, EncodeFault.first?_eq_none_iff, isSome_ofText?_iff]

/-- The names of parts that are put together. -/
theorem ofParts?_append {parts below : List Text} {names names' : List FileName} (h : ofParts? parts = some names)
    (h' : ofParts? below = some names') : ofParts? (parts ++ below) = some (names ++ names') := by
  rw [ofParts?] at h h' ⊢
  rw [List.mapM_append, h, h']
  rfl

/-- Parts of which one has no name have none together. -/
theorem ofParts?_append_eq_none (parts : List Text) {below : List Text} (h : ofParts? below = none) :
    ofParts? (parts ++ below) = none := by
  rw [ofParts?] at h ⊢
  rw [List.mapM_append, h]
  cases parts.mapM ofText? <;> rfl

end FileName

namespace FileTree

/-- What stands at the end of some names below a place, where none of them leads up. -/
def at? : List FileName → FileTree → Option FileTree
  | [], place => some place
  | name :: names, place => (Entries.get? name place.entries).bind (at? names)

/-- A name that leads down and is not too long. -/
def IsPlainName (name : FileName) : Prop := name ≠ upName ∧ name.length ≤ greatestNameSize

/-- Two ways that part: neither goes on where the other ends. -/
def Part (names names' : List FileName) : Prop := ¬ names <+: names' ∧ ¬ names' <+: names

variable {name : FileName} {names names' passed : List FileName} {place place' top new : FileTree} {above : List FileTree}
  {fault : FileFault} {x : FileTree × List FileTree}

/-- Ways of the same number of names part unless they are the same. -/
theorem part_of_length_eq (hlength : names.length = names'.length) (hne : names ≠ names') : Part names names' :=
  ⟨fun h => hne (h.eq_of_length hlength), fun h => hne (h.eq_of_length hlength.symm).symm⟩

/-- Ways part where their first names differ. -/
theorem part_cons {name' : FileName} (h : name ≠ name') : Part (name :: names) (name' :: names') :=
  ⟨fun hpre => h (List.cons_prefix_cons.1 hpre).1, fun hpre => h (List.cons_prefix_cons.1 hpre).1.symm⟩

/-! ## What is put -/

/-- Below an empty directory stands nothing. -/
theorem at?_empty (h : names ≠ []) : at? names (.directory []) = none := by
  obtain ⟨name, names, rfl⟩ := List.exists_cons_of_ne_nil h
  rfl

/-- What is put at the end of some names stands there. -/
theorem at?_putAt_self (new : FileTree) (names : List FileName) : ∀ place, at? names (putAt new names place) = some new := by
  induction names with
  | nil => exact fun _ => rfl
  | cons name names ih =>
    intro place
    rw [putAt, at?, entries, Entries.get?_put, if_pos rfl, Option.bind_some, ih]

/-- What is put at the end of some names leaves what stands at the end of names that part from them. -/
theorem at?_putAt_of_part (new : FileTree) :
    ∀ {names names' : List FileName} {place : FileTree}, Part names names' →
      at? names' (putAt new names place) = at? names' place := by
  intro names
  induction names with
  | nil => exact fun h => absurd (List.nil_prefix) h.1
  | cons name names ih =>
    intro names' place h
    cases names' with
    | nil => exact absurd (List.nil_prefix) h.2
    | cons name' names' =>
      rw [putAt, at?, entries, Entries.get?_put]
      by_cases hname : name' = name
      · -- the ways part below the same name, where a directory may just have been made
        subst hname
        have hpart : Part names names' := ⟨fun hpre => h.1 (List.cons_prefix_cons.2 ⟨rfl, hpre⟩),
          fun hpre => h.2 (List.cons_prefix_cons.2 ⟨rfl, hpre⟩)⟩
        have hne : names' ≠ [] := by
          rintro rfl
          exact hpart.2 List.nil_prefix
        rw [if_pos rfl, Option.bind_some, ih hpart, at?]
        cases Entries.get? name' place.entries with
        | none => exact at?_empty hne
        | some child => rfl
      · rw [if_neg hname, at?]

/-- Puts one after the other at the end of the parts given for each. -/
def putAll (files : List (List Text × FileTree)) (place : FileTree) : FileTree :=
  files.foldl (fun place f => put f.2 f.1 place) place

/-- What stands at the end of some names stays where everything is put at the end of names that part from them. -/
theorem at?_putAll_of_part {files : List (List Text × FileTree)} :
    ∀ {place}, (∀ f ∈ files, ∀ names', FileName.ofParts? f.1 = some names' → Part names' names) →
      at? names (putAll files place) = at? names place := by
  induction files with
  | nil => exact fun _ => rfl
  | cons f files ih =>
    intro place h
    obtain ⟨hf, hfiles⟩ := List.forall_mem_cons.1 h
    have hstep : putAll (f :: files) place = putAll files (put f.2 f.1 place) := rfl
    rw [hstep, ih hfiles, put]
    split
    · rfl
    · next names' hnames' => exact at?_putAt_of_part f.2 (hf names' hnames')

/-- What is put at the end of some names stands there, where nothing else is put there or across it. -/
theorem at?_putAll {files : List (List Text × FileTree)} :
    ∀ {place}, (∀ f ∈ files, ∀ names', FileName.ofParts? f.1 = some names' → Part names' names ∨ names' = names ∧ f.2 = new) →
      ((∃ f ∈ files, FileName.ofParts? f.1 = some names) ∨ at? names place = some new) →
      at? names (putAll files place) = some new := by
  induction files with
  | nil => simp [putAll]
  | cons f files ih =>
    intro place h hput
    obtain ⟨hf, hfiles⟩ := List.forall_mem_cons.1 h
    have hstep : putAll (f :: files) place = putAll files (put f.2 f.1 place) := rfl
    rw [hstep]
    refine ih hfiles ?_
    cases hnames' : FileName.ofParts? f.1 with
    | none =>
      have hsame : put f.2 f.1 place = place := by rw [put, hnames']
      rw [hsame]
      refine hput.imp_left fun ⟨g, hg, hnames⟩ => ?_
      rcases List.mem_cons.1 hg with rfl | hg
      · rw [hnames'] at hnames
        cases hnames
      · exact ⟨g, hg, hnames⟩
    | some names' =>
      have hset : put f.2 f.1 place = putAt f.2 names' place := by rw [put, hnames']
      rw [hset]
      rcases hf names' hnames' with hpart | ⟨rfl, rfl⟩
      · rw [at?_putAt_of_part f.2 hpart]
        refine hput.imp_left fun ⟨g, hg, hnames⟩ => ?_
        rcases List.mem_cons.1 hg with rfl | hg
        · cases hnames'.symm.trans hnames
          exact absurd (List.prefix_refl _) hpart.1
        · exact ⟨g, hg, hnames⟩
      · exact Or.inr (at?_putAt_self f.2 names' place)

/-- A place in which, and below which, no directory is closed. -/
def IsOpen (place : FileTree) : Prop := ∀ names fault, at? names place ≠ some (.closed fault)

/-- What lies in an open place is open. -/
theorem IsOpen.child (h : place.IsOpen) (hchild : Entries.get? name place.entries = some place') : place'.IsOpen := by
  intro names fault hat
  refine h (name :: names) fault ?_
  rw [at?, hchild]
  exact hat

/-- An empty directory is open. -/
theorem isOpen_empty : (directory []).IsOpen := by
  intro names fault
  cases names with
  | nil => exact fun h => nomatch h
  | cons name names => exact fun h => nomatch h

/-- What is put into an open place leaves it open. -/
theorem IsOpen.putAt (hnew : new.IsOpen) (names : List FileName) :
    ∀ {place : FileTree}, place.IsOpen → (putAt new names place).IsOpen := by
  induction names with
  | nil => exact fun _ => hnew
  | cons name names ih =>
    intro place hplace names' fault
    rw [FileTree.putAt]
    cases names' with
    | nil => exact fun h => nomatch h
    | cons name' names' =>
      rw [at?, entries, Entries.get?_put]
      split
      · have hchild : ((Entries.get? name place.entries).getD (.directory [])).IsOpen := by
          cases hget : Entries.get? name place.entries with
          | none => exact isOpen_empty
          | some child => exact hplace.child hget
        exact ih hchild names' fault
      · exact hplace (name' :: names') fault

/-- What is put one after the other into an open place leaves it open. -/
theorem IsOpen.putAll {files : List (List Text × FileTree)} (hfiles : ∀ f ∈ files, f.2.IsOpen) :
    ∀ {place : FileTree}, place.IsOpen → (putAll files place).IsOpen := by
  induction files with
  | nil => exact fun h => h
  | cons f files ih =>
    intro place hplace
    obtain ⟨hf, hfiles⟩ := List.forall_mem_cons.1 hfiles
    have hput : (put f.2 f.1 place).IsOpen := by
      rw [put]
      split
      · exact hplace
      · exact hf.putAt _ hplace
    exact ih hfiles hput

/-- A file is open. -/
theorem isOpen_file (f : File) : (file f).IsOpen := by
  intro names fault
  cases names with
  | nil => exact fun h => nomatch h
  | cons name names => exact fun h => nomatch h

/-! ## What is followed -/

/-- Why a name leads nowhere from a place. -/
inductive Hinders (name : FileName) : FileTree → FileFault → Prop where
  | file (f : File) : Hinders name (file f) .notDirectory
  | closed (fault : FileFault) : Hinders name (closed fault) fault
  | tooLong (entries : List (FileName × FileTree)) : name ≠ upName → greatestNameSize < name.length →
      Hinders name (directory entries) .nameTooLong
  | missing {entries : List (FileName × FileTree)} : name ≠ upName → name.length ≤ greatestNameSize →
      Entries.get? name entries = none → Hinders name (directory entries) .notFound

/-- A step from a directory fails for a name that does not lead up, and is too long or has nothing under it. -/
theorem step_directory_error_iff {entries : List (FileName × FileTree)} :
    step name (directory entries) above = .error fault ↔ name ≠ upName ∧
      (greatestNameSize < name.length ∧ fault = .nameTooLong ∨
        name.length ≤ greatestNameSize ∧ Entries.get? name entries = none ∧ fault = .notFound) := by
  rw [step]
  by_cases hup : name = upName
  · simp [hup]
  rw [if_neg hup]
  by_cases hsize : greatestNameSize < name.length
  · simp [hup, hsize, Nat.not_le.2 hsize, eq_comm]
  · rw [if_neg hsize]
    cases Entries.get? name entries <;> simp [hup, hsize, Nat.not_lt.1 hsize, eq_comm]

/-- A step fails exactly where something hinders it, whatever lies around the place. -/
theorem step_error_iff : step name place above = .error fault ↔ Hinders name place fault := by
  constructor
  · intro h
    cases place with
    | file f =>
      cases h
      exact .file f
    | closed fault' =>
      cases h
      exact .closed fault
    | directory entries =>
      obtain ⟨hup, ⟨hsize, rfl⟩ | ⟨hsize, hmissing, rfl⟩⟩ := step_directory_error_iff.1 h
      · exact .tooLong entries hup hsize
      · exact .missing hup hsize hmissing
  · intro h
    cases h with
    | file | closed => rfl
    | tooLong entries hup hsize => exact step_directory_error_iff.2 ⟨hup, Or.inl ⟨hsize, rfl⟩⟩
    | missing hup hsize hmissing => exact step_directory_error_iff.2 ⟨hup, Or.inr ⟨hsize, hmissing, rfl⟩⟩

/-- A plain name leads to what lies under it in a directory. -/
theorem step_of_plain {entries : List (FileName × FileTree)} (hname : IsPlainName name)
    (hget : Entries.get? name entries = some place) :
    step name (directory entries) above = .ok (place, directory entries :: above) := by
  rw [step, if_neg hname.1, if_neg (Nat.not_lt.2 hname.2), hget]

/-- After names that lead to a place, the rest is followed from there. -/
theorem follow_append (passed : List FileName) : ∀ {place above}, follow passed place above = .ok place' →
    ∃ above', ∀ names, follow (passed ++ names) place above = follow names place' above' := by
  induction passed with
  | nil =>
    intro place above h
    cases h
    exact ⟨above, fun _ => rfl⟩
  | cons name passed ih =>
    intro place above h
    obtain ⟨x, hstep, h⟩ := Outcome.bind_ok_iff.1 h
    obtain ⟨above', hrest⟩ := ih h
    refine ⟨above', fun names => ?_⟩
    rw [List.cons_append, follow, hstep]
    exact hrest names

/-- Following names fails exactly where one of them, from where those before it lead, is hindered. -/
theorem follow_error_iff (names : List FileName) : ∀ {place above}, follow names place above = .error fault ↔
    ∃ passed name rest place', names = passed ++ name :: rest ∧ follow passed place above = .ok place' ∧
      Hinders name place' fault := by
  induction names with
  | nil => simp [follow]
  | cons name names ih =>
    intro place above
    rw [follow, Outcome.bind_error_iff, step_error_iff]
    constructor
    · rintro (h | ⟨x, hstep, h⟩)
      · exact ⟨[], name, names, place, rfl, rfl, h⟩
      · obtain ⟨passed, name', rest, place', rfl, hpassed, h⟩ := ih.1 h
        refine ⟨name :: passed, name', rest, place', rfl, ?_, h⟩
        rw [follow, hstep]
        exact hpassed
    · rintro ⟨passed, name', rest, place', hnames, hpassed, h⟩
      cases passed with
      | nil =>
        obtain ⟨rfl, rfl⟩ := List.cons.inj hnames
        cases hpassed
        exact Or.inl h
      | cons name'' passed =>
        obtain ⟨rfl, rfl⟩ := List.cons.inj hnames
        obtain ⟨x, hstep, hpassed⟩ := Outcome.bind_ok_iff.1 hpassed
        exact Or.inr ⟨x, hstep, ih.2 ⟨passed, name', rest, place', rfl, hpassed, h⟩⟩

/-- Plain names from an open place lead to what stands at the end of them, or to a fault that means that nothing is there. -/
theorem follow_of_plain (names : List FileName) : ∀ place above, place.IsOpen → (∀ name ∈ names, IsPlainName name) →
    (∃ place', at? names place = some place' ∧ follow names place above = .ok place') ∨
      (at? names place = none ∧ ∃ fault, follow names place above = .error fault ∧ fault.meansAbsence = true) := by
  induction names with
  | nil => exact fun _ _ _ _ => Or.inl ⟨_, rfl, rfl⟩
  | cons name names ih =>
    intro place above hopen h
    obtain ⟨hname, hnames⟩ := List.forall_mem_cons.1 h
    cases place with
    | file f => exact Or.inr ⟨rfl, .notDirectory, rfl, by decide⟩
    | closed fault => exact absurd rfl (hopen [] fault)
    | directory entries =>
      rw [at?, follow, FileTree.entries]
      cases hget : Entries.get? name entries with
      | none =>
        rw [step_error_iff.2 (.missing hname.1 hname.2 hget)]
        exact Or.inr ⟨rfl, .notFound, rfl, by decide⟩
      | some child =>
        have hchild : Entries.get? name (directory entries).entries = some child := hget
        rw [step_of_plain hname hget]
        exact ih child _ (hopen.child hchild) hnames

/-! ## Sizes -/

/-- The number of bytes of names that each stand behind a slash. -/
def sizeBelow : List FileName → Nat
  | [] => 0
  | name :: names => name.length + 1 + sizeBelow names

/-- Between slashes all names but the first stand behind one. -/
theorem length_intercalate_cons (name : FileName) (names : List FileName) :
    ([CodePoint.slash].intercalate (name :: names)).length = name.length + sizeBelow names := by
  induction names generalizing name with
  | nil => simp [sizeBelow]
  | cons name' names ih =>
    rw [List.intercalate_cons_cons, List.length_append, List.length_append, ih, sizeBelow, List.length_singleton]
    omega

theorem sizeBelow_append (names names' : List FileName) : sizeBelow (names ++ names') = sizeBelow names + sizeBelow names' := by
  induction names with
  | nil => rw [List.nil_append, sizeBelow, Nat.zero_add]
  | cons name names ih => rw [List.cons_append, sizeBelow, sizeBelow, ih, ← Nat.add_assoc]

/-- Names below a path make it longer by their lengths and a slash for each. -/
theorem pathSize_append_le (start : PathStart) (names names' : List FileName) :
    pathSize start (names ++ names') ≤ pathSize start names + sizeBelow names' := by
  unfold pathSize
  cases names with
  | nil =>
    cases names' with
    | nil => simp
    | cons name' names' =>
      rw [List.nil_append, length_intercalate_cons, sizeBelow]
      omega
  | cons name names =>
    rw [List.cons_append, length_intercalate_cons, length_intercalate_cons, sizeBelow_append]
    omega

end FileTree

/-! ## Paths -/

namespace FileSystem

variable {files : FileSystem} {p : Path} {place : FileTree} {names : List FileName} {fault : FileFault} {f : File}

/-- Where a path leads whose parts have names: where these are followed to, unless it is too long. -/
theorem find_of_names (files : FileSystem) (h : FileName.ofParts? p.parts = some names) :
    files.find p =
      if FileTree.greatestPathSize < FileTree.pathSize p.start names then .error .nameTooLong
      else FileTree.follow names (files.origin p.start).1 (files.origin p.start).2 := by
  rw [find, h]

/-- A file is at a path that leads to it. -/
theorem file?_eq_some_iff : files.file? p = .ok (some f) ↔ p.holdsNull = false ∧ files.find p = .ok (.file f) := by
  rw [file?]
  cases p.holdsNull with
  | true => simp
  | false =>
    cases hfind : files.find p with
    | error fault => cases hfault : fault.meansAbsence <;> simp [hfault]
    | ok place => cases place <;> simp

/-- No file is at a path with a NUL, at one that leads to something else, and at one with a fault that means so. -/
theorem file?_eq_none_iff : files.file? p = .ok none ↔ p.holdsNull = true ∨
    (∃ place, files.find p = .ok place ∧ ∀ f, place ≠ .file f) ∨
      ∃ fault, files.find p = .error fault ∧ fault.meansAbsence = true := by
  rw [file?]
  cases p.holdsNull with
  | true => simp
  | false =>
    cases hfind : files.find p with
    | error fault => cases hfault : fault.meansAbsence <;> simp [hfault]
    | ok place => cases place <;> simp

/-- Why the file system does not say whether a file is at a path. -/
inductive Refuses (files : FileSystem) (p : Path) : FileFault → Prop where
  /-- The path is too long as a whole. -/
  | pathTooLong {names : List FileName} : p.holdsNull = false → FileName.ofParts? p.parts = some names →
      FileTree.greatestPathSize < FileTree.pathSize p.start names → Refuses files p .nameTooLong
  /-- A directory on the way is asked for a name that is too long. -/
  | nameTooLong {passed rest : List FileName} {name : FileName} {entries : List (FileName × FileTree)} :
      p.holdsNull = false → FileName.ofParts? p.parts = some (passed ++ name :: rest) →
      FileTree.follow passed (files.origin p.start).1 (files.origin p.start).2 = .ok (.directory entries) →
      name ≠ FileTree.upName → FileTree.greatestNameSize < name.length → Refuses files p .nameTooLong
  /-- A directory on the way is closed, with a fault that does not mean that nothing is there. -/
  | closed {passed rest : List FileName} {name : FileName} {fault : FileFault} :
      p.holdsNull = false → FileName.ofParts? p.parts = some (passed ++ name :: rest) →
      FileTree.pathSize p.start (passed ++ name :: rest) ≤ FileTree.greatestPathSize →
      FileTree.follow passed (files.origin p.start).1 (files.origin p.start).2 = .ok (.closed fault) →
      fault.meansAbsence = false → Refuses files p fault

/-- A path that the file system refuses ends in a fault that does not mean that nothing is there. -/
theorem file?_error_iff_find : files.file? p = .error fault ↔
    p.holdsNull = false ∧ files.find p = .error fault ∧ fault.meansAbsence = false := by
  rw [file?]
  cases p.holdsNull with
  | true => simp
  | false =>
    simp only [Bool.false_eq_true, if_false, true_and]
    cases files.find p with
    | ok place => cases place <;> simp
    | error fault' =>
      dsimp only
      split
      · next habsence =>
        refine iff_of_false nofun ?_
        rintro ⟨heq, hfalse⟩
        cases heq
        cases habsence.symm.trans hfalse
      · next habsence =>
        constructor
        · intro h
          cases h
          exact ⟨rfl, by simpa using habsence⟩
        · rintro ⟨heq, _⟩
          cases heq
          rfl

/-- The file system refuses a path exactly for its length, for that of a name, or for a closed directory on the way. -/
theorem file?_error_iff : files.file? p = .error fault ↔ files.Refuses p fault := by
  rw [file?_error_iff_find]
  constructor
  · rintro ⟨hnull, hfind, habsence⟩
    cases hnames : FileName.ofParts? p.parts with
    | none =>
      rw [find, hnames] at hfind
      cases hfind
      cases habsence
    | some names =>
      rw [find_of_names files hnames] at hfind
      split at hfind
      · next hsize =>
        cases hfind
        exact .pathTooLong hnull hnames hsize
      · next hsize =>
        obtain ⟨passed, name, rest, place, rfl, hpassed, hhinders⟩ := (FileTree.follow_error_iff names).1 hfind
        cases hhinders with
        | file => cases habsence
        | closed => exact .closed hnull hnames (Nat.not_lt.1 hsize) hpassed habsence
        | tooLong entries hup hsize => exact .nameTooLong hnull hnames hpassed hup hsize
        | missing => cases habsence
  · intro h
    cases h with
    | pathTooLong hnull hnames hsize =>
      refine ⟨hnull, ?_, by decide⟩
      rw [find_of_names files hnames, if_pos hsize]
    | nameTooLong hnull hnames hpassed hup hsize =>
      refine ⟨hnull, ?_, by decide⟩
      rw [find_of_names files hnames]
      split
      · rfl
      · exact (FileTree.follow_error_iff _).2 ⟨_, _, _, _, rfl, hpassed, .tooLong _ hup hsize⟩
    | closed hnull hnames hsize hpassed habsence =>
      refine ⟨hnull, ?_, habsence⟩
      rw [find_of_names files hnames, if_neg (Nat.not_lt.2 hsize)]
      exact (FileTree.follow_error_iff _).2 ⟨_, _, _, _, rfl, hpassed, .closed _⟩

/-- A path that the file system takes: it is short enough, as a whole and in each name, and no directory on the way is closed. -/
structure Admits (files : FileSystem) (p : Path) : Prop where
  sizes : ∀ names, FileName.ofParts? p.parts = some names → FileTree.pathSize p.start names ≤ FileTree.greatestPathSize ∧
    ∀ name ∈ names, name.length ≤ FileTree.greatestNameSize
  unclosed : ∀ names passed fault, FileName.ofParts? p.parts = some names → passed <+: names →
    FileTree.follow passed (files.origin p.start).1 (files.origin p.start).2 ≠ .ok (.closed fault)

/-- A path that the file system takes is not refused. -/
theorem Admits.not_refuses (h : files.Admits p) : ¬ files.Refuses p fault := by
  intro hrefuses
  cases hrefuses with
  | pathTooLong _ hnames hsize => exact absurd (h.sizes _ hnames).1 (Nat.not_le.2 hsize)
  | nameTooLong _ hnames _ _ hsize => exact absurd ((h.sizes _ hnames).2 _ (by simp)) (Nat.not_le.2 hsize)
  | closed _ hnames _ hpassed => exact h.unclosed _ _ _ hnames (List.prefix_append _ _) hpassed

/-- Below a path that leads to a place, names are followed from there. -/
theorem find_below {root : Path} {parts : List Text} (hroot : files.find root = .ok place)
    (hparts : FileName.ofParts? parts = some names)
    (hroom : ∀ names', FileName.ofParts? root.parts = some names' →
      FileTree.pathSize root.start (names' ++ names) ≤ FileTree.greatestPathSize) :
    ∃ above, files.find ⟨root.start, root.parts ++ parts⟩ = FileTree.follow names place above := by
  cases hnames : FileName.ofParts? root.parts with
  | none =>
    rw [find, hnames] at hroot
    cases hroot
  | some rootNames =>
    rw [find_of_names files hnames] at hroot
    split at hroot
    · cases hroot
    · obtain ⟨above, hrest⟩ := FileTree.follow_append rootNames hroot
      have hfind := find_of_names files (p := ⟨root.start, root.parts ++ parts⟩) (FileName.ofParts?_append hnames hparts)
      rw [if_neg (Nat.not_lt.2 (hroom rootNames hnames))] at hfind
      exact ⟨above, hfind.trans (hrest names)⟩

/-- Below a path that leads to an open place, the file that stands at the end of plain names is there, and else none is. -/
theorem file?_below {root : Path} {parts : List Text} (hroot : files.find root = .ok place) (hopen : place.IsOpen)
    (hparts : FileName.ofParts? parts = some names)
    (hroom : ∀ names', FileName.ofParts? root.parts = some names' →
      FileTree.pathSize root.start (names' ++ names) ≤ FileTree.greatestPathSize)
    (hplain : ∀ name ∈ names, FileTree.IsPlainName name) (hnull : Path.holdsNull ⟨root.start, root.parts ++ parts⟩ = false) :
    (∀ f, FileTree.at? names place = some (.file f) → files.file? ⟨root.start, root.parts ++ parts⟩ = .ok (some f)) ∧
      (FileTree.at? names place = none → files.file? ⟨root.start, root.parts ++ parts⟩ = .ok none) := by
  obtain ⟨above, hfind⟩ := find_below hroot hparts hroom
  rcases FileTree.follow_of_plain names place above hopen hplain with ⟨place', hat, hfollow⟩ | ⟨hat, fault, hfollow, hfault⟩
  · refine ⟨fun f h => file?_eq_some_iff.2 ⟨hnull, ?_⟩, fun h => nomatch hat.symm.trans h⟩
    obtain rfl := Option.some.inj (hat.symm.trans h)
    exact hfind.trans hfollow
  · refine ⟨fun f h => (nomatch hat.symm.trans h), fun _ => file?_eq_none_iff.2 (Or.inr (Or.inr ⟨fault, ?_, hfault⟩))⟩
    exact hfind.trans hfollow

/-- Where a part below has no name, no file is there. -/
theorem file?_below_of_nameless (files : FileSystem) (root : Path) {parts : List Text} (h : FileName.ofParts? parts = none) :
    files.file? ⟨root.start, root.parts ++ parts⟩ = .ok none := by
  refine file?_eq_none_iff.2 (Or.inr (Or.inr ⟨.notFound, ?_, by decide⟩))
  rw [find, FileName.ofParts?_append_eq_none root.parts h]

end FileSystem

end Descriptors
