import Descriptors.Layout
import Descriptors.Proofs.FileSystem
import Descriptors.Proofs.Json.RoundTrip
import Descriptors.Proofs.Text.Pieces
import Mathlib.Data.List.Permutation
import Mathlib.Data.List.Sort

/-!
# Layouts

A layout places the files of descriptors below its root, and is given as a file itself.
-/

/-! ## Where descriptors lie

A text without a slash is a path of one part, so in the layout that is taken where only the root is given (`Layout.standard`) a
descriptor with a plain name lies two parts below the root (`Layout.file_standard`), in the directory of its kind, and the main
configuration lies one part below (`Layout.mainPath_standard`).
-/

namespace Descriptors

/-- A text without a slash is a path of one part, unless it is empty or a single dot. -/
theorem Path.ofText_of_part {t : Text} (hne : t ≠ []) (hslash : CodePoint.slash ∉ t) (hhere : t ≠ here) :
    Path.ofText t = ⟨.current, [t]⟩ := by
  have hstart : startOf t = .current := by
    obtain ⟨c, rest, rfl⟩ := List.exists_cons_of_ne_nil hne
    have hc : (c == CodePoint.slash) = false := beq_eq_false_iff_ne.2 fun e => hslash (e ▸ List.mem_cons_self)
    rw [startOf, List.takeWhile_cons, hc]
    rfl
  rw [ofText, hstart, Text.splitAt_of_notMem hslash]
  simp [hne, hhere]

namespace Layout

/-- The layout below a root in which nothing else is changed. -/
def standard (root : Path) : Layout := { root := root }

variable {root : Path} {k k' : Kind} {name : Text}

/-- The suffix of files in the standard layout. -/
abbrev standardSuffix : Text := (standard ⟨.current, []⟩).suffix

/-- The directory of a kind in the standard layout. -/
abbrev kindDirectory (k : Kind) : Text := (standard ⟨.current, []⟩).directoryName k

/-- The file of the main configuration in the standard layout. -/
abbrev standardMainFile : Text := (standard ⟨.current, []⟩).mainFile

/-- The parts of the file of a descriptor below the root. -/
def partsBelow (k : Kind) (name : Text) : List Text := [kindDirectory k, name ++ standardSuffix]

/-- A descriptor whose name has no slash lies in the directory of its kind. -/
theorem file_standard (hslash : CodePoint.slash ∉ name) :
    (standard root).file k name = ⟨root.start, root.parts ++ partsBelow k name⟩ := by
  have hdirectory : Path.ofText (kindDirectory k) = ⟨.current, [kindDirectory k]⟩ := by cases k <;> decide
  have hsuffix : CodePoint.slash ∉ standardSuffix ∧ standardSuffix.length = 5 := by decide
  have hhere : name ++ standardSuffix ≠ Path.here := by
    intro h
    have hlength := congrArg List.length h
    rw [List.length_append, hsuffix.2] at hlength
    change name.length + 5 = 1 at hlength
    omega
  have hfile := Path.ofText_of_part (List.append_ne_nil_of_right_ne_nil name (by decide : standardSuffix ≠ []))
    (by simp [hslash, hsuffix.1]) hhere
  change (Path.join (root.join (Path.ofText (kindDirectory k))) (Path.ofText (name ++ standardSuffix))) = _
  rw [hdirectory, hfile, partsBelow]
  simp [Path.join]

/-- The main configuration lies below the root. -/
theorem mainPath_standard : (standard root).mainPath = ⟨root.start, root.parts ++ [standardMainFile]⟩ := by
  have hfile : Path.ofText standardMainFile = ⟨.current, [standardMainFile]⟩ := by decide
  change root.join (Path.ofText standardMainFile) = _
  rw [hfile]
  rfl

/-! ### Names of files -/

/-- The name of the file of a descriptor, where it has one. -/
def fileName? (name : Text) : Option FileName := FileName.ofText? (name ++ standardSuffix)

/-- A part of a path that is the same in bytes as in code points, and plain. -/
structure IsFixedPart (part : Text) : Prop where
  name : FileName.ofText? part = some part
  plain : FileTree.IsPlainName part
  noNull : CodePoint.null ∉ part

theorem isFixedPart_kindDirectory (k : Kind) : IsFixedPart (kindDirectory k) := by
  cases k <;> exact ⟨by decide, ⟨by decide, by decide⟩, by decide⟩

theorem isFixedPart_mainFile : IsFixedPart standardMainFile := ⟨by decide, ⟨by decide, by decide⟩, by decide⟩

/-- The parts of the file of a descriptor have names where its own file name is one. -/
theorem ofParts?_partsBelow (k : Kind) (name : Text) :
    FileName.ofParts? (partsBelow k name) = (fileName? name).map fun f => [kindDirectory k, f] := by
  rw [partsBelow, FileName.ofParts?, List.mapM_cons, (isFixedPart_kindDirectory k).name, List.mapM_cons, ← fileName?]
  cases fileName? name <;> rfl

/-- The part of the main configuration has its name. -/
theorem ofParts?_main : FileName.ofParts? [standardMainFile] = some [standardMainFile] := by
  rw [FileName.ofParts?, List.mapM_cons, isFixedPart_mainFile.name]
  rfl

/-- A NUL stands in the path of a descriptor where it stands in the name. -/
theorem any_null_partsBelow (k : Kind) (name : Text) :
    (partsBelow k name).any (·.contains CodePoint.null) = name.contains CodePoint.null := by
  have hsuffix : standardSuffix.contains CodePoint.null = false := by decide
  have hdirectory : (kindDirectory k).contains CodePoint.null = false := by simpa using (isFixedPart_kindDirectory k).noNull
  rw [partsBelow, List.any_cons, List.any_cons, List.any_nil, hdirectory, List.contains_append, hsuffix, Bool.or_false,
    Bool.or_false, Bool.false_or]

/-- No directory has more than eleven bytes. -/
theorem length_kindDirectory_le (k : Kind) : (kindDirectory k).length ≤ 11 := by
  cases k <;> decide

/-- No directory has the name of the main file. -/
theorem kindDirectory_ne_mainFile (k : Kind) : kindDirectory k ≠ standardMainFile := by
  cases k <;> decide

/-- Every kind has a directory of its own. -/
theorem kindDirectory_injective (h : kindDirectory k = kindDirectory k') : k = k' := by
  revert h
  cases k <;> cases k' <;> decide

/-- The name of a file is longer than its suffix, so it does not lead up. -/
theorem ne_upName_of_fileName? {f : FileName} (h : fileName? name = some f) : f ≠ FileTree.upName := by
  rw [fileName?, FileName.ofText?_append] at h
  obtain ⟨front, _, h⟩ := Option.bind_eq_some_iff.1 h
  obtain ⟨behind, hbehind, rfl⟩ := Option.map_eq_some_iff.1 h
  have hsuffix : FileName.ofText? standardSuffix = some standardSuffix := by decide
  cases hsuffix.symm.trans hbehind
  intro hup
  have hlength := congrArg List.length hup
  rw [List.length_append] at hlength
  have hfive : List.length standardSuffix = 5 := by decide
  have htwo : FileTree.upName.length = 2 := by decide
  omega

end Layout

end Descriptors

/-! ## Layouts that are given as files

A file with an object gives a layout exactly when the object is well formed: the root is there, every field that is there is a
string, and every key is that of a field. Otherwise all that is wrong is listed (`Layout.ListsErrors`), in two orders, that of the
declaration for the fields and that of the object for the other keys; there is one such list only (`Layout.ListsErrors.eq`). Where a
key holds a surrogate, that alone is told. In the layout of a well-formed object every field is as given, or as in the standard
layout, but that a relative root is followed from the directory of the file (`Layout.IsGiven`).
-/

namespace Descriptors

/-! ### Names below a path -/

/-- A name of one part that does not lead away from where it is followed: it has a code point and no slash, and is neither one dot
nor two. -/
structure Path.IsPlainPart (name : Text) : Prop where
  ne_nil : name ≠ []
  slash_notMem : CodePoint.slash ∉ name
  ne_here : name ≠ here
  ne_up : name ≠ up

/-- A plain name lies right below the path from which it is followed. -/
theorem Path.join_of_plain {name : Text} (h : IsPlainPart name) (p : Path) :
    p.join (ofText name) = ⟨p.start, p.parts ++ [name]⟩ := by
  rw [ofText_of_part h.ne_nil h.slash_notMem h.ne_here, join]

namespace Layout

variable {object : Entries Json} {f : Field} {error : FieldError} {l : Layout} {path : Path} {t : Text}

/-! ### What can be wrong -/

/-- A key that is that of no field. -/
def Undeclared (key : Text) : Prop := ∀ f : Field, f.key ≠ key

/-- What is wrong with a field. -/
inductive Offends (object : Entries Json) : Field → FieldProblem → Prop where
  /-- The root is not given. -/
  | missing : Field.root.key ∉ object.keys → Offends object .root .missing
  /-- The root is given as something other than a string. -/
  | notPath {v : Json} : object.get? Field.root.key = some v → (∀ s, v ≠ .string s) → Offends object .root .notPath
  /-- Another field is given as something other than a string. -/
  | notString {f : Field} {v : Json} : f ≠ .root → object.get? f.key = some v → (∀ s, v ≠ .string s) →
      Offends object f .notString

/-- The ways in which an object gives no layout. -/
inductive Malformed (object : Entries Json) : Prop where
  /-- The root is not given. -/
  | rootMissing : Field.root.key ∉ object.keys → Malformed object
  /-- A field is given as something other than a string. -/
  | notString {f : Field} {v : Json} : object.get? f.key = some v → (∀ s, v ≠ .string s) → Malformed object
  /-- A key is that of no field. -/
  | undeclared {key : Text} : key ∈ object.keys → Undeclared key → Malformed object

/-- The key of an error stands before that of another in a list of keys. -/
def Before (keys : List Text) (e e' : FieldError) : Prop :=
  ∃ key key', e.key? = some key ∧ e'.key? = some key' ∧ keys.idxOf key < keys.idxOf key'

/-- Two lists hold exactly what is wrong with an object: the first one error for each field that offends, in the order of the
declaration, the second one error for each key that is that of no field, in the order of the object. -/
structure ListsErrors (object : Entries Json) (declared undeclared : List FieldError) : Prop where
  declared_ordered : declared.Pairwise (Before (fields.map Field.key))
  mem_declared_iff : ∀ error, error ∈ declared ↔ ∃ f, error.key? = some f.key ∧ Offends object f error.problem
  undeclared_ordered : undeclared.Pairwise (Before object.keys)
  mem_undeclared_iff : ∀ error, error ∈ undeclared ↔
    ∃ key ∈ object.keys, Undeclared key ∧ error = ⟨some key, .undeclared⟩

/-- A key of an object holds a surrogate. -/
def HasUnreadableKey (object : Entries Json) : Prop := ∃ key ∈ object.keys, ∃ c ∈ key, c.isSurrogate = true

/-- The keys of two errors stand in one order only. -/
theorem Before.not_before {keys : List Text} {e e' : FieldError} (h : Before keys e e') : ¬ Before keys e' e := by
  obtain ⟨key, key', hkey, hkey', hlt⟩ := h
  rintro ⟨_, _, h', h, hlt'⟩
  cases hkey.symm.trans h
  cases hkey'.symm.trans h'
  exact Nat.lt_asymm hlt hlt'

instance (keys : List Text) : Std.Irrefl (Before keys) := ⟨fun _ h => h.not_before h⟩

instance (keys : List Text) : Std.Antisymm (Before keys) := ⟨fun _ _ h h' => absurd h' h.not_before⟩

/-- Only one pair of lists holds exactly what is wrong with an object. -/
theorem ListsErrors.eq {declared declared' undeclared undeclared' : List FieldError}
    (h : ListsErrors object declared undeclared) (h' : ListsErrors object declared' undeclared') :
    declared = declared' ∧ undeclared = undeclared' := by
  constructor
  · refine h.declared_ordered.eq_of_mem_iff h'.declared_ordered fun error => ?_
    rw [h.mem_declared_iff, h'.mem_declared_iff]
  · refine h.undeclared_ordered.eq_of_mem_iff h'.undeclared_ordered fun error => ?_
    rw [h.mem_undeclared_iff, h'.mem_undeclared_iff]

/-! ### What is found to be wrong -/

/-- Every field is declared. -/
theorem mem_fields (f : Field) : f ∈ fields := by
  cases f <;> decide

/-- A key is declared when a field has it. -/
theorem isDeclared_eq_false_iff {key : Text} : isDeclared key = false ↔ Undeclared key := by
  simp [isDeclared, Undeclared, mem_fields]

/-- Where no key comes twice, each stands before those behind it. -/
theorem pairwise_idxOf {keys : List Text} (h : keys.Nodup) : keys.Pairwise fun k k' => keys.idxOf k < keys.idxOf k' := by
  rw [List.pairwise_iff_getElem]
  intro i j hi hj hij
  rwa [h.idxOf_getElem, h.idxOf_getElem]

/-- What is wrong with a field in terms of the value under its key. -/
theorem offends_iff {problem : FieldProblem} : Offends object f problem ↔
    (f = .root ∧ object.get? f.key = none ∧ problem = .missing) ∨
      ∃ v, object.get? f.key = some v ∧ (∀ s, v ≠ .string s) ∧ problem = if f = .root then .notPath else .notString := by
  constructor
  · intro h
    cases h with
    | missing hkey => exact Or.inl ⟨rfl, Entries.get?_eq_none_iff.2 hkey, rfl⟩
    | notPath hv hs => exact Or.inr ⟨_, hv, hs, rfl⟩
    | notString hf hv hs => exact Or.inr ⟨_, hv, hs, by rw [if_neg hf]⟩
  · rintro (⟨rfl, hkey, rfl⟩ | ⟨v, hv, hs, rfl⟩)
    · exact .missing (Entries.get?_eq_none_iff.1 hkey)
    · by_cases hf : f = .root
      · subst hf
        exact .notPath hv hs
      · rw [if_neg hf]
        exact .notString hf hv hs

/-- The check of a field finds what is wrong with it. -/
theorem fieldError?_eq_some_iff :
    fieldError? object f = some error ↔ error.key? = some f.key ∧ Offends object f error.problem := by
  obtain ⟨key?, problem⟩ := error
  rw [offends_iff, fieldError?]
  cases object.get? f.key with
  | none => by_cases hf : f = .root <;> simp [hf, eq_comm]
  | some v => cases v <;> simp [eq_comm]

/-- The errors of an object, those of the fields and those of other keys, are all that is wrong with it. -/
theorem listsErrors (hkeys : object.keys.Nodup) :
    ListsErrors object (fields.filterMap (fieldError? object))
      ((object.filter fun e => !isDeclared e.1).map fun e => ⟨some e.1, .undeclared⟩) where
  declared_ordered := by
    have hordered := List.pairwise_map.1 (pairwise_idxOf (by decide : (fields.map Field.key).Nodup))
    refine hordered.filterMap _ fun f f' hf error herror error' herror' => ?_
    exact ⟨_, _, (fieldError?_eq_some_iff.1 herror).1, (fieldError?_eq_some_iff.1 herror').1, hf⟩
  mem_declared_iff error := by
    simp [mem_fields, fieldError?_eq_some_iff]
  undeclared_ordered := by
    have hordered := List.pairwise_map.1 (pairwise_idxOf hkeys)
    exact List.pairwise_map.2 ((hordered.filter _).imp fun h => ⟨_, _, rfl, rfl, h⟩)
  mem_undeclared_iff error := by
    rw [List.mem_map]
    constructor
    · rintro ⟨e, he, rfl⟩
      obtain ⟨hmem, hnone⟩ := List.mem_filter.1 he
      exact ⟨e.1, List.mem_map_of_mem hmem, isDeclared_eq_false_iff.1 (by simpa using hnone), rfl⟩
    · rintro ⟨key, hkey, hnone, rfl⟩
      obtain ⟨e, he, rfl⟩ := List.mem_map.1 hkey
      exact ⟨e, List.mem_filter.2 ⟨he, by simp [isDeclared_eq_false_iff.2 hnone]⟩, rfl⟩

/-- A field offends in a malformed object only. -/
theorem Offends.malformed {problem : FieldProblem} (h : Offends object f problem) : Malformed object := by
  cases h with
  | missing hkey => exact .rootMissing hkey
  | notPath hv hs => exact .notString hv hs
  | notString _ hv hs => exact .notString hv hs

/-- A field that is given as something other than a string offends. -/
theorem exists_offends {v : Json} (hv : object.get? f.key = some v) (hs : ∀ s, v ≠ .string s) :
    ∃ problem, Offends object f problem :=
  ⟨_, offends_iff.2 (Or.inr ⟨v, hv, hs, rfl⟩)⟩

/-- There is something wrong exactly with malformed objects. -/
theorem ListsErrors.eq_nil_iff {declared undeclared : List FieldError} (h : ListsErrors object declared undeclared) :
    declared ++ undeclared = [] ↔ ¬ Malformed object := by
  rw [List.append_eq_nil_iff]
  constructor
  · rintro ⟨rfl, rfl⟩ hmalformed
    have hfield : ∀ f problem, ¬ Offends object f problem := fun f problem hf =>
      List.not_mem_nil ((h.mem_declared_iff ⟨some f.key, problem⟩).2 ⟨f, rfl, hf⟩)
    cases hmalformed with
    | rootMissing hkey => exact hfield _ _ (.missing hkey)
    | notString hv hs =>
      obtain ⟨problem, hoffends⟩ := exists_offends hv hs
      exact hfield _ _ hoffends
    | @undeclared key hkey hnone =>
      exact List.not_mem_nil ((h.mem_undeclared_iff ⟨some key, .undeclared⟩).2 ⟨key, hkey, hnone, rfl⟩)
  · intro hwell
    constructor
    · refine List.eq_nil_iff_forall_not_mem.2 fun error herror => ?_
      obtain ⟨f, _, hoffends⟩ := (h.mem_declared_iff error).1 herror
      exact hwell hoffends.malformed
    · refine List.eq_nil_iff_forall_not_mem.2 fun error herror => ?_
      obtain ⟨key, hkey, hnone, _⟩ := (h.mem_undeclared_iff error).1 herror
      exact hwell (.undeclared hkey hnone)

/-- A key with a surrogate is found. -/
theorem hasUnreadableKey_iff : hasUnreadableKey object = true ↔ HasUnreadableKey object := by
  simp [hasUnreadableKey, HasUnreadableKey, Entries.keys]

/-- No field has a key with a surrogate. -/
theorem HasUnreadableKey.malformed (h : HasUnreadableKey object) : Malformed object := by
  have hfields : ∀ f : Field, ∀ c ∈ f.key, c.isSurrogate = false := by
    intro f
    cases f <;> decide
  obtain ⟨key, hkey, c, hc, hsurrogate⟩ := h
  refine .undeclared hkey fun f hf => ?_
  subst hf
  rw [hfields f c hc] at hsurrogate
  cases hsurrogate

/-- What is listed of an object: a key with a surrogate alone, or else all that is wrong. -/
theorem errors_spec (hkeys : object.keys.Nodup) :
    HasUnreadableKey object ∧ errors object = [⟨none, .unreadableKey⟩] ∨
      ¬ HasUnreadableKey object ∧ ∃ declared undeclared, errors object = declared ++ undeclared ∧
        ListsErrors object declared undeclared := by
  rw [errors, ← hasUnreadableKey_iff]
  by_cases h : hasUnreadableKey object = true
  · rw [if_pos h]
    exact Or.inl ⟨h, rfl⟩
  · rw [if_neg h]
    exact Or.inr ⟨h, _, _, rfl, listsErrors hkeys⟩

/-- Something is listed exactly of malformed objects. -/
theorem errors_eq_nil_iff (hkeys : object.keys.Nodup) : errors object = [] ↔ ¬ Malformed object := by
  rcases errors_spec hkeys with ⟨hkey, herrors⟩ | ⟨_, declared, undeclared, herrors, hlists⟩
  · rw [herrors]
    exact iff_of_false (List.cons_ne_nil _ _) fun hwell => hwell hkey.malformed
  · rw [herrors]
    exact hlists.eq_nil_iff

/-- An object gives its errors where there are any, else the layout of its fields. -/
theorem ofObject_eq (object : Entries Json) :
    errors object = [] ∧ ofObject object = .ok (ofFields object) ∨
      errors object ≠ [] ∧ ofObject object = .error (errors object) := by
  unfold ofObject
  cases errors object with
  | nil => exact Or.inl ⟨rfl, rfl⟩
  | cons error errors => exact Or.inr ⟨List.cons_ne_nil _ _, rfl⟩

/-! ### What is given -/

/-- The text of a field other than the root. -/
def text? (l : Layout) : Field → Option Text
  | .root => none
  | .componentsDirectory => some l.componentsDirectory
  | .dataFormatsDirectory => some l.dataFormatsDirectory
  | .languagesDirectory => some l.languagesDirectory
  | .modelsDirectory => some l.modelsDirectory
  | .othersDirectory => some l.othersDirectory
  | .suffix => some l.suffix
  | .mainFile => some l.mainFile
  | .encoding => some l.encoding

/-- The layout that an object gives in a file at a path. -/
structure IsGiven (path : Path) (object : Entries Json) (l : Layout) : Prop where
  /-- The root is the path that is given, followed from the directory of the file where it is relative. -/
  root : ∃ given, object.get? Field.root.key = some (.string given) ∧
    l.root = if (Path.ofText given).isAbsolute then Path.ofText given else path.parent.join (Path.ofText given)
  /-- Every other field is as it is given, if it is. -/
  given : ∀ f s, f ≠ .root → object.get? f.key = some (.string s) → l.text? f = some s
  /-- A field that is not given is as in the standard layout. -/
  byDefault : ∀ f, f ≠ .root → f.key ∉ object.keys → l.text? f = (standard l.root).text? f
  /-- A directory with a plain name lies right below the root. -/
  directory : ∀ k, Path.IsPlainPart (l.directoryName k) →
    l.directory k = ⟨l.root.start, l.root.parts ++ [l.directoryName k]⟩
  /-- The main configuration, if it has a plain name, lies right below the root. -/
  mainPath : Path.IsPlainPart l.mainFile → l.mainPath = ⟨l.root.start, l.root.parts ++ [l.mainFile]⟩

/-- The root alone is followed from a directory. -/
theorem text?_relativeTo (l : Layout) (directory : Path) (f : Field) : (l.relativeTo directory).text? f = l.text? f := by
  unfold relativeTo
  split
  · rfl
  · cases f <;> rfl

/-- A field is read under its key, with the field of the standard layout for a default. -/
theorem text?_ofFields (object : Entries Json) (root : Path) (hf : f ≠ .root) :
    ∃ default, (standard root).text? f = some default ∧ (ofFields object).text? f = some (fieldText object f default) := by
  cases f with
  | root => exact absurd rfl hf
  | _ => exact ⟨_, rfl, rfl⟩

/-- A well-formed object has its root, a string. -/
theorem exists_root (hwell : ¬ Malformed object) : ∃ given, object.get? Field.root.key = some (.string given) := by
  cases hvalue : object.get? Field.root.key with
  | none => exact absurd (.rootMissing (Entries.get?_eq_none_iff.1 hvalue)) hwell
  | some v =>
    by_contra hnone
    refine hwell (.notString hvalue fun s hs => hnone ⟨s, ?_⟩)
    rw [hs]

/-- A well-formed object gives the layout of its fields. -/
theorem isGiven_ofFields (path : Path) (hwell : ¬ Malformed object) :
    IsGiven path object ((ofFields object).relativeTo path.parent) where
  root := by
    obtain ⟨given, hgiven⟩ := exists_root hwell
    have hroot : (ofFields object).root = Path.ofText given := by
      change Path.ofText (fieldText object .root []) = _
      rw [fieldText, hgiven]
    refine ⟨given, hgiven, ?_⟩
    rw [← hroot, relativeTo]
    split <;> rfl
  given f s hf hs := by
    obtain ⟨default, _, htext⟩ := text?_ofFields object path hf
    rw [text?_relativeTo, htext, fieldText, hs]
  byDefault f hf hkey := by
    obtain ⟨default, hdefault, htext⟩ := text?_ofFields object ((ofFields object).relativeTo path.parent).root hf
    rw [text?_relativeTo, htext, hdefault, fieldText, Entries.get?_eq_none_iff.2 hkey]
  directory k hplain := Path.join_of_plain hplain _
  mainPath hplain := Path.join_of_plain hplain _

/-! ### Files -/

/-- A file with an object gives what the object gives. -/
theorem ofFile_of_read (path : Path) (hread : Json.read t = .ok (.object object)) :
    ofFile path t =
      match ofObject object with
      | .ok l => .ok (l.relativeTo path.parent)
      | .error errors => .error (.invalid errors) := by
  cases hobject : ofObject object <;> simp [ofFile, hread, hobject]

/-- A file with an object gives a layout or lists what is wrong. Where a key of the object holds a surrogate, it is refused with that
error alone, which tells no key. Else it is refused exactly with the list of all that is wrong with the object, if there is anything:
one error for each field that offends, in the order of the declaration, and then one for each key that is that of no field, in the
order of the object. So it is refused exactly where the root is missing, a field is given as something other than a string, or a key
is that of no field. Otherwise it gives the layout in which every field is as given or by default, the root followed from the
directory of the file where it is relative; directories and a main configuration with plain names lie right below that root. -/
theorem ofFile_object (path : Path) (t : Text) (object : Entries Json) (hread : Json.read t = .ok (.object object)) :
    (HasUnreadableKey object → ofFile path t = .error (.invalid [⟨none, .unreadableKey⟩])) ∧
    (¬ HasUnreadableKey object → ∀ fault, ofFile path t = .error fault ↔ ∃ declared undeclared,
      fault = .invalid (declared ++ undeclared) ∧ declared ++ undeclared ≠ [] ∧ ListsErrors object declared undeclared) ∧
    ((∃ fault, ofFile path t = .error fault) ↔ Malformed object) ∧
    (¬ Malformed object → ∃ l, ofFile path t = .ok l ∧ IsGiven path object l) := by
  obtain ⟨hkeys, _⟩ := Json.keysDistinct_object_iff.1 (Json.keysDistinct_of_read hread)
  have hspec := errors_spec hkeys
  have hfile := ofFile_of_read path hread
  rcases ofObject_eq object with ⟨hnil, hok⟩ | ⟨hne, herror⟩
  · have hwell : ¬ Malformed object := (errors_eq_nil_iff hkeys).1 hnil
    rw [hok] at hfile
    refine ⟨fun hkey => absurd hkey.malformed hwell, fun _ fault => ?_, ?_, fun _ => ⟨_, hfile, isGiven_ofFields path hwell⟩⟩
    · rw [hfile]
      refine iff_of_false nofun ?_
      rintro ⟨declared, undeclared, _, hsome, hlists⟩
      exact hsome (hlists.eq_nil_iff.2 hwell)
    · rw [hfile]
      exact iff_of_false nofun hwell
  · have hmalformed : Malformed object := by
      by_contra hwell
      exact hne ((errors_eq_nil_iff hkeys).2 hwell)
    rw [herror] at hfile
    refine ⟨fun hkey => ?_, fun hreadable fault => ?_, iff_of_true ⟨_, hfile⟩ hmalformed, fun hwell => absurd hmalformed hwell⟩
    · rcases hspec with ⟨_, herrors⟩ | ⟨hreadable, _⟩
      · rw [hfile, herrors]
      · exact absurd hkey hreadable
    · rcases hspec with ⟨hkey, _⟩ | ⟨_, declared, undeclared, herrors, hlists⟩
      · exact absurd hkey hreadable
      rw [hfile, Except.error.injEq]
      constructor
      · rintro rfl
        exact ⟨declared, undeclared, by rw [herrors], herrors ▸ hne, hlists⟩
      · rintro ⟨declared', undeclared', rfl, _, hlists'⟩
        obtain ⟨rfl, rfl⟩ := hlists.eq hlists'
        rw [herrors]

/-- A file with two fields, the root behind the suffix. -/
def suffixed : Text := "\x7b\"suffix\":\".x\",\"root\":\"d\"\x7d"

/-- The pairs of `suffixed`. -/
def suffixedObject : Entries Json := [("suffix", .string ".x"), ("root", .string "d")]

/-- A file without the root, with two fields that are no strings and a key that is that of no field. -/
def coloured : Text := "\x7b\"colour\":\"blue\",\"encoding\":null,\"suffix\":[]\x7d"

/-- The pairs of `coloured`. -/
def colouredObject : Entries Json := [("colour", .string "blue"), ("encoding", .null), ("suffix", .array [])]

theorem read_suffixed : Json.read suffixed = .ok (.object suffixedObject) := by
  have hwrite : suffixed = Json.write (.object suffixedObject) := by decide
  rw [hwrite]
  refine Json.read_write ?_ ?_ (by decide)
  · rw [Json.KeysDistinct]
    exact ⟨by decide, trivial, trivial, trivial⟩
  · rw [Json.Exact]
    exact ⟨trivial, trivial, trivial⟩

theorem read_coloured : Json.read coloured = .ok (.object colouredObject) := by
  have hwrite : coloured = Json.write (.object colouredObject) := by decide
  rw [hwrite]
  refine Json.read_write ?_ ?_ (by decide)
  · rw [Json.KeysDistinct]
    exact ⟨by decide, trivial, trivial, trivial, trivial⟩
  · rw [Json.Exact]
    exact ⟨trivial, trivial, trivial, trivial⟩

/-- In the directory `conf` the file `suffixed` gives a root below that directory, and the errors of `coloured` are those of three
fields in the order of the declaration and then that of the key. -/
theorem ofFile_object_suffixed :
    Json.read suffixed = .ok (.object suffixedObject) ∧ Json.read coloured = .ok (.object colouredObject) ∧
      (∃ l, ofFile (Path.ofText "conf/catalog.json") suffixed = .ok l ∧ l.suffix = ".x" ∧ l.root = Path.ofText "conf/d" ∧
        l.directory .model = Path.ofText "conf/d/models") ∧
      ofFile (Path.ofText "conf/catalog.json") coloured =
        .error (.invalid [⟨Field.root.key, .missing⟩, ⟨Field.suffix.key, .notString⟩, ⟨Field.encoding.key, .notString⟩,
          ⟨Text.ofString "colour", .undeclared⟩]) := by
  refine ⟨read_suffixed, read_coloured, ?_, ?_⟩
  · have hwell : ¬ Malformed suffixedObject := (listsErrors (by decide)).eq_nil_iff.1 (by decide)
    obtain ⟨_, _, _, hgives⟩ := ofFile_object (Path.ofText "conf/catalog.json") suffixed suffixedObject read_suffixed
    obtain ⟨l, hl, hgiven⟩ := hgives hwell
    obtain ⟨given, hvalue, hroot⟩ := hgiven.root
    obtain rfl : Text.ofString "d" = given := Json.string.inj (Option.some.inj hvalue)
    have hsuffix := hgiven.given .suffix ".x" (by decide) rfl
    have hmodels : l.directoryName .model = "models" :=
      Option.some.inj (hgiven.byDefault .modelsDirectory (by decide) (by decide))
    have hplain : Path.IsPlainPart (l.directoryName .model) := by
      rw [hmodels]
      exact ⟨by decide, by decide, by decide, by decide⟩
    refine ⟨l, hl, Option.some.inj hsuffix, hroot.trans (by decide), ?_⟩
    rw [hgiven.directory .model hplain, hmodels, hroot]
    decide
  · have hlists : ListsErrors colouredObject _ _ := listsErrors (by decide)
    have hreadable : ¬ HasUnreadableKey colouredObject := fun h => absurd (hasUnreadableKey_iff.2 h) (by decide)
    obtain ⟨_, herror, _⟩ := ofFile_object (Path.ofText "conf/catalog.json") coloured colouredObject read_coloured
    exact (herror hreadable _).2 ⟨_, _, by decide, by decide, hlists⟩

/-- A file with a key that is a surrogate and without the root. -/
def surrogateField : Text := "\x7b\"\\ud800\":\"x\"\x7d"

set_option maxRecDepth 20000 in
theorem read_surrogateField : Json.read surrogateField = .ok (.object [([0xD800], .string "x")]) := by
  cbv

/-- Not all that is wrong is always listed: of `surrogateField` only the key is told to be wrong, not that the root is missing. -/
theorem ofFile_object_false :
    ¬ ∀ (path : Path) (t : Text) (object : Entries Json), Json.read t = .ok (.object object) →
      ∀ fault, ofFile path t = .error fault → ∃ declared undeclared,
        fault = .invalid (declared ++ undeclared) ∧ ListsErrors object declared undeclared := by
  intro h
  have hfile : ofFile (Path.ofText "conf/catalog.json") surrogateField = .error (.invalid [⟨none, .unreadableKey⟩]) := by
    rw [ofFile_of_read _ read_surrogateField]
    rfl
  obtain ⟨declared, undeclared, hfault, hlists⟩ := h _ _ _ read_surrogateField _ hfile
  have herrors : [⟨none, .unreadableKey⟩] = declared ++ undeclared := Fault.invalid.inj hfault
  have hmissing := (hlists.mem_declared_iff ⟨some Field.root.key, .missing⟩).2 ⟨.root, rfl, .missing (by decide)⟩
  have hmem : (⟨some Field.root.key, .missing⟩ : FieldError) ∈ declared ++ undeclared := List.mem_append_left _ hmissing
  rw [← herrors] at hmem
  exact absurd hmem (by decide)

end Layout

end Descriptors
