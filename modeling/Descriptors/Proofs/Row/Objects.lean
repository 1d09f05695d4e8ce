import Descriptors.Proofs.Descriptor.GroupRows
import Descriptors.Proofs.Descriptor.MainRows
import Descriptors.Proofs.Json.ExchangedControls
import Descriptors.Proofs.Json.Parts

/-!
# Objects in rows

Objects are kept in rows as JSON: escaped in the rows of a group, as they are in the rows of the main configuration.
-/

/-! ## Objects in the rows of a group

The cell of an object is its compact JSON, escaped like every cell. Read as JSON it is the object again, with its keys in order,
when no string and no key in it holds a control or a written control that the escape exchanges; else it is the object with these
exchanged (`Row.nested_object`).
-/

namespace Descriptors.Row

variable {metadata fields : Entries Json} {key : Text}

/-- The cell of an object without floats in a metadata map. Read as JSON, the cell is the object again, its keys in order, exactly
when the object is steady and within the limits of the reader: no string and no key in it, at any depth, holds a tab, a line feed
or a carriage return, or a backslash directly in front of r, n or t. Within the limits it always is the object in which each such
control has become a backslash and its letter, and each such letter the control. An object in metadata that were read is within
the limits. -/
theorem nested_object (hkeys : (Json.object metadata).KeysDistinct) (hvalue : metadata.get? key = some (.object fields))
    (hfloat : (Json.object fields).FloatFree) :
    ∃ cell, (ofMetadata metadata).get? key = some cell ∧
      (Json.read cell = .ok (.object fields) ↔ (Json.object fields).Steady ∧ (Json.object fields).WithinLimits) ∧
      ((Json.object fields).WithinLimits → Json.read cell = .ok (Json.object fields).exchangeControls) ∧
      ∀ text, Json.read text = .ok (.object metadata) → (Json.object fields).WithinLimits := by
  rw [Json.KeysDistinct] at hkeys
  have hmem : (key, Json.object fields) ∈ metadata := (Entries.get?_eq_some_iff hkeys.1).1 hvalue
  have hfields : (Json.object fields).KeysDistinct := Json.entriesDistinct_iff.1 hkeys.2 _ hmem
  have hcell : (ofMetadata metadata).get? key = some (Json.write (.object fields)).escapeControls := by
    rw [get?_ofMetadata key hkeys.1, hvalue, Option.map_some, Json.toCell]
  exact ⟨_, hcell, Json.read_escapeControls_iff hfields hfloat, Json.read_escapeControls hfields hfloat,
    fun text hread => (Json.withinLimits_of_read hread).of_mem hmem⟩

/-- Two keys, one of which ends with a backslash, with a string, a null and an integer behind them: the object is read back. -/
theorem nested_object_steady :
    ∃ cell, (ofMetadata [("config", .object [("C:\\", .string "\"x\\y\""), ("empty", .array [.null, .int (-1)])])]).get?
        "config" = some cell ∧
      Json.read cell = .ok (.object [("C:\\", .string "\"x\\y\""), ("empty", .array [.null, .int (-1)])]) := by
  have hone : (Decimal.digits (Int.natAbs (-1))).length ≤ Json.greatestDigits := by
    rw [Decimal.digits, if_pos (by decide)]
    decide
  have hdiffer : Text.ofString "C:\\" ≠ Text.ofString "empty" := by decide
  have hkeys : (Json.object [("C:\\", .string "\"x\\y\""), ("empty", .array [.null, .int (-1)])]).KeysDistinct := by
    simp [Json.KeysDistinct, Json.EntriesDistinct, Json.ItemsDistinct, Entries.keys, hdiffer]
  obtain ⟨cell, hcell, hread, -⟩ := @nested_object
    [("config", .object [("C:\\", .string "\"x\\y\""), ("empty", .array [.null, .int (-1)])])]
    [("C:\\", .string "\"x\\y\""), ("empty", .array [.null, .int (-1)])] "config"
    (by simp [Json.KeysDistinct, Json.EntriesDistinct, Json.ItemsDistinct, Entries.keys, hdiffer]) rfl
    (by simp [Json.FloatFree, Json.Each, Json.EntriesEach, Json.ItemsEach])
  refine ⟨cell, hcell, hread.2 ⟨(Json.exchangeControls_eq_self_iff hkeys).1 rfl, ?_, by decide⟩⟩
  simpa [Json.Readable, Json.Each, Json.EntriesEach, Json.ItemsEach] using hone

/-- An object is not always read back from its cell: one with a line feed in a string comes back with a backslash and an n. -/
theorem nested_object_false :
    ¬ ∀ (metadata fields : Entries Json) (key : Text), (Json.object metadata).KeysDistinct →
      metadata.get? key = some (.object fields) → (Json.object fields).FloatFree →
        ∃ cell, (ofMetadata metadata).get? key = some cell ∧ Json.read cell = .ok (.object fields) := by
  intro h
  obtain ⟨cell, hcell, hread⟩ := h [("k", .object [("a", .string "x\ny")])] [("a", .string "x\ny")] "k"
    (by simp [Json.KeysDistinct, Json.EntriesDistinct, Entries.keys]) rfl
    (by simp [Json.FloatFree, Json.Each, Json.EntriesEach])
  have htext : cell = Json.write (.object [("a", .string "x\\ny")]) := (Option.some.inj hcell).symm
  have hback : Json.read cell = .ok (.object [("a", .string "x\\ny")]) := by
    rw [htext]
    refine Json.read_write ?_ ?_ (by decide)
    · simp [Json.KeysDistinct, Json.EntriesDistinct, Entries.keys]
    · simp [Json.Exact, Json.EntriesExact]
  rw [hback] at hread
  have hstring := (Prod.mk.inj (List.cons.inj (Json.object.inj (Except.ok.inj hread))).1).2
  exact absurd (Json.string.inj hstring) (by decide)

end Descriptors.Row

/-! ## Objects in the main configuration

The cell of an object is its compact JSON, and a row of the main configuration keeps cells unescaped. So an object whose numbers
are integers is read back from its cell, with its keys in order at every depth (`Json.read_toCell_iff`), and what an entry says
by an object is not lost in its row (`MainConfiguration.IsEntryRow.keepsObjects`). That an object is within the limits of the
reader need not be asked of an entry: the entry was read.
-/

namespace Descriptors

/-- The cell of an object whose numbers are integers is read as the object again exactly when the reader goes as deep. -/
theorem Json.read_toCell_iff {fields : Entries Json} (hkeys : (Json.object fields).KeysDistinct)
    (hexact : (Json.object fields).Exact) :
    Json.read (Json.object fields).toCell = .ok (.object fields) ↔ (Json.object fields).nesting ≤ greatestDepth := by
  rw [toCell]
  exact ⟨fun hread => (withinLimits_of_read hread).nesting, read_write hkeys hexact⟩

/-- Different objects whose numbers are integers have different cells. -/
theorem Json.toCell_object_injective {fields fields' : Entries Json} (hkeys : (Json.object fields).KeysDistinct)
    (hkeys' : (Json.object fields').KeysDistinct) (hexact : (Json.object fields).Exact) (hexact' : (Json.object fields').Exact)
    (h : (Json.object fields).toCell = (Json.object fields').toCell) : fields = fields' := by
  rw [toCell, toCell] at h
  exact Json.object.inj (write_injective hkeys hkeys' hexact hexact' h)

namespace MainConfiguration

variable {t : Text} {document entry : Entries Json} {entries : List (Entries Json)} {r : Row}

/-- A row keeps the objects of an entry: under every key but those of the name, the type and the host type, the cell of an object
without floats is read as the object again, its keys in order. -/
def KeepsObjects (entry : Entries Json) (r : Row) : Prop :=
  ∀ key fields, entry.get? key = some (.object fields) → (Json.object fields).FloatFree →
    key ≠ Row.nameKey → key ≠ Row.typeKey → key ≠ Row.hostTypeKey →
    ∃ cell, r.get? key = some cell ∧ Json.read cell = .ok (.object fields)

/-- The row of an entry within the limits of the reader keeps its objects. -/
theorem IsEntryRow.keepsObjects (h : IsEntryRow entry r) (hkeys : (Json.object entry).KeysDistinct)
    (hlimits : (Json.object entry).WithinLimits) : KeepsObjects entry r := by
  intro key fields hvalue hfloat hname htype hhost
  obtain ⟨hnodup, _⟩ := Json.keysDistinct_object_iff.1 hkeys
  have hmem : (key, Json.object fields) ∈ entry := (Entries.get?_eq_some_iff hnodup).1 hvalue
  have hfields : (Json.object fields).KeysDistinct := hkeys.of_get? hvalue
  have hwithin : (Json.object fields).WithinLimits := hlimits.of_mem hmem
  have hexact : (Json.object fields).Exact := (Json.exact_of_floatFree hfields hfloat).2 hwithin.readable
  have hcell := h.cells key _ hvalue hname htype fun hkey => absurd hkey hhost
  exact ⟨_, hcell, (Json.read_toCell_iff hfields hexact).2 hwithin.nesting⟩

/-- Every entry of a list that is read is within the limits of the reader. -/
theorem withinLimits_entry_of_read (hread : Json.read t = .ok (.object document))
    (hlist : document.get? propertiesKey = some (Document.arrayOfObjects entries)) :
    ∀ entry ∈ entries, (Json.object entry).WithinLimits := by
  intro entry hentry
  have hmem := (Entries.get?_eq_some_iff (Document.distinct_of_read hread).1).1 hlist
  have hlimits := (Json.withinLimits_of_read hread).of_mem hmem
  exact hlimits.of_item (List.mem_map_of_mem hentry)

/-- Cells keep objects whose numbers are integers. An object without a repeated key is read back from its cell, with its keys in
order at every depth, as far as nesting is read, and no other such object has the same cell. Where a main configuration gives
rows, there is one for each entry of its list of properties, and each keeps the objects of its entry. -/
theorem objects_kept :
    (∀ fields : Entries Json, (Json.object fields).KeysDistinct → (Json.object fields).Exact →
      (Json.read (Json.object fields).toCell = .ok (.object fields) ↔ (Json.object fields).nesting ≤ Json.greatestDepth)) ∧
    (∀ fields fields' : Entries Json, (Json.object fields).KeysDistinct → (Json.object fields').KeysDistinct →
      (Json.object fields).Exact → (Json.object fields').Exact →
      (Json.object fields).toCell = (Json.object fields').toCell → fields = fields') ∧
    ∀ (t : Text) (rows : List Row), MainConfiguration.rows t = .ok rows →
      ∃ (document : Entries Json) (entries : List (Entries Json)), Json.read t = .ok (.object document) ∧
        (propertiesKey ∉ document.keys ∧ entries = [] ∨
          document.get? propertiesKey = some (Document.arrayOfObjects entries)) ∧
        List.Forall₂ KeepsObjects entries rows := by
  refine ⟨fun _ hkeys hexact => Json.read_toCell_iff hkeys hexact, fun _ _ => Json.toCell_object_injective, ?_⟩
  intro t rows hrows
  obtain ⟨document, hread, hrows⟩ := rows_ok_iff.1 hrows
  rcases rowsIn_ok_iff.1 hrows with ⟨hnone, rfl⟩ | ⟨entries, hlist, hentries⟩
  · exact ⟨document, [], hread, Or.inl ⟨hnone, rfl⟩, .nil⟩
  · have hfits := fun entry hentry =>
      And.intro (keysDistinct_entry_of_read hread hlist entry hentry) (withinLimits_entry_of_read hread hlist entry hentry)
    have hall := (List.forall₂_and_left _ _).2 ⟨hfits, hentries⟩
    refine ⟨document, entries, hread, Or.inr hlist, hall.imp ?_⟩
    rintro entry _ ⟨⟨hkeys, hlimits⟩, _, name, hname, rfl⟩
    obtain ⟨hnodup, _⟩ := Json.keysDistinct_object_iff.1 hkeys
    exact (isEntryRow_entryRow hnodup hname).keepsObjects hkeys hlimits

/-- What an entry says by an object: a key with a quote over an array, and the empty key over an empty object. -/
def config : Entries Json := [("\"\u00E9", .array [.int (-1), .string "\\n\n"]), ("", .object [])]

/-- A main configuration with one entry, which has `config` in front of its name. -/
def configured : Text :=
  "\x7b\"properties\":[\x7b\"config\":\x7b\"\\\"\u00E9\":[-1,\"\\\\n\\n\"],\"\":\x7b\x7d\x7d,\"name\":\"a\"\x7d]\x7d"

/-- The entry of `configured`. -/
def configuredEntry : Entries Json := [("config", .object config), ("name", .string "a")]

theorem config_fits : (Json.object config).KeysDistinct ∧ (Json.object config).Exact := by
  have hdiffer : Text.ofString "\"\u00E9" ≠ Text.ofString "" := by decide
  have hone : (Decimal.digits (Int.natAbs (-1))).length ≤ Json.greatestDigits := by
    rw [Decimal.digits_of_lt_ten (by decide)]
    decide
  constructor
  · simp [config, Json.KeysDistinct, Json.ItemsDistinct, Json.EntriesDistinct, Entries.keys, hdiffer]
  · simp only [config, Json.Exact, Json.ItemsExact, Json.EntriesExact, hone, and_self]

theorem read_configured :
    Json.read configured = .ok (.object [(propertiesKey, Document.arrayOfObjects [configuredEntry])]) := by
  have hwrite : configured = Json.write (.object [(propertiesKey, Document.arrayOfObjects [configuredEntry])]) := by
    decide +kernel
  obtain ⟨hkeys, hexact⟩ := config_fits
  have hentry : (Json.object configuredEntry).KeysDistinct := by
    rw [Json.KeysDistinct]
    exact ⟨by decide, hkeys, trivial, trivial⟩
  rw [hwrite]
  refine Json.read_write ?_ ?_ (by decide)
  · rw [Json.KeysDistinct]
    exact ⟨by decide, ⟨hentry, trivial⟩, trivial⟩
  · rw [Json.Exact]
    exact ⟨⟨⟨hexact, trivial, trivial⟩, trivial⟩, trivial⟩

/-- The row of `configured` keeps `config`, and with its pairs in the other order the object would have another cell. -/
theorem objects_kept_configured :
    (Json.object config).KeysDistinct ∧ (Json.object config).Exact ∧
      Json.read (Json.object config).toCell = .ok (.object config) ∧
      (Json.object config).toCell ≠ (Json.object config.reverse).toCell ∧
      ∃ r cell, MainConfiguration.rows configured = .ok [r] ∧ r.get? "config" = some cell ∧
        Json.read cell = .ok (.object config) := by
  obtain ⟨hread, hinjective, hkept⟩ := objects_kept
  obtain ⟨hkeys, hexact⟩ := config_fits
  refine ⟨hkeys, hexact, (hread config hkeys hexact).2 (by decide), fun hcells => ?_, ?_⟩
  · have hkeys' : (Json.object config.reverse).KeysDistinct := by
      rw [Json.keysDistinct_object_iff] at hkeys ⊢
      exact ⟨by decide, fun e he => hkeys.2 e (List.mem_reverse.1 he)⟩
    have hexact' : (Json.object config.reverse).Exact := by
      rw [Json.Exact, Json.entriesExact_iff] at hexact ⊢
      exact fun e he => hexact e (List.mem_reverse.1 he)
    have heq := hinjective config config.reverse hkeys hkeys' hexact hexact' hcells
    exact absurd (congrArg Entries.keys heq) (by decide)
  · have hrows : MainConfiguration.rows configured = .ok [entryRow configuredEntry (.string "a")] :=
      rows_ok_iff.2 ⟨_, read_configured, rfl⟩
    obtain ⟨document, entries, hdocument, hlist, hall⟩ := hkept configured _ hrows
    cases read_configured.symm.trans hdocument
    obtain rfl : [configuredEntry] = entries := by
      rcases hlist with ⟨hnone, _⟩ | hlist
      · exact absurd (by decide) hnone
      · exact Document.arrayOfObjects_inj (Option.some.inj hlist)
    obtain ⟨hkeeps, _⟩ := List.forall₂_cons.1 hall
    have hfloat : (Json.object config).FloatFree := by
      simp [config, Json.FloatFree, Json.Each, Json.EntriesEach, Json.ItemsEach]
    obtain ⟨cell, hcell, hback⟩ := hkeeps "config" config rfl hfloat (by decide) (by decide) (by decide)
    exact ⟨_, cell, hrows, hcell, hback⟩

end MainConfiguration

end Descriptors
