import Descriptors.CommandLine.Report
import Descriptors.Proofs.Catalog.Load
import Descriptors.Proofs.CommandLine.Written
import Descriptors.Proofs.Descriptor.GroupRows
import Descriptors.Proofs.FileSystem

/-!
# How a run ends

A run of a command does what the library does with the text of its file: the rows are taken, and what is made of them is printed
whole, or nothing is printed and an error is told (`Task.Ends`, `Call.report_ends`). The exit code tells which of these it was, and
the log level changes no more than what is told beside. Three things end a run without a report (`run_call`): a path that no file
can have, a property that is asked for by a second separator, and a printer that refuses what is to be printed (`run_total_false`).
-/

namespace Descriptors.CommandLine

/-! ## What the library gives -/

/-- The rows of a part of a descriptor, as the library takes them. -/
def Part.rows : Part → Text → Except DescriptorFault Table
  | group name form, t => Group.rows name form t
  | mainConfiguration, t => MainConfiguration.rows t

/-- The part whose rows a task is about. -/
def Task.part : Task → Part
  | rows part => part
  | describe part _ => part
  | component => .group Group.component .attributes

/-- What is to be printed of some rows: lines of rows, or a summary in canonical form on a line, if there is one. -/
def Task.printed? : Task → Table → Option Text
  | rows _, table => some (Row.toLines table)
  | describe _ name, table =>
    (name.bind table.describe?).map fun summary => summary.toJson.writeCanonical ++ [CodePoint.lineFeed]
  | component, table => some (table.describeComponent.toJson.writeCanonical ++ [CodePoint.lineFeed])

/-- Why a task may have nothing to print of its rows. -/
def Task.absence : Task → TaskFault
  | describe _ (some name) => .propertyNotFound name
  | _ => .nameMissing

/-- The text of the file of a call with even line ends, where the file can be read and is UTF-8. -/
def Call.text? (c : Call) (files : FileSystem) : Option Text := (Call.textOf (files.read c.file)).toOption

/-! ## The ways to end -/

/-- A report with an error in a line of its own. -/
def Report.TellsError (r : Report) : Prop :=
  ∃ before message, r.errors = before ++ Text.ofString "Error: " ++ message ++ [CodePoint.lineFeed] ∧
    (before = [] ∨ before.getLast? = some CodePoint.lineFeed)

/-- A report of a failure: nothing is printed, and an error is told. -/
structure Report.Fails (r : Report) (exitCode : Nat) : Prop where
  exitCode : r.exitCode = exitCode
  output : r.output = []
  errors : r.TellsError

/-- How a task ends, from what refuses the path of its file, or else from the text of the file. -/
inductive Task.Ends (task : Task) : Option RunFault → Option Text → Except RunFault Report → Prop where
  /-- The path of the file is refused. -/
  | refused {fault : RunFault} {text : Option Text} : Ends task (some fault) text (.error fault)
  /-- The file has no text. -/
  | unreadable {r : Report} : r.Fails 2 → Ends task none none (.ok r)
  /-- The rows cannot be taken. -/
  | unparsed {t : Text} {e : DescriptorFault} {r : Report} : task.part.rows t = .error e → r.Fails 2 →
      Ends task none (some t) (.ok r)
  /-- The property is not found. -/
  | notFound {t : Text} {table : Table} {part : Part} {name : Text} {r : Report} : task = .describe part (some name) →
      task.part.rows t = .ok table → table.describe? name = none → r.Fails 1 → Ends task none (some t) (.ok r)
  /-- The property is not named. -/
  | unnamed {t : Text} {table : Table} {part : Part} : task = .describe part none → task.part.rows t = .ok table →
      Ends task none (some t) (.error .nameMissing)
  /-- What there is to print is printed. -/
  | printed {t : Text} {table : Table} {r : Report} : task.part.rows t = .ok table → task.printed? table = some r.output →
      r.exitCode = 0 → Ends task none (some t) (.ok r)

variable {c : Call} {task : Task} {p : Printer} {files : FileSystem} {texts : List Text} {t told : Text} {table : Table} {r : Report}
  {refused : Option RunFault} {text : Option Text} {x : Except RunFault Report} {fault : RunFault}

/-! ## What is told -/

/-- The report of a failure fails, with whatever lines were told before. -/
theorem Report.fails_failure (exitCode : Nat) (message : Text) (h : told = [] ∨ told.getLast? = some CodePoint.lineFeed) :
    (failure exitCode told message).Fails exitCode :=
  ⟨rfl, rfl, told, message, rfl, h⟩

/-- The lines that are told of events are whole lines. -/
theorem Call.told_eq_nil_or (c : Call) (events : List LogEvent) :
    c.told events = [] ∨ (c.told events).getLast? = some CodePoint.lineFeed := by
  rw [told]
  rcases List.eq_nil_or_concat (events.filter fun e => c.logLevel.gravity ≤ e.level.gravity) with h | ⟨front, e, h⟩
  · exact Or.inl (by rw [h]; rfl)
  · refine Or.inr ?_
    rw [h, List.concat_eq_append, List.flatMap_append, List.flatMap_singleton, ← List.append_assoc, List.getLast?_concat]

/-! ## Tasks -/

/-- The rows of a part, logged, are those of the library. -/
theorem Part.load_outcome (part : Part) (t : Text) : (part.load t).outcome = (part.rows t).mapError .descriptor := by
  cases part with
  | group name form => exact congrArg (Except.mapError TaskFault.descriptor) (Group.load_outcome name form t)
  | mainConfiguration => exact congrArg (Except.mapError TaskFault.descriptor) (MainConfiguration.load_outcome t)

/-- Of a property that is named, its summary is to be printed. -/
theorem Task.printed?_describe (part : Part) (name : Text) (table : Table) :
    (describe part (some name)).printed? table =
      (table.describe? name).map fun summary => summary.toJson.writeCanonical ++ [CodePoint.lineFeed] :=
  rfl

/-- A task takes the rows of its part, and prints what there is to print of them. -/
theorem Task.print_outcome (task : Task) (t : Text) :
    (task.print t).outcome =
      match task.part.rows t with
      | .error fault => .error (.descriptor fault)
      | .ok table =>
        match task.printed? table with
        | some output => .ok output
        | none => .error task.absence := by
  have hload := task.part.load_outcome t
  cases task with
  | rows part =>
    change (part.load t).outcome = _ at hload
    rw [print, Logged.outcome_andThen, hload, Task.part]
    cases part.rows t <;> rfl
  | describe part name =>
    change (part.load t).outcome = _ at hload
    rw [print, Logged.outcome_andThen, hload, Task.part]
    cases part.rows t with
    | error fault => rfl
    | ok table =>
      change (describedLine table name).outcome = _
      cases name with
      | none => rfl
      | some name =>
        rw [describedLine]
        dsimp only
        rw [printed?_describe]
        cases table.describe? name <;> rfl
  | component =>
    change ((Group.load Group.component .attributes t).mapError TaskFault.descriptor).outcome = _ at hload
    rw [print, Logged.outcome_andThen, hload, Task.part]
    cases Part.rows (.group Group.component .attributes) t <;> rfl

/-! ## Runs -/

/-- A task with nothing to print of its rows is about a property: it is not found, or not named. -/
theorem Task.eq_describe_of_printed? (h : task.printed? table = none) :
    (∃ part name, task = .describe part (some name) ∧ table.describe? name = none) ∨ ∃ part, task = .describe part none := by
  cases task with
  | rows part => cases h
  | component => cases h
  | describe part name =>
    cases name with
    | none => exact Or.inr ⟨part, rfl⟩
    | some name =>
      rw [printed?_describe, Option.map_eq_none_iff] at h
      exact Or.inl ⟨part, name, rfl, h⟩

/-- How a call ends from the text of its file. -/
theorem Call.reportOf_ends (reference? : Option Text) (c : Call) (t : Text) :
    c.task.Ends none (some t) (c.reportOf reference? t) := by
  have houtcome := c.task.print_outcome t
  rw [reportOf]
  cases hrows : c.task.part.rows t with
  | error e =>
    rw [hrows] at houtcome
    rw [houtcome]
    exact .unparsed hrows (Report.fails_failure _ _ (c.told_eq_nil_or _))
  | ok table =>
    rw [hrows] at houtcome
    dsimp only at houtcome
    cases hprinted : c.task.printed? table with
    | some output =>
      rw [hprinted] at houtcome
      rw [houtcome]
      exact .printed hrows hprinted rfl
    | none =>
      rw [hprinted] at houtcome
      rw [houtcome]
      rcases Task.eq_describe_of_printed? hprinted with ⟨part, name, htask, hdescribe⟩ | ⟨part, htask⟩
      · have habsence : c.task.absence = .propertyNotFound name := by rw [htask]; rfl
        rw [habsence]
        exact .notFound htask hrows hdescribe (Report.fails_failure _ _ (c.told_eq_nil_or _))
      · have habsence : c.task.absence = .nameMissing := by rw [htask]; rfl
        rw [habsence]
        exact .unnamed htask hrows

/-- How a call ends in a file system, before anything is printed. -/
theorem Call.report_ends (reference? : Option Text) (c : Call) (files : FileSystem) :
    c.task.Ends c.pathFault? (c.text? files) (c.report reference? (files.read c.file)) := by
  rw [report.eq_def, text?]
  cases c.pathFault? with
  | some fault => exact .refused
  | none =>
    dsimp only
    cases textOf (files.read c.file) with
    | error fault => exact .unreadable (Report.fails_failure 2 _ (Or.inl rfl))
    | ok t => exact c.reportOf_ends reference? t

/-- A run of a command makes its report and prints what is to be printed. -/
theorem run_of_call (reference? : Option Text) (h : Request.ofTexts texts = .ok (.call c)) :
    run p reference? files texts = c.report reference? (files.read c.file) >>= Report.printedOn p := by
  rw [run, reportOf, h]
  rfl

/-! ## Exit codes -/

namespace Task.Ends

/-- There is no report exactly where the path is refused or a property is not named. -/
theorem eq_error_iff (h : task.Ends refused text x) : x = .error fault ↔ refused = some fault ∨
    refused = none ∧ fault = .nameMissing ∧
      ∃ part t table, task = .describe part none ∧ text = some t ∧ part.rows t = .ok table := by
  cases h with
  | refused => simp [eq_comm]
  | unreadable _ => simp
  | unparsed hrows _ =>
    refine iff_of_false nofun ?_
    rintro (heq | ⟨_, _, part, t, table, rfl, ht, htable⟩)
    · cases heq
    · cases ht
      cases hrows.symm.trans htable
  | notFound htask _ _ _ =>
    refine iff_of_false nofun ?_
    rintro (heq | ⟨_, _, part, t, table, rfl, _⟩)
    · cases heq
    · cases htask
  | unnamed htask hrows =>
    subst htask
    constructor
    · intro heq
      cases heq
      exact Or.inr ⟨rfl, rfl, _, _, _, rfl, rfl, hrows⟩
    · rintro (heq | ⟨_, rfl, _⟩)
      · cases heq
      · rfl
  | printed _ hprinted _ =>
    refine iff_of_false nofun ?_
    rintro (heq | ⟨_, _, part, t, table, rfl, _⟩)
    · cases heq
    · cases hprinted

/-- The code is 2 exactly where the file has no text or the rows cannot be taken. -/
theorem exitCode_eq_two_iff (h : task.Ends refused text (.ok r)) :
    r.exitCode = 2 ↔ text = none ∨ ∃ t fault, text = some t ∧ task.part.rows t = .error fault := by
  cases h with
  | unreadable hfails => simp [hfails.exitCode]
  | unparsed hrows hfails => simp [hfails.exitCode, hrows]
  | notFound htask hrows _ hfails => simp [hfails.exitCode, hrows]
  | printed hrows _ hcode => simp [hcode, hrows]

/-- The code is 1 exactly where the rows have no such property. -/
theorem exitCode_eq_one_iff (h : task.Ends refused text (.ok r)) :
    r.exitCode = 1 ↔ ∃ part name t table, task = .describe part (some name) ∧ text = some t ∧ part.rows t = .ok table ∧
      table.describe? name = none := by
  cases h with
  | unreadable hfails => simp [hfails.exitCode]
  | unparsed hrows hfails =>
    rw [hfails.exitCode]
    refine iff_of_false (by decide) ?_
    rintro ⟨part, name, t, table, rfl, ht, htable, _⟩
    cases ht
    cases hrows.symm.trans htable
  | notFound htask hrows hdescribe hfails =>
    subst htask
    exact iff_of_true hfails.exitCode ⟨_, _, _, _, rfl, rfl, hrows, hdescribe⟩
  | printed hrows hprinted hcode =>
    rw [hcode]
    refine iff_of_false (by decide) ?_
    rintro ⟨part, name, t, table, rfl, ht, htable, hdescribe⟩
    cases ht
    cases hrows.symm.trans htable
    rw [printed?_describe, hdescribe] at hprinted
    cases hprinted

/-- The code is 0 exactly where there is something to print, and that is what is printed. -/
theorem exitCode_eq_zero_iff (h : task.Ends refused text (.ok r)) :
    r.exitCode = 0 ↔ ∃ t table, text = some t ∧ task.part.rows t = .ok table ∧ task.printed? table = some r.output := by
  cases h with
  | unreadable hfails => simp [hfails.exitCode]
  | unparsed hrows hfails => simp [hfails.exitCode, hrows]
  | notFound htask hrows hdescribe hfails =>
    subst htask
    rw [hfails.exitCode]
    refine iff_of_false (by decide) ?_
    rintro ⟨t, table, ht, htable, hprinted⟩
    cases ht
    cases hrows.symm.trans htable
    rw [printed?_describe, hdescribe] at hprinted
    cases hprinted
  | printed hrows hprinted hcode => exact iff_of_true hcode ⟨_, _, rfl, hrows, hprinted⟩

/-- Where the code is not 0, it is 1 or 2 and a failure is reported. -/
theorem zero_or_fails (h : task.Ends refused text (.ok r)) : r.exitCode = 0 ∨ r.Fails 1 ∨ r.Fails 2 := by
  cases h with
  | unreadable hfails => exact Or.inr (Or.inr hfails)
  | unparsed _ hfails => exact Or.inr (Or.inr hfails)
  | notFound _ _ _ hfails => exact Or.inr (Or.inl hfails)
  | printed _ _ hcode => exact Or.inl hcode

/-- Where the code is not 0, nothing is printed and an error is told. -/
theorem output_of_exitCode_ne_zero (h : task.Ends refused text (.ok r)) (hcode : r.exitCode ≠ 0) : r.output = [] ∧ r.TellsError := by
  rcases h.zero_or_fails with hzero | hfails | hfails
  · exact absurd hzero hcode
  · exact ⟨hfails.output, hfails.errors⟩
  · exact ⟨hfails.output, hfails.errors⟩

/-- A task ends in one way only, but for what is told beside. -/
theorem exitCode_output_eq (h : task.Ends refused text (.ok r)) (h' : task.Ends refused text x) :
    ∃ r', x = .ok r' ∧ r'.exitCode = r.exitCode ∧ r'.output = r.output := by
  cases x with
  | error fault => cases h.eq_error_iff.2 (h'.eq_error_iff.1 rfl)
  | ok r' =>
    have hone : r'.exitCode = 1 ↔ r.exitCode = 1 := h'.exitCode_eq_one_iff.trans h.exitCode_eq_one_iff.symm
    have htwo : r'.exitCode = 2 ↔ r.exitCode = 2 := h'.exitCode_eq_two_iff.trans h.exitCode_eq_two_iff.symm
    have hcode : r'.exitCode = r.exitCode := by
      have hcodes := h.zero_or_fails.imp_right (Or.imp Report.Fails.exitCode Report.Fails.exitCode)
      have hcodes' := h'.zero_or_fails.imp_right (Or.imp Report.Fails.exitCode Report.Fails.exitCode)
      omega
    refine ⟨r', rfl, hcode, ?_⟩
    by_cases hzero : r.exitCode = 0
    · obtain ⟨t, table, ht, hrows, hprinted⟩ := h.exitCode_eq_zero_iff.1 hzero
      obtain ⟨t', table', ht', hrows', hprinted'⟩ := h'.exitCode_eq_zero_iff.1 (hcode.trans hzero)
      cases ht.symm.trans ht'
      cases hrows.symm.trans hrows'
      exact Option.some.inj (hprinted'.symm.trans hprinted)
    · rw [(h.output_of_exitCode_ne_zero hzero).1, (h'.output_of_exitCode_ne_zero (hcode ▸ hzero)).1]

end Task.Ends

/-! ## What is printed -/

/-- What there is to print of the rows is in the report. -/
theorem Task.Ends.output_eq (h : task.Ends none (some t) x) (hrows : task.part.rows t = .ok table) {output : Text}
    (hprinted : task.printed? table = some output) : ∃ r, x = .ok r ∧ r.output = output := by
  cases h with
  | unparsed hrows' _ => cases hrows.symm.trans hrows'
  | notFound htask hrows' hdescribe _ =>
    subst htask
    cases hrows.symm.trans hrows'
    rw [Task.printed?_describe, hdescribe] at hprinted
    cases hprinted
  | unnamed htask _ =>
    subst htask
    cases hprinted
  | printed hrows' hprinted' _ =>
    cases hrows.symm.trans hrows'
    exact ⟨_, rfl, Option.some.inj (hprinted'.symm.trans hprinted)⟩

/-- A report is printed where the printer does not refuse its output. -/
theorem Report.printedOn_ok_iff {r' : Report} : r.printedOn p = .ok r' ↔ r = r' ∧ p.refuse? r.output = none := by
  rw [printedOn]
  cases hrefuse : p.refuse? r.output <;> simp

theorem Report.printedOn_error_iff : r.printedOn p = .error fault ↔
    ∃ reason, p.refuse? r.output = some reason ∧ fault = .outputRefused reason := by
  rw [printedOn]
  cases hrefuse : p.refuse? r.output <;> simp [eq_comm]

/-- The printer refuses exactly what there is to print of the rows of a task. -/
theorem Task.Ends.printedOn_error_iff (h : task.Ends refused text x) : x >>= Report.printedOn p = .error fault ↔
    x = .error fault ∨ refused = none ∧ ∃ t table output reason, text = some t ∧ task.part.rows t = .ok table ∧
      task.printed? table = some output ∧ p.refuse? output = some reason ∧ fault = .outputRefused reason := by
  rw [Outcome.bind_error_iff]
  refine or_congr_right ?_
  constructor
  · rintro ⟨r, rfl, hprinted⟩
    obtain ⟨reason, hreason, rfl⟩ := Report.printedOn_error_iff.1 hprinted
    -- the printer refuses something, so there is output, and the code is 0
    have houtput : r.output ≠ [] := by
      intro hnil
      rw [hnil, p.nothing] at hreason
      cases hreason
    have hcode : r.exitCode = 0 := Decidable.byContradiction fun hcode => houtput (h.output_of_exitCode_ne_zero hcode).1
    obtain ⟨t, table, rfl, hrows, hprinted⟩ := h.exitCode_eq_zero_iff.1 hcode
    have hrefused : refused = none := by cases h <;> rfl
    exact ⟨hrefused, t, table, _, reason, rfl, hrows, hprinted, hreason, rfl⟩
  · rintro ⟨rfl, t, table, output, reason, rfl, hrows, hprinted, hreason, rfl⟩
    obtain ⟨r, rfl, rfl⟩ := h.output_eq hrows hprinted
    exact ⟨r, rfl, Report.printedOn_error_iff.2 ⟨reason, hreason, rfl⟩⟩

/-- A path is not refused where it stands for bytes and has no NUL. -/
theorem Call.pathFault?_eq_none_iff : c.pathFault? = none ↔
    (FileName.ofText? c.file.toText).isSome = true ∧ c.file.holdsNull = false := by
  rw [← FileName.fault?_eq_none_iff, pathFault?]
  cases FileName.fault? c.file.toText with
  | some fault => simp
  | none => cases c.file.holdsNull <;> simp

/-- A command that is asked for does what the library does with its file, and fails cleanly but for three things. There is no
report exactly where the path is refused, as it holds a NUL or stands for no bytes, where rows are there of which a property is
asked for that is not named, and where the printer refuses what there is to print. With a report, the exit code is 2 exactly where
the file cannot be read as UTF-8 or its rows cannot be taken, 1 exactly where the rows have no such property, and 0 exactly where
what there is to print is all that is printed; a code that is not 0 comes with an error and without anything printed. Rows of which
a property is asked for are taken property by property, or from the main configuration. Another log level changes neither the code
nor what is printed. The call is made of the flags, the command and the operands that are read, and every command with its flags
and operands can be asked for. -/
theorem run_call (p : Printer) (reference? : Option Text) (files : FileSystem) (texts : List Text) (c : Call)
    (h : Request.ofTexts texts = .ok (.call c)) :
    (∀ fault, run p reference? files texts = .error fault ↔
      (c.pathFault? = some fault ∨ c.pathFault? = none ∧ fault = .nameMissing ∧
        ∃ part t table, c.task = .describe part none ∧ c.text? files = some t ∧ part.rows t = .ok table) ∨
      c.pathFault? = none ∧ ∃ t table output reason, c.text? files = some t ∧ c.task.part.rows t = .ok table ∧
        c.task.printed? table = some output ∧ p.refuse? output = some reason ∧ fault = .outputRefused reason) ∧
    (c.pathFault? = none ↔ (FileName.ofText? c.file.toText).isSome = true ∧ c.file.holdsNull = false) ∧
    (∀ r, run p reference? files texts = .ok r →
      (r.exitCode = 2 ↔ c.text? files = none ∨ ∃ t fault, c.text? files = some t ∧ c.task.part.rows t = .error fault) ∧
      (r.exitCode = 1 ↔ ∃ part name t table, c.task = .describe part (some name) ∧ c.text? files = some t ∧
        part.rows t = .ok table ∧ table.describe? name = none) ∧
      (r.exitCode = 0 ↔ ∃ t table, c.text? files = some t ∧ c.task.part.rows t = .ok table ∧
        c.task.printed? table = some r.output) ∧
      (r.exitCode ≠ 0 → r.output = [] ∧ r.TellsError) ∧ (r.exitCode = 0 ∨ r.exitCode = 1 ∨ r.exitCode = 2)) ∧
    (∀ part name, c.task = .describe part name → part = .mainConfiguration ∨ ∃ group, part = .group group .properties) ∧
    (∀ level texts' r, Request.ofTexts texts' = .ok (.call { c with logLevel := level }) → run p reference? files texts = .ok r →
      ∃ r', run p reference? files texts' = .ok r' ∧ r'.exitCode = r.exitCode ∧ r'.output = r.output) ∧
    c.IsAskedBy texts ∧
    ∀ k before behind operands c', (∀ e ∈ before, Takes .program e) → (∀ e ∈ behind, Takes (.command k) e) →
      operands.length = k.operandNames.length →
      Call.ofOperands? k (Settings.ofFlags (before ++ behind)) (separatedOperands operands) = some c' →
      Request.ofTexts (before.map writtenFlag ++ k.name :: (behind.map writtenFlag ++ separator :: operands)) =
        .ok (.call c') := by
  have hends := c.report_ends reference? files
  have hreport : ∀ {texts r}, Request.ofTexts texts = .ok (.call c) → run p reference? files texts = .ok r →
      c.report reference? (files.read c.file) = .ok r ∧ p.refuse? r.output = none := by
    intro texts r h hr
    rw [run_of_call reference? h] at hr
    obtain ⟨r', hr', hprinted⟩ := Outcome.bind_ok_iff.1 hr
    obtain ⟨rfl, hnone⟩ := Report.printedOn_ok_iff.1 hprinted
    exact ⟨hr', hnone⟩
  refine ⟨fun fault => ?_, Call.pathFault?_eq_none_iff, fun r hr => ?_, fun part name htask => Request.describe_part h htask,
    fun level texts' r h' hr => ?_, Request.isAskedBy_of_ofTexts h,
    fun k before behind operands c' => Request.ofTexts_written⟩
  · rw [run_of_call reference? h, hends.printedOn_error_iff, hends.eq_error_iff]
  · rw [(hreport h hr).1] at hends
    exact ⟨hends.exitCode_eq_two_iff, hends.exitCode_eq_one_iff, hends.exitCode_eq_zero_iff, hends.output_of_exitCode_ne_zero,
      hends.zero_or_fails.imp_right (Or.imp Report.Fails.exitCode Report.Fails.exitCode)⟩
  · obtain ⟨hr, hnone⟩ := hreport h hr
    rw [hr] at hends
    have hends' : c.task.Ends c.pathFault? (c.text? files)
        (Call.report reference? { c with logLevel := level } (files.read c.file)) :=
      Call.report_ends reference? { c with logLevel := level } files
    obtain ⟨r', hr', hcode, houtput⟩ := hends.exitCode_output_eq hends'
    refine ⟨r', ?_, hcode, houtput⟩
    rw [run_of_call reference? h']
    exact Outcome.bind_ok_iff.2 ⟨r', hr', Report.printedOn_ok_iff.2 ⟨rfl, houtput ▸ hnone⟩⟩

/-- A file system with one file, in the root. -/
def rootFile (name : Text) (bytes : List Byte) : FileSystem := ⟨.directory [(name, .file (.intact bytes))], []⟩

/-- A descriptor that is an empty object. -/
def emptyDescriptor : FileSystem := rootFile "f.json" [0x7B, 0x7D]

/-- A property that a descriptor does not have ends in the exit code 1, with all events told or with few. -/
theorem run_call_notFound :
    Request.ofTexts ["describe", "/f.json", "nope"] =
      .ok (.call ⟨.warning, Path.ofText "/f.json", .describe (.group Group.properties .properties) (some "nope")⟩) ∧
    (∃ r r', run .utf8 none emptyDescriptor ["describe", "/f.json", "nope"] = .ok r ∧
      run .utf8 none emptyDescriptor ["--log-level", "DEBUG", "describe", "/f.json", "nope"] = .ok r' ∧
      r.exitCode = 1 ∧ r.output = [] ∧ r.TellsError ∧ r'.exitCode = 1 ∧ r'.output = []) ∧
    Request.ofTexts ["--log-level=INFO", "rows", "--group=a", "--no-flatten", "--group=b", "--", "-"] =
      .ok (.call ⟨.info, Path.ofText "-", .rows (.group "b" .attributes)⟩) := by
  have hcall : Request.ofTexts ["describe", "/f.json", "nope"] =
      .ok (.call ⟨.warning, Path.ofText "/f.json", .describe (.group Group.properties .properties) (some "nope")⟩) := by decide
  have hcall' : Request.ofTexts ["--log-level", "DEBUG", "describe", "/f.json", "nope"] =
      .ok (.call ⟨.debug, Path.ofText "/f.json", .describe (.group Group.properties .properties) (some "nope")⟩) := by decide
  obtain ⟨_, _, hreport, _, hlevel, _, hwritten⟩ := run_call .utf8 none emptyDescriptor ["describe", "/f.json", "nope"] _ hcall
  have hrun : ∃ r, run .utf8 none emptyDescriptor ["describe", "/f.json", "nope"] = .ok r := ⟨_, rfl⟩
  obtain ⟨r, hr⟩ := hrun
  obtain ⟨_, hone, _, hfails, _⟩ := hreport r hr
  have hcode : r.exitCode = 1 := hone.2 ⟨_, _, _, [], rfl, rfl, rfl, rfl⟩
  obtain ⟨houtput, herror⟩ := hfails (by rw [hcode]; decide)
  obtain ⟨r', hr', hcode', houtput'⟩ := hlevel .debug _ r hcall' hr
  have hbefore : ∀ e ∈ [(Flag.logLevel, some (Text.ofString "INFO"))], Takes .program e :=
    List.forall_mem_singleton.2 ⟨by decide, by decide, rfl, fun _ => ⟨_, .info, rfl, by decide⟩⟩
  have hbehind : ∀ e ∈ [(Flag.group, some (Text.ofString "a")), (Flag.noFlatten, none), (Flag.group, some (Text.ofString "b"))],
      Takes (.command .rows) e := by
    simp only [List.forall_mem_cons, List.not_mem_nil, false_imp_iff, implies_true, and_true]
    exact ⟨⟨by decide, by decide, rfl, nofun⟩, ⟨by decide, by decide, rfl, nofun⟩, by decide, by decide, rfl, nofun⟩
  exact ⟨hcall, ⟨r, r', hr, hr', hcode, houtput, herror, hcode'.trans hcode, houtput'.trans houtput⟩,
    hwritten .rows _ _ ["-"] _ hbefore hbehind rfl rfl⟩

/-- A descriptor with a value that is a surrogate. -/
def surrogateValue : Text := "\x7b\"properties\":\x7b\"a\":\x7b\"k\":\"\\ud800\"\x7d\x7d\x7d"

set_option maxRecDepth 20000 in
theorem read_surrogateValue :
    Json.read surrogateValue = .ok (.object [(Group.properties, .object [("a", .object [("k", .string [0xD800])])])]) := by
  cbv

/-- The rows of a descriptor with a surrogate cannot be printed as UTF-8. -/
theorem run_surrogateValue : ∃ reason,
    run .utf8 none (rootFile "f.json" (Utf8.encode surrogateValue)) ["rows", "/f.json"] = .error (.outputRefused reason) := by
  have hcall : Request.ofTexts ["rows", "/f.json"] =
      .ok (.call ⟨.warning, Path.ofText "/f.json", .rows (.group Group.properties .properties)⟩) := by decide
  have htext : Call.text? ⟨.warning, Path.ofText "/f.json", .rows (.group Group.properties .properties)⟩
      (rootFile "f.json" (Utf8.encode surrogateValue)) = some surrogateValue := by decide +kernel
  have hrows : Group.rows Group.properties .properties surrogateValue = .ok [Group.propertyRow "a" [("k", .string [0xD800])]] :=
    Group.rows_ok_iff.2 ⟨_, read_surrogateValue, rfl⟩
  have hrefuse : ∃ reason, Printer.utf8.refuse? (Row.toLines [Group.propertyRow "a" [("k", .string [0xD800])]]) = some reason :=
    ⟨_, rfl⟩
  obtain ⟨reason, hreason⟩ := hrefuse
  have hends := Call.report_ends none ⟨.warning, Path.ofText "/f.json", .rows (.group Group.properties .properties)⟩
    (rootFile "f.json" (Utf8.encode surrogateValue))
  rw [htext] at hends
  refine ⟨reason, ?_⟩
  rw [run_of_call none hcall]
  exact hends.printedOn_error_iff.2 (Or.inr ⟨rfl, _, _, _, _, rfl, hrows, rfl, hreason, rfl⟩)

/-- Not every command that is asked for ends in a report: a second separator in place of the name of a property leaves none to be
found, a path with a NUL is not looked up, and a printer of UTF-8 has no bytes for a surrogate among the rows. -/
theorem run_total_false :
    ¬ (∀ p reference? files texts c, Request.ofTexts texts = .ok (.call c) → ∃ r, run p reference? files texts = .ok r) ∧
      run .utf8 none emptyDescriptor ["describe", "/f.json", "--", "--"] = .error .nameMissing ∧
      run .utf8 none emptyDescriptor ["rows", "f.json" ++ [CodePoint.null]] = .error .nullInPath ∧
      ∃ reason,
        run .utf8 none (rootFile "f.json" (Utf8.encode surrogateValue)) ["rows", "/f.json"] = .error (.outputRefused reason) := by
  have hunnamed : run .utf8 none emptyDescriptor ["describe", "/f.json", "--", "--"] = .error .nameMissing := by decide
  refine ⟨fun htotal => ?_, hunnamed, by decide, run_surrogateValue⟩
  obtain ⟨r, hr⟩ := htotal .utf8 none emptyDescriptor ["describe", "/f.json", "--", "--"]
    ⟨.warning, Path.ofText "/f.json", .describe (.group Group.properties .properties) none⟩ (by decide)
  rw [hunnamed] at hr
  cases hr

end Descriptors.CommandLine
