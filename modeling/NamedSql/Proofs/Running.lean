/-
A run writes all or nothing, unless the write itself fails.

Whatever else fails on the way, nothing has been printed and no file has changed.  A run that
succeeds has collected a catalog, generated its code, and put exactly that in one place.  When
what has been opened for the code does not take all of it, a beginning is there.

* `Argument.isQuestion` — arguments that ask for the help text or the version;
* `Delivery` — what is there after a content has been delivered;
* `deliver_eq_ok`, `deliver_eq_error` — what a sink makes of a text;
* `perform_eq_ok`, `perform_eq_error` — what the steps of a run come to;
* `run_all_or_nothing` — what a run comes to, by its status.
-/
import Mathlib
import NamedSql.CommandLine.Program
import NamedSql.Proofs.Encoding
import NamedSql.Proofs.Writing

namespace NamedSql.CommandLine

/-! ### What is asked for -/

/-- Whether an argument asks for the help text or the version. -/
def Argument.isQuestion : Argument → Bool
  | .long name none => name = "help" ∨ name = "version"
  | .short letters => 'h' ∈ letters ∨ 'V' ∈ letters
  | _ => false

/-- Whether a command line comes to such a question. -/
def Reading.isQuestion : Reading → Bool
  | .showVersion | .showHelp => true
  | .settings _ | .rejected => false

theorem isQuestion_readLetters {letters : List Char} (settings : Settings)
    (h : (Argument.short letters).isQuestion = false) :
    (readLetters settings letters).isQuestion = false := by
  simp only [Argument.isQuestion, decide_eq_false_iff_not, not_or] at h
  obtain ⟨hhelp, hversion⟩ := h
  fun_induction readLetters settings letters with
  | case1 => rfl
  | case2 settings rest ih =>
    exact ih (fun hmem => hhelp (List.mem_cons_of_mem _ hmem))
      fun hmem => hversion (List.mem_cons_of_mem _ hmem)
  | case3 => exact absurd List.mem_cons_self hversion
  | case4 => exact absurd List.mem_cons_self hhelp
  | case5 => rfl

theorem isQuestion_readFlag {name : String} (settings : Settings)
    (h : (Argument.long name none).isQuestion = false) :
    (readFlag settings name).isQuestion = false := by
  simp only [Argument.isQuestion, decide_eq_false_iff_not, not_or] at h
  rw [readFlag, if_neg h.2, if_neg h.1]
  split <;> rfl

/-- A command line without questions comes to none. -/
theorem isQuestion_readArguments {arguments : List String} (settings : Settings)
    (awaiting : Option Setting)
    (h : ∀ text ∈ arguments, (Argument.ofText text).isQuestion = false) :
    (readArguments settings awaiting arguments).isQuestion = false := by
  fun_induction readArguments settings awaiting arguments
  -- the flags that end the reading
  case case10 settings text rest letters hshort _ =>
    exact isQuestion_readLetters settings (hshort ▸ h text List.mem_cons_self)
  case case16 settings text rest name _ hlong _ =>
    exact isQuestion_readFlag settings (hlong ▸ h text List.mem_cons_self)
  -- everything else goes on with the arguments behind, or ends in settings or a rejection
  case case3 ih | case9 ih | case11 ih | case13 ih | case15 ih =>
    exact ih fun other hother => h other (List.mem_cons_of_mem _ hother)
  all_goals rfl

/-- Without questions, a run is asked for or the command line is rejected. -/
theorem read_cases {arguments : List String}
    (h : ∀ text ∈ arguments, (Argument.ofText text).isQuestion = false)
    (environment : Environment) :
    Request.read arguments environment = .rejected ∨
      ∃ invocation, Request.read arguments environment = .run invocation := by
  have hreading := isQuestion_readArguments Settings.empty none h
  rw [Request.read]
  split
  · rename_i hversion
    rw [hversion] at hreading
    cases hreading
  · rename_i hhelp
    rw [hhelp] at hreading
    cases hreading
  · exact .inl rfl
  · split
    · exact .inr ⟨_, rfl⟩
    · exact .inl rfl

/-! ### What a run does -/

theorem RunError.status_ne_zero (error : RunError) : error.status ≠ 0 := by
  cases error <;> simp [RunError.status]

/-- The code that a run generates: the options can be read, a catalog is collected from the files,
and the code is generated for that. -/
def Generates (files : Files.FileSystem) (invocation : Invocation) (code : String) : Prop :=
  ∃ options catalog, invocation.options = .ok options ∧
    Catalog.collect files invocation.root options = .ok catalog ∧
    Code.generate options.compiler catalog = .ok code

/-- What has to succeed before anything is written. -/
theorem plan_eq_ok {invocation : Invocation} {files : Files.FileSystem} {sink : Output.Sink}
    {code : String} (h : invocation.plan (openRoot files invocation.root) = .ok (sink, code)) :
    Generates files invocation code ∧
      Output.Sink.ofOptions invocation.out invocation.permissions = .ok sink := by
  unfold Invocation.plan at h
  split at h
  · cases h
  rename_i options hoptions
  split at h
  · cases h
  rename_i catalog hcatalog
  split at h
  · cases h
  rename_i generated hcode
  split at h
  · cases h
  · rename_i hsink
    cases h
    exact ⟨⟨options, catalog, hoptions, hcatalog, hcode⟩, hsink⟩

/-- Before anything is opened, nothing can be wrong with writing. -/
theorem plan_ne_unwritten {invocation : Invocation} {opened : Except DiscoverError SearchRoot}
    (path : String) (cause : Files.FileError) :
    invocation.plan opened ≠ .error (.output (.unwritten path cause)) := by
  intro h
  unfold Invocation.plan at h
  split at h
  · cases h
  split at h
  · cases h
  split at h
  · cases h
  split at h
  · rename_i error hsink
    cases h
    -- of all output errors only that of the permissions comes before anything is opened
    rw [Output.Sink.ofOptions] at hsink
    split at hsink
    · cases hsink
    · split at hsink <;> cases hsink
  · cases h

/-! ### Delivering -/

/-- A content that has been delivered, what was printed for it, and the files afterwards. -/
inductive Delivery (before : Files.FileSystem) (out permissions : String)
    (content : List UInt8) : List UInt8 → Files.FileSystem → Prop
  /-- Printed, and no file has changed. -/
  | standardOutput (hout : out = "-" ∨ out = "stdout") :
      Delivery before out permissions content content before
  /-- Taken by a device, and no file has changed. -/
  | device {mode names device} (hout : ¬ (out = "-" ∨ out = "stdout"))
      (hmode : Files.Mode.parse? permissions = some mode)
      (hdevice : before.find .writing (Utf8.encode out) = .ok (names, .leaf (.device device))) :
      Delivery before out permissions content [] before
  /-- Written to a file. -/
  | file {mode place file after} (hout : ¬ (out = "-" ∨ out = "stdout"))
      (hmode : Files.Mode.parse? permissions = some mode)
      (hwritten : before.Written (Utf8.encode out) mode content place file after) :
      Delivery before out permissions content [] after

variable {files : Files.FileSystem} {world : Output.World} {out permissions text : String}
  {sink : Output.Sink} {mode : Files.Mode}

/-- The sink of an output option. -/
theorem ofOptions_cases (h : Output.Sink.ofOptions out permissions = .ok sink) :
    ((out = "-" ∨ out = "stdout") ∧ sink = .standardOutput) ∨
      ¬ (out = "-" ∨ out = "stdout") ∧ ∃ mode, Files.Mode.parse? permissions = some mode ∧
        sink = .file out mode := by
  rw [Output.Sink.ofOptions] at h
  split at h
  · rename_i hout
    cases h
    exact .inl ⟨hout, rfl⟩
  · rename_i hout
    split at h
    · rename_i mode hmode
      cases h
      exact .inr ⟨hout, mode, hmode, rfl⟩
    · cases h

/-- What has taken a content has had it delivered. -/
theorem Delivery.of_took {content : List UInt8} {after : Files.FileSystem}
    (hout : ¬ (out = "-" ∨ out = "stdout")) (hmode : Files.Mode.parse? permissions = some mode)
    (h : files.Took (Utf8.encode out) mode content after) :
    Delivery files out permissions content [] after := by
  cases h with
  | file hwritten => exact .file hout hmode hwritten
  | device hdevice => exact .device hout hmode hdevice

/-- A file is opened first, and then written. -/
theorem deliver_file (path : String) (mode : Files.Mode) (text : String) (world : Output.World) :
    (Output.Sink.file path mode).deliver text world =
      match Files.FileSystem.openFile (Utf8.encode path) mode world.files with
      | .error cause files => .error (.unopened path cause) { world with files }
      | .ok handle files =>
        match handle.write (Utf8.encode text) files with
        | .ok _ files => .ok () { world with files }
        | .error cause files => .error (.unwritten path cause) { world with files } := by
  rw [Output.Sink.deliver]
  simp only [bind, EStateM.bind, EStateM.adaptExcept, Output.World.onFiles]
  cases Files.FileSystem.openFile (Utf8.encode path) mode world.files with
  | error cause files => rfl
  | ok handle files =>
    dsimp only
    cases handle.write (Utf8.encode text) files <;> rfl

theorem deliver_standardOutput (text : String) (world : Output.World) :
    Output.Sink.standardOutput.deliver text world =
      match world.files.accept (Utf8.encode text) with
      | (taken, none) => .ok () { world with printed := world.printed ++ taken }
      | (taken, some cause) =>
        .error (.unwritten "standard output" cause)
          { world with printed := world.printed ++ taken } := by
  rw [Output.Sink.deliver]
  simp only [EStateM.adaptExcept, Output.World.print]
  rcases world.files.accept (Utf8.encode text) with ⟨taken, _ | cause⟩ <;> rfl

theorem deliver_eq_ok (hsink : Output.Sink.ofOptions out permissions = .ok sink)
    (h : sink.deliver text (.start files) = .ok () world) :
    Delivery files out permissions (Utf8.encode text) world.printed world.files := by
  rcases ofOptions_cases hsink with ⟨hout, rfl⟩ | ⟨hout, mode, hmode, rfl⟩
  · rw [deliver_standardOutput] at h
    split at h
    · rename_i taken haccept
      cases h
      rw [Files.FileSystem.accept_eq_none haccept]
      exact .standardOutput hout
    · cases h
  · rw [deliver_file] at h
    split at h
    · cases h
    rename_i handle opened hopen
    split at h
    · rename_i after hwrite
      cases h
      exact .of_took hout hmode ((Files.FileSystem.openFile_eq_ok hopen).write_eq_ok hwrite)
    · cases h

/-- When a delivery fails, nothing has changed, or a beginning of the text has been delivered and
not all of it. -/
theorem deliver_eq_error {error : Output.OutputError}
    (hsink : Output.Sink.ofOptions out permissions = .ok sink)
    (h : sink.deliver text (.start files) = .error error world) :
    ((∀ path cause, error ≠ .unwritten path cause) ∧ world = .start files) ∨
      (∃ path cause, error = .unwritten path cause) ∧
        ∃ taken, taken <+: Utf8.encode text ∧ taken ≠ Utf8.encode text ∧
          Delivery files out permissions taken world.printed world.files := by
  rcases ofOptions_cases hsink with ⟨hout, rfl⟩ | ⟨hout, mode, hmode, rfl⟩
  · rw [deliver_standardOutput] at h
    split at h
    · cases h
    · rename_i taken cause haccept
      cases h
      obtain ⟨hfront, hne⟩ := Files.FileSystem.accept_eq_some haccept
      exact .inr ⟨⟨_, _, rfl⟩, taken, hfront, hne, .standardOutput hout⟩
  · rw [deliver_file] at h
    split at h
    · rename_i cause after hopen
      cases h
      -- nothing has been done yet when opening fails
      refine .inl ⟨fun _ _ => by simp, ?_⟩
      rw [Files.FileSystem.openFile_eq_error hopen]
    rename_i handle opened hopen
    split at h
    · cases h
    · rename_i cause after hwrite
      cases h
      obtain ⟨taken, hfront, hne, htook⟩ :=
        (Files.FileSystem.openFile_eq_ok hopen).write_eq_error hwrite
      exact .inr ⟨⟨_, _, rfl⟩, taken, hfront, hne, .of_took hout hmode htook⟩

/-! ### Running -/

variable {invocation : Invocation}

/-- A run plans first, and then delivers what it has planned. -/
theorem perform_eq (invocation : Invocation) (world : Output.World) :
    invocation.perform world =
      match invocation.plan (openRoot world.files invocation.root) with
      | .error error => .error error world
      | .ok (sink, code) =>
        match sink.deliver code world with
        | .ok _ world => .ok () world
        | .error error world => .error (.output error) world := by
  rw [Invocation.perform]
  -- both steps run in the world that is there when they start
  simp only [bind, EStateM.bind, EStateM.adaptExcept, get, getThe, MonadStateOf.get, EStateM.get]
  cases invocation.plan (openRoot world.files invocation.root) with
  | error error => rfl
  | ok planned =>
    obtain ⟨sink, code⟩ := planned
    have hplanned : (MonadExcept.ofExcept (.ok (sink, code)) :
        EStateM RunError Output.World (Output.Sink × String)) world = .ok (sink, code) world := rfl
    rw [hplanned]
    dsimp only
    cases sink.deliver code world <;> rfl

theorem perform_eq_ok (h : invocation.perform (.start files) = .ok () world) :
    ∃ code, Generates files invocation code ∧
      Delivery files invocation.out invocation.permissions (Utf8.encode code) world.printed
        world.files := by
  rw [perform_eq] at h
  split at h
  · cases h
  rename_i sink code hplan
  split at h
  · rename_i hdeliver
    cases h
    obtain ⟨hgenerates, hsink⟩ := plan_eq_ok hplan
    exact ⟨code, hgenerates, deliver_eq_ok hsink hdeliver⟩
  · cases h

/-- When a run fails, nothing has changed, or a beginning of its code has been delivered. -/
theorem perform_eq_error {error : RunError}
    (h : invocation.perform (.start files) = .error error world) :
    ((∀ path cause, error ≠ .output (.unwritten path cause)) ∧ world = .start files) ∨
      (∃ path cause, error = .output (.unwritten path cause)) ∧
        ∃ code taken, Generates files invocation code ∧
          taken <+: Utf8.encode code ∧ taken ≠ Utf8.encode code ∧
          Delivery files invocation.out invocation.permissions taken world.printed world.files := by
  rw [perform_eq] at h
  split at h
  · rename_i planned hplan
    cases h
    refine .inl ⟨fun path cause herror => ?_, rfl⟩
    rw [herror] at hplan
    -- the plan opens nothing, and so it cannot fail to write
    exact plan_ne_unwritten path cause hplan
  rename_i sink code hplan
  split at h
  · cases h
  · rename_i failure _ hdeliver
    cases h
    obtain ⟨hgenerates, hsink⟩ := plan_eq_ok hplan
    rcases deliver_eq_error hsink hdeliver with ⟨hother, hworld⟩ | ⟨⟨path, cause, rfl⟩, htaken⟩
    · refine .inl ⟨fun path cause herror => ?_, hworld⟩
      exact hother path cause (RunError.output.inj herror)
    · obtain ⟨taken, hfront, hne, hdelivery⟩ := htaken
      exact .inr ⟨⟨path, cause, rfl⟩, code, taken, hgenerates, hfront, hne, hdelivery⟩

variable {arguments : List String} {environment : Environment}

/-- A run fails because what it has opened for its code does not take all of it. -/
def FailsWriting (arguments : List String) (environment : Environment)
    (files : Files.FileSystem) : Prop :=
  ∃ invocation path cause world, Request.read arguments environment = .run invocation ∧
    invocation.perform (.start files) = .error (.output (.unwritten path cause)) world

/-- What a run comes to is decided by its steps. -/
theorem answer_run (colored : Bool) (files : Files.FileSystem) (invocation : Invocation) :
    Request.answer colored files (.run invocation) =
      match invocation.perform (.start files) with
      | .ok _ world =>
        { status := 0
          standardOutput := world.printed
          standardError := ""
          files := world.files }
      | .error error world =>
        { status := error.status
          standardOutput := world.printed
          standardError := error.printed colored
          files := world.files } := by
  rfl

theorem run_of_ok (hread : Request.read arguments environment = .run invocation)
    (hperform : invocation.perform (.start files) = .ok () world) :
    run arguments environment files =
      { status := 0
        standardOutput := world.printed
        standardError := ""
        files := world.files } := by
  rw [run, hread, answer_run, hperform]

theorem run_of_error {error : RunError}
    (hread : Request.read arguments environment = .run invocation)
    (hperform : invocation.perform (.start files) = .error error world) :
    run arguments environment files =
      { status := error.status
        standardOutput := world.printed
        standardError := error.printed (Color.showsColor false environment)
        files := world.files } := by
  rw [run, hread, answer_run, hperform]

theorem run_of_rejected (hread : Request.read arguments environment = .rejected) :
    run arguments environment files =
      { status := 2, standardOutput := [], standardError := usageText, files } := by
  rw [run, hread]
  rfl

/-- **All or nothing.**  A run that fails prints nothing on standard output and leaves all files
as they were, unless it fails because what it has opened for its code does not take all of it.
In that case a beginning of the code has been delivered, and nothing else has changed.

A run that succeeds has collected a catalog from the files as they were and generated its code,
and that is all that it prints or writes: with standard output as its sink it prints the code and
changes no file; with a file, the path of the output leads to that file afterwards, it holds the
code and nothing else, and no other file has changed. -/
theorem run_all_or_nothing
    (harguments : ∀ text ∈ arguments, (Argument.ofText text).isQuestion = false) :
    ((run arguments environment files).status ≠ 0 →
      ¬ FailsWriting arguments environment files →
      (run arguments environment files).standardOutput = [] ∧
        (run arguments environment files).files = files) ∧
    (FailsWriting arguments environment files →
      ∃ invocation code taken, Request.read arguments environment = .run invocation ∧
        Generates files invocation code ∧
        taken <+: Utf8.encode code ∧ taken ≠ Utf8.encode code ∧
        Delivery files invocation.out invocation.permissions taken
          (run arguments environment files).standardOutput
          (run arguments environment files).files) ∧
    ((run arguments environment files).status = 0 →
      ∃ invocation code, Request.read arguments environment = .run invocation ∧
        Generates files invocation code ∧
        Delivery files invocation.out invocation.permissions (Utf8.encode code)
          (run arguments environment files).standardOutput
          (run arguments environment files).files) := by
  -- rejected arguments do nothing; else the run is that of an invocation, which succeeds or fails
  rcases read_cases harguments environment with hrejected | ⟨invocation, hread⟩
  · rw [run_of_rejected hrejected]
    refine ⟨fun _ _ => ⟨rfl, rfl⟩, ?_, fun hstatus => by cases hstatus⟩
    rintro ⟨invocation, _, _, _, hread, -⟩
    rw [hrejected] at hread
    cases hread
  cases hperform : invocation.perform (.start files) with
  | ok _ world =>
    rw [run_of_ok hread hperform]
    refine ⟨fun hstatus => absurd rfl hstatus, ?_, fun _ => ?_⟩
    · rintro ⟨other, path, cause, _, hother, hfails⟩
      cases hread.symm.trans hother
      rw [hperform] at hfails
      cases hfails
    · obtain ⟨code, hgenerates, hdelivery⟩ := perform_eq_ok hperform
      exact ⟨invocation, code, hread, hgenerates, hdelivery⟩
  | error error world =>
    rw [run_of_error hread hperform]
    refine ⟨fun _ hnot => ?_, ?_, fun hstatus => absurd hstatus error.status_ne_zero⟩
    · rcases perform_eq_error hperform with ⟨-, rfl⟩ | ⟨⟨path, cause, rfl⟩, -⟩
      · exact ⟨rfl, rfl⟩
      · exact absurd ⟨invocation, path, cause, world, hread, hperform⟩ hnot
    · rintro ⟨other, path, cause, _, hother, hfails⟩
      cases hread.symm.trans hother
      rw [hperform] at hfails
      cases hfails
      rcases perform_eq_error hperform with ⟨hnone, -⟩ | ⟨-, code, taken, htaken⟩
      · exact absurd rfl (hnone path cause)
      · exact ⟨invocation, code, taken, hread, htaken⟩

/-! ### Writes that fail -/

/-- Code starts by saying what has written it. -/
theorem prefix_of_generate {compiler : Sql.Compiler} {catalog : Catalog} {code : String}
    (h : Code.generate compiler catalog = .ok code) :
    ∃ rest, code = "// Generated by sqlgen. Do not edit." ++ rest := by
  rw [Code.generate] at h
  split at h
  · cases h
  cases h
  -- the header has two lines, whatever comes behind them
  obtain ⟨second, rest, hlines⟩ : ∃ second rest, Code.separated (Code.header compiler ::
      catalog.groups.map fun entry => Code.moduleItem entry.1 entry.2) =
        "// Generated by sqlgen. Do not edit." :: second :: rest := by
    rw [Code.separated, Code.header]
    cases catalog.groups.map fun entry => Code.moduleItem entry.1 entry.2 with
    | nil => exact ⟨_, _, rfl⟩
    | cons item items =>
      rw [List.intercalate_cons_cons]
      exact ⟨_, _, rfl⟩
  refine ⟨"\n" ++ "\n".intercalate (second :: rest), ?_⟩
  rw [hlines, Code.text, ← String.toList_inj, String.toList_append, String.toList_append,
    String.toList_intercalate, String.toList_intercalate, List.map_cons, List.map_cons,
    List.intercalate_cons_cons, List.append_assoc]

/-- A run fails to write when the system takes less than the code that it has planned for a file,
and the file can be opened. -/
theorem failsWriting_of_fault {code path : String} {mode mode' : Files.Mode}
    {names : List Files.Name} {opened : Files.FileSystem} {fault : Files.WriteFault}
    (hread : Request.read arguments environment = .run invocation)
    (hplan : invocation.plan (openRoot files invocation.root) = .ok (.file path mode, code))
    (hopen : Files.FileSystem.openFile (Utf8.encode path) mode files =
      .ok (.file names mode') opened)
    (hfault : opened.writeFault = some fault)
    (hless : fault.taken < (Utf8.encode code).length) :
    FailsWriting arguments environment files := by
  -- the fault is met before all of the code is taken
  have haccept : opened.accept (Utf8.encode code) =
      ((Utf8.encode code).take fault.taken, some fault.cause) := by
    rw [Files.FileSystem.accept, hfault]
    exact if_pos hless
  have hwrite : (Files.Handle.file names mode').write (Utf8.encode code) opened =
      .error fault.cause (opened.setFile names
        { content := (Utf8.encode code).take fault.taken, mode := mode' }) := by
    simp only [Files.Handle.write, haccept]
  have hperform : invocation.perform (.start files) =
      .error (.output (.unwritten path fault.cause))
        { files := opened.setFile names
            { content := (Utf8.encode code).take fault.taken, mode := mode' }
          printed := [] } := by
    rw [perform_eq]
    simp only [Output.World.start, hplan, deliver_file, hopen, hwrite]
  exact ⟨invocation, path, fault.cause, _, hread, hperform⟩

/-- A query, and a file of older code that a link leads to. -/
def linkedOutput : Files.FileSystem :=
  ((Files.FileSystem.empty.put (Utf8.encode "/q/users/list.sql") (Utf8.encode "SELECT 1")).put
    (Utf8.encode "/gen/code.rs") (Utf8.encode "// old")).link
    (Utf8.encode "/out.rs") (Utf8.encode "gen/code.rs")

/-- The same files, in a system that fails a write when it has taken three bytes. -/
def fullOutput : Files.FileSystem :=
  { linkedOutput with writeFault := some { taken := 3, cause := .noSpace } }

/-- Code from the queries below `/q`, written through the link. -/
def linkInvocation (permissions : String) : Invocation :=
  { ({ values := [], verbosity := 0 } : Settings).invocation with
    root := "/q", out := "/out.rs", permissions }

/-- The place that the link leads to. -/
def linkedPlace : Files.Place :=
  .taken [Utf8.encode "gen", Utf8.encode "code.rs"]
    (.leaf (.file { content := Utf8.encode "// old", mode := 0o644 }))

/-- What has been delivered through the link has been written where it leads. -/
theorem Delivery.written_through_link {files after : Files.FileSystem}
    {content printed : List UInt8}
    (hlocate : files.locate .writing (Utf8.encode "/out.rs") = .ok linkedPlace)
    (h : Delivery files "/out.rs" "0644" content printed after) :
    printed = [] ∧ ∃ file,
      files.Written (Utf8.encode "/out.rs") 0o644 content linkedPlace file after := by
  cases h with
  | standardOutput hout => exact absurd hout (by decide)
  | device _ _ hdevice =>
    cases hlocate.symm.trans (Files.FileSystem.find_eq_ok_iff.mp hdevice)
  | @file mode place file _ hout hmode hwritten =>
    have hparse : Files.Mode.parse? "0644" = some 0o644 := by decide
    cases hparse.symm.trans hmode
    cases hlocate.symm.trans hwritten.located
    exact ⟨rfl, file, hwritten⟩

theorem read_linkInvocation :
    Request.read ["--root", "/q", "--out=/out.rs"] [] = .run (linkInvocation "0644") := by
  decide +kernel

/-- With a disk that takes three bytes, the run opens the file and cannot write it. -/
theorem failsWriting_fullOutput :
    FailsWriting ["--root", "/q", "--out=/out.rs"] [] fullOutput := by
  have hplanned : ((linkInvocation "0644").plan (openRoot fullOutput "/q")).map Prod.fst =
      .ok (.file "/out.rs" 0o644) := by
    decide +kernel
  have hlocate : fullOutput.locate .writing (Utf8.encode "/out.rs") = .ok linkedPlace := by
    decide +kernel
  have hopen : Files.FileSystem.openFile (Utf8.encode "/out.rs") 0o644 fullOutput =
      .ok (.file [Utf8.encode "gen", Utf8.encode "code.rs"] 0o644)
        (fullOutput.setFile [Utf8.encode "gen", Utf8.encode "code.rs"]
          { content := [], mode := 0o644 }) := by
    simp only [Files.FileSystem.openFile, hlocate, linkedPlace]
    rfl
  cases hplan : (linkInvocation "0644").plan (openRoot fullOutput "/q") with
  | error error =>
    rw [hplan] at hplanned
    cases hplanned
  | ok planned =>
    obtain ⟨sink, code⟩ := planned
    rw [hplan] at hplanned
    obtain rfl := Except.ok.inj hplanned
    refine failsWriting_of_fault read_linkInvocation hplan hopen
      (Files.FileSystem.writeFault_setFile _ _ _) ?_
    obtain ⟨⟨options, catalog, -, -, hcode⟩, -⟩ := plan_eq_ok hplan
    obtain ⟨rest, rfl⟩ := prefix_of_generate hcode
    have hlength : (Utf8.encode "// Generated by sqlgen. Do not edit.").length = 36 := by
      decide +kernel
    rw [Utf8.encode_append, List.length_append, hlength]
    -- the first line of the code alone is longer than what is taken
    show 3 < 36 + _
    omega

/-- With permissions that are none, a run changes nothing.  With a disk that takes three bytes, it
leaves a beginning of its code where the link leads, and otherwise all of it. -/
theorem run_through_link :
    ((run ["--root", "/q", "--out=/out.rs", "--perms=rw"] [] linkedOutput).status = 1 ∧
      (run ["--root", "/q", "--out=/out.rs", "--perms=rw"] [] linkedOutput).standardOutput = [] ∧
      (run ["--root", "/q", "--out=/out.rs", "--perms=rw"] [] linkedOutput).files =
        linkedOutput) ∧
    ((run ["--root", "/q", "--out=/out.rs"] [] fullOutput).standardOutput = [] ∧
      ∃ code taken file, Generates fullOutput (linkInvocation "0644") code ∧
        taken <+: Utf8.encode code ∧ taken ≠ Utf8.encode code ∧
        fullOutput.Written (Utf8.encode "/out.rs") 0o644 taken linkedPlace file
          (run ["--root", "/q", "--out=/out.rs"] [] fullOutput).files) ∧
    (run ["--root", "/q", "--out=/out.rs"] [] linkedOutput).status = 0 ∧
    (run ["--root", "/q", "--out=/out.rs"] [] linkedOutput).standardOutput = [] ∧
    ∃ code file, Generates linkedOutput (linkInvocation "0644") code ∧
      linkedOutput.Written (Utf8.encode "/out.rs") 0o644 (Utf8.encode code) linkedPlace file
        (run ["--root", "/q", "--out=/out.rs"] [] linkedOutput).files := by
  have hquestions : ∀ text ∈ ["--root", "/q", "--out=/out.rs"],
      (Argument.ofText text).isQuestion = false := by
    decide +kernel
  refine ⟨?_, ?_, ?_⟩
  · have hread : Request.read ["--root", "/q", "--out=/out.rs", "--perms=rw"] [] =
        .run (linkInvocation "rw") := by
      decide +kernel
    have hplan : (linkInvocation "rw").plan (openRoot linkedOutput "/q") =
        .error (.output (.invalidPermissions "rw")) := by
      decide +kernel
    have hperform : (linkInvocation "rw").perform (.start linkedOutput) =
        .error (.output (.invalidPermissions "rw")) (.start linkedOutput) := by
      rw [perform_eq]
      simp only [Output.World.start]
      rw [show (linkInvocation "rw").root = "/q" from rfl, hplan]
    have hstatus : (run ["--root", "/q", "--out=/out.rs", "--perms=rw"] []
        linkedOutput).status = 1 := by
      rw [run_of_error hread hperform]
      rfl
    refine ⟨hstatus, (run_all_or_nothing (by decide +kernel)).1 (by simp [hstatus]) ?_⟩
    rintro ⟨invocation, path, cause, _, hother, hunwritten⟩
    obtain rfl := Request.run.inj (hread.symm.trans hother)
    rw [hperform] at hunwritten
    cases hunwritten
  · have hlocate : fullOutput.locate .writing (Utf8.encode "/out.rs") = .ok linkedPlace := by
      decide +kernel
    obtain ⟨invocation, code, taken, hread, hgenerates, hfront, hne, hdelivery⟩ :=
      (run_all_or_nothing hquestions).2.1 failsWriting_fullOutput
    obtain rfl := Request.run.inj (read_linkInvocation.symm.trans hread)
    obtain ⟨hprinted, file, hwritten⟩ := hdelivery.written_through_link hlocate
    exact ⟨hprinted, code, taken, file, hgenerates, hfront, hne, hwritten⟩
  · have hlocate : linkedOutput.locate .writing (Utf8.encode "/out.rs") = .ok linkedPlace := by
      decide +kernel
    have hstatus : (run ["--root", "/q", "--out=/out.rs"] [] linkedOutput).status = 0 := by
      decide +kernel
    obtain ⟨invocation, code, hread, hgenerates, hdelivery⟩ :=
      (run_all_or_nothing hquestions).2.2 hstatus
    obtain rfl := Request.run.inj (read_linkInvocation.symm.trans hread)
    obtain ⟨hprinted, file, hwritten⟩ := hdelivery.written_through_link hlocate
    exact ⟨hstatus, hprinted, code, file, hgenerates, hwritten⟩

end NamedSql.CommandLine
