/-
A second run changes nothing.

The output of a run may lie in the tree that the next run searches, be reached through links, or
take the place of an older file.  As long as a search passes it over, the next run meets the same
query files, generates the same code, and finds that code where it writes it.

* `PassedOver` — a search takes no notice of a file;
* `queries_of_written` — a directory has the same query files once a file that is passed over has
  been written;
* `plan_of_written` — so the next run plans the same;
* `run_idempotent` — and leaves all files as they are.
-/
import Mathlib
import NamedSql.Proofs.Irrelevance
import NamedSql.Proofs.Running

namespace NamedSql

open Files

/-- A search below a directory takes no notice of a file: it does not lie there, or its path is a
text and it has another extension or none. -/
def PassedOver (above : List Name) (suffix : String) (names : List Name) : Prop :=
  above <+: names → Utf8.IsText (absolutePath names) ∧ extensionOf? names ≠ some suffix

variable {above below : List Name} {root suffix : String} {directory directory' : Directory}

/-! ### Paths below a directory -/

theorem extensionOf?_append (h : below ≠ []) :
    extensionOf? (above ++ below) = extensionOf? below := by
  rw [extensionOf?, extensionOf?, List.getLast?_append_of_ne_nil above h]

/-- If a path is a text, so is its part below a directory. -/
theorem isText_relativePath (h : Utf8.IsText (absolutePath (above ++ below))) :
    Utf8.IsText (relativePath below) := by
  by_cases hbelow : below = []
  · rw [hbelow]
    exact Utf8.isText_encode ""
  · have hcons : slash :: relativePath below = below.flatMap fun name => slash :: name :=
      cons_intercalate slash hbelow
    rw [absolutePath_eq_flatMap (List.append_ne_nil_of_right_ne_nil above hbelow),
      List.flatMap_append, ← hcons] at h
    exact (h.cut (by decide)).2

/-! ### Searching once more -/

variable {before after : FileSystem} {out content : List UInt8} {mode : Mode} {place : Place}
  {file : File}

/-- Below a directory, all but the file that has been written is as it was. -/
theorem entryAt?_of_written (h : before.Written out mode content place file after)
    (hdirectory : before.root.nodeAt? above = some (.dir directory))
    (hdirectory' : after.root.nodeAt? above = some (.dir directory'))
    (hother : above ++ below ≠ place.names) :
    directory'.entryAt? below = directory.entryAt? below := by
  rw [Directory.entryAt?, Directory.entryAt?, ← Directory.nodeAt?_append hdirectory,
    ← Directory.nodeAt?_append hdirectory', ← Directory.entryAt?, ← Directory.entryAt?,
    h.others _ hother]

/-- Below a directory, the directories are the same, and so is what stands in the way. -/
theorem directories_of_written (h : before.Written out mode content place file after)
    (hdirectory : before.root.nodeAt? above = some (.dir directory))
    (hdirectory' : after.root.nodeAt? above = some (.dir directory')) (names : List Name)
    (mode : Mode) :
    directory'.entryAt? names = some (.directory mode) ↔
      directory.entryAt? names = some (.directory mode) := by
  have hsame := h.directories (above ++ names) mode
  rwa [Directory.entryAt?, Directory.entryAt?, Directory.nodeAt?_append hdirectory,
    Directory.nodeAt?_append hdirectory'] at hsame

theorem obstacle?_of_written (h : before.Written out mode content place file after)
    (hdirectory : before.root.nodeAt? above = some (.dir directory))
    (hdirectory' : after.root.nodeAt? above = some (.dir directory')) :
    directory'.obstacle? above = directory.obstacle? above := by
  funext names
  rw [Directory.obstacle?, Directory.obstacle?,
    Directory.admits_congr (directories_of_written h hdirectory hdirectory')]

/-- A walk comes upon the same directories that cannot be listed. -/
theorem sameClosed_of_written (h : before.Written out mode content place file after)
    (hdirectory : before.root.nodeAt? above = some (.dir directory))
    (hdirectory' : after.root.nodeAt? above = some (.dir directory')) :
    SameClosed above directory directory' := by
  have hdirectories := directories_of_written h hdirectory hdirectory'
  intro names cause
  rw [meets_closed_iff, meets_closed_iff, obstacle?_of_written h hdirectory hdirectory']
  simp only [hdirectories, Opens, Directory.onTheWay_congr hdirectories]

/-- When a file that is passed over has been written, all paths are still texts, and the query
files are the same. -/
theorem queries_of_written (h : before.Written out mode content place file after)
    (hdirectory : before.root.nodeAt? above = some (.dir directory))
    (hdirectory' : after.root.nodeAt? above = some (.dir directory'))
    (hover : PassedOver above suffix place.names) (htext : TextPaths directory) :
    TextPaths directory' ∧ SameQueries above directory directory' suffix := by
  constructor
  · intro names other hnode
    by_cases hwritten : above ++ names = place.names
    · obtain ⟨hpath, -⟩ := hover ⟨names, hwritten⟩
      rw [← hwritten] at hpath
      exact isText_relativePath hpath
    · rw [← Directory.entryAt?_eq_leaf_iff, entryAt?_of_written h hdirectory hdirectory' hwritten,
        Directory.entryAt?_eq_leaf_iff] at hnode
      exact htext names other hnode
  · intro names read hextension
    -- the file that has been written is no query file, so this is another one
    have hother : above ++ names ≠ place.names := by
      intro hwritten
      obtain ⟨-, hnone⟩ := hover ⟨names, hwritten⟩
      have hne : names ≠ [] := by
        rintro rfl
        cases hextension
      rw [← hwritten, extensionOf?_append hne] at hnone
      exact hnone hextension
    have hsame (stored : File) : directory.nodeAt? names = some (.leaf (.file stored)) ↔
        directory'.nodeAt? names = some (.leaf (.file stored)) := by
      rw [← Directory.entryAt?_eq_leaf_iff, ← Directory.entryAt?_eq_leaf_iff,
        entryAt?_of_written h hdirectory hdirectory' hother]
    simp only [hsame, obstacle?_of_written h hdirectory hdirectory']

/-- The same root is opened, and what is collected there is the same. -/
theorem collect_of_written {options : Options} {catalog : Catalog}
    (h : before.Written out mode content place file after)
    (hcollect : Catalog.collect before root options = .ok catalog)
    (hover : ∀ above node, before.canonical (Utf8.encode root) = .ok (above, node) →
      PassedOver above (trimSuffix options.suffix) place.names) :
    Catalog.collect after root options = Catalog.collect before root options := by
  obtain ⟨found, hdiscover, -⟩ := Catalog.collect_eq_ok_iff.mp hcollect
  obtain ⟨top, hopen, hfound⟩ := exists_openRoot_of_discover hdiscover
  obtain ⟨hroot, hpath, hreached⟩ := openRoot_eq_ok_iff.mp hopen
  have htop := liesIn_of_openRoot hopen
  obtain ⟨directory, hroot'⟩ := h.find_directory hroot
  have hdirectory' := nodeAt?_of_canonical hroot'
  -- writing changes no directory on the way, so the root is reached as before
  have hreached' : after.root.obstacle? [] top.above = none := by
    rw [← hreached, Directory.obstacle?, Directory.obstacle?,
      Directory.admits_congr h.directories]
  have hopen' : openRoot after root = .ok { top with directory } :=
    openRoot_eq_ok_iff.mpr ⟨hroot', hpath, hreached'⟩
  have htext := textPaths_of_queryFiles htop.wellFormed hfound
  obtain ⟨htext', hsame⟩ :=
    queries_of_written h htop.node hdirectory' (hover top.above _ hroot) htext
  rw [Catalog.collect, Catalog.collect, hopen, hopen']
  exact (collectOpened_congr htop.wellFormed (liesIn_of_openRoot hopen').wellFormed htext htext'
    hsame (sameClosed_of_written h htop.node hdirectory')).symm

namespace CommandLine

variable {invocation : Invocation} {files : FileSystem} {arguments : List String}
  {environment : Environment}

/-! ### Running once more -/

/-- A run that has been asked for and succeeds has delivered its code. -/
theorem exists_perform_of_status (hread : Request.read arguments environment = .run invocation)
    (hstatus : (run arguments environment files).status = 0) :
    ∃ world, invocation.perform (.start files) = .ok () world := by
  cases hperform : invocation.perform (.start files) with
  | ok _ world => exact ⟨world, rfl⟩
  | error error world =>
    rw [run_of_error hread hperform] at hstatus
    exact absurd hstatus error.status_ne_zero

theorem perform_eq_ok_iff {world after : Output.World} :
    invocation.perform world = .ok () after ↔
      ∃ sink code, invocation.plan (openRoot world.files invocation.root) = .ok (sink, code) ∧
        sink.deliver code world = .ok () after := by
  -- a run has two steps that can fail, the plan and the delivery
  rw [perform_eq]
  constructor
  · intro h
    split at h
    · cases h
    · rename_i sink code hplan
      split at h
      · rename_i hdeliver
        cases h
        exact ⟨sink, code, hplan, hdeliver⟩
      · cases h
  · rintro ⟨sink, code, hplan, hdeliver⟩
    rw [hplan]
    dsimp only
    rw [hdeliver]

/-- What a run plans depends on what it collects, and on nothing else in the files. -/
theorem plan_congr {opened opened' : Except DiscoverError SearchRoot}
    (h : ∀ options, invocation.options = .ok options →
      Catalog.collectOpened opened options = Catalog.collectOpened opened' options) :
    invocation.plan opened = invocation.plan opened' := by
  rw [Invocation.plan, Invocation.plan]
  cases hoptions : invocation.options with
  | error error => rfl
  | ok options =>
    dsimp only
    rw [h options hoptions]

theorem suffix_of_options {options : Options} (h : invocation.options = .ok options) :
    options.suffix = invocation.suffix := by
  rw [Invocation.options] at h
  split at h
  · cases h
    rfl
  · cases h

/-- The next run plans the same if a search passes over the file that the first has written. -/
theorem plan_of_written {sink : Output.Sink} {code : String}
    (h : before.Written out mode content place file after)
    (hplan : invocation.plan (openRoot before invocation.root) = .ok (sink, code))
    (hover : ∀ above node, before.canonical (Utf8.encode invocation.root) = .ok (above, node) →
      PassedOver above (trimSuffix invocation.suffix) place.names) :
    invocation.plan (openRoot after invocation.root) = .ok (sink, code) := by
  rw [← hplan]
  refine plan_congr fun options hoptions => ?_
  obtain ⟨⟨options', catalog, hoptions', hcollect, -⟩, -⟩ := plan_eq_ok hplan
  obtain rfl := Except.ok.inj (hoptions.symm.trans hoptions')
  rw [← suffix_of_options hoptions] at hover
  exact collect_of_written h hcollect hover

/-- **A second run changes nothing.**  Take a run that succeeds.  If its output leads to a file,
let the owner be allowed to write it, and let a search below the root pass it over.  Then the
same run once more succeeds as well, prints the same, and leaves all files as they are. -/
theorem run_idempotent (hread : Request.read arguments environment = .run invocation)
    (hstatus : (run arguments environment files).status = 0)
    (hwrites : ∀ names file, (run arguments environment files).files.find .writing
      (Utf8.encode invocation.out) = .ok (names, .leaf (.file file)) →
        file.mode.ownerWrites = true)
    (hover : ∀ names file above node, (run arguments environment files).files.find .writing
      (Utf8.encode invocation.out) = .ok (names, .leaf (.file file)) →
        files.canonical (Utf8.encode invocation.root) = .ok (above, node) →
          PassedOver above (trimSuffix invocation.suffix) names) :
    run arguments environment (run arguments environment files).files =
      run arguments environment files := by
  obtain ⟨world, hperform⟩ := exists_perform_of_status hread hstatus
  rw [run_of_ok hread hperform] at hwrites hover ⊢
  refine run_of_ok hread ?_
  obtain ⟨sink, code, hplan, hdeliver⟩ := perform_eq_ok_iff.mp hperform
  obtain ⟨-, hsink⟩ := plan_eq_ok hplan
  rcases ofOptions_cases hsink with ⟨-, rfl⟩ | ⟨-, mode, -, rfl⟩
  · -- what is printed changes no file
    have hsame : world.files = files := by
      rw [deliver_standardOutput] at hdeliver
      split at hdeliver
      · cases hdeliver
        rfl
      · cases hdeliver
    rw [hsame]
    exact hperform
  · rw [deliver_file] at hdeliver
    split at hdeliver
    · cases hdeliver
    rename_i handle opened hopen
    split at hdeliver
    · rename_i after hwrite
      cases hdeliver
      obtain ⟨handle', opened', hopen', hwrite'⟩ :=
        FileSystem.openFile_write_again hopen hwrite hwrites
      have hplan' : invocation.plan (openRoot after invocation.root) =
          .ok (.file invocation.out mode, code) := by
        cases (FileSystem.openFile_eq_ok hopen).write_eq_ok hwrite with
        | @file place file _ hwritten =>
          exact plan_of_written hwritten hplan fun above node =>
            hover place.names file above node (hwritten.found .writing (by simp))
        | device => exact hplan
      have hdeliver' : (Output.Sink.file invocation.out mode).deliver code (.start after) =
          .ok () (.start after) := by
        rw [deliver_file]
        simp only [Output.World.start, hopen', hwrite']
      exact perform_eq_ok_iff.mpr ⟨_, code, hplan', hdeliver'⟩
    · cases hdeliver

/-- A query, and a link that leads to no file yet, below the directory of the query. -/
def outputBelowRoot : FileSystem :=
  (FileSystem.empty.put (Utf8.encode "/q/users/list.sql") (Utf8.encode "SELECT 1")).link
    (Utf8.encode "/out.rs") (Utf8.encode "q/gen.rs")

/-- The mode of a file. -/
def modeOf? : Node → Option Mode
  | .leaf (.file file) => some file.mode
  | _ => none

/-- The first run creates a file where the next one searches; the next one changes nothing. -/
theorem run_twice_below_root :
    outputBelowRoot.read? (Utf8.encode "/q/gen.rs") = none ∧
      ((run ["--root", "/q", "--out=/out.rs"] [] outputBelowRoot).files.read?
        (Utf8.encode "/q/gen.rs")).isSome = true ∧
      run ["--root", "/q", "--out=/out.rs"] []
          (run ["--root", "/q", "--out=/out.rs"] [] outputBelowRoot).files =
        run ["--root", "/q", "--out=/out.rs"] [] outputBelowRoot := by
  obtain ⟨invocation, hread, hroot, hout, hsuffix⟩ : ∃ invocation,
      Request.read ["--root", "/q", "--out=/out.rs"] [] = .run invocation ∧
        invocation.root = "/q" ∧ invocation.out = "/out.rs" ∧
        trimSuffix invocation.suffix = "sql" := by
    refine ⟨{ ({ values := [], verbosity := 0 } : Settings).invocation with
      root := "/q", out := "/out.rs" }, ?_, rfl, rfl, ?_⟩
    · decide +kernel
    · decide +kernel
  have hfound : ((run ["--root", "/q", "--out=/out.rs"] [] outputBelowRoot).files.find
      .writing (Utf8.encode "/out.rs")).map (fun found => (found.1, modeOf? found.2)) =
        .ok ([Utf8.encode "q", Utf8.encode "gen.rs"], some 0o644) := by
    decide +kernel
  have hover : PassedOver [Utf8.encode "q"] "sql" [Utf8.encode "q", Utf8.encode "gen.rs"] :=
    fun _ => by decide +kernel
  have habove : (outputBelowRoot.canonical (Utf8.encode "/q")).map Prod.fst =
      .ok [Utf8.encode "q"] := by
    decide +kernel
  refine ⟨by decide +kernel, by decide +kernel, run_idempotent hread (by decide +kernel) ?_ ?_⟩
  · intro names file hfind
    rw [← hout, hfind] at hfound
    obtain ⟨-, hmode⟩ := Prod.mk.inj (Except.ok.inj hfound)
    rw [Option.some.inj hmode]
    decide
  · intro names file above node hfind hcanonical
    rw [← hout, hfind] at hfound
    obtain ⟨rfl, -⟩ := Prod.mk.inj (Except.ok.inj hfound)
    rw [← hroot, hcanonical] at habove
    obtain rfl := Except.ok.inj habove
    rw [hsuffix]
    exact hover

end CommandLine

end NamedSql
