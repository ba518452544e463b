/-
Writing a file changes that file and nothing else.

A file is opened, which creates or empties it, and then it takes a content, or a part of it before
the system fails the write.  A file that cannot be opened leaves all as it was.

* `FileSystem.Written` — what is there before and after a file has got a content;
* `FileSystem.openFile_eq_error`, `FileSystem.openFile_eq_ok` — what opening a file comes to;
* `FileSystem.Opened.write_eq_ok`, `FileSystem.Opened.write_eq_error` — what has been opened
  takes a content, or a beginning of it;
* `FileSystem.Written.find_directory` — paths to directories lead there still;
* `FileSystem.openFile_write_again` — opening and writing a file once more puts back what is
  there.
-/
import Mathlib
import NamedSql.Proofs.Resolving

namespace NamedSql.Files

namespace FileSystem

variable {files before after : FileSystem} {path content : List UInt8} {mode : Mode}
  {place : Place} {file : File} {names : List Name}

theorem maskedMode_testBit (mode : Mode) {bit : Nat} (h : bit < 9) :
    (maskedMode mode).testBit bit = (mode.testBit bit && !mask.testBit bit) := by
  have hmask : ∀ bit < 9, (Mode.all ^^^ mask).testBit bit = !mask.testBit bit := by decide
  rw [maskedMode, Nat.testBit_and, hmask bit h]

/-! ### Putting a file -/

/-- A file can be put where names lead: they end in a name, in a directory, and there is nothing
there or a file. -/
structure TakesFile (files : FileSystem) (names : List Name) : Prop where
  place : ∃ directory name mode, names = directory ++ [name] ∧ isName name = true ∧
    files.root.entryAt? directory = some (.directory mode)
  free : files.root.entryAt? names = none ∨
    ∃ old, files.root.entryAt? names = some (.leaf (.file old))

theorem takesFile_of_file (h : files.root.nodeAt? names = some (.leaf (.file file))) :
    TakesFile files names := by
  refine ⟨?_, .inr ⟨file, Directory.entryAt?_eq_leaf_iff.mpr h⟩⟩
  rcases List.eq_nil_or_concat names with rfl | ⟨directory, name, rfl⟩
  · cases h
  rw [List.concat_eq_append] at h ⊢
  obtain ⟨inner, hinner, -⟩ := Directory.exists_dir_of_nodeAt?_concat h
  exact ⟨directory, name, inner.mode, rfl,
    (Directory.wellFormed_nodeAt? files.wellFormed h).1 name List.mem_concat_self,
    Directory.entryAt?_of_dir hinner⟩

/-- Putting a file somewhere leaves all else as it was. -/
theorem entryAt?_setFile (h : TakesFile files names) (file : File) (other : List Name) :
    (files.setFile names file).root.entryAt? other =
      if other = names then some (.leaf (.file file)) else files.root.entryAt? other := by
  obtain ⟨directory, name, mode, rfl, hname, hdirectory⟩ := h.place
  obtain ⟨inner, hinner, -⟩ := Directory.entryAt?_eq_directory_iff.mp hdirectory
  rw [setFile, List.getLast?_concat]
  dsimp only
  rw [List.dropLast_concat, setLeaf, dif_pos hname]
  refine Directory.entryAt?_update_set hinner (fun below hbelow => ?_) other
  -- nothing or a file has the name, and no directory
  rw [← Directory.nodeAt?_concat hinner] at hbelow
  have hentry := Directory.entryAt?_of_dir hbelow
  rcases h.free with hnone | ⟨old, hold⟩
  · rw [hnone] at hentry
    cases hentry
  · rw [hold] at hentry
    cases hentry

@[simp] theorem workingDirectory_setFile (files : FileSystem) (names : List Name) (file : File) :
    (files.setFile names file).workingDirectory = files.workingDirectory := by
  unfold setFile setLeaf
  split
  · split <;> rfl
  · rfl

@[simp] theorem writeFault_setFile (files : FileSystem) (names : List Name) (file : File) :
    (files.setFile names file).writeFault = files.writeFault := by
  unfold setFile setLeaf
  split
  · split <;> rfl
  · rfl

theorem accept_setFile (files : FileSystem) (names : List Name) (file : File)
    (content : List UInt8) : (files.setFile names file).accept content = files.accept content := by
  rw [accept, accept, writeFault_setFile]

/-- Putting back what is there changes nothing. -/
theorem setFile_self (h : files.root.nodeAt? names = some (.leaf (.file file))) :
    files.setFile names file = files := by
  obtain ⟨⟨directory, name, mode, rfl, hname, -⟩, -⟩ := takesFile_of_file h
  obtain ⟨inner, hinner, hfind⟩ := Directory.exists_dir_of_nodeAt?_concat h
  have hroot : files.root.update (·.set name (.leaf (.file file))) directory = files.root :=
    Directory.update_self hinner (Listing.set_self hfind)
  rw [setFile, List.getLast?_concat]
  dsimp only
  rw [List.dropLast_concat, setLeaf, dif_pos hname, change]
  cases files
  simp only [FileSystem.mk.injEq, and_true]
  exact hroot

/-- Of two files put in one place the second stays. -/
theorem setFile_setFile (files : FileSystem) (names : List Name) (file other : File) :
    (files.setFile names other).setFile names file = files.setFile names file := by
  rw [setFile, setFile, setFile]
  cases names.getLast? with
  | none => rfl
  | some name =>
    dsimp only
    rw [setLeaf, setLeaf, setLeaf]
    split
    · simp only [change, Directory.update_set_update_set]
    · rfl

/-! ### Written files -/

/-- What is there before and after a file has got a content: the path leads to a place, and
afterwards to a file there that has exactly the content; all else stays. -/
structure Written (before : FileSystem) (path : List UInt8) (mode : Mode) (content : List UInt8)
    (place : Place) (file : File) (after : FileSystem) : Prop where
  located : before.locate .writing path = .ok place
  found : ∀ purpose ≠ .existing, after.find purpose path = .ok (place.names, .leaf (.file file))
  content : file.content = content
  /-- A new file has the mode asked for, less the bits of the mask. -/
  created : ∀ directory name, place = .free directory name →
    ∀ bit < 9, file.mode.testBit bit = (mode.testBit bit && !mask.testBit bit)
  /-- What was there was a file, and its mode stays. -/
  kept : ∀ names node, place = .taken names node →
    ∃ old, node = .leaf (.file old) ∧ file.mode = old.mode
  others : ∀ names, names ≠ place.names →
    after.root.entryAt? names = before.root.entryAt? names
  workingDirectory : after.workingDirectory = before.workingDirectory
  writeFault : after.writeFault = before.writeFault

theorem takesFile_of_locate (hlocate : before.locate .writing path = .ok place)
    (hfile : ∀ names node, place = .taken names node → ∃ old, node = .leaf (.file old)) :
    TakesFile before place.names := by
  have hlies := liesIn_of_locate hlocate
  cases place with
  | free directory name =>
    obtain ⟨hname, ⟨mode, hmode⟩, hfree⟩ := hlies
    exact ⟨⟨directory, name, mode, rfl, hname, hmode⟩, .inl hfree⟩
  | taken names node =>
    obtain ⟨old, rfl⟩ := hfile names node rfl
    exact takesFile_of_file hlies.1

/-- A file that stands where a path led to, with all else as it was, has been written. -/
theorem written_of_entries (hlocate : before.locate .writing path = .ok place)
    (hcreated : ∀ directory name, place = .free directory name →
      ∀ bit < 9, file.mode.testBit bit = (mode.testBit bit && !mask.testBit bit))
    (hkept : ∀ names node, place = .taken names node →
      ∃ old, node = .leaf (.file old) ∧ file.mode = old.mode)
    (hentries : ∀ names, after.root.entryAt? names =
      if names = place.names then some (.leaf (.file file)) else before.root.entryAt? names)
    (hdirectory : after.workingDirectory = before.workingDirectory)
    (hfault : after.writeFault = before.writeFault) (hcontent : file.content = content) :
    Written before path mode content place file after where
  located := hlocate
  found purpose hpurpose := by
    obtain ⟨hnul, hempty, hlong, hleads⟩ := locate_eq_ok_iff.mp hlocate
    -- the same steps lead to the file that was written, since all else is as before
    have htakes := takesFile_of_locate hlocate fun names node hplace =>
      (hkept names node hplace).imp fun _ => And.left
    refine find_eq_ok_iff.mpr
      (locate_eq_ok_iff.mpr ⟨hnul, hempty, fun h => hlong ⟨by simp, h.2⟩, ?_⟩)
    rw [hdirectory]
    exact hleads.rewrite hpurpose htakes.free hentries
  content := hcontent
  created := hcreated
  kept := hkept
  others names hother := by rw [hentries, if_neg hother]
  workingDirectory := hdirectory
  writeFault := hfault

theorem Written.takesFile (h : Written before path mode content place file after) :
    TakesFile before place.names :=
  takesFile_of_locate h.located fun names node hplace =>
    (h.kept names node hplace).imp fun _ => And.left

/-- The file is where the path leads. -/
theorem Written.nodeAt? (h : Written before path mode content place file after) :
    after.root.nodeAt? place.names = some (.leaf (.file file)) :=
  (liesIn_of_locate (find_eq_ok_iff.mp (h.found .writing (by simp)))).1

/-- A file that has been opened takes another content. -/
theorem Written.rewrite (h : Written before path mode content place file after)
    (other : List UInt8) :
    Written before path mode other place { file with content := other }
      (after.setFile place.names { file with content := other }) := by
  refine written_of_entries h.located h.created h.kept (fun names => ?_) ?_ ?_ rfl
  · rw [entryAt?_setFile (takesFile_of_file h.nodeAt?)]
    by_cases hnames : names = place.names
    · rw [if_pos hnames, if_pos hnames]
    · rw [if_neg hnames, if_neg hnames, h.others names hnames]
  · rw [workingDirectory_setFile, h.workingDirectory]
  · rw [writeFault_setFile, h.writeFault]

/-- What has been opened: a file, which is empty now, or a device. -/
inductive Opened (before : FileSystem) (path : List UInt8) (mode : Mode) :
    Handle → FileSystem → Prop
  | file {place : Place} {file : File} {after : FileSystem}
      (h : Written before path mode [] place file after) :
      Opened before path mode (.file place.names file.mode) after
  | device {names : List Name} {device : Device}
      (h : before.find .writing path = .ok (names, .leaf (.device device))) :
      Opened before path mode (.device device) before

theorem written_setFile (file : File) (hlocate : before.locate .writing path = .ok place)
    (hcreated : ∀ directory name, place = .free directory name → file.mode = maskedMode mode)
    (hkept : ∀ names node, place = .taken names node →
      ∃ old, node = .leaf (.file old) ∧ file.mode = old.mode)
    (hcontent : file.content = content) :
    Written before path mode content place file (before.setFile place.names file) := by
  refine written_of_entries hlocate (fun directory name hplace bit hbit => ?_) hkept
    (entryAt?_setFile ?_ file) (workingDirectory_setFile _ _ _) (writeFault_setFile _ _ _) hcontent
  · rw [hcreated directory name hplace, maskedMode_testBit mode hbit]
  · exact takesFile_of_locate hlocate fun names node hplace =>
      (hkept names node hplace).imp fun _ => And.left

/-- What cannot be opened is left as it was, and so is all else. -/
theorem openFile_eq_error {cause : FileError}
    (h : openFile path mode before = .error cause after) : after = before := by
  unfold openFile at h
  split at h
  case h_1 | h_5 | h_6 =>
    cases h
    rfl
  case h_2 | h_3 =>
    split at h
    · cases h
    · cases h
      rfl
  case h_4 => cases h

/-- What can be opened is a file, which is created or emptied, or a device. -/
theorem openFile_eq_ok {handle : Handle} (h : openFile path mode before = .ok handle after) :
    Opened before path mode handle after := by
  unfold openFile at h
  split at h
  case h_2 directory name hlocate =>
    split at h
    · cases h
      refine .file (written_setFile { content := [], mode := maskedMode mode } hlocate
        (fun _ _ _ => rfl) (fun _ _ hplace => ?_) rfl)
      cases hplace
    · cases h
  case h_3 names old hlocate =>
    split at h
    · cases h
      -- a file that was there keeps its mode
      have hkept (others : List Name) (node : Node)
          (hplace : Place.taken names (.leaf (.file old)) = .taken others node) :
          ∃ file, node = .leaf (.file file) ∧ old.mode = file.mode := by
        cases hplace
        exact ⟨old, rfl, rfl⟩
      exact .file (written_setFile { old with content := [] } hlocate
        (fun _ _ hplace => by cases hplace) hkept rfl)
    · cases h
  case h_4 hlocate =>
    cases h
    exact .device (find_eq_ok_iff.mpr hlocate)
  case h_1 | h_5 | h_6 => cases h

/-! ### Writing -/

theorem accept_eq_none {taken : List UInt8} (h : files.accept content = (taken, none)) :
    taken = content := by
  rw [accept] at h
  split at h
  · split at h
    · cases h
    · exact (Prod.mk.inj h).1.symm
  · exact (Prod.mk.inj h).1.symm

/-- What is taken before a write fails is a beginning of the content, and not all of it. -/
theorem accept_eq_some {taken : List UInt8} {cause : FileError}
    (h : files.accept content = (taken, some cause)) : taken <+: content ∧ taken ≠ content := by
  rw [accept] at h
  split at h
  · split at h
    · rename_i fault _ hless
      cases h
      refine ⟨List.take_prefix _ _, fun hall => ?_⟩
      have hlength := congrArg List.length hall
      rw [List.length_take] at hlength
      omega
    · cases h
  · cases h

/-- What is there once something has been opened and has taken a content: the file that has been
written, or all as it was, if it is a device that has been opened. -/
inductive Took (before : FileSystem) (path : List UInt8) (mode : Mode) (content : List UInt8) :
    FileSystem → Prop
  | file {place : Place} {file : File} {after : FileSystem}
      (h : Written before path mode content place file after) :
      Took before path mode content after
  | device {names : List Name} {device : Device}
      (h : before.find .writing path = .ok (names, .leaf (.device device))) :
      Took before path mode content before

variable {handle : Handle} {opened : FileSystem}

theorem Opened.write_eq_ok (h : Opened before path mode handle opened)
    (hwrite : handle.write content opened = .ok () after) :
    Took before path mode content after := by
  unfold Handle.write at hwrite
  cases h with
  | file h =>
    dsimp only at hwrite
    split at hwrite
    · rename_i taken haccept
      cases hwrite
      rw [accept_eq_none haccept]
      exact .file (h.rewrite content)
    · cases hwrite
  | @device names device h =>
    cases device with
    | null =>
      cases hwrite
      exact .device h
    | full =>
      dsimp only at hwrite
      split at hwrite
      · cases hwrite
        exact .device h
      · cases hwrite

/-- When a write fails, a beginning of the content has been taken. -/
theorem Opened.write_eq_error {cause : FileError} (h : Opened before path mode handle opened)
    (hwrite : handle.write content opened = .error cause after) :
    ∃ taken, taken <+: content ∧ taken ≠ content ∧ Took before path mode taken after := by
  unfold Handle.write at hwrite
  cases h with
  | file h =>
    dsimp only at hwrite
    split at hwrite
    · cases hwrite
    · rename_i taken cause haccept
      cases hwrite
      obtain ⟨hfront, hne⟩ := accept_eq_some haccept
      exact ⟨taken, hfront, hne, .file (h.rewrite taken)⟩
  | @device names device h =>
    -- the full device takes nothing, unless nothing is written
    cases device with
    | null => cases hwrite
    | full =>
      dsimp only at hwrite
      split at hwrite
      · cases hwrite
      · rename_i hcontent
        cases hwrite
        refine ⟨[], List.nil_prefix, ?_, .device h⟩
        rintro rfl
        exact hcontent rfl

/-! ### What stays -/

/-- What is no file is still there once a file has been written. -/
theorem Written.keeps (h : Written before path mode content place file after)
    {names : List Name} {entry : Entry} (hentry : before.root.entryAt? names = some entry)
    (hfile : ∀ old, entry ≠ .leaf (.file old)) : after.root.entryAt? names = some entry :=
  entryAt?_kept h.takesFile.free h.others hentry hfile

/-- No directory comes or goes. -/
theorem Written.directories (h : Written before path mode content place file after)
    (names : List Name) (mode : Mode) :
    after.root.entryAt? names = some (.directory mode) ↔
      before.root.entryAt? names = some (.directory mode) :=
  directories_kept h.takesFile.free (Directory.entryAt?_eq_leaf_iff.mpr h.nodeAt?) h.others names
    mode

/-- A path that leads to a directory leads to it still. -/
theorem Written.find_directory (h : Written before path mode content place file after)
    {purpose : Purpose} {other : List UInt8} {names : List Name} {directory : Directory}
    (hfind : before.find purpose other = .ok (names, .dir directory)) :
    ∃ directory', after.find purpose other = .ok (names, .dir directory') := by
  have hlocate := find_eq_ok_iff.mp hfind
  have hentry := Directory.entryAt?_of_dir (liesIn_of_locate hlocate).1
  obtain ⟨directory', hdirectory', -⟩ :=
    Directory.entryAt?_eq_directory_iff.mp ((h.directories _ _).mpr hentry)
  obtain ⟨hnul, hempty, hlong, hleads⟩ := locate_eq_ok_iff.mp hlocate
  refine ⟨directory', find_eq_ok_iff.mpr (locate_eq_ok_iff.mpr ⟨hnul, hempty, hlong, ?_⟩)⟩
  rw [h.workingDirectory]
  exact hleads.of_kept h.directories (fun _ _ hlink => h.keeps hlink (by simp)) hdirectory'

/-- A file that has been written and may be written can be opened once more, which empties it. -/
theorem Written.openFile_again (h : Written before path mode content place file after)
    (hwrites : file.mode.ownerWrites = true) :
    openFile path mode after = .ok (.file place.names file.mode)
      (after.setFile place.names { file with content := [] }) := by
  have hlocate := find_eq_ok_iff.mp (h.found .writing (by simp))
  simp only [openFile, hlocate, if_pos hwrites]

/-- The content that it had is put back. -/
theorem Written.write_again (h : Written before path mode content place file after)
    (haccept : before.accept content = (content, none)) :
    (Handle.file place.names file.mode).write content
      (after.setFile place.names { file with content := [] }) = .ok () after := by
  have hsame : { content, mode := file.mode } = file := by
    rw [← h.content]
  have hfault : after.accept content = (content, none) := by
    rw [← haccept, accept, accept, h.writeFault]
  simp only [Handle.write, accept_setFile, hfault]
  rw [setFile_setFile, hsame, setFile_self h.nodeAt?]

/-- What has been opened and has taken a content can be opened once more and takes it again, and
then all is as it was after the first time. -/
theorem openFile_write_again (hopen : openFile path mode before = .ok handle opened)
    (hwrite : handle.write content opened = .ok () after)
    (hwrites : ∀ names file, after.find .writing path = .ok (names, .leaf (.file file)) →
      file.mode.ownerWrites = true) :
    ∃ handle opened, openFile path mode after = .ok handle opened ∧
      handle.write content opened = .ok () after := by
  cases openFile_eq_ok hopen with
  | @file place file _ h =>
    unfold Handle.write at hwrite
    dsimp only at hwrite
    split at hwrite
    · rename_i taken haccept
      cases hwrite
      obtain rfl := accept_eq_none haccept
      have hwritten := h.rewrite taken
      have hbefore : before.accept taken = (taken, none) := by
        rw [← haccept, accept, accept, h.writeFault]
      exact ⟨_, _, hwritten.openFile_again (hwrites _ _ (hwritten.found .writing (by simp))),
        hwritten.write_again hbefore⟩
    · cases hwrite
  | @device names device h =>
    -- a device keeps nothing
    have hsame : after = before := by
      unfold Handle.write at hwrite
      cases device with
      | null =>
        cases hwrite
        rfl
      | full =>
        dsimp only at hwrite
        split at hwrite
        · cases hwrite
          rfl
        · cases hwrite
    rw [hsame] at hwrite ⊢
    exact ⟨_, _, hopen, hwrite⟩

end FileSystem

end NamedSql.Files
