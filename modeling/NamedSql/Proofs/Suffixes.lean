/-
Suffixes of file names, and the files that a search takes them to ask for.

A file is asked for by what its name ends in: a dot and the suffix.  A search looks at the
extension instead, which is what stands behind the last dot of a name, unless that dot is the
first character.  The two part where the suffix has a dot in it, and for a name that is nothing
but a dot and the suffix.

* `Path.splitExtension_append` — a name is cut at its last dot;
* `Path.extension?_eq_some_iff` — an extension has no dot, and something stands in front of it;
* `EndsIn`, `IsBare` — names that end in a dot and a suffix, and those with nothing in front;
* `extensionOf?_eq_some_iff` — what has an extension ends in it;
* `discover_endsIn_iff` — a search finds all files that end in the suffix exactly when none of
  them is bare, and none is there at all if the suffix has a dot in it.
-/
import Mathlib
import NamedSql.Proofs.Grouping
import NamedSql.Proofs.Searching

namespace NamedSql

namespace Path

/-! ### Extensions -/

variable {name stem behind : List Char}

theorem splitExtension_of_not_mem (h : '.' ∉ name) : splitExtension name = (name, none) := by
  have hbehind : (name.reverse.takeWhile (· != '.')).reverse = name := by
    rw [List.takeWhile_eq_self_iff.mpr fun c hc => ?_, List.reverse_reverse]
    rw [bne_iff_ne]
    rintro rfl
    exact h (List.mem_reverse.mp hc)
  rw [splitExtension, hbehind, Nat.sub_self, Nat.zero_sub, List.take_zero]
  rfl

/-- A name is cut at its last dot, if something stands in front of it. -/
theorem splitExtension_append (h : '.' ∉ behind) :
    splitExtension (stem ++ '.' :: behind) =
      if stem = [] then ('.' :: behind, none) else (stem, some behind) := by
  -- seen from the end, the characters go on to the first dot
  have hbehind : ((stem ++ '.' :: behind).reverse.takeWhile (· != '.')).reverse = behind := by
    rw [List.reverse_append, List.reverse_cons, List.append_assoc, List.singleton_append,
      List.takeWhile_append_of_pos fun c hc => ?_, List.takeWhile_cons_of_neg (by decide),
      List.append_nil, List.reverse_reverse]
    rw [bne_iff_ne]
    rintro rfl
    exact h (List.mem_reverse.mp hc)
  have hlength : (stem ++ '.' :: behind).length - behind.length - 1 = stem.length := by
    rw [List.length_append, List.length_cons]
    omega
  rw [splitExtension, hbehind, hlength, List.take_left]
  cases stem with
  | nil => rfl
  | cons c rest => rfl

/-- The last dot of a name, if it has one. -/
theorem exists_last_dot (h : '.' ∈ name) :
    ∃ stem behind, name = stem ++ '.' :: behind ∧ '.' ∉ behind := by
  obtain ⟨before, after, hreverse, hbefore⟩ :=
    List.eq_append_cons_of_mem (List.mem_reverse.mpr h)
  refine ⟨after.reverse, before.reverse, ?_, fun hmem => hbefore (List.mem_reverse.mp hmem)⟩
  rw [← List.reverse_reverse name, hreverse, List.reverse_append, List.reverse_cons,
    List.append_assoc, List.singleton_append]

theorem splitExtension_eq_some_iff :
    (splitExtension name).2 = some behind ↔
      '.' ∉ behind ∧ ∃ stem, stem ≠ [] ∧ name = stem ++ '.' :: behind := by
  constructor
  · intro h
    by_cases hdot : '.' ∈ name
    · obtain ⟨stem, last, rfl, hlast⟩ := exists_last_dot hdot
      rw [splitExtension_append hlast] at h
      split at h
      · cases h
      · cases h
        exact ⟨hlast, stem, ‹_›, rfl⟩
    · rw [splitExtension_of_not_mem hdot] at h
      cases h
  · rintro ⟨hbehind, stem, hstem, rfl⟩
    rw [splitExtension_append hbehind, if_neg hstem]

/-- An extension has no dot in it, and more than the dot stands in front of it. -/
theorem extension?_eq_some_iff {name suffix : String} :
    extension? name = some suffix ↔
      '.' ∉ suffix.toList ∧ ∃ stem, stem ≠ "" ∧ name = stem ++ "." ++ suffix := by
  have hname (stem : String) :
      name = stem ++ "." ++ suffix ↔ name.toList = stem.toList ++ '.' :: suffix.toList := by
    rw [← String.toList_inj, String.toList_append, String.toList_append, List.append_assoc]
    rfl
  have hextension : extension? name = some suffix ↔
      (splitExtension name.toList).2 = some suffix.toList := by
    rw [extension?, Option.map_eq_some_iff]
    constructor
    · rintro ⟨behind, hbehind, rfl⟩
      rw [hbehind, String.toList_ofList]
    · intro hbehind
      exact ⟨suffix.toList, hbehind, String.ofList_toList⟩
  rw [hextension, splitExtension_eq_some_iff]
  refine and_congr_right fun _ => ?_
  constructor
  · rintro ⟨stem, hstem, hlist⟩
    refine ⟨String.ofList stem, ?_, (hname _).mpr (by rw [hlist, String.toList_ofList])⟩
    intro hempty
    exact hstem (by rw [← String.toList_ofList (l := stem), hempty]; rfl)
  · rintro ⟨stem, hstem, hlist⟩
    exact ⟨stem.toList, fun hnil => hstem (String.toList_eq_nil_iff.mp hnil), (hname _).mp hlist⟩

end Path

open Files

/-! ### Names that end in a suffix -/

/-- The last of the names ends in a dot and the suffix. -/
def EndsIn (suffix : String) (names : List Name) : Prop :=
  ∃ stem, names.getLast? = some (Utf8.encode (stem ++ "." ++ suffix))

/-- The last of the names is a dot and the suffix, with nothing in front. -/
def IsBare (suffix : String) (names : List Name) : Prop :=
  names.getLast? = some (Utf8.encode ("." ++ suffix))

variable {suffix : String} {names : List Name}

/-- Files with an extension are those that end in it, but for bare ones. -/
theorem extensionOf?_eq_some_iff :
    extensionOf? names = some suffix ↔
      EndsIn suffix names ∧ '.' ∉ suffix.toList ∧ ¬ IsBare suffix names := by
  have hdecode : extensionOf? names = some suffix ↔
      ∃ text, names.getLast? = some (Utf8.encode text) ∧
        Path.extension? text = some suffix := by
    simp only [extensionOf?, Option.bind_eq_some_iff, Utf8.decode?_eq_some_iff]
    constructor
    · rintro ⟨text, ⟨name, hlast, rfl⟩, hextension⟩
      exact ⟨text, hlast, hextension⟩
    · rintro ⟨text, hlast, hextension⟩
      exact ⟨text, ⟨_, hlast, rfl⟩, hextension⟩
  -- the stem is empty exactly for a bare name
  have hstem {stem : String} (hlast : names.getLast? = some (Utf8.encode (stem ++ "." ++ suffix))) :
      IsBare suffix names ↔ stem = "" := by
    rw [IsBare, hlast, Option.some.injEq]
    constructor
    · intro hencode
      have hlist := congrArg String.toList (Utf8.encode_injective hencode)
      rw [String.append_assoc, String.toList_append] at hlist
      exact String.toList_eq_nil_iff.mp (List.append_left_eq_self.mp hlist)
    · rintro rfl
      rw [String.empty_append]
  rw [hdecode]
  constructor
  · rintro ⟨text, hlast, hextension⟩
    obtain ⟨hdot, stem, hne, rfl⟩ := Path.extension?_eq_some_iff.mp hextension
    exact ⟨⟨stem, hlast⟩, hdot, fun hbare => hne ((hstem hlast).mp hbare)⟩
  · rintro ⟨⟨stem, hlast⟩, hdot, hbare⟩
    exact ⟨_, hlast, Path.extension?_eq_some_iff.mpr
      ⟨hdot, stem, fun hempty => hbare ((hstem hlast).mpr hempty), rfl⟩⟩

/-! ### What a search finds -/

variable {files : FileSystem} {root : String} {found : List Discovered}

theorem exists_finds_of_discover (h : discover files root suffix = .ok found) :
    ∃ top : SearchRoot, files.canonical (Utf8.encode root) = .ok (top.above, .dir top.directory) ∧
      Finds top (trimSuffix suffix) found := by
  obtain ⟨top, hopen, hfound⟩ := exists_openRoot_of_discover h
  exact ⟨top, (openRoot_eq_ok_iff.mp hopen).1,
    finds_of_queryFiles (liesIn_of_openRoot hopen) hfound⟩

/-- A search finds the regular files below the root that end in a dot and the suffix, less the
dots in front of it. -/
def FindsSuffix (directory : Directory) (suffix : String) (found : List Discovered) : Prop :=
  ∀ names, names ∈ found.map Discovered.names ↔
    EndsIn (trimSuffix suffix) names ∧ ∃ file, directory.nodeAt? names = some (.leaf (.file file))

/-- **Suffixes and extensions.**  A search that succeeds finds all regular files below the root
that end in a dot and the suffix if and only if no such file is bare and, should the suffix have a
dot in it behind those in front, there is no such file.  In any case it finds those of them that
are not bare, if the suffix has no such dot, and nothing else. -/
theorem discover_endsIn_iff (h : discover files root suffix = .ok found) :
    ∃ above directory, files.canonical (Utf8.encode root) = .ok (above, .dir directory) ∧
      (FindsSuffix directory suffix found ↔
        ∀ names file, directory.nodeAt? names = some (.leaf (.file file)) →
          EndsIn (trimSuffix suffix) names →
            '.' ∉ (trimSuffix suffix).toList ∧ ¬ IsBare (trimSuffix suffix) names) ∧
      ∀ names, names ∈ found.map Discovered.names ↔
        (EndsIn (trimSuffix suffix) names ∧ ∃ file,
          directory.nodeAt? names = some (.leaf (.file file))) ∧
          '.' ∉ (trimSuffix suffix).toList ∧ ¬ IsBare (trimSuffix suffix) names := by
  obtain ⟨top, hroot, hfinds⟩ := exists_finds_of_discover h
  -- the files found are those with the extension, which is one way for a name to end in it
  have hfound (names : List Name) : names ∈ found.map Discovered.names ↔
      (EndsIn (trimSuffix suffix) names ∧ ∃ file,
        top.directory.nodeAt? names = some (.leaf (.file file))) ∧
        '.' ∉ (trimSuffix suffix).toList ∧ ¬ IsBare (trimSuffix suffix) names := by
    rw [hfinds.complete, extensionOf?_eq_some_iff, and_right_comm]
  refine ⟨top.above, top.directory, hroot, ?_, hfound⟩
  constructor
  · intro hall names file hnode hends
    exact ((hfound names).mp ((hall names).mpr ⟨hends, file, hnode⟩)).2
  · intro hnone names
    rw [hfound]
    refine and_iff_left_of_imp ?_
    rintro ⟨hends, file, hnode⟩
    exact hnone names file hnode hends

/-- A file with a dot in its name, and one whose name is a dot and a suffix. -/
def versionedDirectory : Directory :=
  { mode := 0o755
    entries := .dir (Utf8.encode "users") 0o755
      (.leaf (Utf8.encode "list.v2.sql")
        (.file { content := Utf8.encode "SELECT 1", mode := 0o644 })
        (.leaf (Utf8.encode ".sql") (.file { content := Utf8.encode "SELECT 2", mode := 0o644 })
          .nil))
      .nil }

/-- A tree with these files below `/q`. -/
def versionedFiles : FileSystem :=
  (FileSystem.empty.put (Utf8.encode "/q/users/list.v2.sql") (Utf8.encode "SELECT 1")).put
    (Utf8.encode "/q/users/.sql") (Utf8.encode "SELECT 2")

/-- What is found in this tree without and with a dot in the suffix. -/
theorem runs_versionedFiles :
    versionedFiles.canonical (Utf8.encode "/q") =
        .ok ([Utf8.encode "q"], .dir versionedDirectory) ∧
      (discover versionedFiles "/q" ".sql").map (List.map Discovered.names) =
        .ok [[Utf8.encode "users", Utf8.encode "list.v2.sql"]] ∧
      (discover versionedFiles "/q" "v2.sql").map (List.map Discovered.names) = .ok [] := by
  decide +kernel

/-- The bare file is passed over, though it ends in the suffix. -/
theorem discover_bare :
    ∃ found, discover versionedFiles "/q" ".sql" = .ok found ∧
      found.map Discovered.names = [[Utf8.encode "users", Utf8.encode "list.v2.sql"]] ∧
      ¬ FindsSuffix versionedDirectory ".sql" found ∧
      ∀ names, names ∈ found.map Discovered.names ↔
        (EndsIn "sql" names ∧
          ∃ file, versionedDirectory.nodeAt? names = some (.leaf (.file file))) ∧
          '.' ∉ "sql".toList ∧ ¬ IsBare "sql" names := by
  obtain ⟨hcanonical, hrun, -⟩ := runs_versionedFiles
  have htrim : trimSuffix ".sql" = "sql" := by decide
  obtain ⟨found, hfound, hnames⟩ := Catalog.exists_of_map_eq_ok hrun
  obtain ⟨above, directory, hroot, hall, hlaw⟩ := discover_endsIn_iff hfound
  rw [hcanonical] at hroot
  cases hroot
  rw [htrim] at hall hlaw
  refine ⟨found, hfound, hnames, fun hsuffix => ?_, hlaw⟩
  have hbare := hall.mp hsuffix [Utf8.encode "users", Utf8.encode ".sql"] _ rfl ⟨"", rfl⟩
  exact hbare.2 rfl

/-- With a dot in the suffix, nothing is found. -/
theorem not_discover_findsSuffix :
    ¬ ∀ (files : FileSystem) (root suffix : String) (found : List Discovered) (above : List Name)
        (directory : Directory), discover files root suffix = .ok found →
      files.canonical (Utf8.encode root) = .ok (above, .dir directory) →
        FindsSuffix directory suffix found := by
  intro hall
  obtain ⟨hcanonical, -, hrun⟩ := runs_versionedFiles
  have hends : EndsIn (trimSuffix "v2.sql") [Utf8.encode "users", Utf8.encode "list.v2.sql"] :=
    ⟨"list", by decide⟩
  obtain ⟨found, hfound, hnames⟩ := Catalog.exists_of_map_eq_ok hrun
  have hmem := (hall _ _ _ _ _ _ hfound hcanonical _).mpr ⟨hends, _, rfl⟩
  rw [hnames] at hmem
  exact List.not_mem_nil hmem

end NamedSql
