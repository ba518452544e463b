/-
What a walk comes upon, and in which order.

The entries of a directory are visited in the byte order of their names, and all that lies
below one of them before the next one.  So the paths of a walk increase, compared name by
name, however the directories are listed.

* `Meets` — a way down from a node, through directories that can be listed, to a file or to a
  directory that cannot;
* `mem_walk_iff` — a walk comes upon exactly what there is a way down to;
* `meets_file_iff`, `meets_closed_iff` — there is one if all directories on the path can be
  listed, and otherwise there is one to the first that cannot (`opens_or_exists_closed`);
* `pairwise_walk` — the paths of a walk strictly increase;
* `walk_eq_of_entryAt?` — so the entries at each path decide how a walk goes.
-/
import Mathlib
import NamedSql.Proofs.Directories
import NamedSql.Query.Discover

namespace NamedSql

open Files

/-! ### Sorting -/

theorem sortBlocks_eq_insertionSort (blocks : List Block) :
    sortBlocks blocks = blocks.insertionSort fun block other => block.name ≤ other.name := by
  rw [sortBlocks, List.insertionSort]
  congr
  funext block sorted
  rw [List.orderedInsert_eq_take_drop]

theorem mem_inNameOrder {visit : Visit} {blocks : List Block} :
    visit ∈ inNameOrder blocks ↔ ∃ block ∈ blocks, visit ∈ block.visits := by
  simp only [inNameOrder, sortBlocks_eq_insertionSort, List.mem_flatMap, List.mem_insertionSort]

/-- Blocks with distinct names come in the strict order of these. -/
theorem pairwise_sortBlocks {blocks : List Block} (h : (blocks.map Block.name).Nodup) :
    (sortBlocks blocks).Pairwise fun block other => block.name < other.name := by
  have htotal : Std.Total fun block other : Block => block.name ≤ other.name :=
    ⟨fun block other => List.le_total block.name other.name⟩
  have htrans : IsTrans Block fun block other => block.name ≤ other.name :=
    ⟨fun _ _ _ => List.le_trans⟩
  rw [sortBlocks_eq_insertionSort]
  have hsorted := List.pairwise_insertionSort (fun block other : Block => block.name ≤ other.name)
    blocks
  have hdistinct := ((List.perm_insertionSort (fun block other : Block => block.name ≤ other.name)
    blocks).map Block.name).nodup_iff.mpr h
  refine (hsorted.and (List.pairwise_map.mp hdistinct)).imp ?_
  rintro block other ⟨hle, hne⟩
  exact Std.lt_of_le_of_ne hle hne

/-! ### What is met -/

variable {obstacle? : List Name → Option FileError}

/-- What a walk comes upon in a node. -/
def visitNode (obstacle? : List Name → Option FileError) (names : List Name) :
    Node → List Visit
  | .leaf entry => visitLeaf obstacle? names entry
  | .dir directory =>
    visitDirectory obstacle? names directory.mode
      (inNameOrder (walkBlocks obstacle? names directory.entries))

/-- From the node that names lead to, a way down other names to a file, or to a directory that
cannot be listed.  All directories in front of the last can be. -/
inductive Meets (obstacle? : List Name → Option FileError) :
    List Name → Node → List Name → Sight → Prop
  | file {names file} :
      Meets obstacle? names (.leaf (.file file)) [] (.file (readAt (obstacle? names) file))
  | closed {names directory cause} (h : refusal? (obstacle? names) directory.mode = some cause) :
      Meets obstacle? names (.dir directory) [] (.closed cause)
  | into {names directory name node rest sight}
      (hopen : refusal? (obstacle? names) directory.mode = none)
      (hnode : directory.entries.find? name = some node)
      (hrest : Meets obstacle? (names ++ [name]) node rest sight) :
      Meets obstacle? names (.dir directory) (name :: rest) sight

theorem walkBlocks_cons (above : List Name) (name : Name) (node : Node) (rest : Listing) :
    walkBlocks obstacle? above (.cons name node rest) =
      { name, visits := visitNode obstacle? (above ++ [name]) node } ::
        walkBlocks obstacle? above rest := by
  cases node <;> rfl

/-- The blocks of a listing are those of its entries. -/
theorem mem_walkBlocks_iff {above : List Name} {listing : Listing} {block : Block}
    (h : listing.WellFormed) :
    block ∈ walkBlocks obstacle? above listing ↔
      ∃ node, listing.find? block.name = some node ∧
        block.visits = visitNode obstacle? (above ++ [block.name]) node := by
  have hcons (name : Name) (node : Node) {rest : Listing} (hname : name ∉ rest.names)
      (ih : block ∈ walkBlocks obstacle? above rest ↔
        ∃ node, rest.find? block.name = some node ∧
          block.visits = visitNode obstacle? (above ++ [block.name]) node) :
      block ∈ walkBlocks obstacle? above (.cons name node rest) ↔
        ∃ other, (Listing.cons name node rest).find? block.name = some other ∧
          block.visits = visitNode obstacle? (above ++ [block.name]) other := by
    rw [walkBlocks_cons, List.mem_cons, ih, Listing.find?_cons]
    by_cases hfirst : name = block.name
    · -- no entry of the rest has the first name
      have hnone (other : Node) : rest.find? block.name ≠ some other := fun hfind =>
        hname (hfirst ▸ Listing.mem_names_of_find? hfind)
      rcases block with ⟨blockName, visits⟩
      obtain rfl : name = blockName := hfirst
      simp [hnone]
    · have hother : block ≠ { name, visits := visitNode obstacle? (above ++ [name]) node } := by
        rintro rfl
        exact hfirst rfl
      simp only [hother, false_or, if_neg hfirst]
  induction listing with
  | nil => exact iff_of_false List.not_mem_nil fun ⟨_, hfind, _⟩ => by cases hfind
  | leaf name entry rest ih => exact hcons name (.leaf entry) h.2.1 (ih h.2.2)
  | dir name mode entries rest _ ih =>
    exact hcons name (.dir { mode, entries }) h.2.1 (ih h.2.2.2)

/-- A walk comes upon what there is a way down to. -/
theorem mem_visitDirectory_iff {names : List Name} {directory : Directory} {visit : Visit}
    (h : directory.WellFormed) :
    visit ∈ visitNode obstacle? names (.dir directory) ↔
      (∃ cause, refusal? (obstacle? names) directory.mode = some cause ∧
        visit = { names, sight := .closed cause }) ∨
      refusal? (obstacle? names) directory.mode = none ∧
        ∃ name node, directory.entries.find? name = some node ∧
          visit ∈ visitNode obstacle? (names ++ [name]) node := by
  rw [visitNode, visitDirectory]
  -- what cannot be listed is come upon itself; else what is in it is
  cases refusal? (obstacle? names) directory.mode with
  | some cause => simp
  | none =>
    simp only [mem_inNameOrder, mem_walkBlocks_iff h, reduceCtorEq, false_and, exists_false,
      false_or, true_and]
    constructor
    · rintro ⟨block, ⟨node, hnode, hvisits⟩, hvisit⟩
      exact ⟨block.name, node, hnode, hvisits ▸ hvisit⟩
    · rintro ⟨name, node, hnode, hvisit⟩
      exact ⟨{ name, visits := visitNode obstacle? (names ++ [name]) node },
        ⟨node, hnode, rfl⟩, hvisit⟩

theorem exists_meets_of_find? {listing : Listing} (h : listing.WellFormed) {above : List Name}
    {name : Name} {node : Node} (hnode : listing.find? name = some node) {visit : Visit}
    (hvisit : visit ∈ visitNode obstacle? (above ++ [name]) node) :
    ∃ below, visit.names = above ++ name :: below ∧
      Meets obstacle? (above ++ [name]) node below visit.sight := by
  -- by induction on the listing, in a directory both on what it holds and on the entries next to
  -- it
  induction listing generalizing above name node visit with
  | nil => cases hnode
  | leaf first entry rest ih =>
    obtain ⟨-, -, hrest⟩ := h
    rw [Listing.find?] at hnode
    split at hnode
    · cases hnode
      cases entry with
      | file file =>
        obtain rfl := List.mem_singleton.mp hvisit
        exact ⟨[], rfl, .file⟩
      | link target | device device => exact absurd hvisit List.not_mem_nil
    · exact ih hrest hnode hvisit
  | dir first mode entries rest ihEntries ih =>
    obtain ⟨-, -, hentries, hrest⟩ := h
    rw [Listing.find?] at hnode
    split at hnode
    · cases hnode
      have hformed : Directory.WellFormed { mode, entries } := hentries
      rcases (mem_visitDirectory_iff hformed).mp hvisit with
        ⟨cause, hcause, rfl⟩ | ⟨hopen, next, node, hnode, hvisit⟩
      · exact ⟨[], rfl, .closed hcause⟩
      · obtain ⟨below, hnames, hmeets⟩ := ihEntries hentries hnode hvisit
        rw [List.append_assoc, List.singleton_append] at hnames
        exact ⟨next :: below, hnames, .into hopen hnode hmeets⟩
    · exact ih hrest hnode hvisit

theorem mem_visitNode_of_meets {names below : List Name} {node : Node} {sight : Sight}
    (h : Meets obstacle? names node below sight) (hformed : node.WellFormed) :
    { names := names ++ below, sight } ∈ visitNode obstacle? names node := by
  induction h with
  | file =>
    rw [List.append_nil]
    exact List.mem_singleton.mpr rfl
  | closed hcause =>
    rw [List.append_nil]
    exact (mem_visitDirectory_iff hformed).mpr (.inl ⟨_, hcause, rfl⟩)
  | @into names directory name node rest sight hopen hnode _ ih =>
    refine (mem_visitDirectory_iff hformed).mpr (.inr ⟨hopen, name, node, hnode, ?_⟩)
    have hvisit := ih (Listing.wellFormed_of_find? hformed hnode).2
    rwa [List.append_assoc, List.singleton_append] at hvisit

/-- A walk comes upon exactly what there is a way down to. -/
theorem mem_walk_iff {top : Directory} (h : top.WellFormed) {visit : Visit} :
    visit ∈ walk obstacle? top ↔ Meets obstacle? [] (.dir top) visit.names visit.sight := by
  constructor
  · intro hvisit
    rcases (mem_visitDirectory_iff h).mp hvisit with
      ⟨cause, hcause, rfl⟩ | ⟨hopen, name, node, hnode, hvisit⟩
    · exact .closed hcause
    · obtain ⟨below, hnames, hmeets⟩ := exists_meets_of_find? h hnode hvisit
      rw [hnames]
      exact .into hopen hnode hmeets
  · exact fun hmeets => mem_visitNode_of_meets hmeets h

/-- What a walk comes upon when names have led it to an entry. -/
inductive Shows (obstacle? : List Name → Option FileError) (names : List Name) :
    Entry → Sight → Prop
  | file {file} : Shows obstacle? names (.leaf (.file file)) (.file (readAt (obstacle? names) file))
  | closed {mode cause} (h : refusal? (obstacle? names) mode = some cause) :
      Shows obstacle? names (.directory mode) (.closed cause)

/-- All directories that names lead through, below those of `above`, can be listed. -/
def Opens (obstacle? : List Name → Option FileError) (above : List Name) (top : Directory)
    (names : List Name) : Prop :=
  top.OnTheWay (fun front mode => refusal? (obstacle? (above ++ front)) mode = none) names

theorem opens_cons_iff {above names : List Name} {top : Directory} {name : Name} :
    Opens obstacle? above top (name :: names) ↔
      refusal? (obstacle? above) top.mode = none ∧
        ∀ inner, top.entries.find? name = some (.dir inner) →
          Opens obstacle? (above ++ [name]) inner names := by
  simp only [Opens, Directory.onTheWay_cons_iff, List.append_nil, List.append_assoc,
    List.singleton_append]

/-- There is a way down if all directories on it can be listed. -/
theorem meets_iff {above names : List Name} {top : Directory} {sight : Sight} :
    Meets obstacle? above (.dir top) names sight ↔
      Opens obstacle? above top names ∧
        ∃ entry, top.entryAt? names = some entry ∧
          Shows obstacle? (above ++ names) entry sight := by
  induction names generalizing above top with
  | nil =>
    rw [List.append_nil]
    constructor
    · intro h
      cases h with
      | closed hcause => exact ⟨Directory.onTheWay_nil, _, rfl, .closed hcause⟩
    · rintro ⟨-, _, ⟨⟩, hshows⟩
      cases hshows with
      | closed hcause => exact .closed hcause
  | cons name rest ih =>
    rw [opens_cons_iff]
    constructor
    · intro h
      cases h with
      | @into _ _ _ node _ _ hopen hnode hrest =>
        cases node with
        | leaf entry =>
          cases hrest with
          | file =>
            refine ⟨⟨hopen, fun inner hinner => ?_⟩, _, ?_, .file⟩
            · rw [hnode] at hinner
              cases hinner
            · rw [Directory.entryAt?, Directory.nodeAt?_singleton, hnode]
              rfl
        | dir directory =>
          obtain ⟨hopens, entry, hentry, hshows⟩ := ih.mp hrest
          rw [List.append_assoc, List.singleton_append] at hshows
          refine ⟨⟨hopen, fun inner hinner => ?_⟩, entry, ?_, hshows⟩
          · rw [hnode] at hinner
            cases hinner
            exact hopens
          · rwa [Directory.entryAt?_cons_dir hnode]
    · rintro ⟨⟨hopen, hopens⟩, entry, hentry, hshows⟩
      cases hnode : top.entries.find? name with
      | none =>
        rw [Directory.entryAt?, Directory.nodeAt?_cons, hnode] at hentry
        cases hentry
      | some node =>
        refine .into hopen hnode ?_
        cases node with
        | leaf leaf =>
          -- the names end at a leaf
          rw [Directory.entryAt?, Directory.nodeAt?_cons, hnode] at hentry
          cases rest with
          | nil =>
            cases hentry
            cases hshows with
            | file => exact .file
          | cons second rest => cases hentry
        | dir directory =>
          rw [Directory.entryAt?_cons_dir hnode] at hentry
          refine ih.mpr ⟨hopens directory hnode, entry, hentry, ?_⟩
          rwa [List.append_assoc, List.singleton_append]

/-- If some directory that names lead through cannot be listed, a walk comes to the first of
them. -/
theorem opens_or_exists_closed (above : List Name) (top : Directory) (names : List Name) :
    Opens obstacle? above top names ∨
      ∃ front name behind mode cause, names = front ++ name :: behind ∧
        top.entryAt? front = some (.directory mode) ∧
        refusal? (obstacle? (above ++ front)) mode = some cause ∧
        Opens obstacle? above top front := by
  induction names generalizing above top with
  | nil => exact .inl Directory.onTheWay_nil
  | cons name rest ih =>
    cases htop : refusal? (obstacle? above) top.mode with
    | some cause =>
      refine .inr ⟨[], name, rest, top.mode, cause, rfl, rfl, ?_, Directory.onTheWay_nil⟩
      rwa [List.append_nil]
    | none =>
      by_cases hdir : ∃ inner, top.entries.find? name = some (.dir inner)
      · obtain ⟨inner, hinner⟩ := hdir
        -- the way to the first closed directory below goes through this one
        have hcons {names : List Name} (hopens : Opens obstacle? (above ++ [name]) inner names) :
            Opens obstacle? above top (name :: names) := by
          refine opens_cons_iff.mpr ⟨htop, fun other hother => ?_⟩
          rw [hinner] at hother
          cases hother
          exact hopens
        rcases ih (above ++ [name]) inner with
          hopens | ⟨front, next, behind, mode, cause, hsplit, hmode, hcause, hfront⟩
        · exact .inl (hcons hopens)
        · refine .inr ⟨name :: front, next, behind, mode, cause, ?_, ?_, ?_, hcons hfront⟩
          · rw [hsplit, List.cons_append]
          · rwa [Directory.entryAt?_cons_dir hinner]
          · rwa [List.append_assoc, List.singleton_append] at hcause
      · exact .inl (opens_cons_iff.mpr ⟨htop, fun inner hinner => absurd ⟨inner, hinner⟩ hdir⟩)

/-- A file is met if no directory on the way to it is. -/
theorem meets_file_iff {names : List Name} {top : Directory}
    {content : Except FileError (List UInt8)} :
    Meets obstacle? [] (.dir top) names (.file content) ↔
      Opens obstacle? [] top names ∧
        ∃ file, top.nodeAt? names = some (.leaf (.file file)) ∧
          readAt (obstacle? names) file = content := by
  rw [meets_iff, List.nil_append]
  refine and_congr_right fun _ => ?_
  constructor
  · rintro ⟨entry, hentry, hshows⟩
    cases hshows with
    | file => exact ⟨_, Directory.entryAt?_eq_leaf_iff.mp hentry, rfl⟩
  · rintro ⟨file, hnode, rfl⟩
    exact ⟨_, Directory.entryAt?_eq_leaf_iff.mpr hnode, .file⟩

theorem meets_closed_iff {names : List Name} {top : Directory} {cause : FileError} :
    Meets obstacle? [] (.dir top) names (.closed cause) ↔
      Opens obstacle? [] top names ∧
        ∃ mode, top.entryAt? names = some (.directory mode) ∧
          refusal? (obstacle? names) mode = some cause := by
  rw [meets_iff, List.nil_append]
  refine and_congr_right fun _ => ?_
  constructor
  · rintro ⟨entry, hentry, hshows⟩
    cases hshows with
    | @closed mode _ hcause => exact ⟨mode, hentry, hcause⟩
  · rintro ⟨mode, hmode, hcause⟩
    exact ⟨_, hmode, .closed hcause⟩

/-- If a walk comes to no directory that cannot be listed, there are none on any way. -/
theorem opens_of_forall_not_closed {top : Directory}
    (h : ∀ names cause, ¬ Meets obstacle? [] (.dir top) names (.closed cause))
    (names : List Name) : Opens obstacle? [] top names := by
  refine (opens_or_exists_closed [] top names).resolve_right ?_
  rintro ⟨front, _, _, mode, cause, -, hmode, hcause, hopens⟩
  exact h front cause (meets_closed_iff.mpr ⟨hopens, mode, hmode, hcause⟩)

/-! ### Walks in order -/

theorem map_name_walkBlocks (above : List Name) (listing : Listing) :
    (walkBlocks obstacle? above listing).map Block.name = listing.names := by
  induction listing with
  | nil => rfl
  | leaf name entry rest ih | dir name mode entries rest _ ih =>
    rw [walkBlocks, List.map_cons, ih]
    rfl

theorem nodup_names {listing : Listing} (h : listing.WellFormed) : listing.names.Nodup := by
  induction listing with
  | nil => exact List.nodup_nil
  | leaf name entry rest ih => exact List.nodup_cons.mpr ⟨h.2.1, ih h.2.2⟩
  | dir name mode entries rest _ ih => exact List.nodup_cons.mpr ⟨h.2.1, ih h.2.2.2⟩

/-- The visits in a directory come in order, if those in every entry do. -/
theorem pairwise_inNameOrder {above : List Name} {listing : Listing} (h : listing.WellFormed)
    (hentries : ∀ name node, listing.find? name = some node →
      (visitNode obstacle? (above ++ [name]) node).Pairwise
        fun first second => first.names < second.names) :
    (inNameOrder (walkBlocks obstacle? above listing)).Pairwise
      fun first second => first.names < second.names := by
  have hblocks : ∀ block ∈ sortBlocks (walkBlocks obstacle? above listing),
      ∃ node, listing.find? block.name = some node ∧
        block.visits = visitNode obstacle? (above ++ [block.name]) node := by
    intro block hblock
    rw [sortBlocks_eq_insertionSort, List.mem_insertionSort] at hblock
    exact (mem_walkBlocks_iff h).mp hblock
  rw [inNameOrder, List.pairwise_flatMap]
  constructor
  · intro block hblock
    obtain ⟨node, hnode, hvisits⟩ := hblocks block hblock
    rw [hvisits]
    exact hentries _ node hnode
  · have hdistinct : ((walkBlocks obstacle? above listing).map Block.name).Nodup := by
      rw [map_name_walkBlocks]
      exact nodup_names h
    refine (pairwise_sortBlocks hdistinct).imp_of_mem ?_
    intro block other hblock hother hlt first hfirst second hsecond
    obtain ⟨node, hnode, hvisits⟩ := hblocks block hblock
    obtain ⟨node', hnode', hvisits'⟩ := hblocks other hother
    rw [hvisits] at hfirst
    rw [hvisits'] at hsecond
    -- the paths part at the names of the blocks
    obtain ⟨below, hnames, -⟩ := exists_meets_of_find? h hnode hfirst
    obtain ⟨below', hnames', -⟩ := exists_meets_of_find? h hnode' hsecond
    rw [hnames, hnames']
    exact List.append_left_lt (List.cons_lt_cons_iff.mpr (.inl hlt))

theorem pairwise_visitDirectory {names : List Name} {mode : Mode} {inside : List Visit}
    (h : inside.Pairwise fun first second => first.names < second.names) :
    (visitDirectory obstacle? names mode inside).Pairwise
      fun first second => first.names < second.names := by
  rw [visitDirectory]
  split
  · exact List.pairwise_singleton _ _
  · exact h

theorem pairwise_of_find? {listing : Listing} (h : listing.WellFormed) {above : List Name}
    {name : Name} {node : Node} (hnode : listing.find? name = some node) :
    (visitNode obstacle? (above ++ [name]) node).Pairwise
      fun first second => first.names < second.names := by
  induction listing generalizing above name node with
  | nil => cases hnode
  | leaf first entry rest ih =>
    rw [Listing.find?] at hnode
    split at hnode
    · cases hnode
      cases entry with
      | file file => exact List.pairwise_singleton _ _
      | link target | device device => exact .nil
    · exact ih h.2.2 hnode
  | dir first mode entries rest ihEntries ih =>
    obtain ⟨-, -, hentries, hrest⟩ := h
    rw [Listing.find?] at hnode
    split at hnode
    · cases hnode
      exact pairwise_visitDirectory
        (pairwise_inNameOrder hentries fun _ _ hinner => ihEntries hentries hinner)
    · exact ih hrest hnode

/-- The paths of a walk strictly increase. -/
theorem pairwise_walk {top : Directory} (h : top.WellFormed) :
    (walk obstacle? top).Pairwise fun first second => first.names < second.names :=
  pairwise_visitDirectory (pairwise_inNameOrder h fun _ _ hnode => pairwise_of_find? h hnode)

/-! ### Lists in order -/

/-- What is listed in the order of names is decided by what is in the list. -/
theorem eq_of_pairwise_names {α : Type} {names : α → List Name} {list other : List α}
    (h : list.Pairwise fun a b => names a < names b)
    (hother : other.Pairwise fun a b => names a < names b)
    (hmem : ∀ a, a ∈ list ↔ a ∈ other) : list = other := by
  have hasymm : Std.Antisymm fun a b => names a < names b :=
    ⟨fun _ _ hlt hgt => absurd hgt (List.lt_asymm hlt)⟩
  have hirrefl : Std.Irrefl fun a b => names a < names b :=
    ⟨fun a => List.lt_irrefl (names a)⟩
  exact List.Pairwise.eq_of_mem_iff h hother hmem

/-- Directories with the same entries at all paths are walked in the same way. -/
theorem walk_eq_of_entryAt? {top other : Directory} (h : top.WellFormed)
    (hother : other.WellFormed) (hsame : ∀ names, other.entryAt? names = top.entryAt? names) :
    walk obstacle? other = walk obstacle? top := by
  refine eq_of_pairwise_names (pairwise_walk hother) (pairwise_walk h) fun visit => ?_
  have hopens : Opens obstacle? [] other visit.names ↔ Opens obstacle? [] top visit.names :=
    Directory.onTheWay_congr fun names mode => by rw [hsame]
  rw [mem_walk_iff hother, mem_walk_iff h, meets_iff, meets_iff, hopens, hsame]

end NamedSql
