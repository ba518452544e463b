/-
The names that paths give.

* `QueryName.ofPath_eq_ok_iff` — a path has names when it has at least two segments and every
  one of them gives an identifier;
* `QueryName.wellFormed_of_ofPath` — namespace and accessor are ASCII names, and the key is
  the one behind the other;
* `QueryName.startsWithLetter_of_ofPath` — both start with a letter.
-/
import NamedSql.Proofs.Words
import NamedSql.Query.Name

namespace NamedSql

section

variable {α β ε : Type}

theorem exists_of_mem_right {R : α → β → Prop} {as : List α} {bs : List β}
    (h : List.Forall₂ R as bs) {b : β} (hb : b ∈ bs) : ∃ a ∈ as, R a b := by
  induction h with
  | nil => exact absurd hb List.not_mem_nil
  | @cons a b' as bs hab _ ih =>
    rcases List.mem_cons.mp hb with rfl | hb
    · exact ⟨a, List.mem_cons_self, hab⟩
    · obtain ⟨a', ha', hrelated⟩ := ih hb
      exact ⟨a', List.mem_cons_of_mem a ha', hrelated⟩

theorem forall₂_of_mapM {f : α → Except ε β} {as : List α} {bs : List β}
    (h : as.mapM f = .ok bs) : List.Forall₂ (fun a b => f a = .ok b) as bs := by
  induction as generalizing bs with
  | nil =>
    cases h
    exact .nil
  | cons a as ih =>
    rw [List.mapM_cons] at h
    cases ha : f a with
    | error error =>
      rw [ha] at h
      cases h
    | ok b =>
      cases has : as.mapM f with
      | error error =>
        rw [ha, has] at h
        cases h
      | ok rest =>
        rw [ha, has] at h
        cases h
        exact .cons ha (ih has)

end

theorem isAsciiName_of_isIdentifier {text : String} (h : isIdentifier text = true) :
    Text.IsAsciiName text := by
  unfold isIdentifier at h
  split at h
  · cases h
  · rename_i first rest htext
    rw [Bool.and_eq_true, Bool.and_eq_true, List.all_eq_true] at h
    obtain ⟨⟨hfirst, hrest⟩, -⟩ := h
    refine ⟨?_, fun c hc => ?_⟩
    · rintro rfl
      cases htext
    · rw [htext] at hc
      rcases List.mem_cons.mp hc with rfl | hc
      · rw [Char.isAlphanum, hfirst, Bool.true_or]
      · exact hrest c hc

/-- Whether a name starts with an ASCII letter. -/
def StartsWithLetter (name : String) : Prop :=
  ∃ c rest, name.toList = c :: rest ∧ c.isAlpha = true

theorem startsWithLetter_of_isIdentifier {text : String} (h : isIdentifier text = true) :
    StartsWithLetter text := by
  unfold isIdentifier at h
  split at h
  · cases h
  · rename_i first rest htext
    rw [Bool.and_eq_true, Bool.and_eq_true] at h
    exact ⟨first, rest, htext, h.1.1⟩

theorem segmentIdentifier_eq_ok_iff {path segment identifier : String} :
    segmentIdentifier path segment = .ok identifier ↔
      Text.upperCamel segment = identifier ∧ isIdentifier identifier = true := by
  unfold segmentIdentifier
  dsimp only
  split
  case isTrue hvalid =>
    rw [Except.ok.injEq]
    exact ⟨fun h => ⟨h, h ▸ hvalid⟩, And.left⟩
  case isFalse hinvalid =>
    constructor
    · intro h
      cases h
    · rintro ⟨rfl, hvalid⟩
      exact absurd hvalid hinvalid

namespace QueryName

variable {path suffix : String} {name : QueryName}

/-- The first identifier is the namespace, the others are the accessor, and all of them are
the key. -/
theorem ofPath_eq_ok_iff :
    ofPath path suffix = .ok name ↔
      ∃ first second rest,
        (nameSegments path).mapM (segmentIdentifier path) = .ok (first :: second :: rest) ∧
          name =
            { group := first
              accessor := String.join (second :: rest)
              key := String.join (first :: second :: rest) } := by
  unfold ofPath
  dsimp only
  constructor
  · intro h
    split at h
    · cases h
    rename_i hdeep
    cases hidentifiers : (nameSegments path).mapM (segmentIdentifier path) with
    | error error =>
      rw [hidentifiers] at h
      cases h
    | ok identifiers =>
      -- as many identifiers as segments, so there is a second one
      have hlength := (forall₂_of_mapM hidentifiers).length_eq
      rw [hidentifiers] at h
      cases h
      match identifiers, hlength with
      | [], hlength => exact absurd hlength (by rw [List.length_nil]; omega)
      | [_], hlength => exact absurd hlength (by rw [List.length_singleton]; omega)
      | first :: second :: rest, _ => exact ⟨first, second, rest, rfl, rfl⟩
  · rintro ⟨first, second, rest, hidentifiers, rfl⟩
    have hlength := (forall₂_of_mapM hidentifiers).length_eq
    rw [List.length_cons, List.length_cons] at hlength
    rw [if_neg (by omega), hidentifiers]
    rfl

/-- Namespace and accessor are ASCII names, and spell the key. -/
structure WellFormed (name : QueryName) : Prop where
  group : Text.IsAsciiName name.group
  accessor : Text.IsAsciiName name.accessor
  key : name.key = name.group ++ name.accessor

theorem isAsciiName_join {first : String} {rest : List String} (hfirst : Text.IsAsciiName first)
    (hrest : ∀ part ∈ rest, Text.IsAsciiName part) :
    Text.IsAsciiName (String.join (first :: rest)) := by
  rw [String.join_cons]
  refine ⟨fun hempty => hfirst.1 (String.append_eq_empty_iff.mp hempty).1, fun c hc => ?_⟩
  rw [String.toList_append, String.toList_join] at hc
  rcases List.mem_append.mp hc with hc | hc
  · exact hfirst.2 c hc
  · obtain ⟨part, hpart, hc⟩ := List.mem_flatMap.mp hc
    exact (hrest part hpart).2 c hc

/-- The parts of names are identifiers. -/
theorem isIdentifier_of_mapM {segments identifiers : List String}
    (h : segments.mapM (segmentIdentifier path) = .ok identifiers) :
    ∀ part ∈ identifiers, isIdentifier part = true := by
  intro part hpart
  obtain ⟨segment, -, hsegment⟩ := exists_of_mem_right (forall₂_of_mapM h) hpart
  exact (segmentIdentifier_eq_ok_iff.mp hsegment).2

/-- Namespace and accessor start with a letter. -/
theorem startsWithLetter_of_ofPath (h : ofPath path suffix = .ok name) :
    StartsWithLetter name.group ∧ StartsWithLetter name.accessor := by
  obtain ⟨first, second, rest, hidentifiers, rfl⟩ := ofPath_eq_ok_iff.mp h
  have hvalid := isIdentifier_of_mapM hidentifiers
  refine ⟨startsWithLetter_of_isIdentifier (hvalid first List.mem_cons_self), ?_⟩
  obtain ⟨c, letters, hsecond, hc⟩ := startsWithLetter_of_isIdentifier
    (hvalid second (List.mem_cons_of_mem first List.mem_cons_self))
  refine ⟨c, letters ++ (String.join rest).toList, ?_, hc⟩
  rw [String.join_cons, String.toList_append, hsecond, List.cons_append]

theorem wellFormed_of_ofPath (h : ofPath path suffix = .ok name) : name.WellFormed := by
  obtain ⟨first, second, rest, hidentifiers, rfl⟩ := ofPath_eq_ok_iff.mp h
  have hvalid : ∀ part ∈ first :: second :: rest, Text.IsAsciiName part := fun part hpart =>
    isAsciiName_of_isIdentifier (isIdentifier_of_mapM hidentifiers part hpart)
  rw [List.forall_mem_cons, List.forall_mem_cons] at hvalid
  obtain ⟨hfirst, hsecond, hrest⟩ := hvalid
  exact ⟨hfirst, isAsciiName_join hsecond hrest, String.join_cons⟩

end QueryName

end NamedSql
