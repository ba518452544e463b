/-
Tables of Unicode properties: sets of code points and single-character mappings, each
as a list of runs. A run goes from its first code point to its last in equal steps, so
that scripts whose small and capital letters alternate take one run.
-/

namespace NamedSql.Text

/-- `first`, `first + step`, … up to `last`. -/
structure CodePointRun where
  first : Nat
  last : Nat
  step : Nat
  deriving DecidableEq, Repr

/-- Whether a code point lies on a run. -/
def CodePointRun.contains (run : CodePointRun) (n : Nat) : Bool :=
  decide (run.first ≤ n ∧ n ≤ run.last ∧ (n - run.first) % run.step = 0)

/-- Whether a character lies on one of the runs. -/
def onRuns (runs : List CodePointRun) (c : Char) : Bool :=
  runs.any fun run => run.contains c.toNat

/-- A run of code points that are all mapped by the same distance. -/
structure MappedRun where
  run : CodePointRun
  distance : Int
  deriving DecidableEq, Repr

/-- Characters that map to one character each, and those that map to several. -/
structure CharMap where
  runs : List MappedRun
  expansions : List (Nat × List Nat)

/-- The image of a character: itself unless the map says otherwise. -/
def CharMap.apply (map : CharMap) (c : Char) : List Char :=
  match map.runs.find? fun mapped => mapped.run.contains c.toNat with
  | some mapped => [Char.ofNat (c.toNat + mapped.distance).toNat]
  | none =>
    match map.expansions.find? fun expansion => expansion.1 = c.toNat with
    | some expansion => expansion.2.map Char.ofNat
    | none => [c]

end NamedSql.Text
