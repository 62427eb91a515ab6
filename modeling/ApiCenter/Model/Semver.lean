import Mathlib.Algebra.Group.Nat.Defs
import Mathlib.Data.Nat.Log
import ApiCenter.Model.Errors
import ApiCenter.Model.Types

namespace ApiCenter

/-- The number a run of decimal digits denotes. -/
def digitsValue (ds : List Char) : Nat :=
  ds.foldl (fun n d => 10 * n + (d.toNat - '0'.toNat)) 0

/-- The groups of `/^(\d+)\.(\d+)\.(\d+)/`. -/
def matchSemver (v : String) : Option (List Char × List Char × List Char) :=
  match v.toList.span Char.isDigit with
  | (a :: as, '.' :: rest) =>
    match rest.span Char.isDigit with
    | (b :: bs, '.' :: rest) =>
      match rest.span Char.isDigit with
      | (c :: cs, _) => some (a :: as, b :: bs, c :: cs)
      | _ => none
    | _ => none
  | _ => none

/-- A natural number rounded to 53 significant bits, ties to even. -/
def roundSignificand (n : Nat) : Nat :=
  let unit := 2 ^ (n.log2 + 1 - 53)
  let q := n / unit
  let r := n % unit
  if 2 * r < unit then q * unit
  else if unit < 2 * r then (q + 1) * unit
  else if q % 2 = 0 then q * unit
  else (q + 1) * unit

/-- `Infinity` as a number: 2 to the 1024, past every finite double. -/
def infinity : Nat := 2 ^ 256 * 2 ^ 256 * 2 ^ 256 * 2 ^ 256

/-- The double nearest to a natural number. -/
def toDouble (n : Nat) : Nat := min (roundSignificand n) infinity

/-- `Number.parseInt` of a run of decimal digits. -/
def parseInt (ds : List Char) : Nat := toDouble (digitsValue ds)

structure Semver where
  major : Nat
  minor : Nat
  patch : Nat
  deriving DecidableEq, Repr

def parseSemver (v : String) : Option Semver :=
  (matchSemver v).map fun (a, b, c) => ⟨parseInt a, parseInt b, parseInt c⟩

def validateVersionUpgrade (currentVersion newVersion : String) : Except Thrown Unit :=
  match parseSemver currentVersion, parseSemver newVersion with
  | some current, some next =>
    if next.major < current.major then
      .error (.validationError
        (s!"Version downgrade from {currentVersion} to {newVersion} is not allowed. " ++
          "Deregister the service first if you need to roll back a major version."))
    else .ok ()
  -- validation is skipped when either version is not semver
  | _, _ => .ok ()

example : parseSemver "12.3.4-rc1" = some ⟨12, 3, 4⟩ := by decide

/-- The exact major number of a version text. -/
def majorOf (v : String) : Option Nat := (matchSemver v).map fun m => digitsValue m.1

theorem roundSignificand_of_le {n : Nat} (h : n ≤ 2 ^ 53) : roundSignificand n = n := by
  rcases Nat.lt_or_eq_of_le h with hlt | rfl
  · have hlog : n.log2 + 1 - 53 = 0 := by
      rcases Nat.eq_zero_or_pos n with rfl | hpos
      · simp
      · have := (Nat.log2_lt (by omega)).mpr hlt
        omega
    simp [roundSignificand, hlog, Nat.mod_one]
  · decide

theorem toDouble_of_le {n : Nat} (h : n ≤ 2 ^ 53) : toDouble n = n := by
  unfold toDouble
  rw [roundSignificand_of_le h]
  exact Nat.min_eq_left (h.trans (by decide))

/-- Every smaller number is a smaller double. -/
def Distinct (n : Nat) : Prop := ∀ k < n, toDouble k < toDouble n

theorem distinct_of_le {n : Nat} (h : n ≤ 2 ^ 53) : Distinct n := by
  intro k hk
  rw [toDouble_of_le h, toDouble_of_le (by omega)]
  exact hk

theorem parseSemver_major {v : String} {n : Nat} (h : majorOf v = some n) :
    ∃ s, parseSemver v = some s ∧ s.major = toDouble n := by
  unfold majorOf at h
  cases hm : matchSemver v with
  | none => simp [hm] at h
  | some m =>
    obtain ⟨a, b, c⟩ := m
    simp only [hm, Option.map_some, Option.some.injEq] at h
    subst h
    exact ⟨⟨parseInt a, parseInt b, parseInt c⟩, by simp [parseSemver, hm], rfl⟩

/-- An accepted upgrade never lowers the parsed major number. -/
theorem upgrade_major {currentVersion newVersion : String} {current next : Semver}
    (hc : parseSemver currentVersion = some current) (hn : parseSemver newVersion = some next)
    (h : validateVersionUpgrade currentVersion newVersion = .ok ()) :
    current.major ≤ next.major := by
  simp only [validateVersionUpgrade, hc, hn] at h
  split at h
  · cases h
  · omega

end ApiCenter
