import Mathlib.Data.List.Basic

namespace ApiCenter.Library

/-- A way to write values as characters so that a reader knows where they end. -/
structure Codec (α : Type) where
  write : α → List Char
  read : List Char → Option (α × List Char)
  read_write : ∀ a rest, read (write a ++ rest) = some (a, rest)

namespace Codec

variable {α β : Type}

def writeList (write : α → List Char) : List α → List Char
  | [] => ['.']
  | a :: as => ',' :: (write a ++ writeList write as)

/-- `fuel` bounds the number of elements read. -/
def readList (read : List Char → Option (α × List Char)) :
    Nat → List Char → Option (List α × List Char)
  | _, '.' :: rest => some ([], rest)
  | fuel + 1, ',' :: rest => do
    let (a, rest) ← read rest
    let (as, rest) ← readList read fuel rest
    return (a :: as, rest)
  | _, _ => none

theorem length_le_writeList (write : α → List Char) (as : List α) :
    as.length ≤ (writeList write as).length := by
  induction as with
  | nil => simp [writeList]
  | cons a as ih =>
    simp only [writeList, List.length_cons, List.length_append]
    omega

theorem readList_writeList (c : Codec α) (as : List α) (rest : List Char) (fuel : Nat)
    (h : as.length ≤ fuel) :
    readList c.read fuel (writeList c.write as ++ rest) = some (as, rest) := by
  induction as generalizing fuel with
  | nil => cases fuel <;> rfl
  | cons a as ih =>
    cases fuel with
    | zero => simp at h
    | succ fuel =>
      have hrest := ih fuel (by simpa using h)
      simp only [writeList, List.cons_append, List.append_assoc, readList, c.read_write]
      simp [hrest]

def list (c : Codec α) : Codec (List α) where
  write := writeList c.write
  read s := readList c.read s.length s
  read_write as rest := by
    apply readList_writeList c as rest
    have := length_le_writeList c.write as
    simp only [List.length_append]
    omega

def char : Codec Char where
  write c := [c]
  read
    | c :: rest => some (c, rest)
    | [] => none
  read_write _ _ := rfl

def unit : Codec Unit where
  write _ := []
  read s := some ((), s)
  read_write _ _ := rfl

def pair (c : Codec α) (d : Codec β) : Codec (α × β) where
  write p := c.write p.1 ++ d.write p.2
  read s := do
    let (a, s) ← c.read s
    let (b, s) ← d.read s
    return ((a, b), s)
  read_write p rest := by
    rw [List.append_assoc, c.read_write]
    simp [d.read_write]

def option (c : Codec α) : Codec (Option α) where
  write
    | none => ['-']
    | some a => '+' :: c.write a
  read
    | '-' :: rest => some (none, rest)
    | '+' :: rest => (c.read rest).map fun p => (some p.1, p.2)
    | _ => none
  read_write a rest := by
    cases a with
    | none => rfl
    | some a => simp [c.read_write]

/-- Write through a map that can be undone. -/
def via (c : Codec β) (f : α → β) (g : β → α) (h : ∀ a, g (f a) = a) : Codec α where
  write a := c.write (f a)
  read s := (c.read s).map fun p => (g p.1, p.2)
  read_write a rest := by simp [c.read_write, h]

def string : Codec String :=
  char.list.via String.toList String.ofList fun s => by simp

def nat : Codec Nat :=
  unit.list.via (fun n => List.replicate n ()) List.length fun n => by simp

/-- A character that is never written. -/
def Avoids (c : Codec α) (ch : Char) : Prop := ∀ a, ch ∉ c.write a

theorem Avoids.list {c : Codec α} {ch : Char} (h : c.Avoids ch) (hc : ch ≠ ',') (hd : ch ≠ '.') :
    c.list.Avoids ch := by
  intro as
  change ch ∉ writeList c.write as
  induction as with
  | nil => simp [writeList, hd]
  | cons a as ih => simp [writeList, hc, h a, ih]

theorem Avoids.pair {c : Codec α} {d : Codec β} {ch : Char} (hc : c.Avoids ch)
    (hd : d.Avoids ch) : (c.pair d).Avoids ch := by
  intro p
  change ch ∉ c.write p.1 ++ d.write p.2
  simp [hc p.1, hd p.2]

theorem Avoids.option {c : Codec α} {ch : Char} (h : c.Avoids ch) (hm : ch ≠ '-') (hp : ch ≠ '+') :
    c.option.Avoids ch := by
  intro a
  cases a with
  | none => simp [Codec.option, hm]
  | some a => simp [Codec.option, hp, h a]

theorem Avoids.via {c : Codec β} {ch : Char} (h : c.Avoids ch) {f : α → β} {g : β → α}
    {hgf : ∀ a, g (f a) = a} : (c.via f g hgf).Avoids ch :=
  fun a => h (f a)

theorem avoids_unit (ch : Char) : unit.Avoids ch := fun _ => List.not_mem_nil

theorem avoids_nat {ch : Char} (hc : ch ≠ ',') (hd : ch ≠ '.') : nat.Avoids ch :=
  ((avoids_unit ch).list hc hd).via

end Codec

end ApiCenter.Library
