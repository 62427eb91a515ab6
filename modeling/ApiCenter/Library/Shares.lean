import Mathlib.Data.List.Count

namespace ApiCenter.Library.Shares

variable {α : Type*} (p : α → Bool) {l : List α} {i : Nat} {x y : α}

/-- The place an entry that has `p` takes among those that have it. -/
def place (l : List α) (i : Nat) : Nat := (l.take i).countP p

theorem place_cons_succ (a : α) (l : List α) (i : Nat) :
    place p (a :: l) (i + 1) = place p l i + if p a then 1 else 0 := by
  rw [place, List.take_succ_cons, List.countP_cons, place]

theorem getElem?_place (hx : l[i]? = some x) (hp : p x = true) :
    (l.filter p)[place p l i]? = some x := by
  induction l generalizing i with
  | nil => cases hx
  | cons a l ih =>
    cases i with
    | zero =>
      obtain rfl : a = x := Option.some.inj hx
      rw [List.filter_cons_of_pos hp]
      rfl
    | succ i =>
      rw [place_cons_succ]
      by_cases ha : p a = true
      · rw [if_pos ha, List.filter_cons_of_pos ha, List.getElem?_cons_succ]
        exact ih hx
      · rw [if_neg ha, List.filter_cons_of_neg ha]
        exact ih hx

/-- Replacing an entry of the share by another is doing so in the share. -/
theorem filter_set_place (hx : l[i]? = some x) (hp : p x = true) (hy : p y = true) :
    (l.set i y).filter p = (l.filter p).set (place p l i) y := by
  induction l generalizing i with
  | nil => cases hx
  | cons a l ih =>
    cases i with
    | zero =>
      obtain rfl : a = x := Option.some.inj hx
      rw [List.set_cons_zero, List.filter_cons_of_pos hy, List.filter_cons_of_pos hp]
      rfl
    | succ i =>
      rw [place_cons_succ, List.set_cons_succ]
      by_cases ha : p a = true
      · rw [if_pos ha, List.filter_cons_of_pos ha, List.filter_cons_of_pos ha, List.set_cons_succ,
          ih hx]
      · rw [if_neg ha, List.filter_cons_of_neg ha, List.filter_cons_of_neg ha]
        exact ih hx

/-- Replacing an entry outside the share by another leaves the share as it is. -/
theorem filter_set_other (hx : l[i]? = some x) (hp : p x = false) (hy : p y = false) :
    (l.set i y).filter p = l.filter p := by
  induction l generalizing i with
  | nil => cases hx
  | cons a l ih =>
    cases i with
    | zero =>
      obtain rfl : a = x := Option.some.inj hx
      rw [List.set_cons_zero, List.filter_cons_of_neg (by simp [hy]),
        List.filter_cons_of_neg (by simp [hp])]
    | succ i => rw [List.set_cons_succ, List.filter_cons, List.filter_cons, ih hx]

end ApiCenter.Library.Shares
