/-! The value of a row of decimal digits. A row is added up by joining neighbours, which makes
half as many digits of the squared base, so that a long row costs little more than a few long
products. Main statement: the value is that of the row read digit by digit. -/
namespace Storypath.Digits

def digit (c : Char) : Nat := c.toNat - '0'.toNat

def sum (base : Nat) : List Nat → Nat
  | [] => 0
  | d :: ds => d + base * sum base ds

def joined (base : Nat) : List Nat → List Nat
  | d :: e :: ds => (d + base * e) :: joined base ds
  | ds => ds

def sumJoined : Nat → Nat → List Nat → Nat
  | 0, base, ds => sum base ds
  | n + 1, base, ds => sumJoined n (base * base) (joined base ds)

def value (cs : List Char) : Nat := sumJoined cs.length.log2 10 (cs.reverse.map digit)

theorem sum_joined (base : Nat) (ds : List Nat) :
    sum (base * base) (joined base ds) = sum base ds := by
  fun_induction joined base ds with
  | case1 d e ds ih =>
    simp only [sum, ih, Nat.mul_add, Nat.mul_assoc, Nat.add_assoc]
  | case2 ds h =>
    match ds, h with
    | [], _ => rfl
    | [d], _ => simp [sum]
    | d :: e :: ds, h => exact (h d e ds rfl).elim

theorem sumJoined_eq_sum (n base : Nat) (ds : List Nat) : sumJoined n base ds = sum base ds := by
  induction n generalizing base ds with
  | zero => rfl
  | succ n ih => rw [sumJoined, ih, sum_joined]

theorem sum_map_digit (cs : List Char) :
    sum 10 (cs.map digit) = cs.foldr (fun c n => 10 * n + digit c) 0 := by
  induction cs with
  | nil => rfl
  | cons c cs ih => rw [List.map_cons, sum, ih, List.foldr_cons, Nat.add_comm]

/-- The value of a row is that of the row read digit by digit. -/
theorem value_eq_foldl (cs : List Char) :
    value cs = cs.foldl (fun n c => 10 * n + digit c) 0 := by
  rw [value, sumJoined_eq_sum, sum_map_digit, List.foldr_reverse]

end Storypath.Digits
