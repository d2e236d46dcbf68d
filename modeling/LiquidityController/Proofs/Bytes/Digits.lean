import LiquidityController.Bytes.Number
import Mathlib.Data.Nat.Digits.Lemmas

/-!
# Digits of a number

Digits are written highest first, and zeros in front of them do not change the number. So a list of
digits is determined by how many zeros it starts with and by the number that the rest denotes.
Keeping the first and writing the second in another base is undone by going back to the old base.
-/

namespace LiquidityController

variable {base base' : Nat} {digits : List Nat}

/-! ### Highest first and lowest first -/

theorem digitsUpTo_eq (two : 1 < base) {fuel n : Nat} (enough : n < 2 ^ fuel) :
    digitsUpTo base fuel n = Nat.digits base n := by
  induction fuel generalizing n with
  | zero =>
    have zero : n = 0 := by simpa using enough
    rw [zero, Nat.digits_zero]
    rfl
  | succ fuel ih =>
    rw [digitsUpTo]
    split
    next zero => rw [zero, Nat.digits_zero]
    next positive =>
      -- dividing by the base takes at least one bit away
      have half : n / base ≤ n / 2 := Nat.div_le_div_left two (by decide)
      have fewer : n / base < 2 ^ fuel := by
        rw [Nat.pow_succ] at enough
        omega
      rw [ih fewer, Nat.digits_def' two (Nat.pos_of_ne_zero positive)]

theorem toDigits_eq (two : 1 < base) (n : Nat) : toDigits base n = (Nat.digits base n).reverse := by
  rw [toDigits, digitsUpTo_eq two Nat.lt_log2_self]

theorem ofDigits_eq (base : Nat) (digits : List Nat) :
    ofDigits base digits = Nat.ofDigits base digits.reverse := by
  induction digits using List.reverseRecOn with
  | nil => rfl
  | append_singleton digits digit ih =>
    rw [List.reverse_append, List.reverse_singleton, List.singleton_append, Nat.ofDigits_cons, ← ih,
      ofDigits, List.foldl_append, ← ofDigits, List.foldl_cons, List.foldl_nil, Nat.mul_comm,
      Nat.add_comm]

theorem ofDigits_toDigits (two : 1 < base) (n : Nat) : ofDigits base (toDigits base n) = n := by
  rw [ofDigits_eq, toDigits_eq two, List.reverse_reverse, Nat.ofDigits_digits]

theorem lt_of_mem_toDigits (two : 1 < base) {n digit : Nat} (member : digit ∈ toDigits base n) :
    digit < base := by
  rw [toDigits_eq two, List.mem_reverse] at member
  exact Nat.digits_lt_base two member

/-! ### Zeros in front -/

theorem ofDigits_zero_cons : ofDigits base (0 :: digits) = ofDigits base digits := by
  rw [ofDigits, ofDigits, List.foldl_cons, Nat.zero_mul]

theorem ofDigits_replicate_append (zeros : Nat) :
    ofDigits base (List.replicate zeros 0 ++ digits) = ofDigits base digits := by
  induction zeros with
  | zero => rfl
  | succ zeros ih => rw [List.replicate_succ, List.cons_append, ofDigits_zero_cons, ih]

theorem ofDigits_dropWhile :
    ofDigits base (digits.dropWhile (· == 0)) = ofDigits base digits := by
  induction digits with
  | nil => rfl
  | cons digit digits ih =>
    rw [List.dropWhile_cons]
    split
    next zero => rw [eq_of_beq zero, ofDigits_zero_cons, ih]
    next => rfl

theorem takeWhile_toDigits (two : 1 < base) (n : Nat) :
    (toDigits base n).takeWhile (· == 0) = [] := by
  rcases Nat.eq_zero_or_pos n with rfl | positive
  · rw [toDigits_eq two, Nat.digits_zero]
    rfl
  · have digits_ne : Nat.digits base n ≠ [] :=
      Nat.digits_ne_nil_iff_ne_zero.mpr (Nat.ne_of_gt positive)
    have highest := Nat.getLast_digit_ne_zero base (Nat.ne_of_gt positive)
    rw [toDigits_eq two, ← List.dropLast_append_getLast digits_ne, List.reverse_append,
      List.reverse_singleton, List.singleton_append, List.takeWhile_cons_of_neg (by simpa)]

theorem takeWhile_replicate_append_toDigits (two : 1 < base) (zeros n : Nat) :
    (List.replicate zeros 0 ++ toDigits base n).takeWhile (· == 0) = List.replicate zeros 0 := by
  induction zeros with
  | zero => exact takeWhile_toDigits two n
  | succ zeros ih =>
    rw [List.replicate_succ, List.cons_append, List.takeWhile_cons_of_pos rfl, ih]

/-- The zeros at the start and the number give all digits back. -/
theorem replicate_append_toDigits (two : 1 < base) (small : ∀ digit ∈ digits, digit < base) :
    List.replicate (digits.takeWhile (· == 0)).length 0 ++ toDigits base (ofDigits base digits) =
      digits := by
  induction digits with
  | nil =>
    rw [toDigits_eq two]
    simp [ofDigits]
  | cons digit digits ih =>
    by_cases zero : digit = 0
    · subst zero
      have rest := ih fun digit member => small digit (List.mem_cons_of_mem 0 member)
      rw [List.takeWhile_cons_of_pos rfl, List.length_cons, List.replicate_succ, List.cons_append,
        ofDigits_zero_cons, rest]
    · -- the first digit counts, so the list is already the one that is written for its number
      have small' : ∀ other ∈ (digit :: digits).reverse, other < base := fun other member =>
        small other (List.mem_reverse.mp member)
      have highest : ∀ some : (digit :: digits).reverse ≠ [],
          (digit :: digits).reverse.getLast some ≠ 0 := by simpa using zero
      rw [List.takeWhile_cons_of_neg (by simpa using zero), ofDigits_eq, toDigits_eq two,
        Nat.digits_ofDigits base two _ small' highest, List.reverse_reverse]
      rfl

/-! ### Another base -/

/-- The digits of the same number in another base, after the same number of zeros. -/
def rebase (base base' : Nat) (digits : List Nat) : List Nat :=
  List.replicate (digits.takeWhile (· == 0)).length 0 ++ toDigits base' (ofDigits base digits)

theorem rebase_rebase (two : 1 < base) (two' : 1 < base') (small : ∀ digit ∈ digits, digit < base) :
    rebase base' base (rebase base base' digits) = digits := by
  rw [rebase, rebase, takeWhile_replicate_append_toDigits two', List.length_replicate,
    ofDigits_replicate_append, ofDigits_toDigits two', replicate_append_toDigits two small]

theorem lt_of_mem_rebase (two' : 1 < base') {digit : Nat}
    (member : digit ∈ rebase base base' digits) : digit < base' := by
  rcases List.mem_append.mp member with zero | nonzero
  · rw [List.eq_of_mem_replicate zero]
    omega
  · exact lt_of_mem_toDigits two' nonzero

/-- A smaller base needs more digits, but zeros in front need no more than before. -/
theorem length_rebase_le (two' : 1 < base') (smaller : base' ≤ base) {room : Nat}
    (short : digits.length ≤ room) (fits : base ^ digits.length ≤ base' ^ room)
    (small : ∀ digit ∈ digits, digit < base) : (rebase base base' digits).length ≤ room := by
  have two : 1 < base := Nat.lt_of_lt_of_le two' smaller
  obtain ⟨zeros, counted⟩ : ∃ zeros, (digits.takeWhile (· == 0)).length = zeros := ⟨_, rfl⟩
  obtain ⟨rest, left⟩ : ∃ rest, (digits.dropWhile (· == 0)).length = rest := ⟨_, rfl⟩
  have whole : zeros + rest = digits.length := by
    rw [← counted, ← left, ← List.length_append, List.takeWhile_append_dropWhile]
  have value : ofDigits base digits < base ^ rest := by
    rw [← ofDigits_dropWhile, ofDigits_eq, ← left, ← List.length_reverse]
    refine Nat.ofDigits_lt_base_pow_length two fun digit member => small digit ?_
    exact (List.dropWhile_sublist _).subset (List.mem_reverse.mp member)
  -- both sides of `fits` lose as many digits as there are zeros
  have fits' : base ^ rest ≤ base' ^ (room - zeros) := by
    refine Nat.le_of_mul_le_mul_right ?_ (Nat.pow_pos (n := zeros) (Nat.zero_lt_of_lt two))
    calc base ^ rest * base ^ zeros
        = base ^ digits.length := by rw [← Nat.pow_add, Nat.add_comm, whole]
      _ ≤ base' ^ room := fits
      _ = base' ^ (room - zeros) * base' ^ zeros := by
        rw [← Nat.pow_add, Nat.sub_add_cancel (by omega)]
      _ ≤ base' ^ (room - zeros) * base ^ zeros :=
        Nat.mul_le_mul_left _ (Nat.pow_le_pow_left smaller zeros)
  have written : (toDigits base' (ofDigits base digits)).length ≤ room - zeros := by
    rw [toDigits_eq two', List.length_reverse, Nat.digits_length_le_iff two']
    exact Nat.lt_of_lt_of_le value fits'
  rw [rebase, List.length_append, List.length_replicate, counted]
  omega

end LiquidityController
