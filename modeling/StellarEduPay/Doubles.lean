import Mathlib.Algebra.Order.Archimedean.Basic
import Mathlib.Algebra.Order.Field.Rat
import Mathlib.Algebra.Order.Floor.Ring
import Mathlib.Data.Int.Log
import Mathlib.Data.Rat.Floor
import Mathlib.Tactic.Linarith
import Mathlib.Tactic.Positivity
import Mathlib.Tactic.Ring

/-! # Doubles

The numbers of 53 significant bits, as the rationals they are: rounding to the nearest of them, of
two to the even one, and the sum and the difference, which round the exact result.  Exponents are not
bounded: nothing is too large for a double, or too small for all of its bits.
-/
namespace Doubles

/-! ## Rounding -/

/-- The nearest integer, of two the even one. -/
def roundEven (q : ℚ) : ℤ :=
  if Int.fract q < 1 / 2 then ⌊q⌋
  else if 1 / 2 < Int.fract q then ⌊q⌋ + 1
  else if ⌊q⌋ % 2 = 0 then ⌊q⌋
  else ⌊q⌋ + 1

/-- The value of the last of the 53 bits of a positive number. -/
def lastBit (q : ℚ) : ℚ := 2 ^ (Int.log 2 q - 52)

/-- A number that is not negative, rounded. -/
def roundPos (q : ℚ) : ℚ := roundEven (q / lastBit q) * lastBit q

/-- The double nearest to a number. -/
def nearest (q : ℚ) : ℚ := if q < 0 then -roundPos (-q) else roundPos q

def add (a b : ℚ) : ℚ := nearest (a + b)

def sub (a b : ℚ) : ℚ := nearest (a - b)

/-- The numbers added up one by one. -/
def total (l : List ℚ) : ℚ := l.foldl add 0

section Round
variable {q r : ℚ}

theorem floor_le_roundEven (q : ℚ) : ⌊q⌋ ≤ roundEven q ∧ roundEven q ≤ ⌊q⌋ + 1 := by
  unfold roundEven
  split_ifs <;> omega

@[simp] theorem roundEven_intCast (n : ℤ) : roundEven n = n := by
  rw [roundEven, Int.fract_intCast, if_pos (by norm_num), Int.floor_intCast]

/-- Within one integer part the fractions decide, between two their bounds. -/
theorem roundEven_mono (h : q ≤ r) : roundEven q ≤ roundEven r := by
  rcases (Int.floor_mono h).eq_or_lt with heq | hlt
  · have hfract : Int.fract q ≤ Int.fract r := by
      rw [Int.fract, Int.fract, heq]
      linarith
    unfold roundEven
    rw [heq]
    split_ifs <;> first | omega | (exfalso; linarith)
  · exact (floor_le_roundEven q).2.trans ((Int.add_one_le_iff.mpr hlt).trans (floor_le_roundEven r).1)

theorem lastBit_pos (q : ℚ) : 0 < lastBit q := zpow_pos (by norm_num) _

/-- A positive number is between two powers of two, 52 bits above its last. -/
theorem lastBit_bounds (h : 0 < q) :
    lastBit q * 2 ^ 52 ≤ q ∧ q < lastBit q * 2 ^ 53 := by
  have hpow : ∀ k : ℕ, lastBit q * 2 ^ k = 2 ^ (Int.log 2 q - 52 + k) := fun k => by
    rw [lastBit, zpow_add₀ (by norm_num), zpow_natCast]
  rw [hpow, hpow]
  have hlow := Int.zpow_log_le_self (b := 2) (by decide) h
  have hhigh := Int.lt_zpow_succ_log_self (b := 2) (by decide) q
  push_cast at hlow hhigh ⊢
  rw [show Int.log 2 q - 52 + 52 = Int.log 2 q by ring,
    show Int.log 2 q - 52 + 53 = Int.log 2 q + 1 by ring]
  exact ⟨hlow, hhigh⟩

/-- Rounding does not leave the power of two. -/
theorem roundPos_bounds (h : 0 < q) :
    lastBit q * 2 ^ 52 ≤ roundPos q ∧ roundPos q ≤ lastBit q * 2 ^ 53 := by
  obtain ⟨hlow, hhigh⟩ := lastBit_bounds h
  have hlast := lastBit_pos q
  have hquotient : ((2 ^ 52 : ℤ) : ℚ) ≤ q / lastBit q ∧ q / lastBit q ≤ ((2 ^ 53 : ℤ) : ℚ) := by
    rw [le_div_iff₀ hlast, div_le_iff₀ hlast]
    push_cast
    constructor <;> linarith
  have hrounded := And.intro (roundEven_mono hquotient.1) (roundEven_mono hquotient.2)
  rw [roundEven_intCast, roundEven_intCast] at hrounded
  have hlow' : ((2 ^ 52 : ℤ) : ℚ) ≤ roundEven (q / lastBit q) := Int.cast_le.mpr hrounded.1
  have hhigh' : (roundEven (q / lastBit q) : ℚ) ≤ ((2 ^ 53 : ℤ) : ℚ) := Int.cast_le.mpr hrounded.2
  push_cast at hlow' hhigh'
  rw [roundPos, mul_comm (lastBit q), mul_comm (lastBit q)]
  exact ⟨mul_le_mul_of_nonneg_right hlow' hlast.le, mul_le_mul_of_nonneg_right hhigh' hlast.le⟩

/-- Between the same powers of two the multiples of the last bit decide, else the powers. -/
theorem roundPos_mono (hq : 0 < q) (h : q ≤ r) : roundPos q ≤ roundPos r := by
  rcases (Int.log_mono_right (b := 2) hq h).eq_or_lt with heq | hlt
  · have hlast : lastBit q = lastBit r := by rw [lastBit, lastBit, heq]
    rw [roundPos, roundPos, hlast]
    have hmono := roundEven_mono (div_le_div_of_nonneg_right h (lastBit_pos r).le)
    exact mul_le_mul_of_nonneg_right (Int.cast_le.mpr hmono) (lastBit_pos r).le
  · have hpowers : lastBit q * 2 ^ 53 ≤ lastBit r * 2 ^ 52 := by
      have hmono : (2 : ℚ) ^ (Int.log 2 q + 1) ≤ 2 ^ Int.log 2 r :=
        zpow_le_zpow_right₀ (by norm_num) (Int.add_one_le_iff.mpr hlt)
      have hq' : lastBit q * 2 ^ 53 = 2 ^ (Int.log 2 q + 1) := by
        rw [lastBit, ← zpow_natCast, ← zpow_add₀ (by norm_num)]
        congr 1
        push_cast
        ring
      have hr' : lastBit r * 2 ^ 52 = 2 ^ Int.log 2 r := by
        rw [lastBit, ← zpow_natCast, ← zpow_add₀ (by norm_num)]
        congr 1
        push_cast
        ring
      rwa [hq', hr']
    exact (roundPos_bounds hq).2.trans (hpowers.trans (roundPos_bounds (hq.trans_le h)).1)

@[simp] theorem nearest_zero : nearest 0 = 0 := by
  simp [nearest, roundPos, roundEven]

theorem nearest_neg (q : ℚ) : nearest (-q) = -nearest q := by
  rcases lt_trichotomy q 0 with hneg | rfl | hpos
  · rw [nearest, nearest, if_neg (by linarith), if_pos hneg, neg_neg]
  · simp
  · rw [nearest, nearest, if_pos (by linarith), if_neg hpos.not_gt, neg_neg]

theorem nearest_pos (h : 0 < q) : 0 < nearest q := by
  rw [nearest, if_neg h.not_gt]
  exact (mul_pos (lastBit_pos q) (by norm_num)).trans_le (roundPos_bounds h).1

theorem nearest_nonneg (h : 0 ≤ q) : 0 ≤ nearest q := by
  rcases h.eq_or_lt with rfl | h
  · exact nearest_zero.ge
  · exact (nearest_pos h).le

/-- **Rounding keeps the order.** -/
theorem nearest_mono (h : q ≤ r) : nearest q ≤ nearest r := by
  rcases le_or_gt q 0 with hq | hq
  · rcases le_or_gt 0 r with hr | hr
    · have hneg := nearest_nonneg (neg_nonneg.mpr hq)
      rw [nearest_neg] at hneg
      exact (neg_nonneg.mp hneg).trans (nearest_nonneg hr)
    · rw [nearest, nearest, if_pos (h.trans_lt hr), if_pos hr]
      exact neg_le_neg (roundPos_mono (neg_pos.mpr hr) (neg_le_neg h))
  · rw [nearest, nearest, if_neg hq.not_gt, if_neg (hq.trans_le h).not_gt]
    exact roundPos_mono hq h

@[simp] theorem nearest_eq_zero_iff : nearest q = 0 ↔ q = 0 := by
  constructor
  · intro h
    rcases lt_trichotomy q 0 with hneg | hzero | hpos
    · have := nearest_pos (neg_pos.mpr hneg)
      rw [nearest_neg, h] at this
      simp at this
    · exact hzero
    · exact absurd h (nearest_pos hpos).ne'
  · rintro rfl
    exact nearest_zero

theorem nearest_pos_iff : 0 < nearest q ↔ 0 < q := by
  refine ⟨fun h => ?_, nearest_pos⟩
  by_contra hle
  have := nearest_mono (not_lt.mp hle)
  rw [nearest_zero] at this
  exact absurd h this.not_gt

/-- **What has 53 bits** is as it is. -/
theorem nearest_of_bits {m k : ℤ} (hm : |m| ≤ 2 ^ 53) : nearest (m * 2 ^ k) = m * 2 ^ k := by
  have htwo : (0 : ℚ) < 2 ^ k := zpow_pos (by norm_num) _
  -- the last bit of a positive number of this kind is no more than `2 ^ k`, but for the power `2 ^ 53`
  have hpos : ∀ n : ℤ, 0 < n → n ≤ 2 ^ 53 → roundPos (n * 2 ^ k) = n * 2 ^ k := by
    intro n hn hle
    have hq : (0 : ℚ) < n * 2 ^ k := mul_pos (by exact_mod_cast hn) htwo
    have hinteger : ∃ j : ℤ, (n * 2 ^ k : ℚ) / lastBit (n * 2 ^ k) = j := by
      have hbit := (lastBit_bounds hq).1
      have hlog : Int.log 2 (n * 2 ^ k : ℚ) ≤ 53 + k := by
        have hpow : ((2 : ℕ) : ℚ) ^ Int.log 2 (n * 2 ^ k : ℚ) ≤ 2 ^ (53 + k) := by
          refine (Int.zpow_log_le_self (by decide) hq).trans ?_
          rw [zpow_add₀ (by norm_num)]
          exact mul_le_mul_of_nonneg_right (by exact_mod_cast hle) htwo.le
        push_cast at hpow
        exact (zpow_le_zpow_iff_right₀ (by norm_num)).mp hpow
      have hquotient : (n * 2 ^ k : ℚ) / lastBit (n * 2 ^ k) =
          n * 2 ^ (k + 52 - Int.log 2 (n * 2 ^ k : ℚ)) := by
        rw [lastBit, mul_div_assoc, ← zpow_sub₀ (by norm_num)]
        congr 2
        ring
      rw [hquotient]
      rcases lt_or_eq_of_le hlog with hlt | heq
      · obtain ⟨d, hd⟩ : ∃ d : ℕ, (d : ℤ) = k + 52 - Int.log 2 (n * 2 ^ k : ℚ) :=
          ⟨_, Int.toNat_of_nonneg (by omega)⟩
        refine ⟨n * 2 ^ d, ?_⟩
        rw [← hd, zpow_natCast]
        push_cast
        ring
      · have hfull : (2 : ℚ) ^ (53 + k) ≤ n * 2 ^ k := by
          have hself := Int.zpow_log_le_self (b := 2) (by decide) hq
          rw [heq] at hself
          exact_mod_cast hself
        rw [zpow_add₀ (by norm_num)] at hfull
        have hn53 : (2 : ℚ) ^ (53 : ℤ) ≤ n := le_of_mul_le_mul_right hfull htwo
        obtain rfl : n = 2 ^ 53 := le_antisymm hle (by exact_mod_cast hn53)
        refine ⟨2 ^ 52, ?_⟩
        rw [heq, show k + 52 - (53 + k) = -1 by ring]
        norm_num
    obtain ⟨j, hj⟩ := hinteger
    rw [roundPos, hj, roundEven_intCast, ← hj, div_mul_cancel₀ _ (lastBit_pos _).ne']
  rcases lt_trichotomy m 0 with hneg | rfl | hm0
  · have hn : (0 : ℤ) < -m := neg_pos.mpr hneg
    have hround := hpos (-m) hn (by rw [abs_of_neg hneg] at hm; exact hm)
    push_cast at hround
    rw [neg_mul] at hround
    have hlt : (m * 2 ^ k : ℚ) < 0 := mul_neg_of_neg_of_pos (by exact_mod_cast hneg) htwo
    rw [nearest, if_pos hlt, hround, neg_neg]
  · simp
  · rw [nearest, if_neg (mul_pos (by exact_mod_cast hm0) htwo).not_gt]
    exact hpos m hm0 (by rw [abs_of_pos hm0] at hm; exact hm)

end Round

/-! ## Sums and differences -/

section Sums
variable {a b : ℚ}

theorem sub_pos_iff : 0 < sub a b ↔ b < a := nearest_pos_iff.trans sub_pos

/-- What is left of a number that may be exceeded. -/
theorem max_sub_of_le (h : a ≤ b) : max 0 (sub a b) = 0 :=
  max_eq_left (not_lt.mp fun hpos => (sub_pos_iff.mp hpos).not_ge h)

theorem add_mono {c d : ℚ} (h : a ≤ b) (h' : c ≤ d) : add a c ≤ add b d :=
  nearest_mono (add_le_add h h')

/-- Larger numbers add up to no less. -/
theorem total_mono {α : Type} {f g : α → ℚ} {l : List α} (h : ∀ x ∈ l, f x ≤ g x) :
    total (l.map f) ≤ total (l.map g) := by
  suffices hfold : ∀ s t : ℚ, s ≤ t → (l.map f).foldl add s ≤ (l.map g).foldl add t from
    hfold 0 0 le_rfl
  induction l with
  | nil => exact fun s t hst => hst
  | cons x l ih =>
    intro s t hst
    obtain ⟨hx, hl⟩ := List.forall_mem_cons.mp h
    exact ih hl _ _ (add_mono hst hx)

/-- The doubles of a tenth and of two tenths do not add up to that of three. -/
example : add (nearest (1 / 10)) (nearest (2 / 10)) ≠ nearest (3 / 10) := by decide +kernel

end Sums

end Doubles
