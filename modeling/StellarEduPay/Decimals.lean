import Mathlib.Algebra.Order.Field.Rat
import Mathlib.Algebra.Order.Round
import Mathlib.Data.Int.Log
import Mathlib.Data.List.DropRight
import Mathlib.Data.Rat.Floor
import Mathlib.Tactic.FieldSimp
import Mathlib.Tactic.Linarith
import Mathlib.Tactic.Positivity
import Mathlib.Tactic.Ring

/-! # Decimals

Numbers as strings of decimal digits: their value, rounding half away from zero to a number of
places or of significant digits, and how the digits of a fraction decide the rounding.
-/
namespace Decimals

/-! ## Digits -/

/-- The number that a list of decimal digits spells. -/
def digitsValue (cs : List Char) : Nat := Nat.ofDigitChars 10 cs 0

/-- Every character is a digit. -/
def IsDigits (cs : List Char) : Prop := ∀ c ∈ cs, c.isDigit = true

/-- The value of a digit. -/
def digitValue (c : Char) : Nat := c.toNat - '0'.toNat

@[simp] theorem digitsValue_nil : digitsValue [] = 0 := Nat.ofDigitChars_nil

theorem digitsValue_append (a b : List Char) :
    digitsValue (a ++ b) = digitsValue a * 10 ^ b.length + digitsValue b := by
  unfold digitsValue
  rw [Nat.ofDigitChars_append, Nat.ofDigitChars_eq_ofDigitChars_zero, Nat.mul_comm]

theorem digitsValue_cons (c : Char) (cs : List Char) :
    digitsValue (c :: cs) = digitValue c * 10 ^ cs.length + digitsValue cs := by
  unfold digitsValue
  rw [Nat.ofDigitChars_cons, Nat.ofDigitChars_eq_ofDigitChars_zero, Nat.mul_comm, Nat.mul_zero,
    Nat.zero_add]
  rfl

@[simp] theorem digitsValue_replicate_zero (n : Nat) : digitsValue (List.replicate n '0') = 0 := by
  simp [digitsValue]

@[simp] theorem digitsValue_toDigits (n : Nat) : digitsValue (Nat.toDigits 10 n) = n :=
  Nat.ofDigitChars_ten_toDigits

theorem isDigits_toDigits (n : Nat) : IsDigits (Nat.toDigits 10 n) :=
  fun _ => Nat.isDigit_of_mem_toDigits (by decide) (by decide)

/-- An integer, its sign in front where it is a minus. -/
def intText (n : Int) : List Char :=
  (if n < 0 then ['-'] else []) ++ Nat.toDigits 10 n.natAbs

theorem mem_intText {n : Int} {c : Char} (h : c ∈ intText n) : c = '-' ∨ c.isDigit = true := by
  rcases List.mem_append.mp h with hsign | hdigit
  · split at hsign
    · exact .inl (List.mem_singleton.mp hsign)
    · cases hsign
  · exact .inr (isDigits_toDigits _ c hdigit)

theorem intText_injective : Function.Injective intText := by
  intro a b h
  have habs (hdigits : Nat.toDigits 10 a.natAbs = Nat.toDigits 10 b.natAbs) :
      a.natAbs = b.natAbs := by
    rw [← digitsValue_toDigits a.natAbs, hdigits, digitsValue_toDigits]
  have hminus (n : Nat) : '-' ∉ Nat.toDigits 10 n := fun hmem =>
    absurd (isDigits_toDigits n _ hmem) (by decide)
  unfold intText at h
  by_cases ha : a < 0 <;> by_cases hb : b < 0
  · rw [if_pos ha, if_pos hb] at h
    have := habs (List.append_cancel_left h)
    omega
  · rw [if_pos ha, if_neg hb] at h
    have hmem : '-' ∈ ['-'] ++ Nat.toDigits 10 a.natAbs := List.mem_cons_self ..
    rw [h] at hmem
    exact absurd hmem (hminus b.natAbs)
  · rw [if_neg ha, if_pos hb] at h
    have hmem : '-' ∈ ['-'] ++ Nat.toDigits 10 b.natAbs := List.mem_cons_self ..
    rw [← h] at hmem
    exact absurd hmem (hminus a.natAbs)
  · rw [if_neg ha, if_neg hb] at h
    have := habs (List.append_cancel_left h)
    omega

theorem IsDigits.append {a b : List Char} (ha : IsDigits a) (hb : IsDigits b) : IsDigits (a ++ b) :=
  fun c hc => (List.mem_append.mp hc).elim (ha c) (hb c)

theorem isDigits_replicate_zero (n : Nat) : IsDigits (List.replicate n '0') := by
  intro c hc
  rw [List.eq_of_mem_replicate hc]
  rfl

theorem digitValue_lt {c : Char} (h : c.isDigit = true) : digitValue c < 10 := by
  have hle : c.toNat ≤ 57 := (Char.isDigit_iff_toNat.mp h).2
  have hzero : '0'.toNat = 48 := rfl
  unfold digitValue
  omega

theorem digitsValue_lt {cs : List Char} (h : IsDigits cs) : digitsValue cs < 10 ^ cs.length := by
  induction cs with
  | nil => simp
  | cons c cs ih =>
    have hc := digitValue_lt (h c List.mem_cons_self)
    have hcs := ih fun d hd => h d (List.mem_cons_of_mem c hd)
    have hlead := Nat.mul_le_mul_right (10 ^ cs.length) (Nat.le_of_lt_succ hc)
    rw [digitsValue_cons, List.length_cons, pow_succ]
    omega

/-- A number has one quotient and one rest. -/
theorem quotient_rest_inj {m a b c d : Nat} (hb : b < m) (hd : d < m)
    (h : a * m + b = c * m + d) : a = c ∧ b = d := by
  have hm : 0 < m := Nat.zero_lt_of_lt hb
  have ha : (a * m + b) / m = a ∧ (a * m + b) % m = b :=
    (Nat.div_mod_unique hm).mpr ⟨by ring, hb⟩
  have hc : (c * m + d) / m = c ∧ (c * m + d) % m = d :=
    (Nat.div_mod_unique hm).mpr ⟨by ring, hd⟩
  rw [h] at ha
  exact ⟨ha.1.symm.trans hc.1, ha.2.symm.trans hc.2⟩

theorem digitValue_inj {c d : Char} (hc : c.isDigit = true) (hd : d.isDigit = true)
    (h : digitValue c = digitValue d) : c = d := by
  have hc := (Char.isDigit_iff_toNat.mp hc).1
  have hd := (Char.isDigit_iff_toNat.mp hd).1
  unfold digitValue at h
  exact Char.toNat_inj.mp (by omega)

/-- Of two digit strings of one length only one spells a number. -/
theorem digitsValue_inj {a b : List Char} (ha : IsDigits a) (hb : IsDigits b)
    (hlen : a.length = b.length) (h : digitsValue a = digitsValue b) : a = b := by
  induction a generalizing b with
  | nil => exact (List.length_eq_zero_iff.mp hlen.symm).symm
  | cons c a ih =>
    obtain _ | ⟨d, b⟩ := b
    · cases hlen
    · have ha' : IsDigits a := fun x hx => ha x (List.mem_cons_of_mem c hx)
      have hb' : IsDigits b := fun x hx => hb x (List.mem_cons_of_mem d hx)
      have hlen' : a.length = b.length := Nat.succ.inj hlen
      rw [digitsValue_cons, digitsValue_cons, ← hlen'] at h
      obtain ⟨hhead, htail⟩ :=
        quotient_rest_inj (digitsValue_lt ha') (hlen' ▸ digitsValue_lt hb') h
      rw [digitValue_inj (ha c List.mem_cons_self) (hb d List.mem_cons_self) hhead,
        ih ha' hb' hlen' htail]

/-- `n` in decimal digits, with zeros in front up to `k` of them. -/
def padded (k n : Nat) : List Char :=
  List.replicate (k - (Nat.toDigits 10 n).length) '0' ++ Nat.toDigits 10 n

theorem isDigits_padded (k n : Nat) : IsDigits (padded k n) :=
  (isDigits_replicate_zero _).append (isDigits_toDigits n)

@[simp] theorem digitsValue_padded (k n : Nat) : digitsValue (padded k n) = n := by
  rw [padded, digitsValue_append, digitsValue_replicate_zero, digitsValue_toDigits, Nat.zero_mul,
    Nat.zero_add]

theorem length_padded {k n : Nat} (hk : 0 < k) (h : n < 10 ^ k) : (padded k n).length = k := by
  have hle := (Nat.length_toDigits_le_iff (by decide : 1 < 10) hk).mpr h
  rw [padded, List.length_append, List.length_replicate]
  omega

/-! ## Rounding -/

/-- The nearest integer, away from zero where two are equally near. -/
def roundAway (q : ℚ) : ℤ := if q < 0 then -round (-q) else round q

theorem roundAway_of_nonneg {q : ℚ} (h : 0 ≤ q) : roundAway q = round q := if_neg h.not_gt

theorem roundAway_neg (q : ℚ) : roundAway (-q) = -roundAway q := by
  unfold roundAway
  rcases lt_trichotomy q 0 with h | rfl | h
  · rw [if_pos h, if_neg (by linarith)]
    simp
  · simp
  · rw [if_neg h.not_gt, if_pos (by linarith), neg_neg]

@[simp] theorem roundAway_intCast (n : ℤ) : roundAway n = n := by
  rcases le_total 0 n with h | h
  · rw [roundAway_of_nonneg (by exact_mod_cast h), round_intCast]
  · have hneg : roundAway (-((-n : ℤ) : ℚ)) = -(-n) := by
      rw [roundAway_neg, roundAway_of_nonneg (by exact_mod_cast neg_nonneg.mpr h), round_intCast]
    simpa using hneg

/-- The first `k` digits of a fraction, with zeros for those it does not have. -/
def places (k : Nat) (f : List Char) : List Char := (f ++ List.replicate k '0').take k

/-- The digit after the first `k` rounds up. -/
def roundsUp (k : Nat) (f : List Char) : Bool := f[k]?.any fun c => 5 ≤ digitValue c

theorem places_of_length_le {k : Nat} {f : List Char} (h : f.length ≤ k) :
    places k f = f ++ List.replicate (k - f.length) '0' := by
  rw [places, List.take_append, List.take_of_length_le h, List.take_replicate,
    Nat.min_eq_left (Nat.sub_le k f.length)]

theorem places_append {a : List Char} (b : List Char) : places a.length (a ++ b) = a := by
  rw [places, List.append_assoc, List.take_left']
  rfl

/-- The first digit of a fraction decides on which side of a half it lies. -/
theorem half_le_iff_digit {c : Char} {r : List Char} (hc : c.isDigit = true) (hr : IsDigits r) {y : ℚ}
    (hy : y * 10 ^ (r.length + 1) = digitsValue (c :: r)) :
    0 ≤ y ∧ y < 1 ∧ (1 / 2 ≤ y ↔ 5 ≤ digitValue c) := by
  have hten : (0 : ℚ) < 10 ^ (r.length + 1) := by positivity
  have hrest := digitsValue_lt hr
  have hvalue : digitsValue (c :: r) < 10 ^ (r.length + 1) :=
    digitsValue_lt (List.forall_mem_cons.mpr ⟨hc, hr⟩)
  have hfive : 5 * 10 ^ r.length ≤ digitsValue (c :: r) ↔ 5 ≤ digitValue c := by
    rw [digitsValue_cons]
    constructor
    · intro h
      by_contra hlt
      have := Nat.mul_le_mul_right (10 ^ r.length) (by omega : digitValue c ≤ 4)
      omega
    · intro h
      have := Nat.mul_le_mul_right (10 ^ r.length) h
      omega
  refine ⟨?_, ?_, ?_⟩
  · refine nonneg_of_mul_nonneg_left ?_ hten
    rw [hy]
    exact Nat.cast_nonneg _
  · refine lt_of_mul_lt_mul_right ?_ hten.le
    rw [hy, one_mul]
    exact_mod_cast hvalue
  · have hhalf : (1 / 2 : ℚ) * 10 ^ (r.length + 1) = (5 * 10 ^ r.length : ℕ) := by
      push_cast
      ring
    rw [← mul_le_mul_iff_of_pos_right hten, hy, hhalf, Nat.cast_le, hfive]

/-- A fraction with no more than `k` places is not rounded. -/
theorem round_places_of_length_le {k : Nat} (w : Nat) {f : List Char} (h : f.length ≤ k) :
    round (((w : ℚ) + digitsValue f / 10 ^ f.length) * 10 ^ k) =
      w * 10 ^ k + digitsValue (places k f) := by
  have hvalue : digitsValue (places k f) = digitsValue f * 10 ^ (k - f.length) := by
    rw [places_of_length_le h, digitsValue_append, digitsValue_replicate_zero, List.length_replicate,
      Nat.add_zero]
  have hint : ((w : ℚ) + digitsValue f / 10 ^ f.length) * 10 ^ k =
      ((w * 10 ^ k + digitsValue f * 10 ^ (k - f.length) : ℤ) : ℚ) := by
    obtain ⟨m, rfl⟩ := Nat.exists_eq_add_of_le h
    rw [Nat.add_sub_cancel_left]
    push_cast
    rw [pow_add]
    field_simp
  rw [hint, round_intCast, hvalue]
  push_cast
  ring

/-- **One digit decides the rounding.**  A number with the fraction `f`, rounded to `k` places, is
its first `k` places, and one more if the next digit is at least five. -/
theorem round_places (k w : Nat) {f : List Char} (hf : IsDigits f) :
    round (((w : ℚ) + digitsValue f / 10 ^ f.length) * 10 ^ k) =
      w * 10 ^ k + digitsValue (places k f) + if roundsUp k f then 1 else 0 := by
  rcases Nat.lt_or_ge k f.length with hlt | hle
  · obtain ⟨a, c, r, rfl, rfl⟩ : ∃ a c r, f = a ++ c :: r ∧ a.length = k :=
      ⟨f.take k, f[k], f.drop (k + 1), by rw [← List.drop_eq_getElem_cons, List.take_append_drop],
        List.length_take_of_le hlt.le⟩
    -- what is left of the fraction after its first places
    obtain ⟨y, hy⟩ : ∃ y : ℚ, y * 10 ^ (r.length + 1) = digitsValue (c :: r) :=
      ⟨digitsValue (c :: r) / 10 ^ (r.length + 1), div_mul_cancel₀ _ (by positivity)⟩
    obtain ⟨hlow, hhigh, hhalf⟩ :=
      half_le_iff_digit (hf c (by simp)) (fun d hd => hf d (by simp [hd])) hy
    have hup : roundsUp a.length (a ++ c :: r) = decide (1 / 2 ≤ y) := by
      rw [Bool.eq_iff_iff, decide_eq_true_iff, hhalf]
      simp [roundsUp]
    have hsplit : ((w : ℚ) + digitsValue (a ++ c :: r) / 10 ^ (a ++ c :: r).length) * 10 ^ a.length =
        w * 10 ^ a.length + digitsValue a + y := by
      rw [digitsValue_append, List.length_append, List.length_cons]
      push_cast
      rw [← hy]
      field_simp
      ring
    rw [hsplit, places_append, hup, round_eq_iff, Set.mem_Ico]
    by_cases h : 1 / 2 ≤ y
    · simp only [h, decide_true, if_true]
      push_cast
      constructor <;> linarith
    · simp only [h, decide_false, Bool.false_eq_true, if_false]
      push_cast
      constructor <;> linarith
  · have hnone : roundsUp k f = false := by simp [roundsUp, List.getElem?_eq_none hle]
    rw [round_places_of_length_le w hle, hnone]
    simp

/-- Rounding is cutting off below the half. -/
theorem round_eq_floor_iff {z : ℚ} : round z = ⌊z⌋ ↔ Int.fract z < 1 / 2 := by
  have hfract := Int.self_sub_floor z
  have hle := Int.floor_le z
  rw [round_eq, Int.floor_eq_iff]
  constructor
  · rintro ⟨-, h⟩
    linarith
  · intro h
    exact ⟨by linarith, by linarith⟩

/-- The first places of a fraction are what is left when the rest is cut off. -/
theorem digitsValue_places (k : Nat) {f : List Char} (hf : IsDigits f) :
    digitsValue (places k f) = digitsValue f * 10 ^ k / 10 ^ f.length := by
  have hsplit : digitsValue f * 10 ^ k = digitsValue (places k f) * 10 ^ f.length +
      digitsValue ((f ++ List.replicate k '0').drop k) := by
    have hlength : ((f ++ List.replicate k '0').drop k).length = f.length := by simp
    rw [places, ← hlength, ← digitsValue_append, List.take_append_drop, digitsValue_append,
      digitsValue_replicate_zero, List.length_replicate, Nat.add_zero]
  have hlt : digitsValue ((f ++ List.replicate k '0').drop k) < 10 ^ f.length := by
    have hrest : IsDigits ((f ++ List.replicate k '0').drop k) := fun c hc =>
      hf.append (isDigits_replicate_zero k) c (List.mem_of_mem_drop hc)
    simpa using digitsValue_lt hrest
  exact ((Nat.div_mod_unique (by positivity)).mpr ⟨by rw [hsplit]; ring, hlt⟩).1.symm

/-- **Cutting off.**  The digits before the point and the first `k` places are the number in units of
the last of them, rounded down. -/
theorem floor_places (k : Nat) (w : List Char) {f : List Char} (hf : IsDigits f) :
    ⌊(digitsValue (w ++ f) : ℚ) / 10 ^ f.length * 10 ^ k⌋ =
      (digitsValue w * 10 ^ k + digitsValue (places k f) : ℕ) := by
  have hnat : digitsValue w * 10 ^ k + digitsValue (places k f) =
      digitsValue (w ++ f) * 10 ^ k / 10 ^ f.length := by
    rw [digitsValue_places k hf, digitsValue_append, Nat.add_mul, Nat.mul_right_comm,
      Nat.add_comm (_ * _ * _), Nat.add_mul_div_right _ _ (by positivity), Nat.add_comm]
  have hrat : (digitsValue (w ++ f) : ℚ) / 10 ^ f.length * 10 ^ k =
      ((digitsValue (w ++ f) * 10 ^ k : ℕ) : ℚ) / (10 ^ f.length : ℕ) := by
    push_cast
    ring
  rw [hnat, hrat, Rat.floor_natCast_div_natCast, Int.natCast_div]

/-! ## Significant digits -/

/-- The value of the last of `p` significant digits of `q`. -/
def lastDigit (p : Nat) (q : ℚ) : ℚ := 10 ^ (Int.log 10 |q| + 1 - p)

/-- `q` rounded to `p` significant digits. -/
def roundSignificant (p : Nat) (q : ℚ) : ℚ := roundAway (q / lastDigit p q) * lastDigit p q

section Significant
variable {p : Nat} {q : ℚ}

theorem lastDigit_pos (p : Nat) (q : ℚ) : 0 < lastDigit p q := zpow_pos (by norm_num) _

@[simp] theorem roundSignificant_zero (p : Nat) : roundSignificant p 0 = 0 := by
  simp [roundSignificant, roundAway]

theorem roundSignificant_neg (p : Nat) (q : ℚ) : roundSignificant p (-q) = -roundSignificant p q := by
  have hlast : lastDigit p (-q) = lastDigit p q := by simp [lastDigit]
  rw [roundSignificant, roundSignificant, hlast, neg_div, roundAway_neg]
  push_cast
  ring

theorem roundSignificant_nonneg (h : 0 ≤ q) : 0 ≤ roundSignificant p q := by
  have hlast := lastDigit_pos p q
  have hdiv : 0 ≤ q / lastDigit p q := by positivity
  have hround : 0 ≤ round (q / lastDigit p q) := by
    rw [round_eq, Int.floor_nonneg]
    linarith
  rw [roundSignificant, roundAway_of_nonneg hdiv]
  exact mul_nonneg (by exact_mod_cast hround) hlast.le

/-- Moving the point moves the last digit along. -/
theorem lastDigit_div_pow (p k : Nat) (h : q ≠ 0) :
    lastDigit p (q / 10 ^ k) = lastDigit p q / 10 ^ k := by
  have hpos : 0 < |q| := abs_pos.mpr h
  have hlog : Int.log 10 |q / 10 ^ k| = Int.log 10 |q| - k := by
    refine eq_of_forall_le_iff fun z => ?_
    have habs : |q / 10 ^ k| = |q| / 10 ^ k := by
      rw [abs_div, abs_of_pos (by positivity : (0 : ℚ) < 10 ^ k)]
    have hz : ((10 : ℕ) : ℚ) ^ z ≤ |q| / 10 ^ k ↔ ((10 : ℕ) : ℚ) ^ (z + k) ≤ |q| := by
      rw [le_div_iff₀ (by positivity), zpow_add₀ (by norm_num), zpow_natCast]
      norm_num
    rw [habs, ← Int.zpow_le_iff_le_log (by decide) (by positivity), hz,
      Int.zpow_le_iff_le_log (by decide) hpos]
    omega
  rw [lastDigit, lastDigit, hlog, ← zpow_natCast, ← zpow_sub₀ (by norm_num)]
  congr 1
  ring

theorem roundSignificant_div_pow (p k : Nat) (q : ℚ) :
    roundSignificant p (q / 10 ^ k) = roundSignificant p q / 10 ^ k := by
  by_cases h : q = 0
  · simp [h]
  · have hlast := lastDigit_pos p q
    rw [roundSignificant, roundSignificant, lastDigit_div_pow p k h,
      div_div_div_cancel_right₀ (by positivity)]
    ring

/-- A number within a half of `n`, with its last digit at the `m + 1`-st place: it rounds to `n` below
the next half. -/
theorem round_lastPlace {n m : ℕ} (hlow : (n : ℚ) - 1 / 2 ≤ q) (hhigh : q ≤ n + 1 / 2) :
    round ((round (q * 10 ^ (m + 1)) : ℚ) / 10 ^ (m + 1)) =
      if q < n + 1 / 2 - 1 / (2 * 10 ^ (m + 1)) then (n : ℤ) else n + 1 := by
  have hten : (0 : ℚ) < 10 ^ (m + 1) := by positivity
  -- both halves around `n` are whole multiples of the last digit
  have hbelow : (n - 1 / 2 : ℚ) * 10 ^ (m + 1) = (((10 * n - 5) * 10 ^ m : ℤ) : ℚ) := by
    push_cast
    ring
  have habove : (n + 1 / 2 : ℚ) * 10 ^ (m + 1) = (((10 * n + 5) * 10 ^ m : ℤ) : ℚ) := by
    push_cast
    ring
  have hge : (10 * n - 5) * 10 ^ m ≤ round (q * 10 ^ (m + 1)) := by
    have hscaled := mul_le_mul_of_nonneg_right hlow hten.le
    rw [round_eq, Int.le_floor, ← hbelow]
    linarith
  have hle : round (q * 10 ^ (m + 1)) ≤ (10 * n + 5) * 10 ^ m := by
    have hscaled := mul_le_mul_of_nonneg_right hhigh hten.le
    rw [round_eq, ← Int.lt_add_one_iff, Int.floor_lt, Int.cast_add, ← habove]
    push_cast
    linarith
  have hlt : round (q * 10 ^ (m + 1)) < (10 * n + 5) * 10 ^ m ↔
      q < n + 1 / 2 - 1 / (2 * 10 ^ (m + 1)) := by
    have hscaled : (q + 1 / (2 * 10 ^ (m + 1))) * 10 ^ (m + 1) = q * 10 ^ (m + 1) + 1 / 2 := by
      field_simp
    rw [round_eq, Int.floor_lt, ← habove, lt_sub_iff_add_lt, ← hscaled]
    exact mul_lt_mul_iff_of_pos_right hten
  split
  · rename_i h
    have hround := hlt.mpr h
    rw [round_eq_iff, Set.mem_Ico, Int.cast_natCast, le_div_iff₀ hten, div_lt_iff₀ hten, hbelow, habove]
    exact ⟨by exact_mod_cast hge, by exact_mod_cast hround⟩
  · rename_i h
    have hround : round (q * 10 ^ (m + 1)) = (10 * n + 5) * 10 ^ m := by
      have hnot := mt hlt.mp h
      omega
    rw [hround, ← habove, mul_div_cancel_right₀ _ hten.ne', round_eq_iff, Set.mem_Ico]
    push_cast
    constructor <;> linarith

/-- **Where significant digits change a rounding.**  A number within a half of `n`, rounded to more
significant digits than `n` has and then to an integer, is `n` unless it is so close to the next half
that its last digit takes it there. -/
theorem round_roundSignificant {n : ℕ} (hn : 0 < n) (hp : Nat.log 10 n + 2 ≤ p)
    (hlow : (n : ℚ) - 1 / 2 ≤ q) (hhigh : q ≤ n + 1 / 2) :
    roundAway (roundSignificant p q) =
      if q < n + 1 / 2 - 1 / (2 * 10 ^ (p - 1 - Nat.log 10 n)) then (n : ℤ) else n + 1 := by
  have hone : (1 : ℚ) ≤ n := by exact_mod_cast hn
  have hq : 0 < q := by linarith
  have hpow : (n : ℚ) + 1 ≤ 10 ^ (Nat.log 10 n + 1) := by
    exact_mod_cast Nat.lt_pow_succ_log_self (by decide) n
  have hpow' : (10 : ℚ) ^ Nat.log 10 n ≤ n := by exact_mod_cast Nat.pow_log_le_self 10 hn.ne'
  have hlog : Int.log 10 q ≤ Nat.log 10 n := by
    refine Int.lt_add_one_iff.mp ((Int.lt_zpow_iff_log_lt (by decide) hq).mp ?_)
    have hlt : q < 10 ^ (Nat.log 10 n + 1) := by linarith
    exact_mod_cast hlt
  obtain ⟨m, hm⟩ : ∃ m : ℕ, (m : ℤ) = p - 2 - Int.log 10 q := ⟨_, Int.toNat_of_nonneg (by omega)⟩
  have hlast : lastDigit p q = 1 / 10 ^ (m + 1) := by
    rw [lastDigit, abs_of_pos hq, one_div, ← zpow_natCast, ← zpow_neg]
    congr 1
    push_cast
    omega
  have hround : roundAway (roundSignificant p q) =
      round ((round (q * 10 ^ (m + 1)) : ℚ) / 10 ^ (m + 1)) := by
    have hscaled : q / (1 / 10 ^ (m + 1)) = q * 10 ^ (m + 1) := by rw [div_div_eq_mul_div, div_one]
    rw [roundAway_of_nonneg (roundSignificant_nonneg hq.le), roundSignificant, hlast, hscaled,
      roundAway_of_nonneg (by positivity), mul_one_div]
  rw [hround, round_lastPlace hlow hhigh]
  rcases hlog.eq_or_lt with heq | hlt
  · rw [show p - 1 - Nat.log 10 n = m + 1 by omega]
  · -- with fewer digits before the point than `n` the number is below `n`
    have hbelow : q < n := by
      have hself := Int.lt_zpow_succ_log_self (b := 10) (by decide) q
      have hmono : ((10 : ℕ) : ℚ) ^ (Int.log 10 q + 1) ≤ ((10 : ℕ) : ℚ) ^ (Nat.log 10 n : ℤ) :=
        zpow_le_zpow_right₀ (by norm_num) (by omega)
      rw [zpow_natCast] at hmono
      exact (hself.trans_le hmono).trans_le (by exact_mod_cast hpow')
    have hclear : ∀ k : ℕ, q < n + 1 / 2 - 1 / (2 * 10 ^ k) := fun k => by
      have hk : (1 : ℚ) / (2 * 10 ^ k) ≤ 1 / 2 :=
        one_div_le_one_div_of_le (by norm_num)
          (by linarith [one_le_pow₀ (by norm_num : (1 : ℚ) ≤ 10) (n := k)])
      linarith
    rw [if_pos (hclear _), if_pos (hclear _)]

end Significant

/-! ## Plain decimals -/

/-- A decimal number as it is written: perhaps a minus sign, digits, and perhaps a dot with more
digits.  There is a digit on one side of the dot at least. -/
@[ext] structure PlainDecimal where
  negative : Bool
  whole : List Char
  fraction : Option (List Char)
  wholeDigits : IsDigits whole
  fractionDigits : IsDigits (fraction.getD [])
  nonempty : whole ≠ [] ∨ fraction.getD [] ≠ []

namespace PlainDecimal

/-- The digits and the dot. -/
def unsigned (d : PlainDecimal) : List Char := d.whole ++ d.fraction.elim [] ('.' :: ·)

def text (d : PlainDecimal) : String :=
  String.ofList ((if d.negative then ['-'] else []) ++ d.unsigned)

/-- The digits after the dot. -/
def decimals (d : PlainDecimal) : List Char := d.fraction.getD []

theorem isDigits_decimals (d : PlainDecimal) : IsDigits d.decimals := d.fractionDigits

def magnitude (d : PlainDecimal) : ℚ :=
  digitsValue d.whole + digitsValue d.decimals / 10 ^ d.decimals.length

def value (d : PlainDecimal) : ℚ := if d.negative then -d.magnitude else d.magnitude

variable {d e : PlainDecimal} {k : Nat}

theorem magnitude_nonneg (d : PlainDecimal) : 0 ≤ d.magnitude := by
  unfold magnitude
  positivity

theorem unsigned_ne_nil (d : PlainDecimal) : d.unsigned ≠ [] := by
  intro h
  obtain ⟨hwhole, hpoint⟩ := List.append_eq_nil_iff.mp h
  rcases d.nonempty with hne | hne
  · exact hne hwhole
  · cases hf : d.fraction with
    | none => exact hne (by simp [hf])
    | some f => simp [hf] at hpoint

/-- The characters of a plain decimal without its sign. -/
theorem mem_unsigned {c : Char} (h : c ∈ d.unsigned) : c.isDigit = true ∨ c = '.' := by
  rcases List.mem_append.mp h with hc | hc
  · exact Or.inl (d.wholeDigits c hc)
  · cases hf : d.fraction with
    | none => simp [hf] at hc
    | some f =>
      rw [hf, Option.elim_some, List.mem_cons] at hc
      exact hc.symm.imp_left fun hc => d.fractionDigits c (by rwa [hf, Option.getD_some])

/-! ### Reading -/

instance (cs : List Char) : Decidable (IsDigits cs) :=
  List.decidableBAll (fun c : Char => c.isDigit = true) cs

/-- The plain decimal with these parts, if they make one. -/
def ofParts (negative : Bool) (whole : List Char) (fraction : Option (List Char)) :
    Option PlainDecimal :=
  if h : IsDigits whole ∧ IsDigits (fraction.getD []) ∧ (whole ≠ [] ∨ fraction.getD [] ≠ []) then
    some ⟨negative, whole, fraction, h.1, h.2.1, h.2.2⟩
  else none

def ofUnsigned (negative : Bool) (cs : List Char) : Option PlainDecimal :=
  match cs.dropWhile Char.isDigit with
  | [] => ofParts negative (cs.takeWhile Char.isDigit) none
  | c :: f => if c = '.' then ofParts negative (cs.takeWhile Char.isDigit) (some f) else none

def ofText (s : String) : Option PlainDecimal :=
  match s.toList with
  | '-' :: cs => ofUnsigned true cs
  | cs => ofUnsigned false cs

theorem ofParts_eq_some {negative : Bool} {whole : List Char} {fraction : Option (List Char)}
    (h : ofParts negative whole fraction = some d) :
    d.negative = negative ∧ d.whole = whole ∧ d.fraction = fraction := by
  unfold ofParts at h
  split at h
  · cases h
    exact ⟨rfl, rfl, rfl⟩
  · cases h

theorem ofParts_self (d : PlainDecimal) : ofParts d.negative d.whole d.fraction = some d :=
  dif_pos ⟨d.wholeDigits, d.fractionDigits, d.nonempty⟩

theorem ofUnsigned_unsigned (d : PlainDecimal) : ofUnsigned d.negative d.unsigned = some d := by
  have hself := d.ofParts_self
  unfold ofUnsigned unsigned
  rw [List.dropWhile_append_of_pos d.wholeDigits, List.takeWhile_append_of_pos d.wholeDigits]
  cases hf : d.fraction with
  | none => simpa [hf] using hself
  | some f => simpa [hf] using hself

theorem unsigned_of_ofUnsigned {negative : Bool} {cs : List Char}
    (h : ofUnsigned negative cs = some d) : d.negative = negative ∧ d.unsigned = cs := by
  have hsplit := List.takeWhile_append_dropWhile (p := Char.isDigit) (l := cs)
  unfold ofUnsigned at h
  split at h
  · rename_i hdrop
    obtain ⟨hneg, hwhole, hfrac⟩ := ofParts_eq_some h
    refine ⟨hneg, ?_⟩
    rw [hdrop] at hsplit
    rw [unsigned, hwhole, hfrac]
    exact hsplit
  · rename_i c f hdrop
    split at h
    · rename_i hc
      obtain ⟨hneg, hwhole, hfrac⟩ := ofParts_eq_some h
      refine ⟨hneg, ?_⟩
      rw [hdrop, hc] at hsplit
      rw [unsigned, hwhole, hfrac]
      exact hsplit
    · cases h

theorem head?_unsigned_ne_minus (d : PlainDecimal) : d.unsigned.head? ≠ some '-' := by
  intro h
  rcases mem_unsigned (List.mem_of_head? h) with hc | hc
  · cases hc
  · cases hc

/-- **Reading and writing** a plain decimal undo each other. -/
theorem ofText_eq_some {s : String} : ofText s = some d ↔ d.text = s := by
  constructor
  · intro h
    unfold ofText at h
    split at h
    · rename_i cs hs
      obtain ⟨hneg, hcs⟩ := unsigned_of_ofUnsigned h
      rw [text, hneg, hcs, if_pos rfl, List.singleton_append, ← hs, String.ofList_toList]
    · obtain ⟨hneg, hcs⟩ := unsigned_of_ofUnsigned h
      rw [text, hneg, hcs, if_neg Bool.false_ne_true, List.nil_append, String.ofList_toList]
  · rintro rfl
    have hread := d.ofUnsigned_unsigned
    have hhead := d.head?_unsigned_ne_minus
    unfold ofText text
    rw [String.toList_ofList]
    cases hneg : d.negative with
    | true => rwa [hneg] at hread
    | false =>
      rw [hneg] at hread
      rw [if_neg Bool.false_ne_true, List.nil_append]
      split
      · rename_i cs hcs
        rw [hcs] at hhead
        exact absurd rfl hhead
      · exact hread

/-- A plain decimal rounded to `k` places, counted in units of the last. -/
theorem roundAway_value (d : PlainDecimal) (k : Nat) :
    roundAway (d.value * 10 ^ k) =
      (if d.negative then -1 else 1) * ((digitsValue d.whole * 10 ^ k +
        digitsValue (places k d.decimals) + if roundsUp k d.decimals then 1 else 0 : Nat) : ℤ) := by
  have hround : roundAway (d.magnitude * 10 ^ k) = ((digitsValue d.whole * 10 ^ k +
      digitsValue (places k d.decimals) + if roundsUp k d.decimals then 1 else 0 : Nat) : ℤ) := by
    rw [roundAway_of_nonneg (mul_nonneg d.magnitude_nonneg (by positivity)), magnitude,
      round_places k _ d.isDigits_decimals]
    push_cast
    rfl
  unfold value
  split
  · rw [neg_mul, roundAway_neg, hround, neg_one_mul]
  · rw [hround, one_mul]

/-! ### With a number of places -/

/-- Written with exactly `k` places, without zeros in front, and with a sign only below zero. -/
structure WithPlaces (k : Nat) (d : PlainDecimal) : Prop where
  whole : d.whole = Nat.toDigits 10 (digitsValue d.whole)
  fraction : ∃ f, d.fraction = some f ∧ f.length = k
  sign : d.negative = true → d.value < 0

theorem negative_iff (h : WithPlaces k d) : d.negative = true ↔ d.value < 0 := by
  refine ⟨h.sign, fun hlt => ?_⟩
  by_contra hpos
  rw [value, if_neg hpos] at hlt
  exact absurd d.magnitude_nonneg hlt.not_ge

/-- **One spelling.**  With `k` places there is one way to write a number. -/
theorem eq_of_value (hd : WithPlaces k d) (he : WithPlaces k e) (h : d.value = e.value) : d = e := by
  have hneg : d.negative = e.negative := by
    rw [Bool.eq_iff_iff, negative_iff hd, negative_iff he, h]
  have hmag : d.magnitude = e.magnitude := by
    unfold value at h
    rw [hneg] at h
    split at h
    · exact neg_injective h
    · exact h
  obtain ⟨f, hf, hlen⟩ := hd.fraction
  obtain ⟨g, hg, hlen'⟩ := he.fraction
  have hfd : IsDigits f := by simpa [hf] using d.fractionDigits
  have hgd : IsDigits g := by simpa [hg] using e.fractionDigits
  have hunits : digitsValue d.whole * 10 ^ k + digitsValue f =
      digitsValue e.whole * 10 ^ k + digitsValue g := by
    simp only [magnitude, decimals, hf, hg, Option.getD_some, hlen, hlen'] at hmag
    have hk : (10 : ℚ) ^ k ≠ 0 := by positivity
    field_simp at hmag
    rw [Nat.mul_comm (digitsValue e.whole)]
    exact_mod_cast hmag
  have hlt : digitsValue f < 10 ^ k := hlen ▸ digitsValue_lt hfd
  have hlt' : digitsValue g < 10 ^ k := hlen' ▸ digitsValue_lt hgd
  obtain ⟨hwhole, hfraction⟩ := quotient_rest_inj hlt hlt' hunits
  have hfrac : f = g := digitsValue_inj hfd hgd (hlen.trans hlen'.symm) hfraction
  refine PlainDecimal.ext hneg ?_ (by rw [hf, hg, hfrac])
  rw [hd.whole, he.whole, hwhole]

/-- `n` units of the `k`-th place. -/
def ofUnits (k : Nat) (n : ℤ) : PlainDecimal where
  negative := n < 0
  whole := Nat.toDigits 10 (n.natAbs / 10 ^ k)
  fraction := some (padded k (n.natAbs % 10 ^ k))
  wholeDigits := isDigits_toDigits _
  fractionDigits := isDigits_padded _ _
  nonempty := Or.inl Nat.toDigits_ne_nil

theorem ofUnits_value (hk : 0 < k) (n : ℤ) : (ofUnits k n).value = n / 10 ^ k := by
  have hmod := Nat.mod_lt n.natAbs (Nat.pow_pos (by decide : 0 < 10) : 0 < 10 ^ k)
  have hunits : ((n.natAbs / 10 ^ k : ℕ) : ℚ) * 10 ^ k + (n.natAbs % 10 ^ k : ℕ) = n.natAbs := by
    exact_mod_cast Nat.div_add_mod' n.natAbs (10 ^ k)
  have hmag : (ofUnits k n).magnitude = n.natAbs / 10 ^ k := by
    simp only [magnitude, decimals, ofUnits, Option.getD_some, digitsValue_toDigits, digitsValue_padded,
      length_padded hk hmod]
    rw [← hunits]
    field_simp
  unfold value
  rw [hmag]
  by_cases h : n < 0
  · have habs : (n.natAbs : ℚ) = -n := by rw [Nat.cast_natAbs, abs_of_neg h, Int.cast_neg]
    simp only [ofUnits, h, decide_true, if_true, habs]
    ring
  · have habs : (n.natAbs : ℚ) = n := by rw [Nat.cast_natAbs, abs_of_nonneg (not_lt.mp h)]
    simp only [ofUnits, h, decide_false, Bool.false_eq_true, if_false, habs]

theorem ofUnits_withPlaces (hk : 0 < k) (n : ℤ) : WithPlaces k (ofUnits k n) where
  whole := by simp [ofUnits]
  fraction := ⟨_, rfl, length_padded hk (Nat.mod_lt _ (Nat.pow_pos (by decide)))⟩
  sign h := by
    rw [ofUnits_value hk]
    have hn : (n : ℚ) < 0 := by exact_mod_cast of_decide_eq_true h
    exact div_neg_of_neg_of_pos hn (by positivity)

end PlainDecimal

/-! ## Zeros at the end -/

theorem rdropWhile_append {α : Type} (p : α → Bool) (a b : List α) :
    (a ++ b).rdropWhile p = if b.rdropWhile p = [] then a.rdropWhile p else a ++ b.rdropWhile p := by
  unfold List.rdropWhile
  rw [List.reverse_append, List.dropWhile_append]
  by_cases h : b.reverse.dropWhile p = [] <;> simp [h]

/-- The digits without the zeros behind them. -/
def significant (f : List Char) : List Char := f.rdropWhile (· = '0')

theorem IsDigits.significant {f : List Char} (h : IsDigits f) : IsDigits (significant f) :=
  fun c hc => h c ((List.rdropWhile_prefix _ _).subset hc)

theorem digitsValue_significant (f : List Char) :
    (digitsValue f : ℚ) / 10 ^ f.length =
      digitsValue (significant f) / 10 ^ (significant f).length := by
  have hsplit := List.rdropWhile_append_rtakeWhile (p := fun c : Char => decide (c = '0')) (l := f)
  have hzeros : f.rtakeWhile (· = '0') = List.replicate (f.rtakeWhile (· = '0')).length '0' :=
    List.eq_replicate_of_mem fun c hc => by simpa using List.mem_rtakeWhile_imp hc
  have hvalue : digitsValue f =
      digitsValue (significant f) * 10 ^ (f.rtakeWhile (· = '0')).length := by
    conv_lhs => rw [← hsplit, digitsValue_append, hzeros, digitsValue_replicate_zero]
    simp [significant]
  have hlength : f.length = (significant f).length + (f.rtakeWhile (· = '0')).length := by
    conv_lhs => rw [← hsplit, List.length_append]
    rfl
  rw [hvalue, hlength, pow_add]
  push_cast
  field_simp

namespace PlainDecimal
variable (d : PlainDecimal)

/-- The same number without zeros at its end, and without a dot if nothing is left behind it. -/
def shortest (h : d.whole ≠ []) : PlainDecimal where
  negative := d.negative
  whole := d.whole
  fraction := if significant d.decimals = [] then none else some (significant d.decimals)
  wholeDigits := d.wholeDigits
  fractionDigits := by
    split
    · exact fun c hc => by cases hc
    · exact d.isDigits_decimals.significant
  nonempty := Or.inl h

theorem shortest_value (h : d.whole ≠ []) : (d.shortest h).value = d.value := by
  have hmagnitude : (d.shortest h).magnitude = d.magnitude := by
    have hdecimals : (d.shortest h).decimals = significant d.decimals := by
      change (if significant d.decimals = [] then none else some (significant d.decimals)).getD [] = _
      split
      · rename_i hnone
        rw [hnone]
        rfl
      · rfl
    rw [magnitude, magnitude, digitsValue_significant d.decimals, hdecimals]
    rfl
  rw [value, value, hmagnitude]
  rfl

end PlainDecimal
end Decimals
