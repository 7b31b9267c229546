/-
Shares in whole percent.  The number of items in a share is calculated in four
steps, each of which is rounded: the ratio itself, the number of items, their
product, and the sum of the product and a small summand that is there to make up for
the others.  This file follows the steps as far as the whole part of the result.
-/
import Mathlib.Data.Nat.Cast.Field
import Credence.Proofs.Number.Accuracy
import Credence.Proofs.Number.Count
import Credence.Split

namespace Credence

open Number

namespace Ratios

/-- The small summand, which is nearly `10 ^ (-9)`. -/
def slack : ℚ := value 1e-9

theorem slack_eq : slack = 4835703278458517 * 2 ^ (-82 : Int) := by
  have hunpack : (1e-9 : Float).toModel.unpack =
      .finite .positive 4835703278458517 (-82) (by decide) := by
    rfl
  rw [slack, value, hunpack, toRat, signed, Nat.cast_ofNat]

theorem slack_bounds : 2 ^ (-30 : Int) < slack ∧ slack < 2 ^ (-29 : Int) := by
  rw [slack_eq]
  constructor
  · norm_num
  · norm_num

theorem slack_pos : 0 < slack := (zpow_pos two_pos _).trans slack_bounds.1

/-- The steps to the share `x` of `n` items: the ratio, the number of items, their
product, and the sum. -/
structure Steps (x : ℚ) (n : Nat) (r c p q : ℚ) : Prop where
  ratio : Nearest x r
  count : Nearest n c
  product : Nearest (r * c) p
  sum : Nearest (p + slack) q

namespace Steps

variable {x r c p q : ℚ} {n m : Nat}

/-- The sum is rounded by no more than was added. -/
theorem abs_sum_sub_le (h : Steps x n r c p q) : |q - p| ≤ 2 * slack := by
  have hslack := slack_pos
  have hle := h.sum.le p h.product.representable
  rw [sub_add_cancel_left, abs_neg, abs_of_pos hslack] at hle
  obtain ⟨hlow, hhigh⟩ := abs_le.mp hle
  apply abs_le.mpr
  constructor
  · linarith
  · linarith

/-- What has been reached before the last step is not lost. -/
theorem le_of_le (h : Steps x n r c p q) (hm : m < 2 ^ 53) (hp : m ≤ p) : m ≤ q := by
  have hslack := slack_pos
  exact h.sum.le_of_le (representable_natCast hm) (by linarith)

theorem ratio_nonneg (h : Steps x n r c p q) (hx : 0 ≤ x) : 0 ≤ r :=
  h.ratio.le_of_le representable_zero hx

theorem count_nonneg (h : Steps x n r c p q) : 0 ≤ c :=
  h.count.le_of_le representable_zero (Nat.cast_nonneg n)

theorem product_nonneg (h : Steps x n r c p q) (hx : 0 ≤ x) : 0 ≤ p :=
  h.product.le_of_le representable_zero (mul_nonneg (h.ratio_nonneg hx) h.count_nonneg)

theorem sum_nonneg (h : Steps x n r c p q) (hx : 0 ≤ x) : 0 ≤ q := by
  have hp := h.product_nonneg hx
  rw [← Nat.cast_zero] at hp ⊢
  exact h.le_of_le (by decide) hp

/-- All steps together, in units that are small enough for as many items. -/
theorem error_le (h : Steps x n r c p q) (hx : 0 ≤ x) (hx1 : x ≤ 1) {e : Int}
    (he : -1074 ≤ e) (hn : (n : ℚ) ≤ 2 ^ 53 * 2 ^ e) :
    |q - x * n| ≤ 3 / 2 * 2 ^ e + 2 * slack := by
  have hunit : (0 : ℚ) < 2 ^ e := zpow_pos two_pos e
  have hnonneg : (0 : ℚ) ≤ n := Nat.cast_nonneg n
  have hr := h.ratio_nonneg hx
  have hr1 := h.ratio.ge_of_ge representable_one hx1
  have hfull : Representable (2 ^ 53 * 2 ^ e) := by
    have := representable_units (k := 2 ^ 53) (by decide) he
    push_cast at this
    exact this
  have hc := h.count_nonneg
  have hc1 : c ≤ 2 ^ 53 * 2 ^ e := h.count.ge_of_ge hfull hn
  have hratio := h.ratio.abs_sub_le_of_le_one hx hx1
  have hcount : |c - n| ≤ 2 ^ e / 2 :=
    h.count.abs_sub_le he (by rwa [abs_of_nonneg hnonneg])
  have hproduct : |p - r * c| ≤ 2 ^ e / 2 := by
    apply h.product.abs_sub_le he
    rw [abs_of_nonneg (mul_nonneg hr hc)]
    exact (mul_le_of_le_one_left hc hr1).trans hc1
  have hratio' : |r * n - x * n| ≤ 2 ^ e / 2 := by
    rw [← sub_mul, abs_mul, abs_of_nonneg hnonneg]
    calc |r - x| * n ≤ 2 ^ (-53 : Int) / 2 * (2 ^ 53 * 2 ^ e) :=
          mul_le_mul hratio hn hnonneg (by positivity)
      _ = 2 ^ e / 2 := by
          norm_num
          ring
  have hcount' : |r * c - r * n| ≤ 2 ^ e / 2 := by
    rw [← mul_sub, abs_mul, abs_of_nonneg hr]
    exact (mul_le_of_le_one_left (abs_nonneg _) hr1).trans hcount
  have hsum := h.abs_sum_sub_le
  calc |q - x * n| ≤ |q - p| + |p - x * n| := abs_sub_le q p (x * n)
    _ ≤ |q - p| + (|p - r * c| + |r * c - x * n|) := by
        linarith [abs_sub_le p (r * c) (x * n)]
    _ ≤ |q - p| + (|p - r * c| + (|r * c - r * n| + |r * n - x * n|)) := by
        linarith [abs_sub_le (r * c) (r * n) (x * n)]
    _ ≤ 3 / 2 * 2 ^ e + 2 * slack := by linarith

/-- The small summand is too small to reach a large count again. -/
theorem lt_of_lt (h : Steps x n r c p q) (hlarge : 2 ^ 24 < m) (hm : m < 2 ^ 52)
    (hp : p < m) : q < m := by
  obtain ⟨e, -, hlow, hhigh⟩ := exists_unit (n := m) (by omega)
  obtain ⟨k, hvalue, hk, -⟩ := exists_eq_units hlow hhigh hm
  have hlarge' : (16777216 : ℚ) < m := by exact_mod_cast hlarge
  have hunit : (2 : ℚ) ^ (-29 : Int) < 2 ^ e := by
    norm_num at hhigh ⊢
    linarith
  have hslack : 2 * slack < 2 ^ e := by
    have he : -28 ≤ e := (zpow_lt_zpow_iff_right₀ one_lt_two).mp hunit
    calc 2 * slack < 2 * 2 ^ (-29 : Int) := mul_lt_mul_of_pos_left slack_bounds.2 two_pos
      _ = 2 ^ (-28 : Int) := by norm_num
      _ ≤ 2 ^ e := zpow_le_zpow_right₀ one_le_two he
  rw [hvalue] at hp ⊢
  have hbelow := h.product.representable.le_sub_unit hk hp
  have hsum := (abs_le.mp h.abs_sum_sub_le).2
  linarith

/-- It is large enough to reach a small count again. -/
theorem le_of_small (h : Steps x n r n p q) (hx : 2 ^ (-1022 : Int) ≤ x)
    (hshare : x * n = m) (hm : 0 < m) (hsmall : m ≤ 2 ^ 24) : m ≤ q := by
  by_contra hq
  have hp : p < m := not_le.mp fun hp => hq (h.le_of_le (by omega) hp)
  obtain ⟨e, he, hlow, hhigh⟩ := exists_unit hm
  obtain ⟨k, hvalue, hk, hk'⟩ := exists_eq_units hlow hhigh (by omega)
  have hsmall' : (m : ℚ) ≤ 16777216 := by exact_mod_cast hsmall
  have hunit : (2 : ℚ) ^ e < 2 ^ (-28 : Int) := by
    norm_num at hlow ⊢
    linarith
  have hslack : 2 ^ e / 2 < slack := by
    have he' : e ≤ -29 :=
      Int.le_of_lt_add_one ((zpow_lt_zpow_iff_right₀ one_lt_two).mp hunit)
    calc (2 : ℚ) ^ e / 2 ≤ 2 ^ (-29 : Int) / 2 :=
          div_le_div_of_nonneg_right (zpow_le_zpow_right₀ one_le_two he') two_pos.le
      _ = 2 ^ (-30 : Int) := by norm_num
      _ < slack := slack_bounds.1
  -- the product misses the count by one unit at most
  have hratio : m - 2 ^ e ≤ r * n := by
    have hclose := (abs_le.mp (h.ratio.abs_sub_le_mul hx)).1
    have hle : (m : ℚ) / 2 ^ 53 ≤ 2 ^ e := by
      rw [div_le_iff₀ (by positivity), mul_comm]
      exact hhigh
    calc (m : ℚ) - 2 ^ e ≤ m - m / 2 ^ 53 := by linarith
      _ = (x - x / 2 ^ 53) * n := by rw [← hshare]; ring
      _ ≤ r * n := mul_le_mul_of_nonneg_right (by linarith) (Nat.cast_nonneg n)
  have hprevious : Representable (m - 2 ^ e) := by
    have hunits : (m : ℚ) - 2 ^ e = (k - 1 : Int) * 2 ^ e := by
      rw [hvalue]
      push_cast
      ring
    rw [hunits]
    exact representable_units (abs_le.mpr ⟨by omega, by omega⟩) (by omega)
  have hproduct := h.product.le_of_le hprevious hratio
  -- so the sum is nearer to the count than to anything below
  have hbelow : q ≤ m - 2 ^ e := by
    rw [hvalue] at hq ⊢
    exact h.sum.representable.le_sub_unit hk (not_le.mp hq)
  have hnearer := h.sum.le m (representable_natCast (by omega))
  have hreach : p + slack ≤ m := by
    by_contra hnot
    exact hq (h.sum.le_of_le (representable_natCast (by omega)) (not_le.mp hnot).le)
  rw [abs_of_nonpos (by linarith), abs_of_nonneg (by linarith)] at hnearer
  linarith

/-- A count is missed just if it is large and the product is below. -/
theorem lt_iff (h : Steps x n r n p q) (hx : 0 ≤ x) (hx' : 0 < x → 1 / 100 ≤ x)
    (hshare : x * n = m) (hm : m < 2 ^ 52) : q < m ↔ 2 ^ 24 < m ∧ p < m := by
  have hp := h.product_nonneg hx
  constructor
  · intro hq
    have hbelow : p < m := not_le.mp fun hp => hq.not_ge (h.le_of_le (by omega) hp)
    have hpos : 0 < m := by exact_mod_cast hp.trans_lt hbelow
    refine ⟨?_, hbelow⟩
    by_contra hsmall
    have hxpos : 0 < x := by
      apply hx.lt_of_ne
      rintro rfl
      rw [zero_mul] at hshare
      exact hpos.ne (by exact_mod_cast hshare)
    have hmin : (2 : ℚ) ^ (-1022 : Int) ≤ x := by
      calc (2 : ℚ) ^ (-1022 : Int) ≤ 2 ^ (-7 : Int) :=
            zpow_le_zpow_right₀ one_le_two (by decide)
        _ ≤ 1 / 100 := by norm_num
        _ ≤ x := hx' hxpos
    exact hq.not_ge (h.le_of_small hmin hshare hpos (by omega))
  · rintro ⟨hlarge, hbelow⟩
    exact h.lt_of_lt hlarge hm hbelow

end Steps

/-- The whole part of what is nearly a number of hundredths. -/
theorem floor_eq_of_near {q : ℚ} {k : Nat} (h : |q - k / 100| < 1 / 100) :
    ⌊q⌋₊ = if 100 ∣ k ∧ q < (k / 100 : Nat) then k / 100 - 1 else k / 100 := by
  obtain ⟨hlow, hhigh⟩ := abs_lt.mp h
  have hk : (k : ℚ) = 100 * (k / 100 : Nat) + (k % 100 : Nat) := by
    exact_mod_cast (Nat.div_add_mod k 100).symm
  have hrest : ((k % 100 : Nat) : ℚ) ≤ 99 := by
    exact_mod_cast Nat.le_of_lt_succ (Nat.mod_lt k (by decide))
  split
  · next hlost =>
      obtain ⟨hdvd, hbelow⟩ := hlost
      rw [Nat.mod_eq_zero_of_dvd hdvd, Nat.cast_zero, add_zero] at hk
      rcases Nat.eq_zero_or_pos (k / 100) with hzero | hpos
      · rw [hzero, Nat.cast_zero] at hbelow
        rw [hzero, Nat.floor_of_nonpos hbelow.le]
      · have hone : (1 : ℚ) ≤ (k / 100 : Nat) := by exact_mod_cast hpos
        rw [Nat.floor_eq_iff (by linarith), Nat.cast_sub hpos, Nat.cast_one]
        constructor
        · linarith
        · linarith
  · next hkept =>
      have hreached : ((k / 100 : Nat) : ℚ) ≤ q := by
        by_cases hdvd : 100 ∣ k
        · exact not_lt.mp fun hbelow => hkept ⟨hdvd, hbelow⟩
        · have hone : (1 : ℚ) ≤ (k % 100 : Nat) := by
            exact_mod_cast Nat.pos_of_ne_zero fun h => hdvd (Nat.dvd_of_mod_eq_zero h)
          linarith
      rw [Nat.floor_eq_iff ((Nat.cast_nonneg _).trans hreached)]
      constructor
      · exact hreached
      · linarith

/-- The ratio is a double nearest to a whole percentage. -/
structure IsPercent (ratio : Float) (a : Nat) : Prop where
  le_hundred : a ≤ 100
  finite : ratio.isFinite = true
  nearest : Nearest (a / 100) (value ratio)

/-- A ratio of so many units that the exact percentage is half of one away at most. -/
theorem isPercent_of_half {ratio : Float} {a m : Nat} {e : Int} {z : ℚ} (ha : a ≤ 100)
    (hfinite : ratio.isFinite = true) (hvalue : value ratio = m * 2 ^ e)
    (he : -1074 ≤ e) (hm : m ≤ 2 ^ 53) (hz : (a : ℚ) / 100 = z * 2 ^ e)
    (hhalf : |(m : ℚ) - z| ≤ 1 / 2) (hfull : 2 ^ 52 ≤ z) : IsPercent ratio a where
  le_hundred := ha
  finite := hfinite
  nearest := by
    rw [hvalue, hz]
    exact nearest_of_half he hhalf hm (Or.inr hfull)

section percent

variable {ratio : Float} {a n : Nat}

theorem IsPercent.bounds (h : IsPercent ratio a) :
    (0 : ℚ) ≤ a / 100 ∧ (a : ℚ) / 100 ≤ 1 := by
  have hle : (a : ℚ) ≤ 100 := by exact_mod_cast h.le_hundred
  exact ⟨by positivity, by linarith⟩

theorem IsPercent.value_bounds (h : IsPercent ratio a) :
    0 ≤ value ratio ∧ value ratio ≤ 1 :=
  ⟨h.nearest.le_of_le representable_zero h.bounds.1,
    h.nearest.ge_of_ge representable_one h.bounds.2⟩

/-- No step leaves the range of doubles. -/
theorem IsPercent.steps (h : IsPercent ratio a) (hn : n ≤ maxCount) :
    (ratio * Float.ofNat n).isFinite = true ∧
      (ratio * Float.ofNat n + 1e-9).isFinite = true ∧
      Steps (a / 100) n (value ratio) (value (Float.ofNat n))
        (value (ratio * Float.ofNat n)) (value (ratio * Float.ofNat n + 1e-9)) := by
  obtain ⟨hr, hr1⟩ := h.value_bounds
  have hword : Representable (2 ^ (64 : Int)) := ⟨1, 64, by decide, by decide, by norm_num⟩
  have hmore : (2 : ℚ) ^ (64 : Int) + 1 ≤ 2 ^ (65 : Int) := by norm_num
  have hcount0 : (0 : ℚ) ≤ n := Nat.cast_nonneg n
  have hcount1 : (n : ℚ) ≤ 2 ^ (64 : Int) := by
    exact_mod_cast hn.trans (by decide : maxCount ≤ 2 ^ 64)
  obtain ⟨hcfinite, hcount⟩ := nearest_value_ofNat (n := n)
    (abs_le_limit hcount0 (by linarith))
  have hc := hcount.le_of_le representable_zero hcount0
  have hc1 := hcount.ge_of_ge hword hcount1
  have hrc := mul_nonneg hr hc
  have hrc1 := (mul_le_of_le_one_left hc hr1).trans hc1
  obtain ⟨hpfinite, hproduct⟩ := nearest_value_mul h.finite hcfinite
    (abs_le_limit hrc (by linarith))
  have hp := hproduct.le_of_le representable_zero hrc
  have hp1 := hproduct.ge_of_ge hword hrc1
  have hslack : value 1e-9 = slack := rfl
  have hslack0 := slack_pos
  have hslack1 : slack ≤ 1 := slack_bounds.2.le.trans (by norm_num)
  rw [← hslack] at hslack0 hslack1
  obtain ⟨hqfinite, hsum⟩ := nearest_value_add_of_abs_le hpfinite (y := 1e-9) (by decide +kernel)
    (abs_le_limit (by linarith) (by linarith))
  exact ⟨hpfinite, hqfinite, h.nearest, hcount, hproduct, hsum⟩

theorem percent_of (a n : Nat) : (a : ℚ) / 100 * n = (a * n : Nat) / 100 := by
  push_cast
  ring

/-- Up to `2 ^ 45` items, all steps together go less than a hundredth of an item
away. -/
theorem IsPercent.near (h : IsPercent ratio a) (hn : n ≤ 2 ^ 45) :
    |value (ratio * Float.ofNat n + 1e-9) - (a * n : Nat) / 100| < 1 / 100 := by
  obtain ⟨hx, hx1⟩ := h.bounds
  obtain ⟨-, -, hsteps⟩ := h.steps (n := n) (hn.trans (by decide))
  have hunits : (n : ℚ) ≤ 2 ^ 53 * 2 ^ (-8 : Int) := by
    have hn' : (n : ℚ) ≤ 2 ^ 45 := by exact_mod_cast hn
    norm_num at hn' ⊢
    exact hn'
  have herror := hsteps.error_le hx hx1 (by decide) hunits
  rw [← percent_of]
  apply herror.trans_lt
  have := slack_bounds.2
  norm_num at this ⊢
  linarith

/-- A share of so many items that the product is rounded below it, and that the small
summand cannot make up for that, is one item short. -/
def lost (ratio : Float) (a n : Nat) : Nat :=
  if 100 ∣ a * n ∧ 2 ^ 24 < a * n / 100
    ∧ ratio * Float.ofNat n < Float.ofNat (a * n / 100) then 1 else 0

theorem floorShare_eq (h : IsPercent ratio a) (hn : n ≤ 2 ^ 45) :
    floorShare ratio n = a * n / 100 - lost ratio a n := by
  obtain ⟨hpfinite, hqfinite, hsteps⟩ := h.steps (n := n) (hn.trans (by decide))
  obtain ⟨-, hcount⟩ := value_ofNat (n := n) (by omega)
  rw [hcount] at hsteps
  have hle : a * n / 100 ≤ 2 ^ 45 := by
    have := Nat.mul_le_mul_right n h.le_hundred
    omega
  obtain ⟨hmfinite, hm⟩ := value_ofNat (n := a * n / 100) (by omega)
  have hnear := h.near hn
  have hlost : (100 ∣ a * n ∧ value (ratio * Float.ofNat n + 1e-9) < (a * n / 100 : Nat)) ↔
      100 ∣ a * n ∧ 2 ^ 24 < a * n / 100
        ∧ ratio * Float.ofNat n < Float.ofNat (a * n / 100) := by
    rw [← value_lt_iff hpfinite hmfinite, hm]
    apply and_congr_right
    intro hdvd
    apply hsteps.lt_iff h.bounds.1 _ _ (by omega)
    · intro hpos
      have hone : 1 ≤ a := by
        by_contra hnot
        rw [Nat.lt_one_iff.mp (not_le.mp hnot)] at hpos
        norm_num at hpos
      have hone' : (1 : ℚ) ≤ a := by exact_mod_cast hone
      linarith
    · rw [percent_of, Nat.cast_div hdvd (by norm_num)]
      rfl
  rw [floorShare, floorCount_eq hqfinite, floor_eq_of_near hnear, lost]
  rw [if_congr hlost rfl rfl]
  split
  · rw [Nat.min_eq_left]
    have : 2 ^ 45 ≤ maxCount := by decide
    omega
  · rw [Nat.min_eq_left]
    · rfl
    · exact hle.trans (by decide)

/-- Units that are small enough for a number of items, but not much smaller. -/
theorem exists_unit_of_items (n : Nat) : ∃ e : Int, -1074 ≤ e ∧ (n : ℚ) ≤ 2 ^ 53 * 2 ^ e
    ∧ 3 / 2 * (2 : ℚ) ^ e ≤ 1 / 2 + n / 2 ^ 51 := by
  rcases Nat.eq_zero_or_pos n with rfl | hn
  · exact ⟨-8, by decide, by norm_num, by norm_num⟩
  · obtain ⟨e, he, hlow, hhigh⟩ := exists_unit hn
    refine ⟨e, by omega, hhigh, ?_⟩
    have hpart : 2 ^ e ≤ (n : ℚ) / 2 ^ 52 := by
      rw [le_div_iff₀ (by positivity)]
      linarith
    calc 3 / 2 * (2 : ℚ) ^ e ≤ 3 / 2 * ((n : ℚ) / 2 ^ 52) :=
          mul_le_mul_of_nonneg_left hpart (by norm_num)
      _ ≤ 1 / 2 + n / 2 ^ 51 := by linarith

/-- Any number of items that a count can be. -/
theorem floorShare_error (h : IsPercent ratio a) (hn : n ≤ maxCount) :
    |(floorShare ratio n : ℚ) - a / 100 * n| ≤ 2 + n / 2 ^ 51 := by
  obtain ⟨hx, hx1⟩ := h.bounds
  obtain ⟨-, hqfinite, hsteps⟩ := h.steps hn
  obtain ⟨e, he, hunits, hunit⟩ := exists_unit_of_items n
  obtain ⟨hlow, hhigh⟩ := abs_le.mp (hsteps.error_le hx hx1 he hunits)
  have hslack : 2 * slack ≤ 1 / 2 := by
    have := slack_bounds.2
    norm_num at this ⊢
    linarith
  have hfloor := Nat.floor_le (hsteps.sum_nonneg hx)
  have hnext := Nat.lt_floor_add_one (value (ratio * Float.ofNat n + 1e-9))
  rw [floorShare, floorCount_eq hqfinite, abs_le]
  rcases le_total ⌊value (ratio * Float.ofNat n + 1e-9)⌋₊ maxCount with hle | hge
  · rw [Nat.min_eq_left hle]
    constructor
    · linarith
    · linarith
  · rw [Nat.min_eq_right hge]
    have hcapped : (maxCount : ℚ) ≤ ⌊value (ratio * Float.ofNat n + 1e-9)⌋₊ := by
      exact_mod_cast hge
    have hwhole : (n : ℚ) ≤ maxCount := by exact_mod_cast hn
    have hpart := mul_le_of_le_one_left (Nat.cast_nonneg (α := ℚ) n) hx1
    have hnonneg : (0 : ℚ) ≤ n / 2 ^ 51 := by positivity
    constructor
    · linarith
    · linarith

end percent

/-- The ratios are doubles nearest to whole percentages, of one hundred at most. -/
structure ArePercent (r : Ratios) (a b : Nat) : Prop where
  le_hundred : a + b ≤ 100
  train : IsPercent r.train a
  validation : IsPercent r.validation b

section sizes

variable {r : Ratios} {a b n : Nat}

theorem ArePercent.total_le (h : ArePercent r a b) (n : Nat) :
    a * n + b * n ≤ 100 * n := by
  rw [← Nat.add_mul]
  exact Nat.mul_le_mul_right n h.le_hundred

theorem IsPercent.shareProblem?_eq_none {ratio : Float} (h : IsPercent ratio a)
    (name : String) : shareProblem? name ratio = none := by
  have hzero : value 0.0 = 0 := rfl
  rw [shareProblem?, if_pos]
  constructor
  · rw [← value_le_iff (by decide +kernel) h.finite, hzero]
    exact h.value_bounds.1
  · rw [← value_le_iff h.finite (by decide +kernel), value_one]
    exact h.value_bounds.2

/-- The largest sum that is accepted. -/
theorem value_limit : value (1.0 + ulpOfOne) = 1 + 2 ^ (-52 : Int) := by
  have hunpack : (1.0 + ulpOfOne).toModel.unpack =
      .finite .positive (2 ^ 52 + 1) (-52) (by decide) := by
    rfl
  rw [value, hunpack, toRat, signed]
  norm_num

/-- The sum of both ratios is not rounded beyond what is accepted. -/
theorem ArePercent.sum_le (h : ArePercent r a b) :
    r.train + r.validation ≤ 1.0 + ulpOfOne := by
  have hpercent : (a : ℚ) + b ≤ 100 := by exact_mod_cast h.le_hundred
  have hratio {ratio : Float} {a : Nat} (hratio : IsPercent ratio a) :
      value ratio ≤ a / 100 + 2 ^ (-53 : Int) / 2 := by
    obtain ⟨hx, hx1⟩ := hratio.bounds
    have herror := (abs_le.mp (hratio.nearest.abs_sub_le_of_le_one hx hx1)).2
    linarith
  have hexact : value r.train + value r.validation ≤ 1 + 2 ^ (-52 : Int) := by
    have htrain := hratio h.train
    have hvalidation := hratio h.validation
    norm_num at htrain hvalidation ⊢
    linarith
  have hnonneg := add_nonneg h.train.value_bounds.1 h.validation.value_bounds.1
  obtain ⟨hfinite, hsum⟩ := nearest_value_add_of_abs_le h.train.finite h.validation.finite
    (abs_le_limit hnonneg (hexact.trans (by norm_num)))
  rw [← value_le_iff hfinite (by decide +kernel), value_limit]
  exact hsum.ge_of_ge ⟨2 ^ 52 + 1, -52, by decide, by decide, by norm_num⟩ hexact

theorem ArePercent.problem?_eq_none (h : ArePercent r a b) : r.problem? = none := by
  have hsum : ¬ r.train + r.validation > 1.0 + ulpOfOne :=
    fun hgt => Number.not_le_of_lt hgt h.sum_le
  rw [problem?, h.train.shareProblem?_eq_none, h.validation.shareProblem?_eq_none,
    if_neg hsum]
  rfl

theorem ArePercent.sizes_eq (h : ArePercent r a b) (hn : n ≤ 2 ^ 45) :
    r.sizes n =
      let train := a * n / 100 - lost r.train a n
      let validation := b * n / 100 - lost r.validation b n
      ⟨train, validation, n - train - validation⟩ := by
  have htotal := h.total_le n
  rw [sizes, floorShare_eq h.train hn, floorShare_eq h.validation hn,
    Nat.min_eq_left (by omega)]
  dsimp only
  rw [Nat.min_eq_left (by omega)]

theorem lost_eq_zero {ratio : Float} (h : a * n / 100 ≤ 2 ^ 24) :
    lost ratio a n = 0 :=
  if_neg fun hlost => hlost.2.1.not_ge h

/-- Up to `2 ^ 24` items, about sixteen million, no item is lost. -/
theorem ArePercent.sizes_eq_of_le (h : ArePercent r a b) (hn : n ≤ 2 ^ 24) :
    r.sizes n =
      ⟨a * n / 100, b * n / 100, n - a * n / 100 - b * n / 100⟩ := by
  have htotal := h.total_le n
  rw [h.sizes_eq (hn.trans (by decide)), lost_eq_zero (by omega), lost_eq_zero (by omega)]
  rfl

/-- For all numbers of items that a count can be, the sizes are close to the shares. -/
theorem ArePercent.sizes_error (h : ArePercent r a b) (hn : n ≤ maxCount) :
    |((r.sizes n).train : ℚ) - a / 100 * n| ≤ 2 + n / 2 ^ 51
      ∧ |((r.sizes n).validation : ℚ) - b / 100 * n| ≤ 2 + n / 2 ^ 51 := by
  obtain ⟨htrain, htrain'⟩ := abs_le.mp (floorShare_error h.train hn)
  obtain ⟨hvalidation, hvalidation'⟩ := abs_le.mp (floorShare_error h.validation hn)
  have hpercent : (a : ℚ) / 100 * n + b / 100 * n ≤ n := by
    have hle : (a : ℚ) + b ≤ 100 := by exact_mod_cast h.le_hundred
    have := mul_le_mul_of_nonneg_right hle (Nat.cast_nonneg (α := ℚ) n)
    linarith
  have ha : (0 : ℚ) ≤ a / 100 * n := by positivity
  have hb : (0 : ℚ) ≤ b / 100 * n := by positivity
  have herror : (0 : ℚ) ≤ n / 2 ^ 51 := by positivity
  have htrainSize : ((r.sizes n).train : ℚ) = min (floorShare r.train n : ℚ) n := by
    rw [sizes]
    exact Nat.cast_min _ _
  have hvalidationSize : ((r.sizes n).validation : ℚ) =
      min (floorShare r.validation n : ℚ) (n - (r.sizes n).train) := by
    rw [sizes]
    dsimp only
    rw [Nat.cast_min, Nat.cast_sub (Nat.min_le_right _ _)]
  have htrainBounds : a / 100 * n - (2 + n / 2 ^ 51) ≤ ((r.sizes n).train : ℚ)
      ∧ ((r.sizes n).train : ℚ) ≤ a / 100 * n + (2 + n / 2 ^ 51) := by
    rw [htrainSize, le_min_iff]
    refine ⟨⟨by linarith, by linarith⟩, (min_le_left _ _).trans (by linarith)⟩
  have hvalidationBounds : b / 100 * n - (2 + n / 2 ^ 51) ≤ ((r.sizes n).validation : ℚ)
      ∧ ((r.sizes n).validation : ℚ) ≤ b / 100 * n + (2 + n / 2 ^ 51) := by
    rw [hvalidationSize, le_min_iff]
    refine ⟨⟨by linarith, by linarith⟩, (min_le_left _ _).trans (by linarith)⟩
  rw [abs_le, abs_le]
  exact ⟨⟨by linarith, by linarith⟩, by linarith, by linarith⟩

/-- What the sizes are for shares in whole percent.  The ratios are accepted.  No item
is ever gained.  One is lost where the exact share is a whole number above `2 ^ 24` and
the product is rounded below it, so up to `2 ^ 24` items none is.  Beyond `2 ^ 45`
items the sizes are still as close to the shares as doubles are. -/
theorem sizes_percent (h : ArePercent r a b) :
    r.problem? = none
    ∧ (∀ n ≤ 2 ^ 45, r.sizes n =
        let train := a * n / 100 - lost r.train a n
        let validation := b * n / 100 - lost r.validation b n
        ⟨train, validation, n - train - validation⟩)
    ∧ (∀ n ≤ 2 ^ 24, r.sizes n =
        ⟨a * n / 100, b * n / 100, n - a * n / 100 - b * n / 100⟩)
    ∧ ∀ n ≤ maxCount,
        |((r.sizes n).train : ℚ) - a / 100 * n| ≤ 2 + n / 2 ^ 51
          ∧ |((r.sizes n).validation : ℚ) - b / 100 * n| ≤ 2 + n / 2 ^ 51 :=
  ⟨h.problem?_eq_none, fun _ hn => h.sizes_eq hn, fun _ hn => h.sizes_eq_of_le hn,
    fun _ hn => h.sizes_error hn⟩

end sizes

section standard

theorem standard_arePercent : ArePercent standard 70 10 where
  le_hundred := by decide
  train := by
    have hunpack : standard.train.toModel.unpack =
        .finite .positive 6305039478318694 (-53) (by decide) := by
      rfl
    have hvalue : value standard.train = (6305039478318694 : Nat) * 2 ^ (-53 : Int) := by
      rw [value, hunpack]
      rfl
    exact isPercent_of_half (z := 70 / 100 * 2 ^ 53) (by decide) (by decide +kernel) hvalue
      (by decide) (by decide) (by norm_num) (by norm_num [abs_le]) (by norm_num)
  validation := by
    have hunpack : standard.validation.toModel.unpack =
        .finite .positive 7205759403792794 (-56) (by decide) := by
      rfl
    have hvalue : value standard.validation = (7205759403792794 : Nat) * 2 ^ (-56 : Int) := by
      rw [value, hunpack]
      rfl
    exact isPercent_of_half (z := 10 / 100 * 2 ^ 56) (by decide) (by decide +kernel) hvalue
      (by decide) (by decide) (by norm_num) (by norm_num [abs_le]) (by norm_num)

/-- The standard ratios lose an item of forty-two million. -/
theorem sizes_percent_standard :
    standard.problem? = none ∧ standard.sizes 1000 = ⟨700, 100, 200⟩
      ∧ standard.sizes 41943050 = ⟨29360134, 4194305, 8388611⟩ := by
  have hsizes := sizes_percent standard_arePercent
  refine ⟨hsizes.1, (hsizes.2.2.1 1000 (by decide)).trans (by decide), ?_⟩
  exact (hsizes.2.1 41943050 (by decide)).trans (by decide +kernel)

/-- So the sizes are not the whole parts of the exact shares for all numbers of
items. -/
theorem not_whole_parts : ¬ ∀ (r : Ratios) (a b n : Nat), ArePercent r a b →
    r.sizes n = ⟨a * n / 100, b * n / 100, n - a * n / 100 - b * n / 100⟩ := by
  intro hall
  have hsizes := hall standard 70 10 41943050 standard_arePercent
  exact absurd hsizes (by decide +kernel)

end standard

end Ratios

end Credence
