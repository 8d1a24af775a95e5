/-
  What becomes of a length when it is rounded to a binary64 number.

  `Seconds.ofRatio` works with exact naturals up to the last step, the encoding.  The facts below say
  what can be relied on for the quotients that a recording can have:

    * a quotient of positive 64-bit numbers becomes a positive number, neither infinite nor undefined
      (`ofRatio_word`); no quotient at all becomes negative (`ofRatio_sign`);
    * that number is off by at most the `2 ^ 53`rd part of the quotient (`ofRatio_near`);
    * a natural number below `2 ^ 53` becomes exactly itself (`ofNat_ratio`).

  Quotients are compared by cross products, so that no fraction and no negative power of two has to be
  written down: `a` and `b` with `a - b = e` stand for the factor `2 ^ e`, and which of all such pairs
  is taken does not matter (`mul_pow_le_of_shift`).
-/
import CallMedia.Seconds
import Mathlib.Algebra.Group.Nat.Defs

namespace CallMedia

/-- A quotient below a bound is not rounded past it. -/
theorem roundedQuotient_le {num den bound : Nat} (h : num < bound * den) :
    roundedQuotient num den ≤ bound := by
  have hden : 0 < den := Nat.pos_of_ne_zero fun h0 => by simp [h0] at h
  have hq : num / den < bound := (Nat.div_lt_iff_lt_mul hden).2 h
  unfold roundedQuotient
  dsimp only
  generalize num / den = q at hq ⊢
  generalize num % den = rest
  -- whichever way it is rounded, the quotient grows by one at most
  split
  · omega
  · split <;> omega

/-- A quotient above a bound is not rounded past it either. -/
theorem le_roundedQuotient {num den bound : Nat} (hden : 0 < den) (h : bound * den ≤ num) :
    bound ≤ roundedQuotient num den := by
  have hq : bound ≤ num / den := (Nat.le_div_iff_mul_le hden).2 h
  unfold roundedQuotient
  dsimp only
  split
  · exact hq
  · split <;> omega

/-- The rounded quotient is off by half a unit at most. -/
theorem roundedQuotient_near (num : Nat) {den : Nat} (hden : 0 < den) :
    2 * ((roundedQuotient num den * den : Nat) - (num : Int)).natAbs ≤ den := by
  have hdiv : den * (num / den) + num % den = num := Nat.div_add_mod num den
  have hrest : num % den < den := Nat.mod_lt num hden
  unfold roundedQuotient
  dsimp only
  generalize num / den = q at hdiv ⊢
  generalize num % den = rest at hdiv hrest ⊢
  have hdown : (q * den : Nat) - (num : Int) = -rest := by
    rw [Nat.mul_comm]
    omega
  have hup : ((q + 1) * den : Nat) - (num : Int) = den - rest := by
    rw [Nat.mul_comm, Nat.mul_add]
    omega
  split
  · rw [hdown]
    omega
  · split
    · rw [hup]
      omega
    · -- a half goes to the even neighbour, which is as near as the other
      rcases Nat.mod_two_eq_zero_or_one q with heven | hodd
      · rw [heven, Nat.add_zero, hdown]
        omega
      · rw [hodd, hup]
        omega

/-- A number divides by one without rounding. -/
theorem roundedQuotient_one (num : Nat) : roundedQuotient num 1 = num := by
  unfold roundedQuotient
  simp [Nat.mod_one]

namespace Seconds

/-! ## Powers of two

A scale may be negative, and then a power of two divides instead of multiplying.  Here the powers are
moved across an inequality, so that both sides stay natural numbers. -/

/-- Two products that differ by powers of two compare alike, whichever powers express the difference. -/
theorem mul_pow_le_of_shift {x y a b a' b' : Nat} (hshift : a + b' = a' + b)
    (h : x * 2 ^ a' ≤ y * 2 ^ b') : x * 2 ^ a ≤ y * 2 ^ b := by
  refine Nat.le_of_mul_le_mul_right ?_ (Nat.two_pow_pos b')
  -- both sides are brought to the same power before they are compared
  calc x * 2 ^ a * 2 ^ b' = x * 2 ^ a' * 2 ^ b := by
        rw [Nat.mul_assoc, ← Nat.pow_add, hshift, Nat.pow_add, Nat.mul_assoc]
    _ ≤ y * 2 ^ b' * 2 ^ b := Nat.mul_le_mul_right _ h
    _ = y * 2 ^ b * 2 ^ b' := Nat.mul_right_comm y (2 ^ b') (2 ^ b)

/-- The lengths in bits tell a quotient up to a factor of two, on either side. -/
theorem log2_bounds {num den : Nat} (hnum : 0 < num) (hden : 0 < den) {a b : Nat}
    (h : (a : Int) - b = num.log2 - den.log2) :
    num * 2 ^ b < den * 2 ^ (a + 1) ∧ den * 2 ^ a < num * 2 ^ (b + 1) := by
  have hnumlow : 2 ^ num.log2 ≤ num := Nat.log2_self_le (by omega)
  have hnumhigh : num < 2 ^ (num.log2 + 1) := Nat.lt_log2_self
  have hdenlow : 2 ^ den.log2 ≤ den := Nat.log2_self_le (by omega)
  have hdenhigh : den < 2 ^ (den.log2 + 1) := Nat.lt_log2_self
  constructor
  · calc num * 2 ^ b < 2 ^ (num.log2 + 1) * 2 ^ b :=
          Nat.mul_lt_mul_of_pos_right hnumhigh (Nat.two_pow_pos b)
      _ = 2 ^ den.log2 * 2 ^ (a + 1) := by
          rw [← Nat.pow_add, ← Nat.pow_add]
          congr 1
          omega
      _ ≤ den * 2 ^ (a + 1) := Nat.mul_le_mul_right _ hdenlow
  · calc den * 2 ^ a < 2 ^ (den.log2 + 1) * 2 ^ a :=
          Nat.mul_lt_mul_of_pos_right hdenhigh (Nat.two_pow_pos a)
      _ = 2 ^ num.log2 * 2 ^ (b + 1) := by
          rw [← Nat.pow_add, ← Nat.pow_add]
          congr 1
          omega
      _ ≤ num * 2 ^ (b + 1) := Nat.mul_le_mul_right _ hnumlow

/-! ## Scale and significand of a quotient

The encoder computes both in one expression.  Here they have names. -/

/-- The scale at which a quotient is rounded. -/
def roundedScale (num den : Nat) : Int := max (exponent num den - 52) leastScale

/-- The quotient in units of its scale, rounded. -/
def roundedSignificand (num den : Nat) : Nat :=
  if 0 ≤ roundedScale num den then
    roundedQuotient num (den * Nat.pow 2 (roundedScale num den).toNat)
  else roundedQuotient (num * Nat.pow 2 (-roundedScale num den).toNat) den

/-- A positive quotient is encoded from its significand and its scale. -/
theorem ofRatio_of_pos {num den : Nat} (hnum : 0 < num) (hden : 0 < den) :
    ofRatio num den = ⟨encode (roundedSignificand num den) (roundedScale num den)⟩ := by
  unfold ofRatio
  rw [if_neg (by omega)]
  rfl

/-- The exponent is estimated from the lengths of the two numbers in bits. -/
theorem exponent_bounds (num den : Nat) :
    (num.log2 : Int) - den.log2 - 1 ≤ exponent num den ∧
    exponent num den ≤ (num.log2 : Int) - den.log2 := by
  unfold exponent
  dsimp only
  split <;> omega

/-- The exponent is exact: the quotient lies between its power of two and the next. -/
theorem exponent_spec {num den : Nat} (hnum : 0 < num) (hden : 0 < den) {a b : Nat}
    (h : (a : Int) - b = exponent num den) :
    den * 2 ^ a ≤ num * 2 ^ b ∧ num * 2 ^ b < den * 2 ^ (a + 1) := by
  unfold exponent at h
  dsimp only at h
  generalize he : (num.log2 : Int) - den.log2 = e at h
  -- the estimate is compared in whichever of the two forms needs no negative power
  have hreached : (if 0 ≤ e then den * Nat.pow 2 e.toNat ≤ num else den ≤ num * Nat.pow 2 (-e).toNat) ↔
      den * 2 ^ e.toNat ≤ num * 2 ^ (-e).toNat := by
    split
    · case isTrue hpos =>
      rw [show (-e).toNat = 0 from by omega, Nat.pow_zero, Nat.mul_one]
      exact Iff.rfl
    · case isFalse hneg =>
      rw [show e.toNat = 0 from by omega, Nat.pow_zero, Nat.mul_one]
      exact Iff.rfl
  simp only [hreached] at h
  split at h
  · case isTrue hyes =>
    exact ⟨mul_pow_le_of_shift (by omega) hyes, (log2_bounds hnum hden (by omega)).1⟩
  · case isFalse hno =>
    have hlow := (log2_bounds hnum hden (a := a + 1) (b := b) (by omega)).2
    rw [Nat.pow_succ, Nat.pow_succ, ← Nat.mul_assoc, ← Nat.mul_assoc] at hlow
    refine ⟨Nat.le_of_lt (Nat.lt_of_mul_lt_mul_right hlow), Nat.lt_of_not_le fun hle => hno ?_⟩
    exact mul_pow_le_of_shift (by omega) hle

/-- In either form the significand is the quotient of the same two products. -/
theorem roundedSignificand_eq (num den : Nat) :
    roundedSignificand num den =
      roundedQuotient (num * 2 ^ (-roundedScale num den).toNat)
        (den * 2 ^ (roundedScale num den).toNat) := by
  unfold roundedSignificand
  split
  · case isTrue hpos =>
    rw [show (-roundedScale num den).toNat = 0 from by omega, Nat.pow_zero, Nat.mul_one]
    rfl
  · case isFalse hneg =>
    rw [show (roundedScale num den).toNat = 0 from by omega, Nat.pow_zero, Nat.mul_one]
    rfl

/-- The significand has 53 bits, or is the first number with more. -/
theorem roundedSignificand_le {num den : Nat} (hnum : 0 < num) (hden : 0 < den) :
    roundedSignificand num den ≤ 2 ^ 53 := by
  have hscale : exponent num den - 52 ≤ roundedScale num den := Int.le_max_left _ _
  obtain ⟨k, hk⟩ : ∃ k : Nat, roundedScale num den = exponent num den - 52 + k :=
    ⟨(roundedScale num den - (exponent num den - 52)).toNat, by omega⟩
  rw [roundedSignificand_eq]
  generalize ha : (roundedScale num den).toNat = a
  generalize hb : (-roundedScale num den).toNat = b
  have hhigh := (exponent_spec hnum hden (a := a + 52) (b := b + k) (by omega)).2
  apply roundedQuotient_le
  calc num * 2 ^ b ≤ num * 2 ^ (b + k) :=
        Nat.mul_le_mul_left _ (Nat.pow_le_pow_right (by decide) (Nat.le_add_right b k))
    _ < den * 2 ^ (a + 52 + 1) := hhigh
    _ = 2 ^ 53 * (den * 2 ^ a) := by
        rw [Nat.add_assoc, Nat.pow_add, ← Nat.mul_assoc, Nat.mul_comm]

/-- A significand has all 53 bits unless the quotient is too small for its exponent. -/
theorem le_roundedSignificand {num den : Nat} (hnum : 0 < num) (hden : 0 < den)
    (hscale : roundedScale num den = exponent num den - 52) :
    2 ^ 52 ≤ roundedSignificand num den := by
  rw [roundedSignificand_eq]
  generalize ha : (roundedScale num den).toNat = a
  generalize hb : (-roundedScale num den).toNat = b
  have hlow := (exponent_spec hnum hden (a := a + 52) (b := b) (by omega)).1
  apply le_roundedQuotient (Nat.mul_pos hden (Nat.two_pow_pos a))
  calc 2 ^ 52 * (den * 2 ^ a) = den * 2 ^ (a + 52) := by
        rw [Nat.pow_add, Nat.mul_comm, Nat.mul_assoc]
    _ ≤ num * 2 ^ b := hlow

/-! ## Words

What the encoder makes of a significand and a scale, as a number and as a bit pattern. -/

/-- What is encoded is the significand, shifted up to its exponent, or infinity if it is too large. -/
theorem encode_toNat (significand : Nat) (scale : Int) :
    (encode significand scale).toNat =
      min ((scale - leastScale).toNat * 2 ^ 52 + significand) (0x7ff * 2 ^ 52) := by
  unfold encode
  rw [UInt64.toNat_ofNat']
  apply Nat.mod_eq_of_lt
  show min _ (0x7ff * 2 ^ 52) < 2 ^ 64
  omega

/-- No quotient has a sign: the word stays in the lower half. -/
theorem ofRatio_sign (num den : Nat) : (ofRatio num den).bits.toNat < 2 ^ 63 := by
  unfold ofRatio
  split
  · decide
  · show (encode _ _).toNat < 2 ^ 63
    rw [encode_toNat]
    omega

/-- For 64-bit numbers the exponent is far from its least value. -/
theorem roundedScale_eq {num den : Nat} (hnum : 0 < num) (hden : 0 < den) (hnum' : num < 2 ^ 64)
    (hden' : den < 2 ^ 64) : roundedScale num den = exponent num den - 52 := by
  -- the lengths of the two numbers bound the exponent from below
  have hexp := (exponent_bounds num den).1
  have hlog : num.log2 < 64 := (Nat.log2_lt (by omega)).2 hnum'
  have hlog' : den.log2 < 64 := (Nat.log2_lt (by omega)).2 hden'
  exact Int.max_eq_left (by unfold leastScale; omega)

/-- A quotient of positive 64-bit numbers is positive, and neither infinite nor undefined. -/
theorem ofRatio_word {num den : Nat} (hnum : 0 < num) (hden : 0 < den) (hnum' : num < 2 ^ 64)
    (hden' : den < 2 ^ 64) :
    0 < (ofRatio num den).bits.toNat ∧ (ofRatio num den).isFinite = true := by
  have hexp := exponent_bounds num den
  have hlog : num.log2 < 64 := (Nat.log2_lt (by omega)).2 hnum'
  have hlog' : den.log2 < 64 := (Nat.log2_lt (by omega)).2 hden'
  have hscale := roundedScale_eq hnum hden hnum' hden'
  have hsig := roundedSignificand_le hnum hden
  rw [ofRatio_of_pos hnum hden]
  have hword := encode_toNat (roundedSignificand num den) (roundedScale num den)
  rw [hscale] at hword
  unfold leastScale at hword
  refine ⟨?_, ?_⟩
  · show 0 < (encode _ _).toNat
    rw [hscale, hword]
    omega
  · unfold isFinite field
    rw [bne_iff_ne, hscale]
    show (encode _ _).toNat / 2 ^ 52 % 2 ^ 11 ≠ 0x7ff
    rw [hword]
    omega

/-! ## Errors -/

/-- The quotient of a finite number, told from its significand and scale. -/
theorem ratio_spec (x : Seconds) :
    0 < x.ratio.2 ∧
      x.ratio.1 * 2 ^ (-x.scale).toNat = x.significand * 2 ^ x.scale.toNat * x.ratio.2 := by
  unfold ratio
  split
  · case isTrue hpos =>
    rw [show (-x.scale).toNat = 0 from by omega, Nat.pow_zero, Nat.mul_one, Nat.mul_one]
    exact ⟨Nat.one_pos, rfl⟩
  · case isFalse hneg =>
    rw [show x.scale.toNat = 0 from by omega, Nat.pow_zero, Nat.mul_one]
    exact ⟨Nat.two_pow_pos _, rfl⟩

/-- A word denotes the significand and the scale that it was encoded from.  A significand with one bit
    too many has moved on to the next scale. -/
theorem encode_ratio {m : Nat} {t : Int} (hm : 2 ^ 52 ≤ m) (hm' : m ≤ 2 ^ 53) (ht : -1074 ≤ t)
    (ht' : t ≤ 900) :
    0 < (Seconds.mk (encode m t)).ratio.2 ∧
      (Seconds.mk (encode m t)).ratio.1 * 2 ^ (-t).toNat =
        m * 2 ^ t.toNat * (Seconds.mk (encode m t)).ratio.2 := by
  have hword : (encode m t).toNat = (t + 1074).toNat * 2 ^ 52 + m := by
    rw [encode_toNat]
    unfold leastScale
    omega
  generalize hx : Seconds.mk (encode m t) = x
  have hbits : x.bits.toNat = (t + 1074).toNat * 2 ^ 52 + m := by
    rw [← hx]
    exact hword
  obtain ⟨hpos, hspec⟩ := x.ratio_spec
  refine ⟨hpos, ?_⟩
  rcases Nat.lt_or_eq_of_le hm' with hlt | rfl
  · have hfield : x.field = (t + 1075).toNat := by
      show x.bits.toNat / 2 ^ 52 % 2 ^ 11 = _
      rw [hbits]
      omega
    have hscale : x.scale = t := by
      unfold scale
      rw [hfield]
      omega
    have hsig : x.significand = m := by
      unfold significand
      rw [hfield, if_neg (by omega)]
      show x.bits.toNat % 2 ^ 52 + 2 ^ 52 = m
      rw [hbits]
      omega
    rw [hscale, hsig] at hspec
    exact hspec
  · have hfield : x.field = (t + 1076).toNat := by
      show x.bits.toNat / 2 ^ 52 % 2 ^ 11 = _
      rw [hbits]
      omega
    have hscale : x.scale = t + 1 := by
      unfold scale
      rw [hfield]
      omega
    have hsig : x.significand = 2 ^ 52 := by
      unfold significand
      rw [hfield, if_neg (by omega)]
      show x.bits.toNat % 2 ^ 52 + 2 ^ 52 = 2 ^ 52
      rw [hbits]
      omega
    rw [hscale, hsig] at hspec
    by_cases hneg : t < 0
    · rw [show (-t).toNat = (-(t + 1)).toNat + 1 from by omega, Nat.pow_succ, ← Nat.mul_assoc, hspec,
        show (t + 1).toNat = 0 from by omega, show t.toNat = 0 from by omega]
      omega
    · rw [show (-(t + 1)).toNat = 0 from by omega, Nat.pow_zero, Nat.mul_one] at hspec
      rw [show (-t).toNat = 0 from by omega, Nat.pow_zero, Nat.mul_one, hspec,
        show (t + 1).toNat = t.toNat + 1 from by omega, Nat.pow_succ 2 t.toNat, Nat.mul_comm _ 2,
        ← Nat.mul_assoc, ← Nat.pow_succ]

/-- A quotient of positive 64-bit numbers is off by at most its `2 ^ 53`rd part. -/
theorem ofRatio_near {num den : Nat} (hnum : 0 < num) (hden : 0 < den) (hnum' : num < 2 ^ 64)
    (hden' : den < 2 ^ 64) :
    0 < (ofRatio num den).ratio.2 ∧
      2 ^ 53 * (((ofRatio num den).ratio.1 * den : Nat) -
        ((num * (ofRatio num den).ratio.2 : Nat) : Int)).natAbs ≤ num * (ofRatio num den).ratio.2 := by
  have hscale := roundedScale_eq hnum hden hnum' hden'
  have hexp := (exponent_bounds num den).2
  have hlog : num.log2 < 64 := (Nat.log2_lt (by omega)).2 hnum'
  have hleast : -1074 ≤ roundedScale num den := Int.le_max_right _ _
  obtain ⟨hpos, hvalue⟩ := encode_ratio (le_roundedSignificand hnum hden hscale)
    (roundedSignificand_le hnum hden) hleast (by omega)
  rw [ofRatio_of_pos hnum hden]
  generalize Seconds.mk (encode _ _) = x at hpos hvalue ⊢
  refine ⟨hpos, ?_⟩
  rw [roundedSignificand_eq] at hvalue
  generalize ha : (roundedScale num den).toNat = a at hvalue
  generalize hb : (-roundedScale num den).toNat = b at hvalue
  have hlow := (exponent_spec hnum hden (a := a + 52) (b := b) (by omega)).1
  have hnear := roundedQuotient_near (num * 2 ^ b) (Nat.mul_pos hden (Nat.two_pow_pos a))
  generalize roundedQuotient _ _ = m at hvalue hnear
  generalize x.ratio.1 = n at hvalue ⊢
  generalize x.ratio.2 = d at hpos hvalue ⊢
  -- in units of `2 ^ b` the error is that of the quotient of the two products
  have hcross : ((n * den : Nat) - ((num * d : Nat) : Int)).natAbs * 2 ^ b =
      d * ((m * (den * 2 ^ a) : Nat) - ((num * 2 ^ b : Nat) : Int)).natAbs := by
    have hleft : n * den * 2 ^ b = d * (m * (den * 2 ^ a)) := by
      rw [Nat.mul_right_comm, hvalue]
      ac_rfl
    have hright : num * d * 2 ^ b = d * (num * 2 ^ b) := by ac_rfl
    have hint : ((n * den : Nat) - ((num * d : Nat) : Int)) * ((2 ^ b : Nat) : Int) =
        (d : Int) * ((m * (den * 2 ^ a) : Nat) - ((num * 2 ^ b : Nat) : Int)) := by
      rw [Int.sub_mul, Int.mul_sub, ← Int.natCast_mul, ← Int.natCast_mul, ← Int.natCast_mul,
        ← Int.natCast_mul, hleft, hright]
    have habs := congrArg Int.natAbs hint
    rwa [Int.natAbs_mul, Int.natAbs_mul, Int.natAbs_natCast, Int.natAbs_natCast] at habs
  generalize ((n * den : Nat) - ((num * d : Nat) : Int)).natAbs = error at hcross ⊢
  generalize ((m * (den * 2 ^ a) : Nat) - ((num * 2 ^ b : Nat) : Int)).natAbs = rest at hcross hnear
  refine Nat.le_of_mul_le_mul_right ?_ (Nat.two_pow_pos b)
  calc 2 ^ 53 * error * 2 ^ b = d * (2 ^ 52 * (2 * rest)) := by
        rw [Nat.mul_assoc, hcross, ← Nat.mul_assoc (2 ^ 52), ← Nat.pow_succ]
        ac_rfl
    _ ≤ d * (2 ^ 52 * (den * 2 ^ a)) := Nat.mul_le_mul_left _ (Nat.mul_le_mul_left _ hnear)
    _ = d * (den * 2 ^ (a + 52)) := by
        rw [Nat.pow_add]
        ac_rfl
    _ ≤ d * (num * 2 ^ b) := Nat.mul_le_mul_left _ hlow
    _ = num * d * 2 ^ b := by ac_rfl

/-! ## Whole seconds

A natural number is a quotient over one, and nothing of it is rounded away. -/

/-- The exponent of a natural number is its length in bits, less one. -/
theorem exponent_one {n : Nat} (hn : 0 < n) : exponent n 1 = n.log2 := by
  have hlow : 2 ^ n.log2 ≤ n := Nat.log2_self_le (by omega)
  have hlog : Nat.log2 1 = 0 := by decide
  unfold exponent
  dsimp only
  rw [hlog, Int.natCast_zero, Int.sub_zero, Int.toNat_natCast]
  apply if_pos
  rw [if_pos (Int.natCast_nonneg _), Nat.one_mul]
  exact hlow

/-- Its scale leaves room for 53 bits. -/
theorem roundedScale_one {n : Nat} (hn : 0 < n) : roundedScale n 1 = (n.log2 : Int) - 52 := by
  unfold roundedScale leastScale
  rw [exponent_one hn]
  omega

/-- A number of at most 53 bits is shifted to exactly 53, and none is lost. -/
theorem roundedSignificand_one {n : Nat} (hn : 0 < n) (hn' : n < 2 ^ 53) :
    roundedSignificand n 1 = n * 2 ^ (52 - n.log2) := by
  have hlog : n.log2 < 53 := (Nat.log2_lt (by omega)).2 hn'
  unfold roundedSignificand
  rw [roundedScale_one hn]
  split
  · case isTrue hpos =>
    have hshift : ((n.log2 : Int) - 52).toNat = 0 := by omega
    have hshift' : 52 - n.log2 = 0 := by omega
    rw [hshift, hshift']
    show roundedQuotient n 1 = n * 2 ^ 0
    rw [roundedQuotient_one, Nat.pow_zero, Nat.mul_one]
  · case isFalse hneg =>
    have hshift : (-((n.log2 : Int) - 52)).toNat = 52 - n.log2 := by omega
    rw [roundedQuotient_one, hshift]
    rfl

/-- A natural number below `2 ^ 53` is a binary64 number. -/
theorem ofNat_ratio {n : Nat} (hn' : n < 2 ^ 53) :
    0 < (ofNat n).ratio.2 ∧ (ofNat n).ratio.1 = n * (ofNat n).ratio.2 := by
  by_cases h0 : n = 0
  · subst h0
    have hsig : (ofNat 0).significand = 0 := by decide
    unfold ratio
    rw [hsig, Nat.zero_mul]
    generalize (ofNat 0).scale = scale
    split
    · exact ⟨Nat.one_pos, rfl⟩
    · exact ⟨Nat.two_pow_pos _, (Nat.zero_mul _).symm⟩
  have hn : 0 < n := by omega
  have hlog : n.log2 < 53 := (Nat.log2_lt h0).2 hn'
  have hlow : 2 ^ n.log2 * 2 ^ (52 - n.log2) ≤ n * 2 ^ (52 - n.log2) :=
    Nat.mul_le_mul_right _ (Nat.log2_self_le h0)
  have hhigh : n * 2 ^ (52 - n.log2) < 2 ^ (n.log2 + 1) * 2 ^ (52 - n.log2) :=
    Nat.mul_lt_mul_of_pos_right Nat.lt_log2_self (Nat.two_pow_pos _)
  rw [← Nat.pow_add, show n.log2 + (52 - n.log2) = 52 from by omega] at hlow
  rw [← Nat.pow_add, show n.log2 + 1 + (52 - n.log2) = 53 from by omega] at hhigh
  obtain ⟨hpos, hvalue⟩ := encode_ratio (t := (n.log2 : Int) - 52) hlow (Nat.le_of_lt hhigh) (by omega)
    (by omega)
  unfold ofNat
  rw [ofRatio_of_pos hn Nat.one_pos, roundedSignificand_one hn hn', roundedScale_one hn]
  refine ⟨hpos, ?_⟩
  -- the shift that made the significand long enough is undone by the scale
  rw [show (-((n.log2 : Int) - 52)).toNat = 52 - n.log2 from by omega,
    show ((n.log2 : Int) - 52).toNat = 0 from by omega, Nat.pow_zero, Nat.mul_one,
    Nat.mul_right_comm] at hvalue
  exact Nat.eq_of_mul_eq_mul_right (Nat.two_pow_pos _) hvalue

end Seconds

end CallMedia
