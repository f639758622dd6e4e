import Mathlib.Data.List.Induction
import Mathlib.Tactic.IntervalCases
import PaymentOrders.Text.Decimal
/-!
# Numerals and their values

Reading a decimal text of fixed width gives back the number that was written, as long as the
width has room for it. A number padded to a width and the same number written with exactly that
width are one text.
-/

namespace PaymentOrders.Text

theorem lt_of_mem_digits {base width n d : Nat} (hbase : 0 < base)
    (hd : d ∈ digits base width n) : d < base := by
  induction width generalizing n with
  | zero => simp [digits] at hd
  | succ width ih =>
      rw [digits, List.mem_append, List.mem_singleton] at hd
      rcases hd with hd | rfl
      · exact ih hd
      · exact Nat.mod_lt _ hbase

theorem value_digits_of_lt {base width n : Nat} (hn : n < base ^ width) :
    value base (digits base width n) = n := by
  rw [value_digits]
  exact Nat.mod_eq_of_lt hn

theorem value_append (base : Nat) (ds es : List Nat) :
    value base (ds ++ es) = value base ds * base ^ es.length + value base es := by
  induction es using List.reverseRecOn with
  | nil => simp [value]
  | append_singleton es e ih =>
      rw [← List.append_assoc, value_append_singleton, value_append_singleton, ih,
        List.length_append, List.length_singleton, Nat.pow_succ, Nat.add_mul, Nat.mul_assoc,
        Nat.add_assoc]

theorem value_replicate_zero (base count : Nat) :
    value base (List.replicate count 0) = 0 := by
  induction count with
  | zero => rfl
  | succ count ih =>
      rw [List.replicate_succ', value_append_singleton, ih, Nat.zero_mul]

theorem value_cons (base d : Nat) (ds : List Nat) :
    value base (d :: ds) = d * base ^ ds.length + value base ds := by
  have happend := value_append base [d] ds
  rw [List.singleton_append] at happend
  rw [happend]
  simp [value]

theorem value_lt {base : Nat} {ds : List Nat} (hds : ∀ d ∈ ds, d < base) :
    value base ds < base ^ ds.length := by
  induction ds with
  | nil => exact Nat.one_pos
  | cons d ds ih =>
      rw [List.forall_mem_cons] at hds
      rw [value_cons, List.length_cons, Nat.pow_succ']
      calc d * base ^ ds.length + value base ds
          < d * base ^ ds.length + base ^ ds.length := Nat.add_lt_add_left (ih hds.2) _
        _ = (d + 1) * base ^ ds.length := (Nat.succ_mul ..).symm
        _ ≤ base * base ^ ds.length := Nat.mul_le_mul_right _ hds.1

/-- Digits are those of the number that they stand for. -/
theorem digits_value {base : Nat} {ds : List Nat} (hds : ∀ d ∈ ds, d < base) :
    digits base ds.length (value base ds) = ds := by
  induction ds using List.reverseRecOn with
  | nil => rfl
  | append_singleton ds d ih =>
      have hd : d < base := hds d (by simp)
      have hdiv : (value base ds * base + d) / base = value base ds := by
        rw [Nat.mul_comm, Nat.mul_add_div (by omega), Nat.div_eq_of_lt hd, Nat.add_zero]
      have hmod : (value base ds * base + d) % base = d := by
        rw [Nat.mul_comm, Nat.mul_add_mod, Nat.mod_eq_of_lt hd]
      rw [value_append_singleton, List.length_append, List.length_singleton, digits, hdiv, hmod,
        ih fun e he => hds e (by simp [he])]

theorem value_inj {base : Nat} {ds es : List Nat} (hlength : ds.length = es.length)
    (hds : ∀ d ∈ ds, d < base) (hes : ∀ e ∈ es, e < base) :
    value base ds = value base es ↔ ds = es := by
  refine ⟨fun h => ?_, fun h => by rw [h]⟩
  rw [← digits_value hds, h, hlength, digits_value hes]

/-- The first digit of a numeral, and the others, which do not depend on it. -/
theorem digits_succ_eq_cons (base width n : Nat) :
    digits base (width + 1) n = n / base ^ width % base :: digits base width n := by
  induction width generalizing n with
  | zero => rw [Nat.pow_zero, Nat.div_one]; rfl
  | succ width ih =>
      rw [digits, ih, Nat.div_div_eq_div_mul, ← Nat.pow_succ', List.cons_append]
      rfl

/-! ## Decimal digits -/

theorem digitValue_digitChar {d : Nat} (hd : d < 10) : digitValue d.digitChar = d := by
  interval_cases d <;> rfl

theorem isDigit_of_mem_fixedDecimal {width n : Nat} {c : Char}
    (hc : c ∈ fixedDecimal width n) : c.isDigit = true := by
  obtain ⟨d, hd, rfl⟩ := List.mem_map.mp hc
  have hlt := lt_of_mem_digits (by omega) hd
  simpa using hlt

theorem map_digitValue_fixedDecimal (width n : Nat) :
    (fixedDecimal width n).map digitValue = digits 10 width n := by
  rw [fixedDecimal, List.map_map]
  conv_rhs => rw [← List.map_id (digits 10 width n)]
  apply List.map_congr_left
  intro d hd
  exact digitValue_digitChar (lt_of_mem_digits (by omega) hd)

theorem decimalValue_fixedDecimal {width n : Nat} (hn : n < 10 ^ width) :
    decimalValue (fixedDecimal width n) = n := by
  rw [decimalValue, map_digitValue_fixedDecimal, value_digits_of_lt hn]

theorem decimalValue_append (cs ds : List Char) :
    decimalValue (cs ++ ds) = decimalValue cs * 10 ^ ds.length + decimalValue ds := by
  rw [decimalValue, List.map_append, value_append, List.length_map]
  rfl

theorem decimalValue_replicate_zero (count : Nat) :
    decimalValue (List.replicate count '0') = 0 := by
  rw [decimalValue, List.map_replicate]
  exact value_replicate_zero 10 count

theorem decimalValue_toDigits (n : Nat) : decimalValue (Nat.toDigits 10 n) = n := by
  induction n using Nat.strongRecOn with
  | _ n ih =>
      rw [Nat.toDigits_eq_if (by omega)]
      split
      · rename_i hlt
        simp [decimalValue, value, digitValue_digitChar hlt]
      · rw [decimalValue_append, ih (n / 10) (by omega)]
        have hlast : n % 10 < 10 := Nat.mod_lt _ (by omega)
        simp only [decimalValue, value, List.map_cons, List.map_nil, List.foldl_cons,
          List.foldl_nil, digitValue_digitChar hlast, List.length_singleton]
        omega

/-- Padding on the left does not change the number. -/
theorem decimalValue_paddedDecimal (width n : Nat) :
    decimalValue (paddedDecimal width n) = n := by
  rw [paddedDecimal, List.leftpad, decimalValue_append, decimalValue_replicate_zero,
    decimalValue_toDigits, Nat.zero_mul, Nat.zero_add]

theorem isDigit_iff_toNat {c : Char} : c.isDigit = true ↔ 48 ≤ c.toNat ∧ c.toNat ≤ 57 := by
  simp only [Char.isDigit, Bool.and_eq_true, decide_eq_true_eq, ge_iff_le,
    UInt32.le_iff_toNat_le]
  exact Iff.rfl

theorem digitValue_lt (c : Char) : digitValue c < 10 := by
  unfold digitValue
  split
  next hc =>
    have hrange := isDigit_iff_toNat.mp hc
    change c.toNat - 48 < 10
    omega
  next => omega

theorem digitChar_digitValue {c : Char} (hc : c.isDigit = true) :
    Nat.digitChar (digitValue c) = c := by
  obtain ⟨hlow, hhigh⟩ := isDigit_iff_toNat.mp hc
  rw [digitValue, if_pos hc]
  apply Char.toNat_inj.mp
  change (Nat.digitChar (c.toNat - 48)).toNat = c.toNat
  generalize c.toNat = n at hlow hhigh
  interval_cases n <;> rfl

theorem digitValue_inj {c d : Char} (hc : c.isDigit = true) (hd : d.isDigit = true) :
    digitValue c = digitValue d ↔ c = d := by
  refine ⟨fun h => ?_, congrArg digitValue⟩
  rw [← digitChar_digitValue hc, h, digitChar_digitValue hd]

theorem decimalValue_append_singleton (cs : List Char) (c : Char) :
    decimalValue (cs ++ [c]) = decimalValue cs * 10 + digitValue c := by
  rw [decimalValue, List.map_append]
  exact value_append_singleton 10 _ _

theorem decimalValue_lt (cs : List Char) : decimalValue cs < 10 ^ cs.length := by
  have hlt : ∀ d ∈ cs.map digitValue, d < 10 := by
    rw [List.forall_mem_map]
    exact fun c _ => digitValue_lt c
  simpa [decimalValue] using value_lt hlt

/-! ## Padded and fixed width -/

theorem fixedDecimal_succ (width n : Nat) :
    fixedDecimal (width + 1) n = fixedDecimal width (n / 10) ++ [(n % 10).digitChar] := by
  simp [fixedDecimal, digits]

/-- A numeral of fixed width only tells a number modulo the power of the base. -/
theorem fixedDecimal_mod (width n : Nat) :
    fixedDecimal width (n % 10 ^ width) = fixedDecimal width n := by
  induction width generalizing n with
  | zero => rfl
  | succ width ih =>
      have hdiv : n % 10 ^ (width + 1) / 10 = n / 10 % 10 ^ width := by
        rw [Nat.pow_succ', Nat.mod_mul_right_div_self]
      have hmod : n % 10 ^ (width + 1) % 10 = n % 10 := by
        rw [Nat.pow_succ', Nat.mod_mul_right_mod]
      rw [fixedDecimal_succ, fixedDecimal_succ, hdiv, hmod, ih]

/-- Decimal digits are the number that they stand for, written with as many digits. -/
theorem fixedDecimal_decimalValue {cs : List Char} (h : ∀ c ∈ cs, c.isDigit = true) :
    fixedDecimal cs.length (decimalValue cs) = cs := by
  have hlt : ∀ d ∈ cs.map digitValue, d < 10 := by
    rw [List.forall_mem_map]
    exact fun c _ => digitValue_lt c
  have hdigits := digits_value hlt
  rw [List.length_map] at hdigits
  rw [fixedDecimal, decimalValue, hdigits, List.map_map]
  conv_rhs => rw [← List.map_id cs]
  apply List.map_congr_left
  intro c hc
  exact digitChar_digitValue (h c hc)

theorem fixedDecimal_zero_right (width : Nat) :
    fixedDecimal width 0 = List.replicate width '0' := by
  induction width with
  | zero => rfl
  | succ width ih =>
      rw [fixedDecimal_succ, Nat.zero_div, ih, List.replicate_succ']
      rfl

theorem paddedDecimal_eq_fixedDecimal {width n : Nat} (hwidth : 0 < width)
    (hn : n < 10 ^ width) : paddedDecimal width n = fixedDecimal width n := by
  induction width generalizing n with
  | zero => omega
  | succ width ih =>
      rw [fixedDecimal_succ]
      by_cases hlt : n < 10
      · rw [paddedDecimal, Nat.toDigits_of_lt_base hlt, Nat.div_eq_of_lt hlt,
          Nat.mod_eq_of_lt hlt, fixedDecimal_zero_right]
        simp [List.leftpad]
      · have hpos : 0 < width := by
          by_contra hzero
          have : width = 0 := by omega
          subst this
          omega
        have hquot : n / 10 < 10 ^ width := by
          rw [Nat.div_lt_iff_lt_mul (by omega), ← Nat.pow_succ]
          exact hn
        rw [← ih hpos hquot, paddedDecimal, paddedDecimal,
          Nat.toDigits_of_base_le (by omega) (by omega : 10 ≤ n)]
        simp [List.leftpad, Nat.add_sub_add_right]

/-! ## Leading digits -/

/-- The number that the first `width` digits of a number stand for, or all of them if it has no
more. -/
def leading (width n : Nat) : Nat :=
  n / 10 ^ ((Nat.toDigits 10 n).length - width)

theorem leading_of_lt {width n : Nat} (hwidth : 0 < width) (hn : n < 10 ^ width) :
    leading width n = n := by
  have hlength := (Nat.length_toDigits_le_iff (by omega) hwidth).mpr hn
  rw [leading, Nat.sub_eq_zero_of_le hlength, Nat.pow_zero, Nat.div_one]

theorem toDigits_div_ten {width n : Nat} (hwidth : 0 < width) (hn : 10 ^ width ≤ n) :
    Nat.toDigits 10 n = Nat.toDigits 10 (n / 10) ++ [(n % 10).digitChar] ∧
      width ≤ (Nat.toDigits 10 (n / 10)).length := by
  have hten : 10 ≤ n := (Nat.le_self_pow (by omega) 10).trans hn
  have hsplit := Nat.toDigits_of_base_le (by omega : 1 < 10) hten
  refine ⟨hsplit, ?_⟩
  by_contra hshort
  have hfew : (Nat.toDigits 10 n).length ≤ width := by
    rw [hsplit, List.length_append, List.length_singleton]
    omega
  exact absurd ((Nat.length_toDigits_le_iff (by omega) hwidth).mp hfew) (Nat.not_lt.mpr hn)

theorem leading_div_ten {width n : Nat} (hwidth : 0 < width) (hn : 10 ^ width ≤ n) :
    leading width (n / 10) = leading width n := by
  obtain ⟨hsplit, hlong⟩ := toDigits_div_ten hwidth hn
  have hlength : (Nat.toDigits 10 n).length - width =
      (Nat.toDigits 10 (n / 10)).length - width + 1 := by
    rw [hsplit, List.length_append, List.length_singleton]
    omega
  rw [leading, leading, hlength, Nat.pow_succ', Nat.div_div_eq_div_mul]

/-- The first digits of a padded number are its leading digits, padded. -/
theorem take_paddedDecimal {width : Nat} (hwidth : 0 < width) (n : Nat) :
    (paddedDecimal width n).take width = fixedDecimal width (leading width n) := by
  induction n using Nat.strongRecOn with
  | _ n ih =>
      by_cases hn : n < 10 ^ width
      · rw [paddedDecimal_eq_fixedDecimal hwidth hn, leading_of_lt hwidth hn]
        exact List.take_of_length_le (length_fixedDecimal ..).le
      · have hlarge : 10 ^ width ≤ n := Nat.le_of_not_lt hn
        obtain ⟨hsplit, hlong⟩ := toDigits_div_ten hwidth hlarge
        have hpos : 0 < n := (Nat.pow_pos (by omega)).trans_le hlarge
        have hpad : paddedDecimal width n =
            paddedDecimal width (n / 10) ++ [(n % 10).digitChar] := by
          rw [paddedDecimal, paddedDecimal, List.leftpad, List.leftpad, hsplit,
            List.length_append, Nat.sub_eq_zero_of_le hlong,
            Nat.sub_eq_zero_of_le (hlong.trans (Nat.le_add_right ..))]
          rfl
        have hlength : width ≤ (paddedDecimal width (n / 10)).length := by
          rw [paddedDecimal, List.length_leftpad]
          exact le_max_left ..
        rw [hpad, List.take_append_of_le_length hlength, ih (n / 10) (by omega),
          leading_div_ten hwidth hlarge]

end PaymentOrders.Text
