import Mathlib.Data.Nat.Digits.Defs
import PaymentOrders.CheckDigit
import PaymentOrders.Proofs.Text.Numerals
/-!
# Luhn sums

The exact sum that a check digit completes to a multiple of ten. A text of digits carries its check
digit exactly if the sum of all its digits is such a multiple, so what a typing error does to the
sum decides whether it is noticed: a changed digit always changes the sum modulo ten, and of two
neighbours that change places only zero and nine do not.
-/

namespace PaymentOrders.CheckDigit

/-- What a digit adds to a Luhn sum: itself or, where it counts double, its double less nine when
that exceeds nine. -/
def share (double : Bool) (d : Nat) : Nat :=
  if double then (if 2 * d > 9 then 2 * d - 9 else 2 * d) else d

/-- The Luhn sum of digits, the last digit first. Every second one counts double; `double` tells
whether the first one of the list does. -/
def luhnSum (double : Bool) : List Nat → Nat
  | [] => 0
  | d :: ds => share double d + luhnSum (!double) ds

/-- The digits of a text, the last one first; a character that is no digit counts as zero. -/
def digitsFromRight (cs : List Char) : List Nat :=
  (cs.map Text.digitValue).reverse

/-! ## Sums -/

section Sums

variable {double : Bool} {d e : Nat}

@[simp] theorem share_zero (double : Bool) : share double 0 = 0 := by
  cases double <;> rfl

theorem share_le_nine (hd : d ≤ 9) : share double d ≤ 9 := by
  unfold share
  split_ifs <;> omega

/-- Doubling permutes the digits: every digit has a share of its own. -/
theorem share_inj (hd : d ≤ 9) (he : e ≤ 9) : share double d = share double e ↔ d = e := by
  refine ⟨fun h => ?_, congrArg (share double)⟩
  unfold share at h
  split_ifs at h <;> omega

/-- Exchanging two neighbours moves the sum by the difference of the digits, counted modulo nine. -/
theorem share_swap_iff (hd : d ≤ 9) (he : e ≤ 9) (hne : d ≠ e) :
    (share double d + share (!double) e) % 10 = (share double e + share (!double) d) % 10 ↔
      d = 0 ∧ e = 9 ∨ d = 9 ∧ e = 0 := by
  cases double
  · simp only [share, Bool.not_false, Bool.false_eq_true, if_false, if_true]
    split_ifs <;> omega
  · simp only [share, Bool.not_true, Bool.false_eq_true, if_false, if_true]
    split_ifs <;> omega

/-- What stands further to the left adds a sum of its own. Which of its digits count double depends
on the digits before it only. -/
theorem exists_luhnSum_append (double : Bool) (ds : List Nat) :
    ∃ turn, ∀ es, luhnSum double (ds ++ es) = luhnSum double ds + luhnSum turn es := by
  induction ds generalizing double with
  | nil => exact ⟨double, fun es => (Nat.zero_add _).symm⟩
  | cons d ds ih =>
      obtain ⟨turn, hturn⟩ := ih !double
      refine ⟨turn, fun es => ?_⟩
      rw [List.cons_append, luhnSum, hturn, luhnSum, Nat.add_assoc]

theorem luhnSum_of_zeros (double : Bool) {ds : List Nat} (hzero : ∀ d ∈ ds, d = 0) :
    luhnSum double ds = 0 := by
  induction ds generalizing double with
  | nil => rfl
  | cons d ds ih =>
      rw [luhnSum, hzero d (by simp), share_zero, ih _ fun e he => hzero e (by simp [he])]

theorem luhnSum_append_zeros (double : Bool) (ds : List Nat) {es : List Nat}
    (hzero : ∀ e ∈ es, e = 0) : luhnSum double (ds ++ es) = luhnSum double ds := by
  obtain ⟨turn, hturn⟩ := exists_luhnSum_append double ds
  rw [hturn, luhnSum_of_zeros turn hzero, Nat.add_zero]

end Sums

/-! ## The sum in bytes -/

section Bytes

variable {double : Bool} {sum d : UInt8} {ds : List UInt8}

theorem toNat_weight (double : Bool) (hd : d.toNat ≤ 9) :
    (weight double d).toNat = share double d.toNat := by
  cases double
  · rfl
  · have htwice : (d * 2).toNat = 2 * d.toNat := by
      rw [UInt8.toNat_mul]
      change d.toNat * 2 % 256 = 2 * d.toNat
      omega
    have hlarge : d * 2 > 9 ↔ 2 * d.toNat > 9 := by
      rw [gt_iff_lt, UInt8.lt_iff_toNat_lt, htwice]
      exact Iff.rfl
    simp only [weight, doubled, share, if_true, hlarge]
    split_ifs with hover
    · have hle : (9 : UInt8) ≤ d * 2 := by
        rw [UInt8.le_iff_toNat_le, htwice]
        exact hover.le
      rw [UInt8.toNat_sub_of_le _ _ hle, htwice]
      rfl
    · exact htwice

theorem weightedSum_eq_luhnSum (double : Bool) (hds : ∀ d ∈ ds, d.toNat ≤ 9) :
    weightedSum double ds = luhnSum double (ds.map UInt8.toNat) := by
  induction ds generalizing double with
  | nil => rfl
  | cons d ds ih =>
      rw [weightedSum, List.map_cons, luhnSum, toNat_weight double (hds d (by simp)),
        ih _ fun e he => hds e (by simp [he])]

theorem toNat_add_weight_mod (double : Bool) (hsum : sum.toNat ≤ 9) (hd : d.toNat ≤ 9) :
    ((sum + weight double d) % 10).toNat = (sum.toNat + (weight double d).toNat) % 10 := by
  have hweight : (weight double d).toNat ≤ 9 := by
    rw [toNat_weight double hd]
    exact share_le_nine hd
  -- Two numbers of one digit stay far below the size of a byte.
  have hfits : (sum.toNat + (weight double d).toNat) % 256 = sum.toNat + (weight double d).toNat :=
    Nat.mod_eq_of_lt (by omega)
  rw [UInt8.toNat_mod, UInt8.toNat_add]
  exact congrArg (· % 10) hfits

theorem toNat_runningSum (double : Bool) (hsum : sum.toNat ≤ 9) (hds : ∀ d ∈ ds, d.toNat ≤ 9) :
    (runningSum sum double ds).toNat = (sum.toNat + weightedSum double ds) % 10 := by
  induction ds generalizing sum double with
  | nil => exact (Nat.mod_eq_of_lt (Nat.lt_succ_of_le hsum)).symm
  | cons d ds ih =>
      have hstep := toNat_add_weight_mod double hsum (hds d (by simp))
      rw [runningSum, ih _ (by rw [hstep]; omega) fun e he => hds e (by simp [he]), hstep,
        weightedSum]
      -- Reducing after each digit is reducing once at the end.
      omega

end Bytes

/-! ## The check digit of a text -/

section Texts

variable {cs : List Char} {c : Char}

theorem map_toNat_places (c : Char) : (places c).map UInt8.toNat =
    if c.isDigit then [Text.digitValue c] else List.replicate c.utf8Size 0 := by
  unfold places
  split
  · have hlt := Text.digitValue_lt c
    have hsmall : (Text.digitValue c).toUInt8.toNat = Text.digitValue c :=
      Nat.mod_eq_of_lt (by omega)
    rw [List.map_singleton, hsmall]
  · rw [List.map_replicate]
    rfl

theorem le_of_mem_places {d : UInt8} (hd : d ∈ places c) : d.toNat ≤ 9 := by
  have hmem := List.mem_map_of_mem (f := UInt8.toNat) hd
  rw [map_toNat_places] at hmem
  split at hmem
  · have hlt := Text.digitValue_lt c
    rw [List.mem_singleton.mp hmem]
    omega
  · rw [List.eq_of_mem_replicate hmem]
    omega

theorem le_of_mem_placesFromRight {d : UInt8} (hd : d ∈ placesFromRight cs) : d.toNat ≤ 9 := by
  rw [placesFromRight, List.mem_reverse, List.mem_flatMap] at hd
  obtain ⟨c, _, hmem⟩ := hd
  exact le_of_mem_places hmem

/-- The sum that the check digit of a text completes: the last byte counts double. -/
def bodySum (cs : List Char) : Nat :=
  luhnSum true ((placesFromRight cs).map UInt8.toNat)

theorem toNat_compute (cs : List Char) : (compute cs).toNat = (10 - bodySum cs % 10) % 10 := by
  have hrunning : (runningSum 0 true (placesFromRight cs)).toNat = bodySum cs % 10 := by
    rw [toNat_runningSum true (by decide) fun d hd => le_of_mem_placesFromRight hd,
      weightedSum_eq_luhnSum true fun d hd => le_of_mem_placesFromRight hd]
    change (0 + bodySum cs) % 10 = bodySum cs % 10
    rw [Nat.zero_add]
  have hle : runningSum 0 true (placesFromRight cs) ≤ 10 := by
    rw [UInt8.le_iff_toNat_le, hrunning]
    change bodySum cs % 10 ≤ 10
    omega
  rw [compute, UInt8.toNat_mod, UInt8.toNat_sub_of_le _ _ hle, hrunning]
  rfl

theorem toNat_compute_le (cs : List Char) : (compute cs).toNat ≤ 9 := by
  rw [toNat_compute]
  omega

/-- The check digit is the one digit that completes the sum to a multiple of ten. -/
theorem eq_compute_iff {d : Nat} (hd : d ≤ 9) :
    d = (compute cs).toNat ↔ (bodySum cs + d) % 10 = 0 := by
  rw [toNat_compute]
  omega

theorem placesFromRight_append (cs ds : List Char) :
    placesFromRight (cs ++ ds) = placesFromRight ds ++ placesFromRight cs := by
  rw [placesFromRight, List.flatMap_append, List.reverse_append]
  rfl

theorem compute_eq_of_bodySum {ds : List Char} (h : bodySum cs = bodySum ds) :
    compute cs = compute ds := by
  rw [← UInt8.toNat_inj, toNat_compute, toNat_compute, h]

theorem eq_zero_of_mem_places {d : UInt8} (hc : c = '0' ∨ c.isDigit = false) (hd : d ∈ places c) :
    d.toNat = 0 := by
  have hmem := List.mem_map_of_mem (f := UInt8.toNat) hd
  rw [map_toNat_places] at hmem
  rcases hc with rfl | hc
  · exact List.mem_singleton.mp hmem
  · rw [hc, if_neg Bool.false_ne_true] at hmem
    exact List.eq_of_mem_replicate hmem

theorem compute_append_of_worthless {front : List Char}
    (hfront : ∀ c ∈ front, c = '0' ∨ c.isDigit = false) (cs : List Char) :
    compute (front ++ cs) = compute cs := by
  apply compute_eq_of_bodySum
  rw [bodySum, placesFromRight_append, List.map_append]
  apply luhnSum_append_zeros
  intro d hd
  obtain ⟨b, hb, rfl⟩ := List.mem_map.mp hd
  rw [placesFromRight, List.mem_reverse, List.mem_flatMap] at hb
  obtain ⟨c, hc, hmem⟩ := hb
  exact eq_zero_of_mem_places (hfront c hc) hmem

theorem verifies_append_singleton_iff :
    verifies (cs ++ [c]) = true ↔ c.isDigit = true ∧ Text.digitValue c = (compute cs).toNat := by
  rw [verifies_append_singleton, Bool.and_eq_true, beq_iff_eq, eq_comm (a := (compute cs).toNat)]

theorem digit_toChar_compute (cs : List Char) : (toChar (compute cs)).isDigit = true ∧
    Text.digitValue (toChar (compute cs)) = (compute cs).toNat := by
  have hle := toNat_compute_le cs
  refine ⟨?_, Text.digitValue_digitChar (Nat.lt_succ_of_le hle)⟩
  rw [toChar, Nat.isDigit_digitChar]
  simpa using Nat.lt_succ_of_le hle

/-! ## Texts of digits -/

theorem digitsFromRight_append (cs ds : List Char) :
    digitsFromRight (cs ++ ds) = digitsFromRight ds ++ digitsFromRight cs := by
  rw [digitsFromRight, List.map_append, List.reverse_append]
  rfl

theorem digitsFromRight_cons (c : Char) (cs : List Char) :
    digitsFromRight (c :: cs) = digitsFromRight cs ++ [Text.digitValue c] := by
  rw [digitsFromRight, List.map_cons, List.reverse_cons]
  rfl

theorem digitsFromRight_append_singleton (cs : List Char) (c : Char) :
    digitsFromRight (cs ++ [c]) = Text.digitValue c :: digitsFromRight cs :=
  digitsFromRight_append cs [c]

theorem map_toNat_placesFromRight (hdigits : ∀ c ∈ cs, c.isDigit = true) :
    (placesFromRight cs).map UInt8.toNat = digitsFromRight cs := by
  rw [placesFromRight, List.map_reverse, List.map_flatMap, digitsFromRight]
  congr 1
  induction cs with
  | nil => rfl
  | cons c cs ih =>
      rw [List.flatMap_cons, List.map_cons, ih fun d hd => hdigits d (by simp [hd]),
        map_toNat_places, if_pos (hdigits c (by simp))]
      rfl

/-- Digits carry their check digit exactly if their own Luhn sum is a multiple of ten. -/
theorem verifies_iff_luhnSum (hdigits : ∀ c ∈ cs, c.isDigit = true) :
    verifies cs = true ↔ cs ≠ [] ∧ luhnSum false (digitsFromRight cs) % 10 = 0 := by
  induction cs using List.reverseRecOn with
  | nil => simp
  | append_singleton cs c _ =>
      have hlast := Text.digitValue_lt c
      have hbody : bodySum cs = luhnSum true (digitsFromRight cs) := by
        rw [bodySum, map_toNat_placesFromRight fun d hd => hdigits d (by simp [hd])]
      have hsum : luhnSum false (digitsFromRight (cs ++ [c])) =
          Text.digitValue c + bodySum cs := by
        rw [digitsFromRight_append_singleton, luhnSum, hbody]
        rfl
      rw [verifies_append_singleton_iff, eq_compute_iff (Nat.le_of_lt_succ hlast), hsum,
        Nat.add_comm]
      simp [hdigits c (by simp)]

theorem luhnSum_fixedDecimal (double : Bool) {width n : Nat} (hn : n < 10 ^ width) :
    luhnSum double (digitsFromRight (Text.fixedDecimal width n)) =
      luhnSum double (Nat.digits 10 n) := by
  induction width generalizing double n with
  | zero =>
      rw [Nat.pow_zero, Nat.lt_one_iff] at hn
      rw [hn, Nat.digits_zero]
      rfl
  | succ width ih =>
      have hquotient : n / 10 < 10 ^ width := Nat.div_lt_of_lt_mul (by rwa [← Nat.pow_succ'])
      have hlast : Text.digitValue (n % 10).digitChar = n % 10 :=
        Text.digitValue_digitChar (Nat.mod_lt n (by omega))
      have hstep : digitsFromRight (Text.fixedDecimal (width + 1) n) =
          n % 10 :: digitsFromRight (Text.fixedDecimal width (n / 10)) := by
        rw [Text.fixedDecimal_succ, digitsFromRight_append_singleton, hlast]
      rw [hstep, luhnSum, ih _ hquotient]
      -- A number without digits left goes on with zeros, which add nothing.
      rcases Nat.eq_zero_or_pos n with rfl | hpos
      · rw [Nat.zero_div, Nat.digits_zero, Nat.zero_mod, share_zero]
        rfl
      · rw [Nat.digits_def' (by omega) hpos, luhnSum]

end Texts

/-! ## Typing errors -/

section Typing

variable {before after : List Char} {c d : Char}

theorem digitValue_le (c : Char) : Text.digitValue c ≤ 9 :=
  Nat.le_of_lt_succ (Text.digitValue_lt c)

/-- One digit of a text adds a share of its own to the sum; the rest does not depend on it. -/
theorem exists_luhnSum_one (before after : List Char) : ∃ double rest, ∀ c,
    luhnSum false (digitsFromRight (before ++ c :: after)) =
      rest + share double (Text.digitValue c) := by
  obtain ⟨double, happend⟩ := exists_luhnSum_append false (digitsFromRight after)
  refine ⟨double, luhnSum false (digitsFromRight after) +
    luhnSum (!double) (digitsFromRight before), fun c => ?_⟩
  rw [digitsFromRight_append, digitsFromRight_cons, List.append_assoc, happend,
    List.singleton_append, luhnSum]
  omega

/-- Of two neighbours one counts double. -/
theorem exists_luhnSum_two (before after : List Char) : ∃ double rest, ∀ c d,
    luhnSum false (digitsFromRight (before ++ c :: d :: after)) =
      rest + (share double (Text.digitValue d) + share (!double) (Text.digitValue c)) := by
  obtain ⟨double, happend⟩ := exists_luhnSum_append false (digitsFromRight after)
  refine ⟨double, luhnSum false (digitsFromRight after) +
    luhnSum double (digitsFromRight before), fun c d => ?_⟩
  rw [digitsFromRight_append, digitsFromRight_cons, digitsFromRight_cons, List.append_assoc,
    List.append_assoc, happend, List.singleton_append, luhnSum, List.singleton_append, luhnSum,
    Bool.not_not]
  omega

theorem digitValue_eq_zero_iff (hc : c.isDigit = true) : Text.digitValue c = 0 ↔ c = '0' :=
  Text.digitValue_inj (d := '0') hc rfl

theorem digitValue_eq_nine_iff (hc : c.isDigit = true) : Text.digitValue c = 9 ↔ c = '9' :=
  Text.digitValue_inj (d := '9') hc rfl

theorem verifies_of_changed {old new : Char}
    (hdigits : ∀ c ∈ before ++ old :: after, c.isDigit = true)
    (hverifies : verifies (before ++ old :: after) = true) (hnew : new.isDigit = true)
    (hne : new ≠ old) : verifies (before ++ new :: after) = false := by
  obtain ⟨double, rest, hsum⟩ := exists_luhnSum_one before after
  have hvalid := ((verifies_iff_luhnSum hdigits).mp hverifies).2
  rw [List.forall_mem_append, List.forall_mem_cons] at hdigits
  obtain ⟨hbefore, hold, hafter⟩ := hdigits
  have hchanged : ∀ c ∈ before ++ new :: after, c.isDigit = true := by
    rw [List.forall_mem_append, List.forall_mem_cons]
    exact ⟨hbefore, hnew, hafter⟩
  rw [Bool.eq_false_iff, Ne, verifies_iff_luhnSum hchanged]
  rintro ⟨_, hagain⟩
  -- Two sums with the same rest are multiples of ten, so the two shares, both digits, are one.
  rw [hsum] at hvalid hagain
  have hleOld : share double (Text.digitValue old) ≤ 9 := share_le_nine (digitValue_le old)
  have hleNew : share double (Text.digitValue new) ≤ 9 := share_le_nine (digitValue_le new)
  have hsame : share double (Text.digitValue new) = share double (Text.digitValue old) := by omega
  rw [share_inj (digitValue_le new) (digitValue_le old), Text.digitValue_inj hnew hold] at hsame
  exact hne hsame

theorem verifies_swapped_iff (hdigits : ∀ x ∈ before ++ c :: d :: after, x.isDigit = true)
    (hverifies : verifies (before ++ c :: d :: after) = true) (hne : c ≠ d) :
    verifies (before ++ d :: c :: after) = true ↔ c = '0' ∧ d = '9' ∨ c = '9' ∧ d = '0' := by
  obtain ⟨double, rest, hsum⟩ := exists_luhnSum_two before after
  have hvalid := ((verifies_iff_luhnSum hdigits).mp hverifies).2
  rw [List.forall_mem_append, List.forall_mem_cons, List.forall_mem_cons] at hdigits
  obtain ⟨hbefore, hc, hd, hafter⟩ := hdigits
  have hswapped : ∀ x ∈ before ++ d :: c :: after, x.isDigit = true := by
    rw [List.forall_mem_append, List.forall_mem_cons, List.forall_mem_cons]
    exact ⟨hbefore, hd, hc, hafter⟩
  have hvalues : Text.digitValue c ≠ Text.digitValue d := mt (Text.digitValue_inj hc hd).mp hne
  rw [verifies_iff_luhnSum hswapped, and_iff_right (by simp), hsum]
  rw [hsum] at hvalid
  -- The sum was a multiple of ten; it still is one if the two shares keep their sum modulo ten.
  have hbalance :
      (rest + (share double (Text.digitValue c) + share (!double) (Text.digitValue d))) % 10 = 0 ↔
        (share double (Text.digitValue c) + share (!double) (Text.digitValue d)) % 10 =
          (share double (Text.digitValue d) + share (!double) (Text.digitValue c)) % 10 := by
    omega
  rw [hbalance, share_swap_iff (digitValue_le c) (digitValue_le d) hvalues,
    digitValue_eq_zero_iff hc, digitValue_eq_zero_iff hd, digitValue_eq_nine_iff hc,
    digitValue_eq_nine_iff hd]

/-- Of a text of digits that verifies, wherever one digit is replaced by another one the result
does not verify; and wherever two different neighbours are exchanged it does not, unless they are
zero and nine, and then it does. -/
theorem typing_errors_noticed {cs : List Char} (hdigits : ∀ c ∈ cs, c.isDigit = true)
    (hverifies : verifies cs = true) :
    (∀ (before after : List Char) (old new : Char), cs = before ++ old :: after →
      new.isDigit = true → new ≠ old → verifies (before ++ new :: after) = false) ∧
    ∀ (before after : List Char) (c d : Char), cs = before ++ c :: d :: after → c ≠ d →
      (verifies (before ++ d :: c :: after) = true ↔
        c = '0' ∧ d = '9' ∨ c = '9' ∧ d = '0') := by
  constructor
  · rintro before after old new rfl hnew hne
    exact verifies_of_changed hdigits hverifies hnew hne
  · rintro before after c d rfl hne
    exact verifies_swapped_iff hdigits hverifies hne

/-- Zero and nine may change places, but no digit may become another one. -/
theorem typing_errors_noticed_nine :
    (∀ c ∈ "091".toList, c.isDigit = true) ∧ verifies "091".toList = true ∧
      verifies "901".toList = true ∧ verifies "191".toList = false := by
  have hdigits : ∀ c ∈ "091".toList, c.isDigit = true := List.all_eq_true.mp (by decide)
  have hverifies : verifies "091".toList = true := by decide
  obtain ⟨hchanged, hswapped⟩ := typing_errors_noticed hdigits hverifies
  exact ⟨hdigits, hverifies, (hswapped [] ['1'] '0' '9' rfl (by decide)).mpr (.inl ⟨rfl, rfl⟩),
    hchanged [] ['9', '1'] '0' '1' rfl (by decide) (by decide)⟩

end Typing

end PaymentOrders.CheckDigit
