import Mathlib.Tactic.Common
import PaymentOrders.Proofs.Text.Numerals
import PaymentOrders.Text.Order
/-!
# The order of bytes

Comparing texts character by character is comparing their UTF-8 bytes: of two different characters
the one with the smaller code point has the smaller bytes, and neither goes on where the other one
ends. Numerals of one width are compared like their numbers, as long as the characters for the
digits stand in the order of the digits.
-/

namespace PaymentOrders.Text

def bytes (s : String) : List UInt8 :=
  s.toUTF8.data.toList

theorem bytes_eq_flatMap (s : String) : bytes s = s.toList.flatMap String.utf8EncodeChar := by
  rw [bytes, String.toUTF8_eq_toByteArray, ← String.utf8Encode_toList, List.utf8Encode,
    List.data_toByteArray]

theorem length_bytes (s : String) : (bytes s).length = s.utf8ByteSize :=
  Array.length_toList

/-- The characters of one byte are their byte. -/
theorem utf8EncodeChar_of_le {c : Char} (hc : c.toNat ≤ 127) :
    String.utf8EncodeChar c = [UInt8.ofNat c.toNat] := by
  have hone : c.val.toNat ≤ 127 := hc
  simp only [String.utf8EncodeChar, if_pos hone]
  rfl

/-- Any other character starts with a byte that is no character. -/
theorem exists_large_byte {c : Char} (hc : 127 < c.toNat) :
    ∃ b ∈ String.utf8EncodeChar c, 128 ≤ b.toNat := by
  have hlarge : ¬ c.val.toNat ≤ 127 := Nat.not_le.mpr hc
  simp only [String.utf8EncodeChar, if_neg hlarge]
  generalize c.val.toNat = v
  split_ifs <;>
    refine ⟨_, List.mem_cons_self .., ?_⟩ <;>
    simp only [UInt8.toNat_ofNat'] <;>
    omega

theorem utf8EncodeChar_append_lt {c d : Char} (h : c.toNat < d.toNat) (xs ys : List UInt8) :
    String.utf8EncodeChar c ++ xs < String.utf8EncodeChar d ++ ys := by
  have hc : c.val.toNat < d.val.toNat := h
  have hd : d.val.toNat < 0x110000 := by
    have hvalid := d.valid
    simp only [UInt32.isValidChar, Nat.isValidChar] at hvalid
    omega
  simp only [String.utf8EncodeChar]
  generalize c.val.toNat = v at hc
  generalize d.val.toNat = w at hc hd
  have hdigits (n : Nat) : n / 4096 = n / 64 / 64 ∧ n / 262144 = n / 64 / 64 / 64 := by omega
  rw [(hdigits v).1, (hdigits v).2, (hdigits w).1, (hdigits w).2]
  clear h hdigits
  -- A longer encoding starts with a larger byte; within one length the digits decide.
  split_ifs <;>
    simp only [List.cons_append, List.nil_append, List.cons_lt_cons_iff, UInt8.lt_iff_toNat_lt,
      ← UInt8.toNat_inj, UInt8.toNat_ofNat'] <;>
    omega

/-- A text that comes before another one, and is not that one, has the smaller bytes. -/
theorem flatMap_utf8EncodeChar_lt {cs ds : List Char} (hle : le cs ds = true) (hne : cs ≠ ds) :
    cs.flatMap String.utf8EncodeChar < ds.flatMap String.utf8EncodeChar := by
  induction cs generalizing ds with
  | nil =>
      cases ds with
      | nil => exact absurd rfl hne
      | cons d ds =>
          obtain ⟨b, bs, hbytes⟩ := List.exists_cons_of_ne_nil
            (String.utf8EncodeChar_ne_nil (c := d))
          rw [List.flatMap_nil, List.flatMap_cons, hbytes]
          exact List.nil_lt_cons ..
  | cons c cs ih =>
      cases ds with
      | nil => cases hle
      | cons d ds =>
          rw [List.flatMap_cons, List.flatMap_cons]
          simp only [le, Bool.or_eq_true, decide_eq_true_eq, Bool.and_eq_true, beq_iff_eq] at hle
          rcases hle with hlt | ⟨heq, hle⟩
          · exact utf8EncodeChar_append_lt hlt _ _
          · have hsame : c = d := Char.toNat_inj.mp heq
            subst hsame
            exact List.append_left_lt (ih hle fun h => hne (h ▸ rfl))

theorem bytes_lt_of_le {s t : String} (hle : le s.toList t.toList = true) (hne : s ≠ t) :
    bytes s < bytes t := by
  rw [bytes_eq_flatMap, bytes_eq_flatMap]
  exact flatMap_utf8EncodeChar_lt hle fun h => hne (String.toList_inj.mp h)

/-- Of two different texts one has the smaller bytes, and the comparison tells which. -/
theorem bytes_lt_of_not_le {s t : String} (hle : le s.toList t.toList = false) :
    bytes t < bytes s := by
  have htotal := le_total s.toList t.toList
  rw [hle, Bool.false_or] at htotal
  apply bytes_lt_of_le htotal
  rintro rfl
  rw [le_refl] at hle
  cases hle

/-- The order of bytes is the comparison, without the text itself. -/
theorem bytes_lt_iff {s t : String} :
    bytes s < bytes t ↔ le s.toList t.toList = true ∧ s ≠ t := by
  constructor
  · intro hlt
    refine ⟨?_, fun heq => ?_⟩
    · by_contra hle
      exact List.lt_asymm hlt (bytes_lt_of_not_le (Bool.eq_false_iff.mpr hle))
    · rw [heq] at hlt
      exact List.lt_irrefl _ hlt
  · rintro ⟨hle, hne⟩
    exact bytes_lt_of_le hle hne

/-! ## Numerals of one width -/

/-- The last characters count only where everything before them is the same. -/
theorem le_append_singleton_iff {cs ds : List Char} (hlength : cs.length = ds.length)
    (c d : Char) : le (cs ++ [c]) (ds ++ [d]) = true ↔
      cs ≠ ds ∧ le cs ds = true ∨ cs = ds ∧ c.toNat ≤ d.toNat := by
  induction cs generalizing ds with
  | nil =>
      rw [List.eq_nil_of_length_eq_zero hlength.symm]
      simp only [List.nil_append, le, ne_eq, not_true_eq_false, false_and, true_and, false_or,
        Bool.and_true, Bool.or_eq_true, decide_eq_true_eq, beq_iff_eq]
      omega
  | cons x cs ih =>
      obtain ⟨y, ds, rfl⟩ := List.exists_cons_of_length_pos (by rw [← hlength]; simp)
      have hrest := ih (Nat.succ.inj hlength)
      simp only [List.cons_append, le, Bool.or_eq_true, Bool.and_eq_true, decide_eq_true_eq,
        beq_iff_eq, hrest, List.cons.injEq, ne_eq, Char.toNat_inj]
      by_cases hxy : x = y
      · simp [hxy]
      · simp [hxy]

section Digits

variable {base width m n : Nat} {symbol : Nat → Char}

theorem symbol_le_iff
    (hsymbol : ∀ d e, d < e → e < base → (symbol d).toNat < (symbol e).toNat) {d e : Nat}
    (hd : d < base) (he : e < base) : (symbol d).toNat ≤ (symbol e).toNat ↔ d ≤ e := by
  rcases Nat.lt_trichotomy d e with hlt | rfl | hlt
  · exact iff_of_true (hsymbol d e hlt he).le hlt.le
  · exact iff_of_true le_rfl le_rfl
  · exact iff_of_false (Nat.not_le.mpr (hsymbol e d hlt hd)) (Nat.not_le.mpr hlt)

theorem le_iff_div_mod (base m n : Nat) :
    m ≤ n ↔ m / base ≠ n / base ∧ m / base ≤ n / base ∨
      m / base = n / base ∧ m % base ≤ n % base := by
  have hm := Nat.div_add_mod m base
  have hn := Nat.div_add_mod n base
  rcases Nat.lt_trichotomy (m / base) (n / base) with hlt | heq | hlt
  · have hless := Nat.lt_of_div_lt_div hlt
    omega
  · rw [heq] at hm
    omega
  · have hless := Nat.lt_of_div_lt_div hlt
    omega

/-- Numerals of one width are compared like their numbers. -/
theorem le_map_digits_iff
    (hsymbol : ∀ d e, d < e → e < base → (symbol d).toNat < (symbol e).toNat)
    (hm : m < base ^ width) (hn : n < base ^ width) :
    le ((digits base width m).map symbol) ((digits base width n).map symbol) = true ↔ m ≤ n := by
  induction width generalizing m n with
  | zero =>
      rw [Nat.pow_zero, Nat.lt_one_iff] at hm hn
      subst hm hn
      exact iff_of_true rfl le_rfl
  | succ width ih =>
      have hbase : 0 < base := by
        by_contra hzero
        rw [Nat.eq_zero_of_not_pos hzero, Nat.zero_pow (Nat.succ_pos width)] at hm
        exact Nat.not_lt_zero m hm
      have hmq : m / base < base ^ width := Nat.div_lt_of_lt_mul (by rwa [← Nat.pow_succ'])
      have hnq : n / base < base ^ width := Nat.div_lt_of_lt_mul (by rwa [← Nat.pow_succ'])
      have hfront := ih hmq hnq
      have hsame : (digits base width (m / base)).map symbol =
          (digits base width (n / base)).map symbol ↔ m / base = n / base := by
        refine ⟨fun h => Nat.le_antisymm (hfront.mp ?_) ((ih hnq hmq).mp ?_), fun h => by rw [h]⟩
        · rw [h, le_refl]
        · rw [h, le_refl]
      rw [digits, digits, List.map_append, List.map_append, List.map_singleton,
        List.map_singleton, le_append_singleton_iff (by simp), hfront, Ne, hsame,
        symbol_le_iff hsymbol (Nat.mod_lt m hbase) (Nat.mod_lt n hbase)]
      exact (le_iff_div_mod base m n).symm

end Digits

end PaymentOrders.Text
