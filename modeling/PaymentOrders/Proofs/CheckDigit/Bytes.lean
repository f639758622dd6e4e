import PaymentOrders.Proofs.CheckDigit
import PaymentOrders.Proofs.Text.Order
/-!
# Check digits byte by byte

The check digit once more, computed from the UTF-8 bytes of a text with every operation watched: a
sum, product or difference that is no byte ends the computation. None ever is, and what comes out is
the check digit. No byte of a character that is no digit is taken for one, so where the characters
of a text end makes no difference to the sum.
-/

namespace PaymentOrders.CheckDigit

/-- The value of a byte: that of the decimal digit that it encodes, and zero without one. -/
def byteValue (b : UInt8) : Nat :=
  if 48 ≤ b.toNat ∧ b.toNat ≤ 57 then b.toNat - 48 else 0

/-- The exact Luhn sum of bytes, of which the last one counts double. -/
def byteSum (bytes : List UInt8) : Nat :=
  luhnSum true (bytes.reverse.map byteValue)

namespace Watched

/-- The sum of two bytes, if it is a byte. -/
def add (a b : UInt8) : Option UInt8 :=
  if a.toNat + b.toNat < 256 then some (a + b) else none

/-- The product of two bytes, if it is a byte. -/
def mul (a b : UInt8) : Option UInt8 :=
  if a.toNat * b.toNat < 256 then some (a * b) else none

/-- The difference of two bytes, if it is not negative. -/
def sub (a b : UInt8) : Option UInt8 :=
  if b.toNat ≤ a.toNat then some (a - b) else none

def digit (b : UInt8) : Option UInt8 :=
  if 48 ≤ b.toNat ∧ b.toNat ≤ 57 then sub b 48 else some 0

def weight (double : Bool) (d : UInt8) : Option UInt8 :=
  if double then do
    let twice ← mul d 2
    if twice > 9 then sub twice 9 else return twice
  else
    return d

/-- The sum of the weights of bytes, the last byte first. -/
def sumFrom (sum : UInt8) (double : Bool) : List UInt8 → Option UInt8
  | [] => some sum
  | b :: bytes => do
      let d ← digit b
      let weighted ← weight double d
      let next ← add sum weighted
      sumFrom (next % 10) (!double) bytes

def compute (bytes : List UInt8) : Option UInt8 := do
  let sum ← sumFrom 0 true bytes.reverse
  let rest ← sub 10 sum
  return rest % 10

def complete (bytes : List UInt8) : Option (List UInt8) := do
  let d ← compute bytes
  let last ← add 48 d
  return bytes ++ [last]

/-- Whether the last character of a text is the check digit of the bytes before it. -/
def verifies (s : String) : Option Bool :=
  match s.toList.getLast? with
  | none => some false
  | some c =>
      if c.isDigit then do
        let d ← compute ((Text.bytes s).take (s.utf8ByteSize - c.utf8Size))
        return d.toNat == Text.digitValue c
      else
        some false

end Watched

/-! ## The bytes of a character -/

section Character

variable {c : Char}

theorem byteValue_le (b : UInt8) : byteValue b ≤ 9 := by
  unfold byteValue
  split <;> omega

theorem byteValue_of_large {n : Nat} (hlow : 128 ≤ n) (hhigh : n < 256) :
    byteValue (UInt8.ofNat n) = 0 := by
  have hn : (UInt8.ofNat n).toNat = n := Nat.mod_eq_of_lt hhigh
  rw [byteValue, hn, if_neg (by omega)]

theorem byteValue_of_mem_utf8EncodeChar (hc : c.isDigit = false) {b : UInt8}
    (hb : b ∈ String.utf8EncodeChar c) : byteValue b = 0 := by
  have hnot : ¬ (48 ≤ c.val.toNat ∧ c.val.toNat ≤ 57) := by
    rw [← Bool.not_eq_true, Text.isDigit_iff_toNat] at hc
    exact hc
  unfold String.utf8EncodeChar at hb
  generalize c.val.toNat = v at hb hnot
  simp only at hb
  -- One byte is the character itself; of a longer character every byte lies above the digits.
  split_ifs at hb with hone
  · have hv : (UInt8.ofNat v).toNat = v := Nat.mod_eq_of_lt (by omega)
    rw [List.mem_singleton.mp hb, byteValue, hv, if_neg hnot]
  · simp only [List.mem_cons, List.not_mem_nil, or_false] at hb
    rcases hb with rfl | rfl <;> exact byteValue_of_large (by omega) (by omega)
  · simp only [List.mem_cons, List.not_mem_nil, or_false] at hb
    rcases hb with rfl | rfl | rfl <;> exact byteValue_of_large (by omega) (by omega)
  · simp only [List.mem_cons, List.not_mem_nil, or_false] at hb
    rcases hb with rfl | rfl | rfl | rfl <;> exact byteValue_of_large (by omega) (by omega)

theorem utf8EncodeChar_of_isDigit (hc : c.isDigit = true) :
    String.utf8EncodeChar c = [UInt8.ofNat c.toNat] := by
  obtain ⟨_, hhigh⟩ := Text.isDigit_iff_toNat.mp hc
  exact Text.utf8EncodeChar_of_le (by omega)

theorem map_toNat_places_eq (c : Char) :
    (places c).map UInt8.toNat = (String.utf8EncodeChar c).map byteValue := by
  rw [map_toNat_places]
  split
  next hc =>
    obtain ⟨hlow, hhigh⟩ := Text.isDigit_iff_toNat.mp hc
    have hbyte : (UInt8.ofNat c.toNat).toNat = c.toNat := Nat.mod_eq_of_lt (by omega)
    rw [utf8EncodeChar_of_isDigit hc, List.map_singleton, byteValue, hbyte,
      if_pos ⟨hlow, hhigh⟩, Text.digitValue, if_pos hc]
    rfl
  next hc =>
    have hzero : ∀ b ∈ String.utf8EncodeChar c, byteValue b = 0 :=
      fun b hb => byteValue_of_mem_utf8EncodeChar (Bool.eq_false_iff.mpr hc) hb
    rw [List.map_congr_left hzero, List.map_const', String.length_utf8EncodeChar]

end Character

/-! ## The check digit as a character -/

theorem isDigit_and_digitValue_iff {c : Char} {d : Nat} (hd : d ≤ 9) :
    c.isDigit = true ∧ Text.digitValue c = d ↔ c.toNat = 48 + d := by
  rw [Text.isDigit_iff_toNat]
  constructor
  · rintro ⟨hrange, hvalue⟩
    rw [Text.digitValue, if_pos (Text.isDigit_iff_toNat.mpr hrange)] at hvalue
    change c.toNat - 48 = d at hvalue
    omega
  · intro hc
    have hrange : 48 ≤ c.toNat ∧ c.toNat ≤ 57 := by omega
    refine ⟨hrange, ?_⟩
    rw [Text.digitValue, if_pos (Text.isDigit_iff_toNat.mpr hrange), hc]
    exact Nat.add_sub_cancel_left 48 d

theorem toNat_toChar_compute (cs : List Char) :
    (toChar (compute cs)).toNat = 48 + (compute cs).toNat :=
  (isDigit_and_digitValue_iff (toNat_compute_le cs)).mp (digit_toChar_compute cs)

theorem verifies_push_iff (s : String) (c : Char) :
    verifies (s.push c).toList = true ↔ c.toNat = 48 + (compute s.toList).toNat := by
  rw [String.toList_push, verifies_append_singleton_iff,
    isDigit_and_digitValue_iff (toNat_compute_le _)]

/-! ## The bytes of a text -/

theorem bodySum_toList (s : String) : bodySum s.toList = byteSum (Text.bytes s) := by
  have hplaces : (List.map UInt8.toNat ∘ places) = List.map byteValue ∘ String.utf8EncodeChar :=
    funext map_toNat_places_eq
  rw [bodySum, byteSum, placesFromRight, List.map_reverse, List.map_reverse, Text.bytes_eq_flatMap,
    List.map_flatMap, List.map_flatMap]
  exact congrArg (fun f => luhnSum true (s.toList.flatMap f).reverse) hplaces

theorem bytes_push (s : String) (c : Char) :
    Text.bytes (s.push c) = Text.bytes s ++ String.utf8EncodeChar c := by
  rw [Text.bytes_eq_flatMap, Text.bytes_eq_flatMap, String.toList_push, List.flatMap_append,
    List.flatMap_singleton]

namespace Watched

section Steps

variable {double : Bool} {sum d : UInt8}

theorem digit_eq (b : UInt8) : ∃ d, digit b = some d ∧ d.toNat = byteValue b := by
  unfold digit byteValue
  split
  next hdigit =>
    have hle : (48 : UInt8) ≤ b := by
      rw [UInt8.le_iff_toNat_le]
      exact hdigit.1
    refine ⟨b - 48, if_pos hdigit.1, ?_⟩
    rw [UInt8.toNat_sub_of_le _ _ hle]
    rfl
  next => exact ⟨0, rfl, rfl⟩

theorem weight_eq (double : Bool) (hd : d.toNat ≤ 9) :
    weight double d = some (CheckDigit.weight double d) := by
  cases double
  · rfl
  · have hfits : d.toNat * (2 : UInt8).toNat < 256 := by
      change d.toNat * 2 < 256
      omega
    have htwice : mul d 2 = some (d * 2) := if_pos hfits
    unfold weight
    rw [if_pos rfl, htwice, Option.bind_eq_bind, Option.bind_some]
    unfold CheckDigit.weight doubled
    rw [if_pos rfl]
    split_ifs with hover
    · exact if_pos (UInt8.le_iff_toNat_le.mp (UInt8.le_of_lt hover))
    · rfl

theorem add_eq {a b : UInt8} (ha : a.toNat ≤ 9) (hb : b.toNat ≤ 9) : add a b = some (a + b) :=
  if_pos (by omega)

/-- No step of the sum leaves the byte, and what comes out is the exact sum modulo ten. -/
theorem sumFrom_eq (double : Bool) (hsum : sum.toNat ≤ 9) (bytes : List UInt8) :
    ∃ total, sumFrom sum double bytes = some total ∧
      total.toNat = (sum.toNat + luhnSum double (bytes.map byteValue)) % 10 := by
  induction bytes generalizing sum double with
  | nil => exact ⟨sum, rfl, (Nat.mod_eq_of_lt (Nat.lt_succ_of_le hsum)).symm⟩
  | cons b bytes ih =>
      obtain ⟨d, hdigit, hvalue⟩ := digit_eq b
      have hd : d.toNat ≤ 9 := hvalue.trans_le (byteValue_le b)
      have hweight : (CheckDigit.weight double d).toNat = share double (byteValue b) := by
        rw [toNat_weight double hd, hvalue]
      have hstep := toNat_add_weight_mod double hsum hd
      have hnext : ((sum + CheckDigit.weight double d) % 10).toNat ≤ 9 := by
        rw [hstep]
        omega
      have hadd : add sum (CheckDigit.weight double d) =
          some (sum + CheckDigit.weight double d) := by
        apply add_eq hsum
        rw [hweight]
        exact share_le_nine (byteValue_le b)
      obtain ⟨total, htotal, heq⟩ := ih (!double) hnext
      refine ⟨total, ?_, ?_⟩
      · simp only [sumFrom, hdigit, weight_eq double hd, hadd, htotal, Option.bind_eq_bind,
          Option.bind_some]
      · rw [heq, hstep, hweight, List.map_cons, luhnSum]
        omega

end Steps

theorem compute_bytes (s : String) :
    compute (Text.bytes s) = some (CheckDigit.compute s.toList) := by
  have hzero : (0 : UInt8).toNat ≤ 9 := by decide
  obtain ⟨sum, hsum, hvalue⟩ := sumFrom_eq true hzero (Text.bytes s).reverse
  have hmod : sum.toNat = bodySum s.toList % 10 := by
    rw [hvalue, bodySum_toList, byteSum]
    exact congrArg (· % 10) (Nat.zero_add _)
  have hle : sum.toNat ≤ (10 : UInt8).toNat := by
    rw [hmod]
    change bodySum s.toList % 10 ≤ 10
    omega
  have hrest : sub 10 sum = some (10 - sum) := if_pos hle
  simp only [compute, hsum, hrest, Option.bind_eq_bind, Option.bind_some]
  refine congrArg some (UInt8.toNat_inj.mp ?_)
  rw [UInt8.toNat_mod, UInt8.toNat_sub_of_le _ _ (UInt8.le_iff_toNat_le.mpr hle), hmod,
    toNat_compute]
  rfl

theorem complete_bytes (s : String) :
    complete (Text.bytes s) =
      some (Text.bytes (String.ofList (CheckDigit.complete s.toList))) := by
  have hle := toNat_compute_le s.toList
  have hfits : (48 : UInt8).toNat + (CheckDigit.compute s.toList).toNat < 256 := by
    change 48 + (CheckDigit.compute s.toList).toNat < 256
    omega
  have hlast : add 48 (CheckDigit.compute s.toList) =
      some (48 + CheckDigit.compute s.toList) := if_pos hfits
  have hbyte : UInt8.ofNat (toChar (CheckDigit.compute s.toList)).toNat =
      48 + CheckDigit.compute s.toList := by
    rw [toNat_toChar_compute, UInt8.ofNat_add, UInt8.ofNat_toNat]
    rfl
  have hpush : String.ofList (CheckDigit.complete s.toList) =
      s.push (toChar (CheckDigit.compute s.toList)) := by
    rw [← String.toList_inj, String.toList_ofList, String.toList_push]
    rfl
  rw [hpush, bytes_push, utf8EncodeChar_of_isDigit (digit_toChar_compute s.toList).1, hbyte]
  simp only [complete, compute_bytes, hlast, Option.bind_eq_bind, Option.bind_some]
  rfl

theorem verifies_eq (s : String) : verifies s = some (CheckDigit.verifies s.toList) := by
  rcases List.eq_nil_or_concat s.toList with hnil | ⟨cs, c, hlast⟩
  · rw [verifies, hnil]
    rfl
  · rw [List.concat_eq_append] at hlast
    have hs : s = (String.ofList cs).push c := by
      rw [← String.toList_inj, String.toList_push, String.toList_ofList, hlast]
    subst hs
    -- The split is at the last character, however many bytes it has.
    have hbefore : (Text.bytes ((String.ofList cs).push c)).take
        (((String.ofList cs).push c).utf8ByteSize - c.utf8Size) =
          Text.bytes (String.ofList cs) := by
      rw [bytes_push, String.utf8ByteSize_push, Nat.add_sub_cancel, ← Text.length_bytes,
        List.take_left]
    rw [verifies, hlast, List.getLast?_concat, verifies_append_singleton]
    simp only [hbefore, compute_bytes, String.toList_ofList]
    cases c.isDigit <;> rfl

end Watched

/-- On every text, judging and completing agree. One character, the ASCII digit of the check digit,
makes a text verify. The check digit completes the exact sum of the bytes to a multiple of ten, and
characters without a value do not change it from the left. Computed byte by byte it is the same,
and no operation leaves the byte. -/
theorem check_digit_completes_text (s : String) :
    (∀ c : Char, verifies (s.push c).toList = true ↔ c.toNat = 48 + (compute s.toList).toNat) ∧
      verifies (complete s.toList) = true ∧
      (∃! c : Char, verifies (s.push c).toList = true) ∧
      (compute s.toList).toNat ≤ 9 ∧
      (byteSum (Text.bytes s) + (compute s.toList).toNat) % 10 = 0 ∧
      (∀ front : String, (∀ c ∈ front.toList, c = '0' ∨ c.isDigit = false) →
        compute (front ++ s).toList = compute s.toList) ∧
      Watched.compute (Text.bytes s) = some (compute s.toList) ∧
      Watched.verifies s = some (verifies s.toList) ∧
      Watched.complete (Text.bytes s) = some (Text.bytes (String.ofList (complete s.toList))) := by
  have hle := toNat_compute_le s.toList
  refine ⟨verifies_push_iff s, ?_, ?_, hle, ?_, ?_, Watched.compute_bytes s,
    Watched.verifies_eq s, Watched.complete_bytes s⟩
  · rw [complete, verifies_append_singleton_iff]
    exact digit_toChar_compute s.toList
  · refine ⟨toChar (compute s.toList), ?_, fun c hc => ?_⟩
    · exact (verifies_push_iff s _).mpr (toNat_toChar_compute s.toList)
    · apply Char.toNat_inj.mp
      rw [(verifies_push_iff s c).mp hc, toNat_toChar_compute]
  · rw [← bodySum_toList]
    exact (eq_compute_iff hle).mp rfl
  · intro front hfront
    rw [String.toList_append]
    exact compute_append_of_worthless hfront s.toList

/-- An accent, a digit of another script and zeros in front leave the check digit alone. -/
theorem check_digit_completes_text_mixed :
    (∀ c ∈ "00é٧".toList, c = '0' ∨ c.isDigit = false) ∧
      compute ("00é٧" ++ "655134196412897").toList = 7 ∧
      verifies ("655134196412897".push '7').toList = true := by
  have hall : "00é٧".toList.all (fun c => c = '0' ∨ c.isDigit = false) = true := by decide
  have hfront : ∀ c ∈ "00é٧".toList, c = '0' ∨ c.isDigit = false :=
    fun c hc => of_decide_eq_true (List.all_eq_true.mp hall c hc)
  have hdigit : compute "655134196412897".toList = 7 := by decide
  obtain ⟨hverifies, _, _, _, _, hsame, _⟩ := check_digit_completes_text "655134196412897"
  refine ⟨hfront, ?_, (hverifies '7').mpr ?_⟩
  · rw [hsame "00é٧" hfront, hdigit]
  · rw [hdigit]
    rfl

end PaymentOrders.CheckDigit
