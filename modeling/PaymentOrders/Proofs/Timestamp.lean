import PaymentOrders.Proofs.Text.Numerals
import PaymentOrders.Timestamp.Text
/-!
# Timestamps and their texts

The text of a timestamp is read back as that timestamp: local date and time, fraction and
offset. Each part is read off the front of what is left of the text.
-/

namespace PaymentOrders.Timestamp

theorem readDigits_fixedDecimal {count n : Nat} (part : Part) (rest : List Char)
    (hn : n < 10 ^ count) :
    readDigits count part (Text.fixedDecimal count n ++ rest) = .ok (n, rest) := by
  have hlength := Text.length_fixedDecimal count n
  have hall : (Text.fixedDecimal count n).all Char.isDigit = true :=
    List.all_eq_true.mpr fun c hc => Text.isDigit_of_mem_fixedDecimal hc
  rw [readDigits, List.take_left' hlength, List.drop_left' hlength, if_pos ⟨hlength, hall⟩,
    Text.decimalValue_fixedDecimal hn]

theorem readChar_cons (c : Char) (rest : List Char) : readChar c (c :: rest) = .ok rest := by
  simp [readChar]

theorem readMonth_fixedDecimal {month : Nat} (rest : List Char) (hpos : 1 ≤ month)
    (hle : month ≤ 12) : readMonth (Text.fixedDecimal 2 month ++ rest) = .ok (month, rest) := by
  have hne : ¬ month = 0 := by omega
  rw [readMonth, readDigits_fixedDecimal .month rest (by omega)]
  simp [bind, Except.bind, hne]

theorem readSeparator_cons {c : Char} (rest : List Char) (hc : c.utf8Size = 1) :
    readSeparator (c :: rest) = .ok rest := by
  simp [readSeparator, hc]

/-! ## The fraction of a second -/

/-- The digits of a fraction without its trailing zeros. -/
def strippedNanos (nanosecond : Nat) : List Char :=
  ((Text.fixedDecimal 9 nanosecond).reverse.dropWhile (· == '0')).reverse

theorem strippedNanos_append_zeros (nanosecond : Nat) :
    strippedNanos nanosecond ++ List.replicate (9 - (strippedNanos nanosecond).length) '0' =
      Text.fixedDecimal 9 nanosecond := by
  let zeros := (Text.fixedDecimal 9 nanosecond).reverse.takeWhile (· == '0')
  have hzeros : zeros.reverse = List.replicate zeros.length '0' := by
    rw [List.eq_replicate_iff]
    refine ⟨List.length_reverse, fun c hc => ?_⟩
    have hall : zeros.all (· == '0') = true := List.all_takeWhile
    simpa using List.all_eq_true.mp hall c (List.mem_reverse.mp hc)
  have hsplit : strippedNanos nanosecond ++ zeros.reverse = Text.fixedDecimal 9 nanosecond := by
    rw [strippedNanos, ← List.reverse_append, List.takeWhile_append_dropWhile,
      List.reverse_reverse]
  have hlength := congrArg List.length hsplit
  rw [List.length_append, List.length_reverse, Text.length_fixedDecimal] at hlength
  rw [← hsplit, hzeros, show 9 - (strippedNanos nanosecond).length = zeros.length by omega]

theorem length_strippedNanos_le (nanosecond : Nat) :
    (strippedNanos nanosecond).length ≤ 9 := by
  have hlength := congrArg List.length (strippedNanos_append_zeros nanosecond)
  rw [List.length_append, Text.length_fixedDecimal] at hlength
  omega

theorem isDigit_of_mem_strippedNanos {nanosecond : Nat} {c : Char}
    (hc : c ∈ strippedNanos nanosecond) : c.isDigit = true := by
  have hmem := List.mem_append_left
    (List.replicate (9 - (strippedNanos nanosecond).length) '0') hc
  rw [strippedNanos_append_zeros] at hmem
  exact Text.isDigit_of_mem_fixedDecimal hmem

theorem fractionNanos_strippedNanos {nanosecond : Nat} (hlt : nanosecond < nanosPerSecond) :
    fractionNanos (strippedNanos nanosecond) = nanosecond := by
  rw [fractionNanos, List.take_of_length_le (length_strippedNanos_le nanosecond),
    strippedNanos_append_zeros]
  exact Text.decimalValue_fixedDecimal hlt

theorem strippedNanos_ne_nil {nanosecond : Nat} (hlt : nanosecond < nanosPerSecond)
    (hne : nanosecond ≠ 0) : strippedNanos nanosecond ≠ [] := by
  intro hnil
  have hvalue := fractionNanos_strippedNanos hlt
  rw [hnil] at hvalue
  exact hne hvalue.symm

/-- What follows a fraction does not start with a digit or a point, so a fraction ends where its
digits end. -/
theorem exists_offsetText_eq_cons (offset : Int) :
    ∃ c rest, offsetText offset = c :: rest ∧ c.isDigit = false ∧ c ≠ '.' := by
  unfold offsetText
  split
  · exact ⟨'Z', [], rfl, rfl, by decide⟩
  · split
    · exact ⟨'-', _, rfl, rfl, by decide⟩
    · exact ⟨'+', _, rfl, rfl, by decide⟩

theorem readFraction_fractionText {nanosecond : Nat} (hlt : nanosecond < nanosPerSecond)
    (offset : Int) :
    readFraction (fractionText nanosecond ++ offsetText offset) =
      .ok (nanosecond, offsetText offset) := by
  obtain ⟨c, rest, hoffset, hdigit, hpoint⟩ := exists_offsetText_eq_cons offset
  by_cases hzero : nanosecond = 0
  · subst hzero
    rw [fractionText, if_pos rfl, List.nil_append, hoffset]
    unfold readFraction
    split
    · rename_i heq
      exact absurd (List.cons.inj heq).1 hpoint
    · rfl
  · have hall : ∀ d ∈ strippedNanos nanosecond, d.isDigit = true :=
      fun d hd => isDigit_of_mem_strippedNanos hd
    have htake : (strippedNanos nanosecond ++ c :: rest).takeWhile Char.isDigit =
        strippedNanos nanosecond := by
      rw [List.takeWhile_append_of_pos hall, List.takeWhile_cons_of_neg (by simp [hdigit]),
        List.append_nil]
    have hdrop : (strippedNanos nanosecond ++ c :: rest).dropWhile Char.isDigit = c :: rest := by
      rw [List.dropWhile_append_of_pos hall, List.dropWhile_cons_of_neg (by simp [hdigit])]
    have htext : fractionText nanosecond = '.' :: strippedNanos nanosecond := by
      rw [fractionText, if_neg hzero, strippedNanos]
    rw [htext, hoffset, List.cons_append, readFraction, htake, hdrop]
    split
    · rename_i hnil
      exact absurd hnil (strippedNanos_ne_nil hlt hzero)
    · rw [fractionNanos_strippedNanos hlt]

/-! ## The offset -/

theorem readOffsetBody_fixedDecimal (sign : Int) {hours minutes : Nat} (hhours : hours ≤ 23)
    (hminutes : minutes ≤ 59) :
    readOffsetBody sign (Text.fixedDecimal 2 hours ++ ':' :: Text.fixedDecimal 2 minutes) =
      .ok (sign * (hours * 60 + minutes : Nat), []) := by
  have hread := readDigits_fixedDecimal (n := minutes) .offsetMinute [] (by omega : _ < 10 ^ 2)
  rw [List.append_nil] at hread
  have hhours' : ¬ hours > 23 := by omega
  have hminutes' : ¬ minutes > 59 := by omega
  rw [readOffsetBody, readDigits_fixedDecimal .offsetHour _ (by omega)]
  simp only [bind, Except.bind, if_neg hhours', readChar_cons, hread, if_neg hminutes']

theorem readOffset_offsetText {offset : Int} (hle : offset.natAbs ≤ maxOffset) :
    readOffset (offsetText offset) = .ok (offset, []) := by
  have hbound : offset.natAbs ≤ 1439 := hle
  have hhours : offset.natAbs / 60 ≤ 23 := by omega
  have hminutes : offset.natAbs % 60 ≤ 59 := by omega
  unfold offsetText
  split
  · rename_i hzero
    subst hzero
    rfl
  · split
    · rename_i hneg
      rw [readOffset, readOffsetBody_fixedDecimal (-1) hhours hminutes,
        Nat.div_add_mod' offset.natAbs 60]
      exact congrArg (fun o => Except.ok (o, [])) (by omega)
    · rename_i hnonneg
      rw [readOffset, readOffsetBody_fixedDecimal 1 hhours hminutes,
        Nat.div_add_mod' offset.natAbs 60]
      exact congrArg (fun o => Except.ok (o, [])) (by omega)

/-! ## The whole text -/

/-- The parts that the text of a timestamp is made of. -/
def toParts (t : Timestamp) : Parts where
  year := t.year
  month := t.month
  day := t.day
  hour := t.hour
  minute := t.minute
  second := t.second
  nanosecond := t.nanosecond
  offset := t.offset

theorem day_le_thirtyOne (t : Timestamp) : t.day ≤ 31 := by
  have hday := t.day_le
  unfold daysInMonth at hday
  split at hday
  · split at hday <;> omega
  all_goals omega

theorem readParts_toChars (t : Timestamp) : readParts t.toChars = .ok t.toParts := by
  have hyear := t.year_le
  have hday := t.day_le_thirtyOne
  have hhour := t.hour_le
  have hminute := t.minute_le
  have hsecond := t.second_le
  rw [readParts, toChars, readDigits_fixedDecimal .year _ (by omega)]
  simp only [bind, Except.bind, readChar_cons,
    readMonth_fixedDecimal _ t.one_le_month t.month_le]
  rw [readDigits_fixedDecimal .day _ (by omega)]
  simp only [readSeparator_cons (c := 'T') _ (by decide)]
  rw [readDigits_fixedDecimal .hour _ (by omega)]
  simp only [readChar_cons]
  rw [readDigits_fixedDecimal .minute _ (by omega)]
  simp only [readChar_cons]
  rw [readDigits_fixedDecimal .second _ (by omega)]
  simp only [readFraction_fractionText t.nanosecond_lt, readOffset_offsetText t.offset_le]
  rfl

theorem ofParts_toParts (t : Timestamp) : ofParts t.toParts = .ok t := by
  have hrest : t.year ≤ 9999 ∧ 1 ≤ t.month ∧ t.nanosecond < nanosPerSecond ∧
      t.offset.natAbs ≤ maxOffset :=
    ⟨t.year_le, t.one_le_month, t.nanosecond_lt, t.offset_le⟩
  unfold ofParts toParts
  rw [dif_pos t.month_le, dif_pos ⟨t.one_le_day, t.day_le⟩, dif_pos t.hour_le,
    dif_pos t.minute_le, dif_pos t.second_le, dif_pos hrest]

/-- Writing and reading a timestamp gives it back with its local time and its offset. -/
@[simp] theorem ofText_toText (t : Timestamp) : ofText t.toText = .ok t := by
  have hsecond : ¬ t.toParts.second = 60 := by
    have hle := t.second_le
    simp only [toParts]
    omega
  rw [ofText, toText, String.toList_ofList, readParts_toChars]
  simp only [bind, Except.bind, if_neg hsecond]
  exact ofParts_toParts t

end PaymentOrders.Timestamp
