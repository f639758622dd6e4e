import PaymentOrders.Proofs.CheckDigit
import PaymentOrders.Proofs.OrderFilter
import PaymentOrders.Proofs.Text.Order
import PaymentOrders.Proofs.Wire.ReadBack
/-!
# The forms of a case id

A case id is a text, a number and a number in a document, and each of the three determines the
others. Exactly the texts of sixteen digits with a Luhn sum that is a multiple of ten are case ids,
and exactly the numbers below the seventeen-digit ones whose own digits have such a sum; both stand
in the same order.
-/

namespace PaymentOrders

namespace Text

/-- The number of 64 bits that a text of digits spells, behind one that was read already. Nothing
comes of a character that is no digit, or of a number that has more bits. -/
def readWordFrom (n : UInt64) : List Char → Option UInt64
  | [] => some n
  | c :: cs =>
      if c.isDigit ∧ n.toNat * 10 + digitValue c < UInt64.size then
        readWordFrom (n * 10 + (digitValue c).toUInt64) cs
      else
        none

/-- Reads a number of 64 bits: digits, with a plus sign before them if there is one. -/
def readWord : List Char → Option UInt64
  | [] => none
  | '+' :: c :: cs => readWordFrom 0 (c :: cs)
  | cs => readWordFrom 0 cs

/-- The most digits that always fit into 64 bits. -/
def wordDigits : Nat := 19

theorem pow_wordDigits_lt : 10 ^ wordDigits < UInt64.size := by decide

theorem readWordFrom_of_digits {before cs : List Char} (hdigits : ∀ c ∈ cs, c.isDigit = true)
    (hlength : before.length + cs.length ≤ wordDigits) {n : UInt64}
    (hn : n.toNat = decimalValue before) :
    ∃ word, readWordFrom n cs = some word ∧ word.toNat = decimalValue (before ++ cs) := by
  induction cs generalizing before n with
  | nil => exact ⟨n, rfl, by rw [List.append_nil, hn]⟩
  | cons c cs ih =>
      -- What was read is the number of all digits before, and with the next one it still fits.
      have hnext : decimalValue (before ++ [c]) < UInt64.size := by
        apply (decimalValue_lt _).trans_le
        refine (Nat.pow_le_pow_right (by omega) ?_).trans pow_wordDigits_lt.le
        rw [List.length_cons] at hlength
        rw [List.length_append, List.length_singleton]
        omega
      rw [decimalValue_append_singleton, ← hn] at hnext
      have hread : (n * 10 + (digitValue c).toUInt64).toNat = decimalValue (before ++ [c]) := by
        have hdigit : digitValue c < UInt64.size := by omega
        rw [decimalValue_append_singleton, ← hn, UInt64.toNat_add, UInt64.toNat_mul]
        change (n.toNat * 10 % UInt64.size + digitValue c % UInt64.size) % UInt64.size = _
        rw [Nat.mod_eq_of_lt hdigit, Nat.mod_add_mod, Nat.mod_eq_of_lt hnext]
      have hfits : (before ++ [c]).length + cs.length ≤ wordDigits := by
        simpa [Nat.add_assoc, Nat.add_comm 1] using hlength
      have hrest := ih (fun d hd => hdigits d (by simp [hd])) hfits hread
      rw [readWordFrom, if_pos ⟨hdigits c (by simp), hnext⟩]
      simpa using hrest

theorem readWord_of_digits {cs : List Char} (hnonempty : cs ≠ [])
    (hdigits : ∀ c ∈ cs, c.isDigit = true) (hlength : cs.length ≤ wordDigits) :
    ∃ word, readWord cs = some word ∧ word.toNat = decimalValue cs := by
  obtain ⟨c, cs, rfl⟩ := List.exists_cons_of_ne_nil hnonempty
  have hplus : c ≠ '+' := by
    rintro rfl
    exact absurd (hdigits '+' (by simp)) (by decide)
  have hplain : readWord (c :: cs) = readWordFrom 0 (c :: cs) := by
    unfold readWord
    split
    · cases ‹_›
    · next heq => exact absurd (List.cons.inj heq).1 hplus
    · rfl
  have hfits : ([] : List Char).length + (c :: cs).length ≤ wordDigits := by
    simpa using hlength
  rw [hplain]
  exact readWordFrom_of_digits hdigits hfits rfl

end Text

namespace CaseId

open CheckDigit (luhnSum digitsFromRight)

/-- The text of a case id: sixteen decimal digits with a Luhn sum that is a multiple of ten. -/
structure Spelled (text : String) : Prop where
  length : text.length = caseIdLength
  digits : ∀ c ∈ text.toList, c.isDigit = true
  sum : luhnSum false (digitsFromRight text.toList) % 10 = 0

/-- The number of a case id: at most sixteen digits, with a Luhn sum that is a multiple of ten. -/
structure Counted (n : Nat) : Prop where
  lt : n < 10 ^ caseIdLength
  sum : luhnSum false (Nat.digits 10 n) % 10 = 0

/-- Everything that is wrong with a text that is to be a case id. A blank text is missing; else the
length and the digits are judged apart. -/
def complaints (field text : String) : Report :=
  if Text.isBlank text then
    [.required field]
  else
    (if text.length = caseIdLength then [] else [.caseIdLength field text]) ++
      (if text.toList.all Char.isDigit ∧ luhnSum false (digitsFromRight text.toList) % 10 = 0
        then [] else [.caseIdChecksum field text])

/-! ## Texts -/

section Texts

variable {field text : String}

theorem toList_ne_nil_of_not_isBlank (hsome : Text.isBlank text = false) : text.toList ≠ [] := by
  intro hnil
  rw [Text.isBlank, hnil] at hsome
  cases hsome

theorem not_isBlank_of_spelled (h : Spelled text) : Text.isBlank text = false := by
  have hpos : 0 < text.toList.length := by
    rw [String.length_toList, h.length]
    decide
  obtain ⟨c, hc⟩ := List.exists_mem_of_length_pos hpos
  exact Text.not_isBlank_of_digit hc (h.digits c hc)

theorem all_and_verifies_iff (hsome : Text.isBlank text = false) :
    (text.toList.all Char.isDigit && CheckDigit.verifies text.toList) = true ↔
      text.toList.all Char.isDigit = true ∧
        luhnSum false (digitsFromRight text.toList) % 10 = 0 := by
  rw [Bool.and_eq_true]
  refine and_congr_right fun hdigits => ?_
  rw [CheckDigit.verifies_iff_luhnSum (List.all_eq_true.mp hdigits),
    and_iff_right (toList_ne_nil_of_not_isBlank hsome)]

theorem issues_eq_complaints (hsome : Text.isBlank text = false) (field : String) :
    issues field text = complaints field text := by
  rw [issues, complaints, hsome]
  simp only [Bool.false_eq_true, if_false, all_and_verifies_iff hsome]

theorem complaints_eq_nil_iff : complaints field text = [] ↔ Spelled text := by
  constructor
  · intro h
    unfold complaints at h
    split at h
    · cases h
    · rw [List.append_eq_nil_iff, ite_eq_left_iff, ite_eq_left_iff] at h
      simp only [List.cons_ne_nil, imp_false, not_not] at h
      exact ⟨h.1, List.all_eq_true.mp h.2.1, h.2.2⟩
  · intro h
    rw [complaints, if_neg (by simp [not_isBlank_of_spelled h]), if_pos h.length,
      if_pos ⟨List.all_eq_true.mpr h.digits, h.sum⟩]
    rfl

/-- Reading a text tells everything that is wrong with it. -/
theorem ofRead_parseField_eq (field text : String) :
    Report.ofRead (parseField field text) = complaints field text := by
  cases hblank : Text.isBlank text with
  | false => rw [ofRead_parseField hblank, issues_eq_complaints hblank]
  | true =>
      have hissue : Issue.ofBlank field text = some (.required field) := if_pos hblank
      rw [parseField, hissue, complaints, if_pos hblank]
      rfl

theorem parseField_of_error {report : Report} (h : parseField field text = .error report) :
    report = complaints field text := by
  rw [← ofRead_parseField_eq, h]
  rfl

theorem exists_parseField_iff : (∃ id, parseField field text = .ok id) ↔ Spelled text := by
  constructor
  · rintro ⟨id, hread⟩
    have hnone : complaints field text = [] := by
      rw [← ofRead_parseField_eq, hread]
      rfl
    exact complaints_eq_nil_iff.mp hnone
  · intro hspelled
    cases hread : parseField field text with
    | ok id => exact ⟨id, rfl⟩
    | error report =>
        rw [parseField_of_error hread, complaints_eq_nil_iff.mpr hspelled] at hread
        exact absurd hread (OrderFilter.parseField_caseId_ne field text)

theorem parseField_of_not_spelled (h : ¬ Spelled text) :
    parseField field text = .error (complaints field text) := by
  cases hread : parseField field text with
  | ok id => exact absurd (exists_parseField_iff.mp ⟨id, hread⟩) h
  | error report => rw [parseField_of_error hread]

theorem parseField_eq_ok_iff {id : CaseId} : parseField field text = .ok id ↔ text = id.toText := by
  refine ⟨eq_toText_of_parseField, ?_⟩
  rintro rfl
  exact parseField_toText field id

/-- What passes every test is read as a number without a failure. -/
theorem readWord_of_issues (hsome : Text.isBlank text = false) (hissues : issues field text = []) :
    ∃ word, Text.readWord text.toList = some word ∧
      word.toNat = Text.decimalValue text.toList ∧ isCaseNumber word.toNat = true := by
  obtain ⟨_, hvalid⟩ := eq_fixedDecimal_of_issues hsome hissues
  rw [issues_eq_complaints hsome, complaints_eq_nil_iff] at hissues
  have hlength : text.toList.length ≤ Text.wordDigits := by
    rw [String.length_toList, hissues.length]
    decide
  obtain ⟨word, hword, hvalue⟩ :=
    Text.readWord_of_digits (toList_ne_nil_of_not_isBlank hsome) hissues.digits hlength
  exact ⟨word, hword, hvalue, by rwa [hvalue]⟩

end Texts

/-! ## Numbers -/

section Numbers

variable {n : Nat} {id : CaseId}

theorem isCaseNumber_iff : isCaseNumber n = true ↔ Counted n := by
  have hdigits : ∀ c ∈ Text.fixedDecimal caseIdLength n, c.isDigit = true :=
    fun c hc => Text.isDigit_of_mem_fixedDecimal hc
  have hnonempty : Text.fixedDecimal caseIdLength n ≠ [] := by
    intro hnil
    have hlength := Text.length_fixedDecimal caseIdLength n
    rw [hnil] at hlength
    cases hlength
  have hcount : caseNumberCount = 10 ^ caseIdLength := by decide
  rw [isCaseNumber, Bool.and_eq_true, decide_eq_true_eq, hcount,
    CheckDigit.verifies_iff_luhnSum hdigits, and_iff_right hnonempty]
  constructor
  · rintro ⟨hlt, hsum⟩
    exact ⟨hlt, by rwa [← CheckDigit.luhnSum_fixedDecimal false hlt]⟩
  · rintro ⟨hlt, hsum⟩
    exact ⟨hlt, by rwa [CheckDigit.luhnSum_fixedDecimal false hlt]⟩

theorem ofNumber_eq_ok_iff : ofNumber n = .ok id ↔ n = id.number := by
  refine ⟨fun h => (number_of_ofNumber h).symm, ?_⟩
  rintro rfl
  exact ofNumber_number id

theorem exists_ofNumber_iff : (∃ id, ofNumber n = .ok id) ↔ Counted n := by
  rw [← isCaseNumber_iff]
  constructor
  · rintro ⟨id, hread⟩
    rw [ofNumber_eq_ok_iff.mp hread]
    exact id.valid
  · intro hvalid
    exact ⟨⟨n, hvalid⟩, ofNumber_eq_ok_iff.mpr rfl⟩

end Numbers

/-! ## Documents -/

section Documents

variable {document : Json} {id : CaseId}

theorem eq_integer_of_decodeNatural {greatest n : Nat} {expected : String}
    (h : Wire.decodeNatural greatest expected document = .ok n) : document = .integer n := by
  unfold Wire.decodeNatural Wire.decodeInteger at h
  split at h
  next k =>
    split at h
    next hfits =>
      have hn : k.toNat = n := Except.ok.inj h
      rw [← hn, Int.toNat_of_nonneg hfits.1]
    next => cases h
  next => cases h

/-- Only the number of a case id, as an integer, is read as that case id. -/
theorem decode_eq_ok_iff :
    Wire.decode document = .ok id ↔ document = Wire.encode id := by
  constructor
  · intro h
    obtain ⟨n, hnatural, hread⟩ := Steps.bind_eq_ok.mp h
    rw [eq_integer_of_decodeNatural hnatural]
    cases hnumber : ofNumber n with
    | error report =>
        rw [hnumber] at hread
        cases hread
    | ok found =>
        rw [hnumber] at hread
        cases hread
        rw [ofNumber_eq_ok_iff.mp hnumber]
        rfl
  · rintro rfl
    exact Wire.Faithful.readBack id

theorem exists_decode_iff {n : Nat} :
    (∃ id : CaseId, Wire.decode (.integer n) = .ok id) ↔ Counted n := by
  rw [← exists_ofNumber_iff]
  refine exists_congr fun id => ?_
  rw [decode_eq_ok_iff, ofNumber_eq_ok_iff]
  constructor
  · intro h
    exact Int.ofNat.inj (Json.integer.inj h)
  · rintro rfl
    rfl

end Documents

/-! ## Order -/

theorem toNat_digitChar_lt (d e : Nat) (hlt : d < e) (he : e < 10) :
    d.digitChar.toNat < e.digitChar.toNat := by
  rw [Nat.toNat_digitChar_of_lt_ten he, Nat.toNat_digitChar_of_lt_ten (hlt.trans he)]
  omega

theorem bytes_toText_lt_iff {a b : CaseId} :
    Text.bytes a.toText < Text.bytes b.toText ↔ a.number < b.number := by
  have hle : Text.le a.toText.toList b.toText.toList = true ↔ a.number ≤ b.number := by
    rw [toText, toText, String.toList_ofList, String.toList_ofList]
    exact Text.le_map_digits_iff toNat_digitChar_lt a.number_lt b.number_lt
  have hne : a.toText = b.toText ↔ a.number = b.number := by
    refine ⟨fun h => ?_, fun h => congrArg toText (ext_number h)⟩
    rw [← decimalValue_toText a, h, decimalValue_toText]
  rw [Text.bytes_lt_iff, hle, Ne, hne]
  omega

/-- Case ids have three forms that determine each other. A text is read exactly if it is spelled as
one, with its decimal value, and is refused with everything that is wrong with it; what passes the
tests of a text never fails to be read as a number. A number is read, by itself and from a document,
exactly if its own digits make it one. Each form of a case id is read as that case id only, and the
texts stand in the order of the numbers. -/
theorem case_ids_have_one_form :
    (∀ field text : String,
      ((∃ id, parseField field text = .ok id) ↔ Spelled text) ∧
      (∀ id, parseField field text = .ok id →
        id.number = Text.decimalValue text.toList ∧ id.number < 10 ^ caseIdLength) ∧
      (¬ Spelled text → parseField field text = .error (complaints field text)) ∧
      (Text.isBlank text = false → issues field text = [] →
        ∃ word, Text.readWord text.toList = some word ∧
          word.toNat = Text.decimalValue text.toList ∧ isCaseNumber word.toNat = true)) ∧
    (∀ n : Nat, ((∃ id, ofNumber n = .ok id) ↔ Counted n) ∧
      ((∃ id : CaseId, Wire.decode (.integer n) = .ok id) ↔ Counted n)) ∧
    (∀ id : CaseId,
      (∀ field text, parseField field text = .ok id ↔ text = id.toText) ∧
      (∀ n, ofNumber n = .ok id ↔ n = id.number) ∧
      (∀ document, Wire.decode document = .ok id ↔ document = Wire.encode id) ∧
      Wire.encode id = .integer id.number ∧ id.number ≤ Wire.maxWord64) ∧
    ∀ a b : CaseId, Text.bytes a.toText < Text.bytes b.toText ↔ a.number < b.number := by
  refine ⟨fun field text => ⟨exists_parseField_iff, fun id hread => ?_, parseField_of_not_spelled,
    readWord_of_issues⟩, fun n => ⟨exists_ofNumber_iff, exists_decode_iff⟩, fun id => ?_,
    fun a b => bytes_toText_lt_iff⟩
  · exact ⟨number_of_parseField hread, id.number_lt⟩
  · exact ⟨fun field text => parseField_eq_ok_iff, fun n => ofNumber_eq_ok_iff,
      fun document => decode_eq_ok_iff, rfl, Wire.number_le_maxWord64 id⟩

/-- Eleven digits with a wrong check digit are refused for both reasons; a case id that starts with
zeros is its number. -/
theorem case_ids_have_one_form_short :
    ¬ Spelled "79927398710" ∧
      parseField "case_ids" "79927398710" =
        .error [.caseIdLength "case_ids" "79927398710", .caseIdChecksum "case_ids" "79927398710"] ∧
      (∃ id, parseField "case_id" "0000079927398713" = .ok id) ∧
      ∃ id, ofNumber 79927398713 = .ok id := by
  obtain ⟨htexts, hnumbers, _⟩ := case_ids_have_one_form
  have hshort : ¬ Spelled "79927398710" := fun h => absurd h.length (by decide)
  have hspelled : Spelled "0000079927398713" :=
    ⟨by decide, List.all_eq_true.mp (by decide), by decide⟩
  have hcounted : Counted 79927398713 := ⟨by decide, by norm_num [luhnSum, CheckDigit.share]⟩
  have hrefused := (htexts "case_ids" "79927398710").2.2.1 hshort
  refine ⟨hshort, ?_, (htexts "case_id" "0000079927398713").1.mpr hspelled,
    (hnumbers 79927398713).1.mpr hcounted⟩
  rw [hrefused]
  decide

end CaseId

end PaymentOrders
