import PaymentOrders.CaseId
import PaymentOrders.Proofs.Text.Numerals
/-!
# Case ids and their numbers

A case id is read back from its number, and a number that is read as a case id is the number of
that case id.
-/

namespace PaymentOrders

theorem Text.not_isSpace_of_isDigit {c : Char} (hc : c.isDigit = true) : isSpace c = false := by
  have hrange := isDigit_iff_toNat.mp hc
  simp only [isSpace, Bool.or_eq_false_iff, Bool.and_eq_false_iff, decide_eq_false_iff_not,
    beq_eq_false_iff_ne]
  omega

theorem Text.not_isBlank_of_digit {s : String} {c : Char} (hmem : c ∈ s.toList)
    (hc : c.isDigit = true) : isBlank s = false := by
  rw [isBlank, List.all_eq_false]
  exact ⟨c, hmem, by simp [not_isSpace_of_isDigit hc]⟩

namespace CaseId

theorem number_lt (id : CaseId) : id.number < 10 ^ caseIdLength := by
  have hvalid := id.valid
  rw [isCaseNumber, Bool.and_eq_true, decide_eq_true_eq] at hvalid
  exact hvalid.1.trans_eq (by decide)

theorem mk_eq {n : Nat} {id : CaseId} (valid : isCaseNumber n = true) (hn : n = id.number) :
    (⟨n, valid⟩ : CaseId) = id := by
  subst hn
  rfl

theorem ext_number {a b : CaseId} (h : a.number = b.number) : a = b := by
  cases a
  cases b
  simp_all

@[simp] theorem number_inj {a b : CaseId} : a.number = b.number ↔ a = b :=
  ⟨ext_number, congrArg number⟩

/-- The digits of a case id pass every test that a request's text has to pass. -/
theorem issues_toText (field : String) (id : CaseId) : issues field id.toText = [] := by
  have hvalid := id.valid
  rw [isCaseNumber, Bool.and_eq_true] at hvalid
  have hdigits : (Text.fixedDecimal caseIdLength id.number).all Char.isDigit = true :=
    List.all_eq_true.mpr fun c hc => Text.isDigit_of_mem_fixedDecimal hc
  simp [issues, toText, hvalid.2, hdigits]

theorem not_isBlank_toText (id : CaseId) : Text.isBlank id.toText = false := by
  have hlength : (Text.fixedDecimal caseIdLength id.number).length = caseIdLength :=
    Text.length_fixedDecimal ..
  obtain ⟨c, hc⟩ := List.exists_mem_of_length_pos (by rw [hlength]; decide)
  apply Text.not_isBlank_of_digit (c := c)
  · simpa [toText] using hc
  · exact Text.isDigit_of_mem_fixedDecimal hc

theorem decimalValue_toText (id : CaseId) : Text.decimalValue id.toText.toList = id.number := by
  rw [toText, String.toList_ofList]
  exact Text.decimalValue_fixedDecimal id.number_lt

theorem parseField_toText (field : String) (id : CaseId) :
    parseField field id.toText = .ok id := by
  have hvalid : isCaseNumber (Text.decimalValue id.toText.toList) = true := by
    rw [decimalValue_toText]
    exact id.valid
  have hread := mk_eq hvalid (decimalValue_toText id)
  simp only [parseField, Issue.ofBlank, not_isBlank_toText, issues_toText, hvalid, hread]
  rfl

@[simp] theorem ofNumber_number (id : CaseId) : ofNumber id.number = .ok id := by
  have hpadded : Text.paddedDecimal caseIdLength id.number =
      Text.fixedDecimal caseIdLength id.number :=
    Text.paddedDecimal_eq_fixedDecimal (by decide) id.number_lt
  rw [ofNumber, hpadded]
  exact parseField_toText defaultField id

/-! ## Reading -/

theorem number_of_parseField {field value : String} {id : CaseId}
    (h : parseField field value = .ok id) : id.number = Text.decimalValue value.toList := by
  unfold parseField at h
  split at h
  · cases h
  · split at h
    · split at h
      · cases h
        rfl
      · cases h
    · cases h

/-- A text without issues is written as the digits of its own number, and those are a case id. -/
theorem eq_fixedDecimal_of_issues {field value : String} (hsome : Text.isBlank value = false)
    (h : issues field value = []) :
    value.toList = Text.fixedDecimal caseIdLength (Text.decimalValue value.toList) ∧
      isCaseNumber (Text.decimalValue value.toList) = true := by
  simp only [issues, hsome, Bool.false_eq_true, if_false, List.append_eq_nil_iff,
    ite_eq_left_iff, List.cons_ne_nil, imp_false, not_not, Bool.and_eq_true,
    List.all_eq_true] at h
  obtain ⟨hlength, hdigits, hverifies⟩ := h
  rw [← String.length_toList] at hlength
  have hwritten := Text.fixedDecimal_decimalValue hdigits
  have hlt := Text.decimalValue_lt value.toList
  rw [hlength] at hwritten hlt
  refine ⟨hwritten.symm, ?_⟩
  rw [isCaseNumber, hwritten, hverifies, Bool.and_true, decide_eq_true_eq]
  exact hlt.trans_eq (by decide)

/-- A case id has one text only. -/
theorem eq_toText_of_parseField {field value : String} {id : CaseId}
    (h : parseField field value = .ok id) : value = id.toText := by
  have hnumber := number_of_parseField h
  unfold parseField Issue.ofBlank at h
  split at h
  · cases h
  next hsome =>
    have hblank : Text.isBlank value = false := by simpa using hsome
    split at h
    next hissues =>
      obtain ⟨hwritten, _⟩ := eq_fixedDecimal_of_issues hblank hissues
      rw [toText, hnumber, ← hwritten, String.ofList_toList]
    next => cases h

/-- A text that is not blank is refused with the issues that it has, and read if it has none. -/
theorem ofRead_parseField {field value : String} (hsome : Text.isBlank value = false) :
    Report.ofRead (parseField field value) = issues field value := by
  have hblank : Issue.ofBlank field value = none := if_neg (by simp [hsome])
  simp only [parseField, hblank]
  split
  next hissues =>
    obtain ⟨_, hvalid⟩ := eq_fixedDecimal_of_issues hsome hissues
    rw [dif_pos hvalid, hissues]
    rfl
  next => rfl

theorem number_of_ofNumber {n : Nat} {id : CaseId} (h : ofNumber n = .ok id) :
    id.number = n := by
  rw [number_of_parseField h, String.toList_ofList, Text.decimalValue_paddedDecimal]

end CaseId

end PaymentOrders
