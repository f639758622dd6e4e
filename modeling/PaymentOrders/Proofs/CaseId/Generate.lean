import PaymentOrders.CaseId.Generate
import PaymentOrders.Proofs.CaseId.Forms
/-!
# Fresh case ids are case ids

A source of random bytes is taken two bytes at a time, up to and including the first draw below the
limit. A source with such a draw gives a case id at any time, before 1970 as well; every other
source is exhausted, and that is the only way to fail.
-/

namespace PaymentOrders.CaseId

/-! ## Draws -/

/-- The draws in a source, two bytes each. A last single byte is no draw. -/
def drawValues : List UInt8 → List Nat
  | high :: low :: rest => drawValue high low :: drawValues rest
  | _ => []

/-- The first draw below the limit is the one at a position. -/
structure FirstDraw (random : List UInt8) (position sample : Nat) : Prop where
  drawn : (drawValues random)[position]? = some sample
  below : sample < drawLimit
  first : ∀ earlier < position, ∀ d, (drawValues random)[earlier]? = some d → drawLimit ≤ d

section Draws

variable {random rest : List UInt8} {position sample : Nat}

theorem firstDraw_zero {high low : UInt8} (hbelow : drawValue high low < drawLimit) :
    FirstDraw (high :: low :: rest) 0 (drawValue high low) where
  drawn := rfl
  below := hbelow
  first := fun _ hearlier => absurd hearlier (Nat.not_lt_zero _)

theorem firstDraw_succ_iff {high low : UInt8} (hover : drawLimit ≤ drawValue high low) :
    FirstDraw (high :: low :: rest) (position + 1) sample ↔ FirstDraw rest position sample := by
  constructor
  · rintro ⟨hdrawn, hbelow, hfirst⟩
    refine ⟨hdrawn, hbelow, fun earlier hearlier d hd => ?_⟩
    exact hfirst (earlier + 1) (Nat.succ_lt_succ hearlier) d hd
  · rintro ⟨hdrawn, hbelow, hfirst⟩
    refine ⟨hdrawn, hbelow, fun earlier hearlier d hd => ?_⟩
    cases earlier with
    | zero => exact hover.trans_eq (Option.some.inj hd)
    | succ earlier => exact hfirst earlier (Nat.lt_of_succ_lt_succ hearlier) d hd

theorem draw_eq_none_iff : draw random = none ↔ ∀ d ∈ drawValues random, drawLimit ≤ d := by
  induction random using drawValues.induct with
  | case1 high low rest ih =>
      rw [draw, drawValues, List.forall_mem_cons]
      split
      next hbelow => simp [hbelow]
      next hover => rw [ih, and_iff_right (Nat.le_of_not_lt hover)]
  | case2 random hshort =>
      have hdraw : draw random = none := by
        rw [draw]
        exact hshort
      have hvalues : drawValues random = [] := by
        rw [drawValues]
        exact hshort
      rw [hdraw, hvalues]
      simp

/-- What is taken of a source are the bytes of its draws up to the first one below the limit. -/
theorem draw_of_firstDraw (h : FirstDraw random position sample) :
    draw random = some (sample, random.drop (2 * (position + 1))) := by
  induction random using drawValues.induct generalizing position with
  | case1 high low rest ih =>
      rw [draw]
      cases position with
      | zero =>
          cases h.drawn
          rw [if_pos h.below]
          rfl
      | succ position =>
          have hover : drawLimit ≤ drawValue high low :=
            h.first 0 (Nat.succ_pos position) _ rfl
          rw [if_neg (Nat.not_lt.mpr hover), ih ((firstDraw_succ_iff hover).mp h)]
          rfl
  | case2 random hshort =>
      have hdrawn := h.drawn
      rw [drawValues] at hdrawn
      · cases hdrawn
      · exact hshort

theorem exists_firstDraw (h : ∃ d ∈ drawValues random, d < drawLimit) :
    ∃ position sample, FirstDraw random position sample := by
  induction random using drawValues.induct with
  | case1 high low rest ih =>
      obtain ⟨d, hd, hlt⟩ := h
      by_cases hbelow : drawValue high low < drawLimit
      · exact ⟨0, _, firstDraw_zero hbelow⟩
      · have hrest : d ∈ drawValues rest := by
          rw [drawValues, List.mem_cons] at hd
          rcases hd with rfl | hd
          · exact absurd hlt hbelow
          · exact hd
        obtain ⟨position, sample, hfirst⟩ := ih ⟨d, hrest, hlt⟩
        exact ⟨position + 1, sample, (firstDraw_succ_iff (Nat.le_of_not_lt hbelow)).mpr hfirst⟩
  | case2 random hshort =>
      obtain ⟨d, hd, _⟩ := h
      rw [drawValues] at hd
      · cases hd
      · exact hshort

end Draws

/-! ## The clock -/

/-- The full milliseconds since 1970 of an instant, none of an instant before. -/
structure Elapsed (nanos : Int) (millis : Nat) : Prop where
  before : nanos < 0 → millis = 0
  since : 0 ≤ nanos → millis * 1000000 ≤ nanos ∧ nanos < (millis + 1) * 1000000

theorem elapsed_clockMillis (nanos : Int) : Elapsed nanos (clockMillis nanos) where
  before := by
    intro hbefore
    have hopposite := Int.tdiv_nonneg (by omega : 0 ≤ -nanos) (by omega : (0 : Int) ≤ 1000000)
    rw [Int.neg_tdiv] at hopposite
    rw [clockMillis]
    omega
  since := by
    intro hsince
    rw [clockMillis, Int.tdiv_eq_ediv_of_nonneg hsince]
    omega

theorem clockText_eq (nanos : Int) :
    clockText nanos =
      Text.fixedDecimal clockDigits (Text.leading clockDigits (clockMillis nanos)) :=
  Text.take_paddedDecimal (by decide) _

/-! ## Texts -/

/-- The text of a fresh case id: the leading digits of the time, the last digits of a draw and the
digit that completes them. -/
structure Fresh (nanos : Int) (sample : Nat) (text : String) : Prop where
  parts : ∃ millis, Elapsed nanos millis ∧
    text.toList = CheckDigit.complete
      (Text.fixedDecimal clockDigits (Text.leading clockDigits millis) ++
        Text.fixedDecimal randomDigits (sample % 10 ^ randomDigits))
  early : nanos < 0 → text.toList.take clockDigits = List.replicate clockDigits '0'
  spelled : Spelled text
  verifies : CheckDigit.verifies text.toList = true

theorem clockText_of_neg {nanos : Int} (hneg : nanos < 0) :
    clockText nanos = List.replicate clockDigits '0' := by
  have hzero : Text.leading clockDigits 0 = 0 := Text.leading_of_lt (by decide) (by decide)
  rw [clockText_eq, (elapsed_clockMillis nanos).before hneg, hzero, Text.fixedDecimal_zero_right]

theorem verifies_complete (cs : List Char) :
    CheckDigit.verifies (CheckDigit.complete cs) = true :=
  CheckDigit.verifies_append_singleton_iff.mpr (CheckDigit.digit_toChar_compute cs)

theorem isDigit_of_mem_complete {cs : List Char} (hdigits : ∀ c ∈ cs, c.isDigit = true) :
    ∀ c ∈ CheckDigit.complete cs, c.isDigit = true := by
  intro c hc
  rcases List.mem_append.mp hc with hc | hc
  · exact hdigits c hc
  · rw [List.mem_singleton.mp hc]
    exact (CheckDigit.digit_toChar_compute cs).1

theorem fresh_complete (nanos : Int) (sample : Nat) :
    Fresh nanos sample (String.ofList (CheckDigit.complete
      (clockText nanos ++ Text.fixedDecimal randomDigits sample))) where
  parts := by
    refine ⟨clockMillis nanos, elapsed_clockMillis nanos, ?_⟩
    rw [String.toList_ofList, clockText_eq, Text.fixedDecimal_mod]
  early := by
    intro hneg
    rw [String.toList_ofList, clockText_of_neg hneg]
    rfl
  spelled := by
    have hdigits : ∀ c ∈ CheckDigit.complete (clockText nanos ++
        Text.fixedDecimal randomDigits sample), c.isDigit = true := by
      apply isDigit_of_mem_complete
      rw [clockText_eq, List.forall_mem_append]
      exact ⟨fun c hc => Text.isDigit_of_mem_fixedDecimal hc,
        fun c hc => Text.isDigit_of_mem_fixedDecimal hc⟩
    refine ⟨?_, ?_, ?_⟩
    · rw [← String.length_toList, String.toList_ofList, clockText_eq]
      simp [CheckDigit.complete, clockDigits, randomDigits, caseIdLength]
    · rw [String.toList_ofList]
      exact hdigits
    · rw [String.toList_ofList]
      exact ((CheckDigit.verifies_iff_luhnSum hdigits).mp (verifies_complete _)).2
  verifies := by
    rw [String.toList_ofList]
    exact verifies_complete _

section Generate

variable {nanos : Int} {random : List UInt8} {position sample : Nat}

theorem generateText_of_firstDraw (nanos : Int) (h : FirstDraw random position sample) :
    ∃ text, Fresh nanos sample text ∧
      generateText nanos random = .ok (text, random.drop (2 * (position + 1))) := by
  refine ⟨_, fresh_complete nanos sample, ?_⟩
  simp only [generateText, draw_of_firstDraw h]

theorem generateText_of_exhausted (nanos : Int) (h : ∀ d ∈ drawValues random, drawLimit ≤ d) :
    generateText nanos random = .error exhausted := by
  simp only [generateText, draw_eq_none_iff.mpr h]

theorem exists_generate_of_text {text : String} {rest : List UInt8}
    (htext : generateText nanos random = .ok (text, rest)) (hspelled : Spelled text) :
    ∃ id, parse text = .ok id ∧ generate nanos random = .ok id := by
  obtain ⟨id, hread⟩ := exists_parseField_iff.mpr hspelled
  refine ⟨id, hread, ?_⟩
  simp only [generate, htext, parse, hread, Except.mapError]

/-- A source without a draw below the limit is exhausted, whatever the time, and that is the only
way to fail. Any other source is taken up to and including its first such draw, with which the time
makes a text that is read as a case id. -/
theorem generated_ids_are_case_ids (nanos : Int) (random : List UInt8) :
    (generateText nanos random = .error exhausted ↔ ∀ d ∈ drawValues random, drawLimit ≤ d) ∧
    (generate nanos random = .error exhausted ↔ ∀ d ∈ drawValues random, drawLimit ≤ d) ∧
    (∀ error, generateText nanos random = .error error ∨ generate nanos random = .error error →
      error = exhausted) ∧
    ((∃ d ∈ drawValues random, d < drawLimit) →
      ∃ position sample text id, FirstDraw random position sample ∧
        generateText nanos random = .ok (text, random.drop (2 * (position + 1))) ∧
        Fresh nanos sample text ∧ parse text = .ok id ∧ generate nanos random = .ok id) := by
  by_cases hall : ∀ d ∈ drawValues random, drawLimit ≤ d
  · have htext := generateText_of_exhausted nanos hall
    have hid : generate nanos random = .error exhausted := by simp only [generate, htext]
    refine ⟨iff_of_true htext hall, iff_of_true hid hall, ?_, ?_⟩
    · rintro error (herror | herror)
      · cases htext.symm.trans herror
        rfl
      · cases hid.symm.trans herror
        rfl
    · rintro ⟨d, hd, hbelow⟩
      exact absurd hbelow (Nat.not_lt.mpr (hall d hd))
  · have hsome : ∃ d ∈ drawValues random, d < drawLimit := by simpa using hall
    obtain ⟨position, sample, hfirst⟩ := exists_firstDraw hsome
    obtain ⟨text, hfresh, htext⟩ := generateText_of_firstDraw nanos hfirst
    obtain ⟨id, hread, hid⟩ := exists_generate_of_text htext hfresh.spelled
    refine ⟨iff_of_false ?_ hall, iff_of_false ?_ hall, ?_, ?_⟩
    · rw [htext]
      rintro ⟨⟩
    · rw [hid]
      rintro ⟨⟩
    · rw [htext, hid]
      rintro error (herror | herror)
      · cases herror
      · cases herror
    · exact fun _ => ⟨position, sample, text, id, hfirst, htext, hfresh, hread, hid⟩

end Generate

/-- One draw is thrown away just before 1970, and one byte is left. -/
theorem generated_ids_are_case_ids_redrawn :
    (∃ d ∈ drawValues [234, 96, 48, 57, 7], d < drawLimit) ∧
      generateText (-1) [234, 96, 48, 57, 7] = .ok ("0000000000023457", [7]) ∧
      ∃ id, parse "0000000000023457" = .ok id ∧ generate (-1) [234, 96, 48, 57, 7] = .ok id := by
  have hsome : ∃ d ∈ drawValues [234, 96, 48, 57, 7], d < drawLimit := by decide
  have hrun : generateText (-1) [234, 96, 48, 57, 7] = .ok ("0000000000023457", [7]) := by
    decide +kernel
  obtain ⟨_, _, _, hfresh⟩ := generated_ids_are_case_ids (-1) [234, 96, 48, 57, 7]
  obtain ⟨position, sample, text, id, _, htext, _, hread, hid⟩ := hfresh hsome
  obtain ⟨rfl, _⟩ := Prod.mk.inj (Except.ok.inj (hrun.symm.trans htext))
  exact ⟨hsome, hrun, id, hread, hid⟩

end PaymentOrders.CaseId
