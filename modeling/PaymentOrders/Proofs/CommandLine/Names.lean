import PaymentOrders.CommandLine.Command
import PaymentOrders.Proofs.CommandLine.Grammar
/-!
# Names and numbers of the program

The commands and options of the program can be told apart by their names, so its arguments are read
in one way. What is called a number takes one in decimal.
-/

namespace PaymentOrders.CommandLine

/-! ## The grammar -/

instance (argument : String) : Decidable (IsPlain argument) :=
  inferInstanceAs (Decidable (_ ∨ _))

theorem length_of_option {path : List String} {rule : OptionRule} (hrule : rule ∈ options path) :
    path = [] ∨ path.length = 2 := by
  unfold options at hrule
  split at hrule <;> first | exact .inl rfl | exact .inr rfl | cases hrule

theorem name_of_option_deep {path : List String} {rule : OptionRule} (hrule : rule ∈ options path)
    (hpath : path ≠ []) : rule.name ≠ "db" ∧ rule.name ≠ "actor" := by
  revert rule
  unfold options
  split
  next => exact absurd rfl hpath
  all_goals decide

theorem length_of_command {path : List String} {name : String} (hname : name ∈ commandsBelow path) :
    path.length ≤ 1 := by
  unfold commandsBelow at hname
  split at hname <;> first | simp | cases hname

theorem tellable_options (path : List String) :
    Tellable (options path) (grammar.names path) where
  filled := by
    unfold options
    split <;> decide
  noEquals := by
    unfold options
    split <;> decide
  noHelp := by
    unfold options
    split <;> decide
  nodup := by
    unfold options
    split <;> decide
  plain := by
    intro name hname
    have hall : ∀ name ∈ commandsBelow path ++ [Grammar.helpName], IsPlain name := by
      unfold commandsBelow
      split <;> decide
    rw [Grammar.names] at hname
    split at hname
    next => cases hname
    next => exact hall name hname

theorem regular_grammar : grammar.Regular where
  positive := by decide
  tellable := tellable_options
  noHelp := by
    intro path
    change Grammar.helpName ∉ commandsBelow path
    unfold commandsBelow
    split <;> decide
  shallow := by
    intro path hdeep
    refine List.eq_nil_iff_forall_not_mem.mpr fun name hname => ?_
    have hlength := length_of_command hname
    change 3 ≤ path.length + 1 at hdeep
    omega
  apart := by
    intro path inner hinner rule hrule other hother hname
    rcases length_of_option hrule with rfl | hlength
    · have hnames := name_of_option_deep hother hinner
      have houter : ∀ rule ∈ options [], rule.name = "db" ∨ rule.name = "actor" := by decide
      exact (hname ▸ houter rule hrule).elim hnames.1 hnames.2
    · have hpositive := List.length_pos_of_ne_nil hinner
      rcases length_of_option hother with hnil | hother
      · exact hinner (List.append_eq_nil_iff.mp hnil).2
      · rw [List.length_append] at hother
        omega

section Names

variable {path : List String} {rule : OptionRule}

@[elab_as_elim] theorem of_rulesTo {P : OptionRule → Prop} (hrule : rule ∈ grammar.rulesTo path)
    (hoptions : ∀ path, ∀ rule ∈ options path, P rule) : P rule := by
  obtain ⟨path, _, hrule⟩ := List.mem_flatMap.mp hrule
  exact hoptions path rule hrule

theorem once_of_name (hrule : rule ∈ grammar.rulesTo path) :
    rule.name = "db" ∨ rule.name = "actor" → rule.arity ≠ .many := by
  refine of_rulesTo hrule fun path => ?_
  unfold options
  split <;> decide

/-- What is called a number everywhere is one. -/
theorem number_of_name (hrule : rule ∈ grammar.rulesTo path) :
    rule.name ∈ ["page", "size", "count"] → rule = numberOption rule.name := by
  refine of_rulesTo hrule fun path => ?_
  unfold options
  split <;>
    simp [fieldOptions, keyOptions, textOption, textsOption, pathOption, numberOption,
      timestampOption]

theorem once_of_number (hrule : rule ∈ grammar.rulesTo path)
    (hname : rule.name ∈ ["page", "size", "count"]) : rule.arity = .once := by
  rw [number_of_name hrule hname]
  rfl

theorem timestamp_of_name (hrule : rule ∈ grammar.rulesTo path) :
    rule.name = "effective-from" → rule = timestampOption rule.name := by
  refine of_rulesTo hrule fun path => ?_
  unfold options
  split <;>
    simp [fieldOptions, keyOptions, textOption, textsOption, pathOption, numberOption,
      timestampOption]

theorem once_of_timestamp (hrule : rule ∈ grammar.rulesTo path)
    (hname : rule.name = "effective-from") : rule.arity = .once := by
  rw [timestamp_of_name hrule hname]
  rfl

theorem exists_readWord_of_accepts (hrule : rule ∈ grammar.rulesTo path)
    (hname : rule.name ∈ ["page", "size", "count"]) {text : String}
    (haccepts : rule.accepts text = true) : ∃ word, readWord text = some word := by
  rw [number_of_name hrule hname] at haccepts
  exact Option.isSome_iff_exists.mp haccepts

theorem exists_timestamp_of_accepts (hrule : rule ∈ grammar.rulesTo path)
    (hname : rule.name = "effective-from") {text : String} (haccepts : rule.accepts text = true) :
    ∃ timestamp, Timestamp.ofText text = .ok timestamp := by
  rw [timestamp_of_name hrule hname] at haccepts
  cases hread : Timestamp.ofText text with
  | ok timestamp => exact ⟨timestamp, rfl⟩
  | error error => simp [timestampOption, hread, Except.toOption] at haccepts

end Names

/-! ## Numbers -/

/-- A text that writes a number in decimal, behind a sign if there is one. Only zero may be
negative. -/
def IsNumeral (text : String) (n : Nat) : Prop :=
  ∃ ds, ds ≠ [] ∧ (∀ d ∈ ds, d.isDigit = true) ∧ Text.decimalValue ds = n ∧
    (text.toList = ds ∨ text.toList = '+' :: ds ∨ text.toList = '-' :: ds ∧ n = 0)

section Numbers

variable {text : String} {n : Nat} {ds : List Char}

theorem digits_eq_some_iff : readUnsigned.digits ds = some n ↔
    ds ≠ [] ∧ (∀ d ∈ ds, d.isDigit = true) ∧ Text.decimalValue ds = n := by
  have hdigits : (!ds.isEmpty && ds.all Char.isDigit) = true ↔
      ds ≠ [] ∧ ∀ d ∈ ds, d.isDigit = true := by
    simp
  rw [readUnsigned.digits, ← and_assoc, ← hdigits]
  split
  next h => exact ⟨fun heq => ⟨h, Option.some.inj heq⟩, fun heq => congrArg some heq.2⟩
  next h => exact ⟨nofun, fun heq => absurd heq.1 h⟩

theorem readUnsigned_eq_some_iff : readUnsigned text = some n ↔ IsNumeral text n := by
  rw [readUnsigned]
  split
  next ds htext =>
    rw [digits_eq_some_iff]
    constructor
    · rintro ⟨hne, hdigits, hvalue⟩
      exact ⟨ds, hne, hdigits, hvalue, .inr (.inl htext)⟩
    · rintro ⟨es, hne, hdigits, hvalue, hes | hes | ⟨hes, -⟩⟩
      · exact absurd (hdigits '+' (by simp [← hes, htext])) (by decide)
      · obtain rfl := (List.cons.inj (htext.symm.trans hes)).2
        exact ⟨hne, hdigits, hvalue⟩
      · exact absurd (List.cons.inj (htext.symm.trans hes)).1 (by decide)
  next ds htext =>
    rw [Option.filter_eq_some_iff, digits_eq_some_iff, beq_iff_eq]
    constructor
    · rintro ⟨⟨hne, hdigits, hvalue⟩, hzero⟩
      exact ⟨ds, hne, hdigits, hvalue, .inr (.inr ⟨htext, hzero⟩)⟩
    · rintro ⟨es, hne, hdigits, hvalue, hes | hes | ⟨hes, hzero⟩⟩
      · exact absurd (hdigits '-' (by simp [← hes, htext])) (by decide)
      · exact absurd (List.cons.inj (htext.symm.trans hes)).1 (by decide)
      · obtain rfl := (List.cons.inj (htext.symm.trans hes)).2
        exact ⟨⟨hne, hdigits, hvalue⟩, hzero⟩
  next hplus hminus =>
    rw [digits_eq_some_iff]
    constructor
    · rintro ⟨hne, hdigits, hvalue⟩
      exact ⟨_, hne, hdigits, hvalue, .inl rfl⟩
    · rintro ⟨es, hne, hdigits, hvalue, hes | hes | ⟨hes, -⟩⟩
      · exact ⟨hes ▸ hne, hes ▸ hdigits, hes ▸ hvalue⟩
      · exact absurd hes (hplus es)
      · exact absurd hes (hminus es)

theorem readWord_eq_some_iff {word : UInt32} :
    readWord text = some word ↔ IsNumeral text word.toNat := by
  rw [readWord, Option.bind_eq_some_iff]
  constructor
  · rintro ⟨n, hn, hword⟩
    split at hword
    next hsmall =>
      rw [← Option.some.inj hword, UInt32.toNat_ofNat_of_lt' hsmall, ← readUnsigned_eq_some_iff]
      exact hn
    next => cases hword
  · intro hnumeral
    refine ⟨word.toNat, readUnsigned_eq_some_iff.mpr hnumeral, ?_⟩
    rw [if_pos word.toNat_lt]
    exact congrArg some UInt32.ofNat_toNat

end Numbers

end PaymentOrders.CommandLine
