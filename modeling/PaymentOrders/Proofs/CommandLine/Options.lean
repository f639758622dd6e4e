import Mathlib.Data.List.Nodup
import PaymentOrders.Proofs.CommandLine.Shape
/-!
# Options

Arguments give options one behind the other, each with a value that its rule accepts, and none
twice that may stand only once. An argument that names an option is never anything else, so the
options can be read off the arguments without their order.
-/

namespace PaymentOrders.CommandLine

def named (options : List (OptionRule × String)) : Given :=
  options.map fun option => (option.1.name, option.2)

/-- Arguments that give one option. The value of a flag is empty. -/
inductive GivesOne (rules : List OptionRule) : List String → OptionRule × String → Prop where
  | flag {rule : OptionRule} (hrule : rule ∈ rules) (hflag : rule.arity = .flag) :
      GivesOne rules [dashed rule.name] (rule, "")
  | joined {rule : OptionRule} (hrule : rule ∈ rules) (hvalued : rule.arity ≠ .flag)
      (value : String) : GivesOne rules [joined rule.name value] (rule, value)
  | apart {rule : OptionRule} {value : String} (hrule : rule ∈ rules) (hvalued : rule.arity ≠ .flag)
      (hplain : IsPlain value) : GivesOne rules [dashed rule.name, value] (rule, value)

/-- Arguments that give options, one behind the other. -/
inductive Gives (rules : List OptionRule) : List String → List (OptionRule × String) → Prop where
  | nil : Gives rules [] []
  | cons {part arguments : List String} {option : OptionRule × String}
      {options : List (OptionRule × String)} (hone : GivesOne rules part option)
      (hrest : Gives rules arguments options) :
      Gives rules (part ++ arguments) (option :: options)

/-- Arguments that give an option a value: in one argument, or in two that follow each other. -/
def GivesValue (arguments : List String) (name value : String) : Prop :=
  joined name value ∈ arguments ∨ [dashed name, value] <:+: arguments

/-- Options that may stand together: each value is accepted, and an option that is given again is
one that may be given many times. -/
structure Fit (options : List (OptionRule × String)) : Prop where
  accepted : ∀ option ∈ options, option.1.accepts option.2 = true
  single : options.Pairwise fun first second =>
    first.1.name = second.1.name → second.1.arity = .many

/-- The names of a level that can be told apart from each other, from values and from requests for
help. -/
structure Tellable (rules : List OptionRule) (below : List String) : Prop where
  filled : ∀ rule ∈ rules, rule.name ≠ ""
  noEquals : ∀ rule ∈ rules, '=' ∉ rule.name.toList
  noHelp : ∀ rule ∈ rules, rule.name ≠ "help"
  nodup : (rules.map OptionRule.name).Nodup
  plain : ∀ name ∈ below, IsPlain name

section Options

variable {rules : List OptionRule} {below : List String} {rule : OptionRule}
  {arguments others : List String} {options more : List (OptionRule × String)}
  {name value : String}
  {given : Given}

theorem named_append (options more : List (OptionRule × String)) :
    named (options ++ more) = named options ++ named more :=
  List.map_append

theorem GivesOne.gives {option : OptionRule × String} (hone : GivesOne rules arguments option) :
    Gives rules arguments [option] := by
  have hgives := Gives.cons hone .nil
  rwa [List.append_nil] at hgives

theorem Gives.append (hgives : Gives rules arguments options) (hmore : Gives rules others more) :
    Gives rules (arguments ++ others) (options ++ more) := by
  induction hgives with
  | nil => exact hmore
  | cons hone _ ih =>
      rw [List.append_assoc]
      exact .cons hone ih

theorem GivesOne.mem_rules {option : OptionRule × String}
    (hone : GivesOne rules arguments option) : option.1 ∈ rules := by
  cases hone with
  | flag hrule | joined hrule | apart hrule => exact hrule

theorem Gives.mem_rules (hgives : Gives rules arguments options) {option : OptionRule × String}
    (hoption : option ∈ options) : option.1 ∈ rules := by
  induction hgives with
  | nil => cases hoption
  | cons hone _ ih =>
      rcases List.mem_cons.mp hoption with rfl | hoption
      · exact hone.mem_rules
      · exact ih hoption

theorem Gives.exists_argument (hgives : Gives rules arguments options)
    {option : OptionRule × String} (hoption : option ∈ options) :
    dashed option.1.name ∈ arguments ∨ joined option.1.name option.2 ∈ arguments := by
  induction hgives with
  | nil => cases hoption
  | cons hone _ ih =>
      rcases List.mem_cons.mp hoption with rfl | hoption
      · cases hone with
        | flag | joined | apart => simp
      · exact (ih hoption).imp (List.mem_append_right _) (List.mem_append_right _)

theorem fit_nil : Fit [] := ⟨by simp, .nil⟩

theorem fit_append : Fit (options ++ more) ↔ Fit options ∧ Fit more ∧
    ∀ first ∈ options, ∀ second ∈ more, first.1.name = second.1.name → second.1.arity = .many := by
  constructor
  · rintro ⟨haccepted, hsingle⟩
    rw [List.forall_mem_append] at haccepted
    rw [List.pairwise_append] at hsingle
    exact ⟨⟨haccepted.1, hsingle.1⟩, ⟨haccepted.2, hsingle.2.1⟩, hsingle.2.2⟩
  · rintro ⟨hfit, hmore, hapart⟩
    exact ⟨List.forall_mem_append.mpr ⟨hfit.accepted, hmore.accepted⟩,
      List.pairwise_append.mpr ⟨hfit.single, hmore.single, hapart⟩⟩

theorem has_named (name : String) (options : List (OptionRule × String)) :
    (named options).has name = true ↔ ∃ option ∈ options, option.1.name = name := by
  simp [named, Given.has]

theorem fit_append_singleton : Fit (options ++ [(rule, value)]) ↔
    Fit options ∧ rule.accepts value = true ∧
      ((∃ option ∈ options, option.1.name = rule.name) → rule.arity = .many) := by
  have hlast : Fit [(rule, value)] ↔ rule.accepts value = true :=
    ⟨fun h => h.accepted _ (List.mem_singleton_self _),
      fun h => ⟨by simpa using h, List.pairwise_singleton ..⟩⟩
  rw [fit_append, hlast]
  simp

theorem mem_named_iff : (name, value) ∈ named options ↔
    ∃ rule, rule.name = name ∧ (rule, value) ∈ options := by
  simp only [named, List.mem_map, Prod.mk.injEq]
  constructor
  · rintro ⟨⟨rule, _⟩, hoption, rfl, rfl⟩
    exact ⟨rule, rfl, hoption⟩
  · rintro ⟨rule, rfl, hoption⟩
    exact ⟨(rule, value), hoption, rfl, rfl⟩

/-- An option that may be given once has one value. -/
theorem Fit.unique (hfit : Fit options) {first second : OptionRule × String}
    (hfirst : first ∈ options) (hsecond : second ∈ options) (hname : first.1.name = second.1.name)
    (honce : first.1.arity ≠ .many) (htoo : second.1.arity ≠ .many) : first = second := by
  obtain ⟨i, hi, rfl⟩ := List.getElem_of_mem hfirst
  obtain ⟨j, hj, rfl⟩ := List.getElem_of_mem hsecond
  have hsingle := List.pairwise_iff_getElem.mp hfit.single
  rcases Nat.lt_trichotomy i j with hlt | rfl | hlt
  · exact absurd (hsingle i j hi hj hlt hname) htoo
  · rfl
  · exact absurd (hsingle j i hj hi hlt hname.symm) honce

/-- The reader adds an option exactly if it fits to those before it. -/
theorem add_eq_some_iff (hfit : Fit options) :
    Progress.add rule value (named options) = some given ↔
      Fit (options ++ [(rule, value)]) ∧ named (options ++ [(rule, value)]) = given := by
  have hfits : (rule.accepts value && (rule.arity == .many || !(named options).has rule.name)) =
      true ↔ Fit (options ++ [(rule, value)]) := by
    rw [fit_append_singleton, ← has_named]
    cases (named options).has rule.name <;> simp [hfit]
  rw [Progress.add, named_append, ← hfits]
  split
  next h => exact ⟨fun heq => ⟨h, Option.some.inj heq⟩, fun heq => congrArg some heq.2⟩
  next h => exact ⟨nofun, fun heq => absurd heq.1 h⟩

theorem find?_rule (htell : Tellable rules below) (hrule : rule ∈ rules) :
    rules.find? (fun other => other.name == rule.name) = some rule := by
  obtain ⟨other, hother⟩ : ∃ other, rules.find? (fun other => other.name == rule.name) =
      some other :=
    Option.isSome_iff_exists.mp (List.find?_isSome.mpr ⟨rule, hrule, beq_self_eq_true _⟩)
  have hname : other.name = rule.name := by simpa using List.find?_some hother
  rw [hother, List.inj_on_of_nodup_map htell.nodup (List.mem_of_find?_eq_some hother) hrule hname]

theorem shape_rule (htell : Tellable rules below) (hrule : rule ∈ rules) :
    shape (dashed rule.name) = .long rule.name none :=
  shape_dashed (htell.filled rule hrule) (htell.noEquals rule hrule)

theorem GivesOne.of_long (htell : Tellable rules below) {option : OptionRule × String}
    (hone : GivesOne rules arguments option) {argument name : String} {value? : Option String}
    (hmem : argument ∈ arguments) (hshape : shape argument = .long name value?) :
    option.1.name = name ∧ ∀ value ∈ value?, option.2 = value := by
  cases hone with
  | flag hrule _ =>
      obtain rfl := List.mem_singleton.mp hmem
      obtain ⟨rfl, rfl⟩ := Shape.long.inj ((shape_rule htell hrule).symm.trans hshape)
      exact ⟨rfl, nofun⟩
  | joined hrule _ value =>
      obtain rfl := List.mem_singleton.mp hmem
      have hjoined := shape_joined (htell.noEquals _ hrule) value
      obtain ⟨rfl, rfl⟩ := Shape.long.inj (hjoined.symm.trans hshape)
      exact ⟨rfl, fun _ h => Option.some.inj h⟩
  | apart hrule _ hplain =>
      rcases List.mem_cons.mp hmem with rfl | hmem
      · obtain ⟨rfl, rfl⟩ := Shape.long.inj ((shape_rule htell hrule).symm.trans hshape)
        exact ⟨rfl, nofun⟩
      · obtain rfl := List.mem_singleton.mp hmem
        simp [shape_plain hplain] at hshape

/-- An argument that names an option gives it. -/
theorem Gives.of_long (htell : Tellable rules below) (hgives : Gives rules arguments options)
    {argument name : String} {value? : Option String} (hmem : argument ∈ arguments)
    (hshape : shape argument = .long name value?) :
    ∃ option ∈ options, option.1.name = name ∧ ∀ value ∈ value?, option.2 = value := by
  induction hgives with
  | nil => cases hmem
  | cons hone _ ih =>
      rcases List.mem_append.mp hmem with hmem | hmem
      · exact ⟨_, List.mem_cons_self, hone.of_long htell hmem hshape⟩
      · obtain ⟨option, hoption, hfound⟩ := ih hmem
        exact ⟨option, List.mem_cons_of_mem _ hoption, hfound⟩

theorem GivesOne.of_apart (htell : Tellable rules below) {option : OptionRule × String}
    (hone : GivesOne rules arguments option) {name value : String} {before after tail : List String}
    (hshape : shape (dashed name) = .long name none)
    (hvalued : ∀ rule ∈ rules, rule.name = name → rule.arity ≠ .flag)
    (hsplit : arguments ++ tail = before ++ dashed name :: value :: after) :
    option.1.name = name ∧ option.2 = value ∨
      ∃ between, tail = between ++ dashed name :: value :: after := by
  cases hone with
  | flag hrule hflag =>
      cases before with
      | nil =>
          obtain ⟨hhead, -⟩ := List.cons.inj hsplit
          have hnames := (shape_rule htell hrule).symm.trans (hhead ▸ hshape)
          exact absurd hflag (hvalued _ hrule (Shape.long.inj hnames).1)
      | cons _ before => exact .inr ⟨before, (List.cons.inj hsplit).2⟩
  | joined hrule _ given =>
      cases before with
      | nil =>
          obtain ⟨hhead, -⟩ := List.cons.inj hsplit
          have hjoined := shape_joined (htell.noEquals _ hrule) given
          cases hjoined.symm.trans (hhead ▸ hshape)
      | cons _ before => exact .inr ⟨before, (List.cons.inj hsplit).2⟩
  | apart hrule _ hplain =>
      match before with
      | [] =>
          obtain ⟨hhead, hrest⟩ := List.cons.inj hsplit
          have hnames := (shape_rule htell hrule).symm.trans (hhead ▸ hshape)
          exact .inl ⟨(Shape.long.inj hnames).1, (List.cons.inj hrest).1⟩
      | [_] =>
          obtain ⟨hvalue, -⟩ := List.cons.inj (List.cons.inj hsplit).2
          cases (shape_plain hplain).symm.trans (hvalue ▸ hshape)
      | _ :: _ :: before => exact .inr ⟨before, (List.cons.inj (List.cons.inj hsplit).2).2⟩

/-- The argument behind the name of an option with a value is that value, wherever the two stand:
among the arguments that are read, or altogether behind them. -/
theorem Gives.of_apart (htell : Tellable rules below) (hgives : Gives rules arguments options)
    {name value : String} {before after tail : List String}
    (hshape : shape (dashed name) = .long name none)
    (hvalued : ∀ rule ∈ rules, rule.name = name → rule.arity ≠ .flag)
    (hsplit : arguments ++ tail = before ++ dashed name :: value :: after) :
    (∃ option ∈ options, option.1.name = name ∧ option.2 = value) ∨
      ∃ between, tail = between ++ dashed name :: value :: after := by
  induction hgives generalizing before with
  | nil => exact .inr ⟨before, hsplit⟩
  | cons hone _ ih =>
      rw [List.append_assoc] at hsplit
      rcases hone.of_apart htell hshape hvalued hsplit with hfound | ⟨between, hbetween⟩
      · exact .inl ⟨_, List.mem_cons_self, hfound⟩
      · rcases ih hbetween with ⟨option, hoption, hfound⟩ | hbehind
        · exact .inl ⟨option, List.mem_cons_of_mem _ hoption, hfound⟩
        · exact .inr hbehind

theorem not_mem_below (htell : Tellable rules below) {argument : String}
    (hshape : shape argument ≠ .plain) : argument ∉ below :=
  fun hmem => hshape (shape_plain (htell.plain argument hmem))

end Options

end PaymentOrders.CommandLine
