import Mathlib.Data.List.Infix
import PaymentOrders.Proofs.CommandLine.Level
/-!
# Arguments of a program

Arguments are read as a command when they name it level by level, with fitting options on each of
them and all that the command must have; and as a request for help when they ask for it behind
such options. Whatever is neither is refused.
-/

namespace PaymentOrders.CommandLine.Grammar

/-- Arguments, from the command of a path on, that name the command of the last path and give
options of the commands on the way. -/
inductive Reads (grammar : Grammar) :
    List String → List String → List String → List (OptionRule × String) → Prop where
  | here {path front arguments : List String} {options : List (OptionRule × String)}
      (hlast : grammar.below path = [])
      (hends : arguments = front ∨ arguments = front ++ ["--"])
      (hgives : Gives (grammar.rules path) front options) (hfit : Fit options)
      (hcomplete : ∀ rule ∈ grammar.rules path, rule.required = true →
        ∃ option ∈ options, option.1.name = rule.name) :
      Reads grammar path arguments path options
  | deeper {path front rest last : List String} {name : String}
      {options inner : List (OptionRule × String)} (hname : name ∈ grammar.below path)
      (hgives : Gives (grammar.rules path) front options) (hfit : Fit options)
      (hrest : Reads grammar (path ++ [name]) rest last inner) :
      Reads grammar path (front ++ name :: rest) last (options ++ inner)

/-- Arguments, from the command of a path on, that ask for help: with an option for it or by the
command for it, behind options that fit. -/
inductive AsksHelp (grammar : Grammar) : List String → List String → Prop where
  | option {path front : List String} {argument : String} {options : List (OptionRule × String)}
      (hgives : Gives (grammar.rules path) front options) (hfit : Fit options)
      (hhelp : IsHelp argument) (rest : List String) :
      AsksHelp grammar path (front ++ argument :: rest)
  | command {path front rest : List String} (hcommands : grammar.below path ≠ [])
      (hfront : Front (grammar.rules path) front) (hleads : grammar.leads path rest = true) :
      AsksHelp grammar path (front ++ helpName :: rest)
  | deeper {path front rest : List String} {name : String} (hname : name ∈ grammar.below path)
      (hfront : Front (grammar.rules path) front) (hrest : AsksHelp grammar (path ++ [name]) rest) :
      AsksHelp grammar path (front ++ name :: rest)

/-- A grammar whose names can be told apart: those of one level, and those of options on different
levels of one way. -/
structure Regular (grammar : Grammar) : Prop where
  positive : 0 < grammar.depth
  tellable : ∀ path, Tellable (grammar.rules path) (grammar.names path)
  noHelp : ∀ path, helpName ∉ grammar.below path
  shallow : ∀ path, grammar.depth ≤ path.length + 1 → grammar.below path = []
  apart : ∀ path inner, inner ≠ [] → ∀ rule ∈ grammar.rules path,
    ∀ other ∈ grammar.rules (path ++ inner), rule.name ≠ other.name

variable {grammar : Grammar} {fuel : Nat} {path last arguments : List String} {name : String}
  {options : List (OptionRule × String)} {given : Given}

theorem mem_names (hname : name ∈ grammar.below path) : name ∈ grammar.names path := by
  simp [names, List.ne_nil_of_mem hname, hname]

theorem helpName_mem_names (hcommands : grammar.below path ≠ []) :
    helpName ∈ grammar.names path := by
  simp [names, hcommands]

theorem commands_of_mem (hmem : name ∈ grammar.names path) : grammar.below path ≠ [] := by
  rw [names] at hmem
  split at hmem
  next => cases hmem
  next h => simpa using h

theorem below_of_mem (hmem : name ∈ grammar.names path) (hname : name ≠ helpName) :
    name ∈ grammar.below path := by
  rw [names] at hmem
  split at hmem
  next => cases hmem
  next => simpa [hname] using hmem

theorem isComplete_iff {rules : List OptionRule} (options : List (OptionRule × String)) :
    isComplete rules (named options) = true ↔ ∀ rule ∈ rules, rule.required = true →
      ∃ option ∈ options, option.1.name = rule.name := by
  simp only [isComplete, List.all_eq_true, Bool.or_eq_true, Bool.not_eq_true', has_named,
    ← Bool.not_eq_true, or_iff_not_imp_left, not_not]

/-! ## Commands -/

theorem Reads.of_readFrom (hregular : grammar.Regular)
    (hread : grammar.readFrom fuel path arguments = .accepted last given) :
    ∃ options, grammar.Reads path arguments last options ∧ named options = given := by
  induction fuel generalizing path arguments given with
  | zero => cases hread
  | succ fuel ih =>
      have htell := hregular.tellable path
      rw [readFrom] at hread
      split at hread
      next => cases hread
      next => cases hread
      next progress hlevel =>
        split at hread
        next given' hsettle =>
          split at hread
          next hends =>
            cases hread
            obtain ⟨front, options, hfront, hgives, hfit, rfl⟩ :=
              (readLevel_finished_iff htell).mp ⟨progress, hlevel, hsettle⟩
            rw [Bool.and_eq_true, List.isEmpty_iff, isComplete_iff] at hends
            exact ⟨options, .here hends.1 hfront hgives hfit hends.2, rfl⟩
          next => cases hread
        next => cases hread
      next name progress rest hlevel =>
        split at hread
        next => split at hread <;> cases hread
        next hname =>
          split at hread
          next last' given' hrest =>
            split at hread
            next given'' hsettle =>
              cases hread
              obtain ⟨front, options, rfl, hmem, hgives, hfit, rfl⟩ :=
                (readLevel_command_settled_iff htell).mp ⟨progress, hlevel, hsettle⟩
              obtain ⟨inner, hinner, rfl⟩ := ih hrest
              exact ⟨_, .deeper (below_of_mem hmem hname) hgives hfit hinner,
                named_append options inner⟩
            next => cases hread
          next hnot => exact absurd hread (hnot _ _)

/-- One level less is left to read below a command. -/
theorem Regular.fuel_pos (hregular : grammar.Regular) (hname : name ∈ grammar.below path)
    (hdepth : grammar.depth ≤ fuel + 1 + path.length) : 0 < fuel := by
  have hdeep : ¬ grammar.depth ≤ path.length + 1 :=
    fun hshallow => List.ne_nil_of_mem hname (hregular.shallow path hshallow)
  omega

theorem Reads.readFrom_eq (hregular : grammar.Regular)
    (hreads : grammar.Reads path arguments last options) (hfuel : 0 < fuel)
    (hdepth : grammar.depth ≤ fuel + path.length) :
    grammar.readFrom fuel path arguments = .accepted last (named options) := by
  induction hreads generalizing fuel with
  | @here path front arguments options hlast hends hgives hfit hcomplete =>
      obtain ⟨fuel, rfl⟩ := Nat.exists_eq_add_one.mpr hfuel
      obtain ⟨progress, hlevel, hsettle⟩ :=
        (readLevel_finished_iff (hregular.tellable path)).mpr
          ⟨front, options, hends, hgives, hfit, rfl⟩
      have hdone : ((grammar.below path).isEmpty &&
          isComplete (grammar.rules path) (named options)) = true := by
        rw [Bool.and_eq_true, List.isEmpty_iff, isComplete_iff]
        exact ⟨hlast, hcomplete⟩
      rw [readFrom, hlevel]
      simp only [hsettle, if_pos hdone]
  | @deeper path front rest last name options inner hname hgives hfit hrest ih =>
      obtain ⟨fuel, rfl⟩ := Nat.exists_eq_add_one.mpr hfuel
      obtain ⟨progress, hlevel, hsettle⟩ :=
        (readLevel_command_settled_iff (hregular.tellable path)).mpr
          ⟨front, options, rfl, mem_names hname, hgives, hfit, rfl⟩
      have hnot : name ≠ helpName := fun h => hregular.noHelp path (h ▸ hname)
      have hinner := ih (hregular.fuel_pos hname hdepth) (by
        rw [List.length_append, List.length_singleton]
        omega)
      rw [readFrom, hlevel, named_append]
      simp only [if_neg hnot, hinner, hsettle]

/-- The arguments that are read as a command. -/
theorem read_eq_accepted_iff (hregular : grammar.Regular) :
    grammar.read arguments = .accepted last given ↔
      ∃ options, grammar.Reads [] arguments last options ∧ named options = given := by
  constructor
  · exact Reads.of_readFrom hregular
  · rintro ⟨options, hreads, rfl⟩
    exact hreads.readFrom_eq hregular hregular.positive (by simp)

/-! ## Help -/

theorem AsksHelp.of_readFrom (hregular : grammar.Regular)
    (hread : grammar.readFrom fuel path arguments = .help) : grammar.AsksHelp path arguments := by
  induction fuel generalizing path arguments with
  | zero => cases hread
  | succ fuel ih =>
      have htell := hregular.tellable path
      rw [readFrom] at hread
      split at hread
      next hlevel =>
        obtain ⟨front, argument, rest, options, rfl, hgives, hfit, hhelp⟩ :=
          (readLevel_help_iff htell).mp hlevel
        exact .option hgives hfit hhelp rest
      next => cases hread
      next =>
        split at hread
        next => split at hread <;> cases hread
        next => cases hread
      next name progress rest hlevel =>
        obtain ⟨front, rfl, hmem, hfront⟩ := (readLevel_command_iff htell).mp ⟨progress, hlevel⟩
        split at hread
        next hname =>
          subst hname
          split at hread
          next hleads => exact .command (commands_of_mem hmem) hfront hleads
          next => cases hread
        next hname =>
          split at hread
          next => split at hread <;> cases hread
          next => exact .deeper (below_of_mem hmem hname) hfront (ih hread)

theorem AsksHelp.readFrom_eq (hregular : grammar.Regular)
    (hasks : grammar.AsksHelp path arguments) (hfuel : 0 < fuel)
    (hdepth : grammar.depth ≤ fuel + path.length) :
    grammar.readFrom fuel path arguments = .help := by
  induction hasks generalizing fuel with
  | @option path front argument options hgives hfit hhelp rest =>
      obtain ⟨fuel, rfl⟩ := Nat.exists_eq_add_one.mpr hfuel
      have hlevel := (readLevel_help_iff (hregular.tellable path)).mpr
        ⟨front, argument, rest, options, rfl, hgives, hfit, hhelp⟩
      rw [readFrom, hlevel]
  | @command path front rest hcommands hfront hleads =>
      obtain ⟨fuel, rfl⟩ := Nat.exists_eq_add_one.mpr hfuel
      obtain ⟨progress, hlevel⟩ := (readLevel_command_iff (hregular.tellable path)).mpr
        ⟨front, rfl, helpName_mem_names hcommands, hfront⟩
      rw [readFrom, hlevel]
      simp only [if_pos hleads, if_true]
  | @deeper path front rest name hname hfront hrest ih =>
      obtain ⟨fuel, rfl⟩ := Nat.exists_eq_add_one.mpr hfuel
      obtain ⟨progress, hlevel⟩ := (readLevel_command_iff (hregular.tellable path)).mpr
        ⟨front, rfl, mem_names hname, hfront⟩
      have hnot : name ≠ helpName := fun h => hregular.noHelp path (h ▸ hname)
      have hinner := ih (hregular.fuel_pos hname hdepth) (by
        rw [List.length_append, List.length_singleton]
        omega)
      rw [readFrom, hlevel]
      simp only [if_neg hnot, hinner]

/-- The arguments that are read as a request for help. -/
theorem read_eq_help_iff (hregular : grammar.Regular) :
    grammar.read arguments = .help ↔ grammar.AsksHelp [] arguments :=
  ⟨AsksHelp.of_readFrom hregular, fun h => h.readFrom_eq hregular hregular.positive (by simp)⟩

/-! ## The options of a command -/

/-- All options of the command of a path and of those above it. -/
def rulesTo (grammar : Grammar) (path : List String) : List OptionRule :=
  path.inits.flatMap grammar.rules

theorem Reads.isPrefix (hreads : grammar.Reads path arguments last options) : path <+: last := by
  induction hreads with
  | here => exact List.prefix_rfl
  | deeper _ _ _ _ ih => exact (List.prefix_append _ _).trans ih

/-- Arguments are read for the command at hand, or for one below it. -/
theorem Reads.last_or_deeper (hreads : grammar.Reads path arguments last options) :
    last = path ∧ grammar.below path = [] ∨ ∃ name ∈ grammar.below path, ∃ rest inner,
      grammar.Reads (path ++ [name]) rest last inner := by
  cases hreads with
  | here hlast => exact .inl ⟨rfl, hlast⟩
  | deeper hname _ _ hrest => exact .inr ⟨_, hname, _, _, hrest⟩

theorem Reads.exists_rules (hreads : grammar.Reads path arguments last options)
    {option : OptionRule × String} (hoption : option ∈ options) :
    ∃ inner, path ++ inner <+: last ∧ option.1 ∈ grammar.rules (path ++ inner) := by
  induction hreads with
  | @here path _ _ _ _ _ hgives =>
      refine ⟨[], by simp, ?_⟩
      rw [List.append_nil]
      exact hgives.mem_rules hoption
  | @deeper path _ _ last name _ _ _ hgives _ hrest ih =>
      rcases List.mem_append.mp hoption with hoption | hoption
      · have hway := (List.prefix_append path [name]).trans hrest.isPrefix
        refine ⟨[], by rwa [List.append_nil], ?_⟩
        rw [List.append_nil]
        exact hgives.mem_rules hoption
      · obtain ⟨inner, hway, hmem⟩ := ih hoption
        exact ⟨name :: inner, by simpa using hway, by simpa using hmem⟩

theorem mem_rulesTo (hway : path <+: last) {rule : OptionRule} (hrule : rule ∈ grammar.rules path) :
    rule ∈ grammar.rulesTo last :=
  List.mem_flatMap.mpr ⟨path, (List.mem_inits path last).mpr hway, hrule⟩

theorem Reads.mem_rulesTo (hreads : grammar.Reads path arguments last options)
    {option : OptionRule × String} (hoption : option ∈ options) :
    option.1 ∈ grammar.rulesTo last := by
  obtain ⟨inner, hway, hmem⟩ := hreads.exists_rules hoption
  exact Grammar.mem_rulesTo hway hmem

/-- The options of all levels fit to each other. -/
theorem Reads.fit (hregular : grammar.Regular)
    (hreads : grammar.Reads path arguments last options) : Fit options := by
  induction hreads with
  | here _ _ _ hfit => exact hfit
  | @deeper path _ _ _ name _ _ _ hgives hfit hrest ih =>
      refine fit_append.mpr ⟨hfit, ih, fun first hfirst second hsecond hname => ?_⟩
      obtain ⟨inner, -, hmem⟩ := hrest.exists_rules hsecond
      rw [List.append_assoc] at hmem
      exact absurd hname
        (hregular.apart path _ (by simp) _ (hgives.mem_rules hfirst) _ hmem)

theorem Reads.complete (hreads : grammar.Reads path arguments last options) :
    ∀ rule ∈ grammar.rules last, rule.required = true →
      ∃ option ∈ options, option.1.name = rule.name := by
  induction hreads with
  | here _ _ _ _ hcomplete => exact hcomplete
  | deeper _ _ _ _ ih =>
      intro rule hrule hrequired
      obtain ⟨option, hoption, hname⟩ := ih rule hrule hrequired
      exact ⟨option, List.mem_append_right _ hoption, hname⟩

/-- Every option is named by an argument. -/
theorem Reads.exists_argument (hreads : grammar.Reads path arguments last options)
    {option : OptionRule × String} (hoption : option ∈ options) :
    dashed option.1.name ∈ arguments ∨ joined option.1.name option.2 ∈ arguments := by
  induction hreads with
  | @here path front arguments options _ hends hgives _ _ =>
      have hfront : ∀ argument ∈ front, argument ∈ arguments := by
        rcases hends with rfl | rfl
        · exact fun _ h => h
        · exact fun _ h => List.mem_append_left _ h
      exact (hgives.exists_argument hoption).imp (hfront _) (hfront _)
  | deeper _ hgives _ _ ih =>
      rcases List.mem_append.mp hoption with hoption | hoption
      · exact (hgives.exists_argument hoption).imp (List.mem_append_left _)
          (List.mem_append_left _)
      · exact (ih hoption).imp (fun h => List.mem_append_right _ (List.mem_cons_of_mem _ h))
          (fun h => List.mem_append_right _ (List.mem_cons_of_mem _ h))

/-- Every argument that names an option gives it. -/
theorem Reads.of_long (hregular : grammar.Regular)
    (hreads : grammar.Reads path arguments last options) {argument : String}
    {value? : Option String} (hmem : argument ∈ arguments)
    (hshape : shape argument = .long name value?) :
    ∃ option ∈ options, option.1.name = name ∧ ∀ value ∈ value?, option.2 = value := by
  induction hreads with
  | @here path front arguments options _ hends hgives _ _ =>
      have hfront : argument ∈ front := by
        rcases hends with rfl | rfl
        · exact hmem
        · rcases List.mem_append.mp hmem with hmem | hmem
          · exact hmem
          · rw [List.mem_singleton] at hmem
            have hescape : shape argument = .escape := by
              rw [hmem]
              decide
            cases hescape.symm.trans hshape
      exact hgives.of_long (hregular.tellable path) hfront hshape
  | @deeper path front rest last command options inner hname hgives _ _ ih =>
      have htell := hregular.tellable path
      rcases List.mem_append.mp hmem with hmem | hmem
      · obtain ⟨option, hoption, hfound⟩ := hgives.of_long htell hmem hshape
        exact ⟨option, List.mem_append_left _ hoption, hfound⟩
      · rcases List.mem_cons.mp hmem with rfl | hmem
        · rw [shape_plain (htell.plain argument (mem_names hname))] at hshape
          cases hshape
        · obtain ⟨option, hoption, hfound⟩ := ih hmem
          exact ⟨option, List.mem_append_right _ hoption, hfound⟩

theorem Reads.of_apart (hregular : grammar.Regular)
    (hreads : grammar.Reads path arguments last options) {value : String}
    {before after : List String} (hshape : shape (dashed name) = .long name none)
    (hvalued : ∀ rule ∈ grammar.rulesTo last, rule.name = name → rule.arity ≠ .flag)
    (hsplit : arguments = before ++ dashed name :: value :: after) :
    ∃ option ∈ options, option.1.name = name ∧ option.2 = value := by
  induction hreads generalizing before with
  | @here path front arguments options _ hends hgives _ _ =>
      have hflag : ∀ rule ∈ grammar.rules path, rule.name = name → rule.arity ≠ .flag :=
        fun rule hrule => hvalued rule (Grammar.mem_rulesTo List.prefix_rfl hrule)
      obtain ⟨tail, hfront, htail⟩ : ∃ tail, front ++ tail = arguments ∧ tail.length ≤ 1 := by
        rcases hends with rfl | rfl
        · exact ⟨[], by simp, by simp⟩
        · exact ⟨["--"], rfl, le_rfl⟩
      rcases hgives.of_apart (hregular.tellable path) hshape hflag (hfront.trans hsplit) with
        hfound | ⟨between, hbetween⟩
      · exact hfound
      · rw [hbetween, List.length_append] at htail
        simp only [List.length_cons] at htail
        omega
  | @deeper path front rest last command options inner hname hgives _ hrest ih =>
      have hway := (List.prefix_append path [command]).trans hrest.isPrefix
      have hflag : ∀ rule ∈ grammar.rules path, rule.name = name → rule.arity ≠ .flag :=
        fun rule hrule => hvalued rule (Grammar.mem_rulesTo hway hrule)
      rcases hgives.of_apart (hregular.tellable path) hshape hflag hsplit with
        ⟨option, hoption, hfound⟩ | ⟨between, hbetween⟩
      · exact ⟨option, List.mem_append_left _ hoption, hfound⟩
      · cases between with
        | nil =>
            have hplain := (hregular.tellable path).plain command (mem_names hname)
            rw [(List.cons.inj hbetween).1] at hplain
            cases (shape_plain hplain).symm.trans hshape
        | cons _ between =>
            obtain ⟨option, hoption, hfound⟩ := ih hvalued (List.cons.inj hbetween).2
            exact ⟨option, List.mem_append_right _ hoption, hfound⟩

/-- Every value that is given is that of an option, which accepts it. -/
theorem Reads.of_givesValue (hregular : grammar.Regular)
    (hreads : grammar.Reads path arguments last options) {value : String}
    (hname : name ≠ "") (hequals : '=' ∉ name.toList)
    (hvalued : ∀ rule ∈ grammar.rulesTo last, rule.name = name → rule.arity ≠ .flag)
    (hgives : GivesValue arguments name value) :
    ∃ rule ∈ grammar.rulesTo last, rule.name = name ∧ rule.accepts value = true := by
  obtain ⟨⟨rule, given⟩, hoption, hname, hvalue⟩ :
      ∃ option ∈ options, option.1.name = name ∧ option.2 = value := by
    rcases hgives with hjoined | ⟨before, after, hsplit⟩
    · obtain ⟨option, hoption, hname, hvalue⟩ :=
        hreads.of_long hregular hjoined (shape_joined hequals value)
      exact ⟨option, hoption, hname, hvalue value rfl⟩
    · rw [List.append_assoc] at hsplit
      exact hreads.of_apart hregular (shape_dashed hname hequals) hvalued hsplit.symm
  subst hvalue
  exact ⟨rule, hreads.mem_rulesTo hoption, hname, (hreads.fit hregular).accepted _ hoption⟩

end PaymentOrders.CommandLine.Grammar
