import PaymentOrders.Proofs.CommandLine.Options
/-!
# Arguments of one level

Which arguments the reader of a level gets through: options that fit to each other. Up to where it
gets, the reader has those options and nothing else; only the last one may still be without its
value, or with one that is not judged.
-/

namespace PaymentOrders.CommandLine

/-! ## Single arguments -/

/-- Takes an option that an argument names, with the value that stands in the same argument if
there is one. -/
def Progress.take (rule : OptionRule) (value? : Option String) (progress : Progress) :
    Option Progress :=
  match value? with
  | some value => if rule.arity = .flag then none else progress.settleWith rule value
  | none =>
      if rule.arity = .flag then progress.settleWith rule "" else progress.settleAwaiting rule

section Step

variable {rules : List OptionRule} {below : List String} {rule : OptionRule}
  {progress : Progress} {argument value : String} {rest : List String}

theorem readLevel_command (hawaits : progress.awaits = false) (hmem : argument ∈ below) :
    readLevel rules below progress (argument :: rest) = .command argument progress rest := by
  rw [readLevel, if_pos (by simp [hawaits, hmem])]

theorem readLevel_help (htell : Tellable rules below) (hhelp : IsHelp argument) :
    readLevel rules below progress (argument :: rest) = Stop.helpAfter progress := by
  rcases isHelp_iff_shape.mp hhelp with hshape | hshape
  · rw [readLevel, if_neg (by simp [not_mem_below htell, hshape]), hshape]
    rfl
  · rw [readLevel, if_neg (by simp [not_mem_below htell, hshape]), hshape]
    exact if_pos rfl

theorem readLevel_long (htell : Tellable rules below) (hrule : rule ∈ rules)
    {value? : Option String} (hshape : shape argument = .long rule.name value?) :
    readLevel rules below progress (argument :: rest) =
      Stop.orElse (progress.take rule value?) fun progress =>
        readLevel rules below progress rest := by
  have hname := htell.noHelp rule hrule
  rw [readLevel, if_neg (by simp [not_mem_below htell, hshape])]
  split
  next h => simp [hshape] at h
  next h => simp [hshape, hname] at h
  next h =>
    obtain ⟨rfl, rfl⟩ := Shape.long.inj (hshape.symm.trans h)
    rw [find?_rule htell hrule]
    cases harity : rule.arity <;> cases value? <;> simp [Progress.take, harity, Stop.orElse]
  next h => simp [hshape] at h
  next h => simp [hshape] at h

theorem readLevel_unknown (htell : Tellable rules below) {name : String} {value? : Option String}
    (hshape : shape argument = .long name value?) (hhelp : shape argument ≠ .long "help" none)
    (hunknown : ∀ rule ∈ rules, rule.name ≠ name) :
    readLevel rules below progress (argument :: rest) = .refused := by
  have hfind : rules.find? (fun rule => rule.name == name) = none :=
    List.find?_eq_none.mpr fun rule hrule => by simpa using hunknown rule hrule
  rw [readLevel, if_neg (by simp [not_mem_below htell, hshape])]
  split
  next h => simp [hshape] at h
  next h => exact absurd h hhelp
  next h =>
    obtain ⟨rfl, rfl⟩ := Shape.long.inj (hshape.symm.trans h)
    rw [hfind]
  next h => simp [hshape] at h
  next h => simp [hshape] at h

theorem readLevel_value (hpending : progress.pending = some (rule, none)) (hplain : IsPlain value) :
    readLevel rules below progress (value :: rest) =
      readLevel rules below ⟨progress.given, some (rule, some value)⟩ rest := by
  rw [readLevel, if_neg (by simp [Progress.awaits, hpending]), shape_plain hplain]
  simp only [hpending]

end Step

/-! ## Up to where the reader gets -/

/-- The arguments that a reader has behind it, with what it has made of them: options that fit to
each other, and then perhaps one that waits for its value or to be judged. -/
inductive Stands (rules : List OptionRule) : List String → Progress → Prop where
  | judged {arguments : List String} {options : List (OptionRule × String)}
      (hgives : Gives rules arguments options) (hfit : Fit options) :
      Stands rules arguments ⟨named options, none⟩
  | awaiting {arguments : List String} {options : List (OptionRule × String)} {rule : OptionRule}
      (hgives : Gives rules arguments options) (hfit : Fit options) (hrule : rule ∈ rules)
      (hvalued : rule.arity ≠ .flag) :
      Stands rules (arguments ++ [dashed rule.name]) ⟨named options, some (rule, none)⟩
  | unjudged {arguments : List String} {options : List (OptionRule × String)} {rule : OptionRule}
      {value : String} (hgives : Gives rules arguments options) (hfit : Fit options)
      (hrule : rule ∈ rules) (hvalued : rule.arity ≠ .flag) (hplain : IsPlain value) :
      Stands rules (arguments ++ [dashed rule.name, value])
        ⟨named options, some (rule, some value)⟩

/-- Where a level ends, given how far the reader has come and the arguments ahead. -/
inductive Decides (below : List String) (progress : Progress) : List String → Stop → Prop where
  | finished : Decides below progress [] (.finished progress)
  | escaped : Decides below progress ["--"] (.finished progress)
  | command {name : String} (hname : name ∈ below) (hawaits : progress.awaits = false)
      (rest : List String) : Decides below progress (name :: rest) (.command name progress rest)
  | help {argument : String} (hhelp : IsHelp argument) (hsettled : progress.settle.isSome = true)
      (rest : List String) : Decides below progress (argument :: rest) .help

section Run

variable {rules : List OptionRule} {below : List String} {rule : OptionRule}
  {progress next : Progress} {argument value : String} {arguments done rest : List String}
  {options : List (OptionRule × String)} {given : Given} {stop : Stop}

theorem Stands.exists_of_settle (hstands : Stands rules arguments progress)
    (hsettle : progress.settle = some given) :
    ∃ options, Gives rules arguments options ∧ Fit options ∧ named options = given := by
  cases hstands with
  | judged hgives hfit => exact ⟨_, hgives, hfit, Option.some.inj hsettle⟩
  | awaiting => cases hsettle
  | unjudged hgives hfit hrule hvalued hplain =>
      obtain ⟨hfits, hnamed⟩ := (add_eq_some_iff hfit).mp hsettle
      exact ⟨_, hgives.append (GivesOne.apart hrule hvalued hplain).gives, hfits, hnamed⟩

theorem Stands.of_settleWith (hstands : Stands rules done progress)
    (hone : Gives rules arguments [(rule, value)])
    (hsettle : progress.settleWith rule value = some next) :
    Stands rules (done ++ arguments) next := by
  obtain ⟨given, hgiven, hadd⟩ := Option.bind_eq_some_iff.mp hsettle
  obtain ⟨after, hafter, hnext⟩ := Option.bind_eq_some_iff.mp hadd
  cases hnext
  obtain ⟨options, hgives, hfit, rfl⟩ := hstands.exists_of_settle hgiven
  obtain ⟨hfits, rfl⟩ := (add_eq_some_iff hfit).mp hafter
  exact .judged (hgives.append hone) hfits

theorem Stands.of_take (hstands : Stands rules done progress)
    (hrule : rule ∈ rules) {value? : Option String}
    (hshape : shape argument = .long rule.name value?)
    (htake : progress.take rule value? = some next) : Stands rules (done ++ [argument]) next := by
  have hlooks := looks_shape argument
  rw [hshape] at hlooks
  cases hlooks with
  | dashed hargument =>
      subst hargument
      by_cases hflag : rule.arity = .flag
      · simp only [Progress.take, if_pos hflag] at htake
        exact hstands.of_settleWith (GivesOne.flag hrule hflag).gives htake
      · simp only [Progress.take, if_neg hflag] at htake
        obtain ⟨given, hgiven, hnext⟩ := Option.bind_eq_some_iff.mp htake
        cases hnext
        obtain ⟨options, hgives, hfit, rfl⟩ := hstands.exists_of_settle hgiven
        exact .awaiting hgives hfit hrule hflag
  | joined hargument =>
      subst hargument
      by_cases hflag : rule.arity = .flag
      · simp only [Progress.take, if_pos hflag] at htake
        cases htake
      · simp only [Progress.take, if_neg hflag] at htake
        exact hstands.of_settleWith (GivesOne.joined hrule hflag _).gives htake

theorem Stands.of_value (hstands : Stands rules done progress)
    (hpending : progress.pending = some (rule, none)) (hplain : IsPlain value) :
    Stands rules (done ++ [value]) ⟨progress.given, some (rule, some value)⟩ := by
  cases hstands with
  | judged => cases hpending
  | awaiting hgives hfit hrule hvalued =>
      cases hpending
      rw [List.append_assoc]
      exact .unjudged hgives hfit hrule hvalued hplain
  | unjudged => cases hpending

/-- One argument: the level ends there, or the reader stands behind it. -/
theorem readLevel_cons_cases (htell : Tellable rules below) (hstands : Stands rules done progress)
    (argument : String) (rest : List String) :
    readLevel rules below progress (argument :: rest) = .refused ∨
      Decides below progress (argument :: rest)
        (readLevel rules below progress (argument :: rest)) ∨
      ∃ next, Stands rules (done ++ [argument]) next ∧
        readLevel rules below progress (argument :: rest) = readLevel rules below next rest := by
  by_cases hcommand : progress.awaits = false ∧ argument ∈ below
  · rw [readLevel_command hcommand.1 hcommand.2]
    exact .inr (.inl (.command hcommand.2 hcommand.1 rest))
  have hnot : ¬ (!progress.awaits && below.contains argument) = true := by
    simpa using hcommand
  by_cases hhelp : IsHelp argument
  · rw [readLevel_help htell hhelp, Stop.helpAfter]
    split
    next hsettled => exact .inr (.inl (.help hhelp hsettled rest))
    next => exact .inl rfl
  rw [isHelp_iff_shape, not_or] at hhelp
  have hlooks := looks_shape argument
  cases hshape : shape argument with
  | escape =>
      rw [hshape] at hlooks
      cases hlooks with
      | escape hargument =>
          rw [readLevel, if_neg hnot, hshape]
          cases rest with
          | nil =>
              rw [hargument]
              exact .inr (.inl .escaped)
          | cons => exact .inl rfl
  | long name value? =>
      by_cases hknown : ∃ rule ∈ rules, rule.name = name
      · obtain ⟨rule, hrule, rfl⟩ := hknown
        rw [readLevel_long htell hrule hshape]
        cases htake : progress.take rule value? with
        | none => exact .inl rfl
        | some next => exact .inr (.inr ⟨next, hstands.of_take hrule hshape htake, rfl⟩)
      · exact .inl (readLevel_unknown htell hshape hhelp.1 (by simpa using hknown))
  | short first =>
      rw [readLevel, if_neg hnot, hshape]
      exact .inl (if_neg fun h => hhelp.2 (by rw [hshape, h]))
  | plain =>
      rw [hshape] at hlooks
      cases hlooks with
      | plain hplain =>
          by_cases hpending : ∃ rule, progress.pending = some (rule, none)
          · obtain ⟨rule, hpending⟩ := hpending
            exact .inr (.inr ⟨_, hstands.of_value hpending hplain,
              readLevel_value hpending hplain⟩)
          · rw [readLevel, if_neg hnot, hshape]
            refine .inl ?_
            simp only
            split
            next rule h => exact absurd ⟨rule, h⟩ hpending
            next => rfl

/-- A level that is not refused is read up to where it ends. -/
theorem Stands.of_readLevel (htell : Tellable rules below) (hstands : Stands rules done progress)
    (hread : readLevel rules below progress arguments = stop) (hstop : stop ≠ .refused) :
    ∃ front tail next, done ++ arguments = front ++ tail ∧ Stands rules front next ∧
      Decides below next tail stop := by
  induction arguments generalizing done progress with
  | nil => exact ⟨done, [], progress, rfl, hstands, hread ▸ .finished⟩
  | cons argument rest ih =>
      rcases readLevel_cons_cases htell hstands argument rest with hrefused | hdecides | hgoes
      · exact absurd (hread.symm.trans hrefused) hstop
      · exact ⟨done, argument :: rest, progress, rfl, hstands, hread ▸ hdecides⟩
      · obtain ⟨next, hnext, hgoes⟩ := hgoes
        obtain ⟨front, tail, last, hsplit, hlast⟩ := ih hnext (hgoes.symm.trans hread)
        exact ⟨front, tail, last, by rw [← hsplit, List.append_assoc]; rfl, hlast⟩

theorem settle_of_judged (given : Given) : (⟨given, none⟩ : Progress).settle = some given := rfl

theorem settle_of_unjudged (hfit : Fit (options ++ [(rule, value)])) :
    (⟨named options, some (rule, some value)⟩ : Progress).settle =
      some (named (options ++ [(rule, value)])) :=
  (add_eq_some_iff (fit_append.mp hfit).1).mpr ⟨hfit, rfl⟩

theorem settleWith_of_fit (hfit : Fit (options ++ [(rule, value)]))
    (hsettle : progress.settle = some (named options)) :
    progress.settleWith rule value = some ⟨named (options ++ [(rule, value)]), none⟩ := by
  have hadd := (add_eq_some_iff (fit_append.mp hfit).1).mpr ⟨hfit, rfl⟩
  exact Option.bind_eq_some_iff.mpr
    ⟨_, hsettle, Option.bind_eq_some_iff.mpr ⟨_, hadd, rfl⟩⟩

theorem readLevel_apart (htell : Tellable rules below) (hrule : rule ∈ rules)
    (hvalued : rule.arity ≠ .flag) (hplain : IsPlain value)
    (hsettle : progress.settle = some given) :
    readLevel rules below progress (dashed rule.name :: value :: rest) =
      readLevel rules below ⟨given, some (rule, some value)⟩ rest := by
  have htake : progress.take rule none = some ⟨given, some (rule, none)⟩ := by
    rw [Progress.take, if_neg hvalued, Progress.settleAwaiting, hsettle]
    rfl
  rw [readLevel_long htell hrule (shape_rule htell hrule), htake]
  exact readLevel_value rfl hplain

/-- Arguments that give a fitting option are read, whatever comes behind them. -/
theorem GivesOne.exists_progress (htell : Tellable rules below) {option : OptionRule × String}
    (hone : GivesOne rules arguments option) (hsettle : progress.settle = some (named options))
    (hfit : Fit (options ++ [option])) :
    ∃ next, next.settle = some (named (options ++ [option])) ∧
      ∀ tail, readLevel rules below progress (arguments ++ tail) =
        readLevel rules below next tail := by
  cases hone with
  | flag hrule hflag =>
      refine ⟨_, settle_of_judged _, fun tail => ?_⟩
      rw [List.singleton_append, readLevel_long htell hrule (shape_rule htell hrule), Progress.take,
        if_pos hflag, settleWith_of_fit hfit hsettle]
      rfl
  | joined hrule hvalued value =>
      have hshape := shape_joined (htell.noEquals _ hrule) value
      refine ⟨_, settle_of_judged _, fun tail => ?_⟩
      rw [List.singleton_append, readLevel_long htell hrule hshape, Progress.take, if_neg hvalued,
        settleWith_of_fit hfit hsettle]
      rfl
  | apart hrule hvalued hplain =>
      exact ⟨_, settle_of_unjudged hfit, fun tail =>
        readLevel_apart htell hrule hvalued hplain hsettle⟩

theorem Gives.exists_progress (htell : Tellable rules below)
    (hgives : Gives rules arguments options) {before : List (OptionRule × String)}
    (hsettle : progress.settle = some (named before)) (hfit : Fit (before ++ options)) :
    ∃ next, next.settle = some (named (before ++ options)) ∧
      ∀ tail, readLevel rules below progress (arguments ++ tail) =
        readLevel rules below next tail := by
  induction hgives generalizing before progress with
  | nil => exact ⟨progress, by simpa using hsettle, fun _ => rfl⟩
  | cons hone _ ih =>
      rw [List.append_cons] at hfit ⊢
      obtain ⟨middle, hmiddle, hfirst⟩ :=
        hone.exists_progress htell hsettle (fit_append.mp hfit).1
      obtain ⟨next, hnext, hread⟩ := ih hmiddle hfit
      refine ⟨next, hnext, fun tail => ?_⟩
      rw [List.append_assoc, hfirst, hread]

theorem Decides.readLevel_eq (htell : Tellable rules below)
    (hdecides : Decides below progress arguments stop) :
    readLevel rules below progress arguments = stop := by
  cases hdecides with
  | finished => rw [readLevel]
  | escaped =>
      have hshape : shape "--" = .escape := by decide
      rw [readLevel, if_neg (by simp [not_mem_below htell, hshape]), hshape]
      rfl
  | command hname hawaits rest => exact readLevel_command hawaits hname
  | help hhelp hsettled rest => rw [readLevel_help htell hhelp, Stop.helpAfter, if_pos hsettled]

end Run

/-! ## Where levels end -/

/-- Arguments up to which a level can be read: options that fit to each other, of which the last
may have a value that is not accepted, or be given once too often, if its value is an argument of
its own. -/
inductive Front (rules : List OptionRule) : List String → Prop where
  | judged {arguments : List String} {options : List (OptionRule × String)}
      (hgives : Gives rules arguments options) (hfit : Fit options) : Front rules arguments
  | unjudged {arguments : List String} {options : List (OptionRule × String)} {rule : OptionRule}
      {value : String} (hgives : Gives rules arguments options) (hfit : Fit options)
      (hrule : rule ∈ rules) (hvalued : rule.arity ≠ .flag) (hplain : IsPlain value) :
      Front rules (arguments ++ [dashed rule.name, value])

section Ends

variable {rules : List OptionRule} {below : List String} {progress : Progress} {name : String}
  {arguments rest : List String} {options : List (OptionRule × String)} {given : Given}

theorem awaits_of_settle (hsettle : progress.settle = some given) : progress.awaits = false := by
  rw [Progress.awaits]
  split
  next h =>
    rw [Progress.settle] at hsettle
    simp [h] at hsettle
  next => rfl

theorem Stands.front (hstands : Stands rules arguments progress)
    (hawaits : progress.awaits = false) : Front rules arguments := by
  cases hstands with
  | judged hgives hfit => exact .judged hgives hfit
  | awaiting => cases hawaits
  | unjudged hgives hfit hrule hvalued hplain => exact .unjudged hgives hfit hrule hvalued hplain

/-- Fitting options are read from the start of a level on. -/
theorem Gives.read (htell : Tellable rules below) (hgives : Gives rules arguments options)
    (hfit : Fit options) :
    ∃ next, next.settle = some (named options) ∧
      ∀ tail, readLevel rules below .start (arguments ++ tail) =
        readLevel rules below next tail :=
  hgives.exists_progress htell (settle_of_judged (named [])) hfit

theorem Front.exists_progress (htell : Tellable rules below) (hfront : Front rules arguments) :
    ∃ next, next.awaits = false ∧
      ∀ tail, readLevel rules below .start (arguments ++ tail) =
        readLevel rules below next tail := by
  cases hfront with
  | judged hgives hfit =>
      obtain ⟨next, hsettle, hread⟩ := hgives.read htell hfit
      exact ⟨next, awaits_of_settle hsettle, hread⟩
  | @unjudged _ options rule value hgives hfit hrule hvalued hplain =>
      obtain ⟨next, hsettle, hread⟩ := hgives.read htell hfit
      refine ⟨⟨named options, some (rule, some value)⟩, rfl, fun tail => ?_⟩
      rw [List.append_assoc, hread]
      exact readLevel_apart htell hrule hvalued hplain hsettle

theorem readLevel_finished_iff (htell : Tellable rules below) :
    (∃ progress, readLevel rules below .start arguments = .finished progress ∧
        progress.settle = some given) ↔
      ∃ front options, (arguments = front ∨ arguments = front ++ ["--"]) ∧
        Gives rules front options ∧ Fit options ∧ named options = given := by
  constructor
  · rintro ⟨progress, hread, hsettle⟩
    obtain ⟨front, tail, next, hsplit, hstands, hdecides⟩ :=
      Stands.of_readLevel htell (.judged .nil fit_nil) hread nofun
    cases hdecides with
    | finished =>
        obtain ⟨options, hoptions⟩ := hstands.exists_of_settle hsettle
        exact ⟨front, options, .inl (by simpa using hsplit), hoptions⟩
    | escaped =>
        obtain ⟨options, hoptions⟩ := hstands.exists_of_settle hsettle
        exact ⟨front, options, .inr (by simpa using hsplit), hoptions⟩
  · rintro ⟨front, options, hends, hgives, hfit, rfl⟩
    obtain ⟨next, hsettle, hread⟩ := hgives.read htell hfit
    refine ⟨next, ?_, hsettle⟩
    rcases hends with rfl | rfl
    · rw [← List.append_nil arguments, hread, Decides.finished.readLevel_eq htell]
    · rw [hread, Decides.escaped.readLevel_eq htell]

theorem readLevel_help_iff (htell : Tellable rules below) :
    readLevel rules below .start arguments = .help ↔
      ∃ front argument rest options, arguments = front ++ argument :: rest ∧
        Gives rules front options ∧ Fit options ∧ IsHelp argument := by
  constructor
  · intro hread
    obtain ⟨front, tail, next, hsplit, hstands, hdecides⟩ :=
      Stands.of_readLevel htell (.judged .nil fit_nil) hread nofun
    cases hdecides with
    | help hhelp hsettled rest =>
        obtain ⟨given, hsettle⟩ := Option.isSome_iff_exists.mp hsettled
        obtain ⟨options, hgives, hfit, _⟩ := hstands.exists_of_settle hsettle
        exact ⟨front, _, rest, options, hsplit, hgives, hfit, hhelp⟩
  · rintro ⟨front, argument, rest, options, rfl, hgives, hfit, hhelp⟩
    obtain ⟨next, hsettle, hread⟩ := hgives.read htell hfit
    rw [hread]
    exact (Decides.help hhelp (by rw [hsettle]; rfl) rest).readLevel_eq htell

theorem readLevel_command_iff (htell : Tellable rules below) :
    (∃ progress, readLevel rules below .start arguments = .command name progress rest) ↔
      ∃ front, arguments = front ++ name :: rest ∧ name ∈ below ∧ Front rules front := by
  constructor
  · rintro ⟨progress, hread⟩
    obtain ⟨front, tail, next, hsplit, hstands, hdecides⟩ :=
      Stands.of_readLevel htell (.judged .nil fit_nil) hread nofun
    cases hdecides with
    | command hname hawaits => exact ⟨front, hsplit, hname, hstands.front hawaits⟩
  · rintro ⟨front, rfl, hname, hfront⟩
    obtain ⟨next, hawaits, hread⟩ := hfront.exists_progress htell
    exact ⟨next, (hread _).trans ((Decides.command hname hawaits rest).readLevel_eq htell)⟩

theorem readLevel_command_settled_iff (htell : Tellable rules below) :
    (∃ progress, readLevel rules below .start arguments = .command name progress rest ∧
        progress.settle = some given) ↔
      ∃ front options, arguments = front ++ name :: rest ∧ name ∈ below ∧
        Gives rules front options ∧ Fit options ∧ named options = given := by
  constructor
  · rintro ⟨progress, hread, hsettle⟩
    obtain ⟨front, tail, next, hsplit, hstands, hdecides⟩ :=
      Stands.of_readLevel htell (.judged .nil fit_nil) hread nofun
    cases hdecides with
    | command hname hawaits =>
        obtain ⟨options, hoptions⟩ := hstands.exists_of_settle hsettle
        exact ⟨front, options, hsplit, hname, hoptions⟩
  · rintro ⟨front, options, rfl, hname, hgives, hfit, rfl⟩
    obtain ⟨next, hsettle, hread⟩ := hgives.read htell hfit
    have hdecides := Decides.command hname (awaits_of_settle hsettle) rest
    exact ⟨next, (hread _).trans (hdecides.readLevel_eq htell), hsettle⟩

end Ends

end PaymentOrders.CommandLine
