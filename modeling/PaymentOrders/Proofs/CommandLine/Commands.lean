import PaymentOrders.Proofs.CommandLine.Names
/-!
# What commands ask for

What a command asks for is what its options say: each field is the value of one option, each list
has all values of one, and what may be left out has its default then and only then.
-/

namespace PaymentOrders.CommandLine

/-! ## Commands -/

def Command.path : Command → List String
  | .schemaVersion => ["db", "schema-version"]
  | .migrate _ => ["db", "migrate"]
  | .integrityCheck => ["db", "integrity-check"]
  | .backup _ => ["db", "backup"]
  | .restore _ => ["db", "restore"]
  | .create _ => ["order", "create"]
  | .update _ => ["order", "update"]
  | .get _ => ["order", "get"]
  | .query _ => ["order", "query"]
  | .delete _ => ["order", "delete"]
  | .history _ => ["order", "history"]
  | .generate _ => ["uid", "generate"]

/-- Options that say what each field of an order shall be. -/
structure Given.Fills (given : Given) (request : OrderRequest) : Prop where
  caseId : ("case-id", request.caseId) ∈ given
  orderReference : ("order-reference", request.orderReference) ∈ given
  action : ("action", request.action) ∈ given
  responsibleParty : ("responsible-party", request.responsibleParty) ∈ given
  effectiveFrom : ∃ text timestamp, ("effective-from", text) ∈ given ∧
    Timestamp.ofText text = .ok timestamp ∧ request.effectiveFrom = some timestamp

def Given.Counts (given : Given) (name : String) : Option UInt32 → Prop
  | some word => ∃ text, (name, text) ∈ given ∧ IsNumeral text word.toNat
  | none => ∀ text, (name, text) ∉ given

/-- Options that say a text, which has a default. -/
def Given.Says (given : Given) (name default value : String) : Prop :=
  (name, value) ∈ given ∨ (∀ text, (name, text) ∉ given) ∧ value = default

/-- What the options of a command say. -/
def Given.Means (given : Given) : Command → Prop
  | .schemaVersion | .integrityCheck => True
  | .migrate dryRun => dryRun = true ↔ ∃ text, ("dry-run", text) ∈ given
  | .backup target => ("out", target) ∈ given
  | .restore source => ("in", source) ∈ given
  | .create request => given.Fills request
  | .update request => ("id", request.id) ∈ given ∧ given.Fills request.order
  | .get id | .history id => ("id", id) ∈ given
  | .query request =>
      given.values "id" = request.ids ∧ given.values "case-id" = request.caseIds ∧
        given.Counts "page" request.page ∧ given.Counts "size" request.size
  | .delete request =>
      given.values "id" = request.ids ∧ given.values "case-id" = request.caseIds
  | .generate count =>
      given.Counts "count" (some count) ∨ given.Counts "count" none ∧ count = 1

/-- Arguments that give a command, with the database that it is about and who gives it. -/
def Invokes (arguments : List String) (invocation : Invocation) : Prop :=
  ∃ options, grammar.Reads [] arguments invocation.command.path options ∧
    (named options).Means invocation.command ∧
    (named options).Says "db" defaultDatabase invocation.database ∧
    (named options).Says "actor" defaultActor invocation.actor

/-! ## Reading what options say -/

section Said

variable {arguments path : List String} {options : List (OptionRule × String)} {name value : String}
  {given : Given}

theorem value?_eq_none_iff : given.value? name = none ↔ ∀ value, (name, value) ∉ given := by
  rw [Given.value?, List.lookup_eq_none_iff]
  constructor
  · intro h value hmem
    simpa using h _ hmem
  · rintro h ⟨key, value⟩ hmem
    rw [bne_iff_ne]
    rintro rfl
    exact h value hmem

variable (hreads : grammar.Reads [] arguments path options)

include hreads

theorem value?_eq_some_iff
    (honce : ∀ rule ∈ grammar.rulesTo path, rule.name = name → rule.arity ≠ .many) :
    (named options).value? name = some value ↔ (name, value) ∈ named options := by
  have hfirst {value : String} (h : (named options).value? name = some value) :
      (name, value) ∈ named options := by
    obtain ⟨before, after, hsplit, -⟩ := List.lookup_eq_some_iff.mp h
    rw [hsplit]
    exact List.mem_append_right _ List.mem_cons_self
  refine ⟨hfirst, fun hmem => ?_⟩
  cases hvalue : (named options).value? name with
  | none => exact absurd hmem (value?_eq_none_iff.mp hvalue value)
  | some other =>
      obtain ⟨rule, hname, hoption⟩ := mem_named_iff.mp hmem
      obtain ⟨rule', hname', hoption'⟩ := mem_named_iff.mp (hfirst hvalue)
      have hsame := (hreads.fit regular_grammar).unique hoption hoption'
        (hname.trans hname'.symm) (honce rule (hreads.mem_rulesTo hoption) hname)
        (honce rule' (hreads.mem_rulesTo hoption') hname')
      rw [(Prod.mk.inj hsame).2]

theorem accepts_of_mem (hmem : (name, value) ∈ named options) :
    ∃ rule ∈ grammar.rulesTo path, rule.name = name ∧ rule.accepts value = true := by
  obtain ⟨rule, hname, hoption⟩ := mem_named_iff.mp hmem
  exact ⟨rule, hreads.mem_rulesTo hoption, hname,
    (hreads.fit regular_grammar).accepted _ hoption⟩

theorem exists_value_of_required
    (hrequired : ∃ rule ∈ grammar.rules path, rule.name = name ∧ rule.required = true) :
    ∃ value, (name, value) ∈ named options := by
  obtain ⟨rule, hrule, rfl, hrequired⟩ := hrequired
  obtain ⟨⟨other, value⟩, hoption, hname⟩ := hreads.complete rule hrule hrequired
  exact ⟨value, mem_named_iff.mpr ⟨other, hname, hoption⟩⟩

/-- The text of an option that must be given. -/
theorem text_eq_iff
    (honce : ∀ rule ∈ grammar.rulesTo path, rule.name = name → rule.arity ≠ .many)
    (hrequired : ∃ rule ∈ grammar.rules path, rule.name = name ∧ rule.required = true) :
    (named options).text name = value ↔ (name, value) ∈ named options := by
  obtain ⟨given, hgiven⟩ := exists_value_of_required hreads hrequired
  rw [← value?_eq_some_iff hreads honce] at hgiven ⊢
  rw [Given.text, hgiven, Option.some.injEq]
  rfl

theorem number_eq_iff {word? : Option UInt32} (hnumber : name ∈ ["page", "size", "count"]) :
    ((named options).value? name).bind readWord = word? ↔ (named options).Counts name word? := by
  have honce : ∀ rule ∈ grammar.rulesTo path, rule.name = name → rule.arity ≠ .many :=
    fun rule hrule hname => by simp [once_of_number hrule (hname ▸ hnumber)]
  cases hvalue : (named options).value? name with
  | none =>
      have hnone := value?_eq_none_iff.mp hvalue
      cases word? with
      | none => exact ⟨fun _ => hnone, fun _ => rfl⟩
      | some word => exact ⟨nofun, fun ⟨text, hmem, _⟩ => absurd hmem (hnone text)⟩
  | some text =>
      have hmem := (value?_eq_some_iff hreads honce).mp hvalue
      obtain ⟨rule, hrule, hname, haccepts⟩ := accepts_of_mem hreads hmem
      obtain ⟨read, hread⟩ := exists_readWord_of_accepts hrule (hname ▸ hnumber) haccepts
      rw [Option.bind_some]
      cases word? with
      | none => exact ⟨fun h => by simp [hread] at h, fun h => absurd hmem (h text)⟩
      | some word =>
          rw [readWord_eq_some_iff]
          refine ⟨fun h => ⟨text, hmem, h⟩, fun ⟨other, hother, hnumeral⟩ => ?_⟩
          rw [← value?_eq_some_iff hreads honce, hvalue] at hother
          exact Option.some.inj hother ▸ hnumeral

theorem says_iff {default : String}
    (honce : ∀ rule ∈ grammar.rulesTo path, rule.name = name → rule.arity ≠ .many) :
    ((named options).value? name).getD default = value ↔
      (named options).Says name default value := by
  rw [Given.Says, ← value?_eq_some_iff hreads honce, ← value?_eq_none_iff]
  cases (named options).value? name with
  | none => simp [eq_comm]
  | some text => simp

theorem timestamp_eq_iff {timestamp? : Option Timestamp}
    (hrequired : ∃ rule ∈ grammar.rules path, rule.name = "effective-from" ∧
      rule.required = true) :
    (((named options).value? "effective-from").bind fun text =>
        (Timestamp.ofText text).toOption) = timestamp? ↔
      ∃ text timestamp, ("effective-from", text) ∈ named options ∧
        Timestamp.ofText text = .ok timestamp ∧ timestamp? = some timestamp := by
  have honce : ∀ rule ∈ grammar.rulesTo path, rule.name = "effective-from" →
      rule.arity ≠ .many :=
    fun rule hrule hname => by simp [once_of_timestamp hrule hname]
  obtain ⟨text, hmem⟩ := exists_value_of_required hreads hrequired
  obtain ⟨rule, hrule, hname, haccepts⟩ := accepts_of_mem hreads hmem
  obtain ⟨timestamp, hread⟩ := exists_timestamp_of_accepts hrule hname haccepts
  have hvalue := (value?_eq_some_iff hreads honce).mpr hmem
  rw [hvalue, Option.bind_some, hread]
  constructor
  · intro h
    exact ⟨text, timestamp, hmem, hread, h.symm⟩
  · rintro ⟨other, found, hother, hfound, rfl⟩
    rw [← value?_eq_some_iff hreads honce, hvalue] at hother
    rw [← Option.some.inj hother, hread] at hfound
    exact congrArg some (Except.ok.inj hfound)

end Said

section Commands

variable {arguments path : List String} {options : List (OptionRule × String)}
  {given : Given} {command : Command}

theorem has_iff_mem {name : String} : given.has name = true ↔ ∃ text, (name, text) ∈ given := by
  simp [Given.has]

theorem order_eq_iff (hreads : grammar.Reads [] arguments path options) {request : OrderRequest}
    (honce : ∀ name ∈ fieldOptions.map OptionRule.name,
      ∀ rule ∈ grammar.rulesTo path, rule.name = name → rule.arity ≠ .many)
    (hrequired : ∀ name ∈ fieldOptions.map OptionRule.name,
      ∃ rule ∈ grammar.rules path, rule.name = name ∧ rule.required = true) :
    (named options).order = request ↔ (named options).Fills request := by
  have htext {name value : String} (hname : name ∈ fieldOptions.map OptionRule.name) :
      (named options).text name = value ↔ (name, value) ∈ named options :=
    text_eq_iff hreads (honce name hname) (hrequired name hname)
  constructor
  · rintro rfl
    exact ⟨(htext (by decide)).mp rfl, (htext (by decide)).mp rfl, (htext (by decide)).mp rfl,
      (htext (by decide)).mp rfl,
      (timestamp_eq_iff hreads (hrequired _ (by decide))).mp rfl⟩
  · intro hfills
    cases request
    rw [Given.order, OrderRequest.mk.injEq]
    exact ⟨(timestamp_eq_iff hreads (hrequired _ (by decide))).mpr hfills.effectiveFrom,
      (htext (by decide)).mpr hfills.caseId, (htext (by decide)).mpr hfills.action,
      (htext (by decide)).mpr hfills.responsibleParty,
      (htext (by decide)).mpr hfills.orderReference⟩

/-- Options say what a command asks for exactly if the command is read off them. -/
theorem ofGiven?_eq_some_iff (hreads : grammar.Reads [] arguments command.path options) :
    Command.ofGiven? command.path (named options) = some command ↔
      (named options).Means command := by
  cases command with
  | schemaVersion | integrityCheck => exact ⟨fun _ => trivial, fun _ => rfl⟩
  | migrate dryRun =>
      simp only [Command.path, Command.ofGiven?, Given.Means, Option.some.injEq,
        Command.migrate.injEq, ← has_iff_mem]
      exact ⟨fun h => by rw [h], fun h => (Bool.eq_iff_iff.mpr h).symm⟩
  | backup target =>
      simp only [Command.path] at hreads
      have htext : (named options).text "out" = target ↔ ("out", target) ∈ named options :=
        text_eq_iff hreads (by decide) (by decide)
      rw [Given.Means, ← htext]
      simp [Command.path, Command.ofGiven?]
  | restore source =>
      simp only [Command.path] at hreads
      have htext : (named options).text "in" = source ↔ ("in", source) ∈ named options :=
        text_eq_iff hreads (by decide) (by decide)
      rw [Given.Means, ← htext]
      simp [Command.path, Command.ofGiven?]
  | create request =>
      simp only [Command.path] at hreads
      rw [Given.Means, ← order_eq_iff hreads (by decide) (by decide)]
      simp [Command.path, Command.ofGiven?]
  | update request =>
      simp only [Command.path] at hreads
      have htext : (named options).text "id" = request.id ↔ ("id", request.id) ∈ named options :=
        text_eq_iff hreads (by decide) (by decide)
      rw [Given.Means, ← htext, ← order_eq_iff hreads (by decide) (by decide)]
      obtain ⟨id, order⟩ := request
      simp [Command.path, Command.ofGiven?]
  | get id | history id =>
      simp only [Command.path] at hreads
      have htext : (named options).text "id" = id ↔ ("id", id) ∈ named options :=
        text_eq_iff hreads (by decide) (by decide)
      rw [Given.Means, ← htext]
      simp [Command.path, Command.ofGiven?]
  | query request =>
      rw [Given.Means, ← number_eq_iff hreads (by decide), ← number_eq_iff hreads (by decide)]
      obtain ⟨ids, caseIds, page, size⟩ := request
      simp [Command.path, Command.ofGiven?]
  | delete request =>
      obtain ⟨ids, caseIds⟩ := request
      simp [Command.path, Command.ofGiven?, Given.Means]
  | generate count =>
      rw [Given.Means, ← number_eq_iff hreads (by decide), ← number_eq_iff hreads (by decide)]
      simp only [Command.path, Command.ofGiven?, Option.some.injEq, Command.generate.injEq]
      cases ((named options).value? "count").bind readWord with
      | none => simp [eq_comm]
      | some word => simp

end Commands

/-! ## Reading arguments -/

section Request

variable {arguments path : List String} {given : Given} {invocation : Invocation}

theorem path_of_ofGiven? {command : Command} (h : Command.ofGiven? path given = some command) :
    command.path = path := by
  unfold Command.ofGiven? at h
  split at h <;> cases h <;> rfl

theorem ofArguments_eq_help_iff :
    Request.ofArguments arguments = .help ↔ grammar.AsksHelp [] arguments := by
  rw [← Grammar.read_eq_help_iff regular_grammar, Request.ofArguments]
  split
  next h => simp [h]
  next h => simp [h]
  next h =>
    rw [h]
    split <;> simp

/-- Arguments are read as what they say. -/
theorem ofArguments_eq_run_iff :
    Request.ofArguments arguments = .run invocation ↔ Invokes arguments invocation := by
  have hsaid {options : List (OptionRule × String)} {path : List String}
      (hreads : grammar.Reads [] arguments path options) {name default value : String}
      (hname : name = "db" ∨ name = "actor") :
      ((named options).value? name).getD default = value ↔
        (named options).Says name default value := by
    refine says_iff hreads fun rule hrule hrulename => ?_
    exact once_of_name hrule (hrulename ▸ hname)
  constructor
  · intro h
    rw [Request.ofArguments] at h
    split at h
    next => cases h
    next => cases h
    next path given hread =>
      obtain ⟨options, hreads, rfl⟩ := (Grammar.read_eq_accepted_iff regular_grammar).mp hread
      split at h
      next command hcommand =>
        cases h
        obtain rfl := path_of_ofGiven? hcommand
        exact ⟨options, hreads, (ofGiven?_eq_some_iff hreads).mp hcommand,
          (hsaid hreads (.inl rfl)).mp rfl, (hsaid hreads (.inr rfl)).mp rfl⟩
      next => cases h
  · rintro ⟨options, hreads, hmeans, hdatabase, hactor⟩
    have hread := (Grammar.read_eq_accepted_iff regular_grammar).mpr ⟨options, hreads, rfl⟩
    have hcommand := (ofGiven?_eq_some_iff hreads).mpr hmeans
    rw [Request.ofArguments, hread]
    simp only [hcommand, (hsaid hreads (.inl rfl)).mpr hdatabase,
      (hsaid hreads (.inr rfl)).mpr hactor]

theorem ofArguments_eq_refused_iff : Request.ofArguments arguments = .refused ↔
    ¬ grammar.AsksHelp [] arguments ∧ ∀ invocation, ¬ Invokes arguments invocation := by
  rw [← ofArguments_eq_help_iff]
  simp only [← ofArguments_eq_run_iff]
  cases Request.ofArguments arguments <;> simp

end Request

/-! ## Arguments that a command can have -/

/-- Arguments that only name options of a command, all of those that it must have among them, and
give numbers and timestamps where it takes them. -/
structure WellGiven (arguments : List String) (command : Command) : Prop where
  known : ∀ argument ∈ arguments, ∀ name value?, shape argument = .long name value? →
    ∃ rule ∈ grammar.rulesTo command.path, rule.name = name
  complete : ∀ rule ∈ options command.path, rule.required = true →
    dashed rule.name ∈ arguments ∨ ∃ value, joined rule.name value ∈ arguments
  numbers : ∀ name ∈ ["page", "size", "count"], ∀ value, GivesValue arguments name value →
    ∃ word : UInt32, IsNumeral value word.toNat
  timestamp : ∀ value, GivesValue arguments "effective-from" value →
    ∃ timestamp, Timestamp.ofText value = .ok timestamp

section WellGiven

variable {arguments : List String} {invocation : Invocation}

theorem Invokes.wellGiven (hinvokes : Invokes arguments invocation) :
    WellGiven arguments invocation.command := by
  obtain ⟨options, hreads, -⟩ := hinvokes
  constructor
  · intro argument hmem name value? hshape
    obtain ⟨option, hoption, hname, -⟩ := hreads.of_long regular_grammar hmem hshape
    exact ⟨option.1, hreads.mem_rulesTo hoption, hname⟩
  · intro rule hrule hrequired
    obtain ⟨option, hoption, hname⟩ := hreads.complete rule hrule hrequired
    rw [← hname]
    exact (hreads.exists_argument hoption).imp id fun h => ⟨option.2, h⟩
  · intro name hname value hgives
    have hwritten : ∀ name ∈ ["page", "size", "count"], name ≠ "" ∧ '=' ∉ name.toList := by
      decide
    have hvalued : ∀ rule ∈ grammar.rulesTo invocation.command.path, rule.name = name →
        rule.arity ≠ .flag :=
      fun rule hrule hrulename => by simp [once_of_number hrule (hrulename ▸ hname)]
    obtain ⟨rule, hrule, hrulename, haccepts⟩ := hreads.of_givesValue regular_grammar
      (hwritten name hname).1 (hwritten name hname).2 hvalued hgives
    obtain ⟨word, hword⟩ := exists_readWord_of_accepts hrule (hrulename ▸ hname) haccepts
    exact ⟨word, readWord_eq_some_iff.mp hword⟩
  · intro value hgives
    have hvalued : ∀ rule ∈ grammar.rulesTo invocation.command.path,
        rule.name = "effective-from" → rule.arity ≠ .flag :=
      fun rule hrule hrulename => by simp [once_of_timestamp hrule hrulename]
    obtain ⟨rule, hrule, hrulename, haccepts⟩ := hreads.of_givesValue regular_grammar (by decide)
      (by decide) hvalued hgives
    exact exists_timestamp_of_accepts hrule hrulename haccepts

/-- Arguments that are read give a command. -/
theorem exists_invokes {path : List String} {options : List (OptionRule × String)}
    (hreads : grammar.Reads [] arguments path options) :
    ∃ invocation, Invokes arguments invocation ∧ invocation.command.path = path := by
  have hinner : ∀ first ∈ commandsBelow [], commandsBelow [first] ≠ [] := by decide
  have hleaves : ∀ first ∈ commandsBelow [], ∀ second ∈ commandsBelow [first],
      (Command.ofGiven? [first, second] (named options)).isSome = true := by
    simp [commandsBelow, Command.ofGiven?]
  obtain ⟨command, hcommand⟩ : ∃ command, Command.ofGiven? path (named options) = some command := by
    obtain ⟨-, hnone⟩ | ⟨first, hfirst, _, _, hdeeper⟩ := hreads.last_or_deeper
    · cases hnone
    obtain ⟨rfl, hnone⟩ | ⟨second, hsecond, _, _, hdeepest⟩ := hdeeper.last_or_deeper
    · exact absurd hnone (hinner first hfirst)
    obtain ⟨rfl, -⟩ | ⟨third, hthird, _⟩ := hdeepest.last_or_deeper
    · exact Option.isSome_iff_exists.mp (hleaves first hfirst second hsecond)
    · exact absurd (length_of_command hthird) (by simp)
  have hread := (Grammar.read_eq_accepted_iff regular_grammar).mpr ⟨options, hreads, rfl⟩
  refine ⟨⟨((named options).value? "db").getD defaultDatabase,
    ((named options).value? "actor").getD defaultActor, command⟩,
    ofArguments_eq_run_iff.mp ?_, path_of_ofGiven? hcommand⟩
  rw [Request.ofArguments, hread]
  simp only [hcommand]

end WellGiven

end PaymentOrders.CommandLine
