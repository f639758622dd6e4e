import PaymentOrders.Proofs.OrderFilter
/-!
# What a request is resolved to

Exactly one of the two lists of a request may hold texts. They are read one by one: either all of
them are keys, or everything that is wrong with any of them is told, in their order. How often a
key is named, where, and in which spelling does not change the filter.
-/

namespace PaymentOrders

/-! ## The rejected values -/

theorem eraseDups_filter_flatMap {texts : List String} {values : String → List String}
    {rejected : String → Bool}
    (hrejected : ∀ text ∈ texts, rejected text = true →
      ∃ count, values text = List.replicate (count + 1) text)
    (hread : ∀ text ∈ texts, rejected text = false → values text = []) (p : String → Bool) :
    ((texts.flatMap values).filter p).eraseDups =
      ((texts.filter rejected).filter p).eraseDups := by
  -- Removing repeats leaves less than the tail of the list, so the tail is taken under any filter.
  induction texts generalizing p with
  | nil => rfl
  | cons text texts ih =>
      have htail := ih (fun other hother => hrejected other (List.mem_cons_of_mem _ hother))
        fun other hother => hread other (List.mem_cons_of_mem _ hother)
      rw [List.flatMap_cons, List.filter_append]
      cases hone : rejected text with
      | false =>
          rw [hread text (List.mem_cons_self ..) hone, List.filter_cons_of_neg (by simp [hone])]
          exact htail p
      | true =>
          obtain ⟨count, hcount⟩ := hrejected text (List.mem_cons_self ..) hone
          rw [hcount, List.filter_cons_of_pos hone, List.filter_replicate]
          by_cases hp : p text = true
          · have hrepeats :
                (List.replicate count text).filter (fun other => !other == text) = [] := by
              simp
            rw [if_pos hp, List.filter_cons_of_pos hp, List.replicate_succ, List.cons_append,
              List.eraseDups_cons, List.eraseDups_cons, List.filter_append, hrepeats,
              List.nil_append, List.filter_filter, List.filter_filter]
            exact congrArg (text :: ·) (htail _)
          · rw [if_neg hp, List.filter_cons_of_neg hp, List.nil_append]
            exact htail p

theorem invalidValues_flatMap {α : Type} {read : String → Except Report α} {texts : List String}
    (h : ∀ text ∈ texts, (read text).isOk = false →
      ∃ count, (Report.ofRead (read text)).filterMap Issue.value? =
        List.replicate (count + 1) text) :
    Report.invalidValues (texts.flatMap (Report.ofRead ∘ read)) =
      (texts.filter fun text => !(read text).isOk).eraseDups := by
  have hread : ∀ text ∈ texts, (!(read text).isOk) = false →
      (Report.ofRead (read text)).filterMap Issue.value? = [] := by
    intro text _ hone
    cases hkey : read text with
    | error report =>
        rw [hkey] at hone
        cases hone
    | ok key => rfl
  have hdups := eraseDups_filter_flatMap
    (fun text htext hone => h text htext (by simpa using hone)) hread fun _ => true
  rw [Report.invalidValues, List.filterMap_flatMap]
  simpa only [List.filter_true, Function.comp_apply] using hdups

theorem OrderId.values_of_rejected {field text : String} (hsome : Text.isBlank text = false)
    (h : (parseField field text).isOk = false) :
    (Report.ofRead (parseField field text)).filterMap Issue.value? = [text] := by
  have hblank : Issue.ofBlank field text = none := if_neg (by simp [hsome])
  unfold parseField at h ⊢
  rw [hblank] at h ⊢
  cases hparse : parse text with
  | none => rfl
  | some id =>
    rw [hparse] at h
    cases h

theorem CaseId.values_of_rejected {field text : String} (hsome : Text.isBlank text = false)
    (h : (parseField field text).isOk = false) :
    ∃ count, (Report.ofRead (parseField field text)).filterMap Issue.value? =
      List.replicate (count + 1) text := by
  have hissues : issues field text ≠ [] := by
    intro hnone
    rw [← ofRead_parseField hsome] at hnone
    cases hread : parseField field text with
    | ok id =>
        rw [hread] at h
        cases h
    | error report =>
        rw [hread] at hnone
        change report = [] at hnone
        rw [hnone] at hread
        exact OrderFilter.parseField_caseId_ne field text hread
  rw [ofRead_parseField hsome]
  simp only [issues, hsome, Bool.false_eq_true, if_false] at hissues ⊢
  split_ifs at hissues ⊢
  · exact absurd rfl hissues
  · exact ⟨0, rfl⟩
  · exact ⟨0, rfl⟩
  · exact ⟨1, rfl⟩

namespace OrderFilter

/-! ## One kind of key -/

/-- What the texts of one kind of key come to: the filter of their keys, each once and in ascending
order, or all that is wrong with them. -/
structure Resolved {α : Type} (read : String → Except Report α) (key : α → Nat)
    (filter : List α → OrderFilter) (texts : List String)
    (answer : Except OrderError OrderFilter) : Prop where
  accepts : (∃ found, answer = .ok found) ↔ ∀ text ∈ texts, ∃ k, read text = .ok k
  keys : ∀ found, answer = .ok found → ∃ keys, found = filter keys ∧
    keys.Pairwise (fun a b => key a < key b) ∧ ∀ k, k ∈ keys ↔ ∃ text ∈ texts, read text = .ok k
  rejects : ∀ text ∈ texts, (∀ k, read text ≠ .ok k) →
    answer = .error (.validation (texts.flatMap (Report.ofRead ∘ read)))

section Resolved

variable {α : Type} {read : String → Except Report α} {key : α → Nat}
  {filter : List α → OrderFilter} {texts : List String} {answer : Except OrderError OrderFilter}

theorem flatMap_ofRead_ne_nil (hread : ∀ text, read text ≠ .error []) {text : String}
    (htext : text ∈ texts) (hrejected : ∀ k, read text ≠ .ok k) :
    texts.flatMap (Report.ofRead ∘ read) ≠ [] := by
  intro hnone
  have hissues := List.flatMap_eq_nil_iff.mp hnone text htext
  cases hone : read text with
  | ok k => exact hrejected k hone
  | error report =>
      rw [Function.comp_apply, hone] at hissues
      change report = [] at hissues
      exact hread text (hissues ▸ hone)

theorem Resolved.of_read (hread : ∀ text, read text ≠ .error []) (hkey : Function.Injective key)
    (hok : ∀ keys, readAll read texts = .ok keys →
      answer = .ok (filter (Sorted.ofKeys key keys)))
    (herror : ∀ report, readAll read texts = .error report →
      answer = .error (.validation report)) :
    Resolved read key filter texts answer := by
  have hrejects {text : String} (htext : text ∈ texts) (hone : ∀ k, read text ≠ .ok k) :
      answer = .error (.validation (texts.flatMap (Report.ofRead ∘ read))) :=
    herror _ (readAll_of_issues (flatMap_ofRead_ne_nil hread htext hone))
  refine ⟨⟨?_, ?_⟩, ?_, fun text htext => hrejects htext⟩
  · rintro ⟨found, hfound⟩ text htext
    by_contra hone
    rw [hrejects htext (not_exists.mp hone)] at hfound
    cases hfound
  · intro hall
    exact ⟨_, hok _ (readAll_of_read hall)⟩
  · intro found hfound
    cases hkeys : readAll read texts with
    | error report =>
        rw [herror report hkeys] at hfound
        cases hfound
    | ok keys =>
        rw [hok keys hkeys] at hfound
        cases hfound
        exact ⟨_, rfl, Sorted.pairwise_ofKeys hkey keys, mem_keys_of_readAll hkey hkeys⟩

/-- Every text of each list is like some text of the other. -/
structure Copies (alike : String → String → Prop) (texts others : List String) : Prop where
  forward : ∀ text ∈ texts, ∃ other ∈ others, alike text other
  back : ∀ other ∈ others, ∃ text ∈ texts, alike text other

theorem Copies.eq_nil_iff {alike : String → String → Prop} {texts others : List String}
    (h : Copies alike texts others) : texts = [] ↔ others = [] := by
  constructor
  · rintro rfl
    refine List.eq_nil_iff_forall_not_mem.mpr fun other hother => ?_
    obtain ⟨text, htext, _⟩ := h.back other hother
    cases htext
  · rintro rfl
    refine List.eq_nil_iff_forall_not_mem.mpr fun text htext => ?_
    obtain ⟨other, hother, _⟩ := h.forward text htext
    cases hother

/-- Texts that are read alike come to the same filter. -/
theorem Resolved.copies {others : List String} {again : Except OrderError OrderFilter}
    {alike : String → String → Prop} (halike : ∀ text other, alike text other → ∀ k,
      read text = .ok k ↔ read other = .ok k)
    (h : Resolved read key filter texts answer) (hagain : Resolved read key filter others again)
    (hcopies : Copies alike texts others) {found : OrderFilter} (hfound : answer = .ok found) :
    again = .ok found := by
  have hread := h.accepts.mp ⟨found, hfound⟩
  obtain ⟨other, hother⟩ : ∃ other, again = .ok other := by
    apply hagain.accepts.mpr
    intro text htext
    obtain ⟨one, hone, hlike⟩ := hcopies.back text htext
    obtain ⟨k, hk⟩ := hread one hone
    exact ⟨k, (halike one text hlike k).mp hk⟩
  obtain ⟨keys, rfl, hkeys, hmem⟩ := h.keys found hfound
  obtain ⟨keys', rfl, hkeys', hmem'⟩ := hagain.keys other hother
  have hsame : keys = keys' := by
    apply Sorted.eq_of_mem_iff hkeys hkeys'
    intro k
    rw [hmem, hmem']
    constructor
    · rintro ⟨text, htext, hk⟩
      obtain ⟨one, hone, hlike⟩ := hcopies.forward text htext
      exact ⟨one, hone, (halike text one hlike k).mp hk⟩
    · rintro ⟨text, htext, hk⟩
      obtain ⟨one, hone, hlike⟩ := hcopies.back text htext
      exact ⟨one, hone, (halike one text hlike k).mpr hk⟩
  rw [hother, hsame]

end Resolved

theorem resolved_ids {ids : List String} (hsome : ids ≠ []) :
    Resolved (OrderId.parseField "ids") OrderId.value .ids ids (resolve ids []) := by
  obtain ⟨text, rest, rfl⟩ := List.exists_cons_of_ne_nil hsome
  apply Resolved.of_read (parseField_orderId_ne "ids") OrderId.value_injective
  · intro keys hkeys
    rw [resolve, hkeys]
  · intro report hreport
    rw [resolve, hreport]

theorem resolved_caseIds {caseIds : List String} (hsome : caseIds ≠ []) :
    Resolved (CaseId.parseField "case_ids") CaseId.number .caseIds caseIds
      (resolve [] caseIds) := by
  obtain ⟨text, rest, rfl⟩ := List.exists_cons_of_ne_nil hsome
  apply Resolved.of_read (parseField_caseId_ne "case_ids") CaseId.number_injective
  · intro keys hkeys
    rw [resolve, hkeys]
  · intro report hreport
    rw [resolve, hreport]

theorem resolve_filter_iff (ids caseIds : List String) :
    (∃ detail, resolve ids caseIds = .error (.filter detail)) ↔ (ids = [] ↔ caseIds = []) := by
  cases ids with
  | nil =>
      cases caseIds with
      | nil => exact ⟨fun _ => Iff.rfl, fun _ => ⟨_, rfl⟩⟩
      | cons text rest =>
          simp only [resolve]
          split <;> simp
  | cons text rest =>
      cases caseIds with
      | nil =>
          simp only [resolve]
          split <;> simp
      | cons other others => exact ⟨fun _ => by simp, fun _ => ⟨_, rfl⟩⟩

/-! ## The validator of many case ids -/

theorem flatMap_issues {field : String} {caseIds : List String}
    (hsome : ∀ text ∈ caseIds, Text.isBlank text = false) :
    caseIds.flatMap (Report.ofRead ∘ CaseId.parseField field) =
      caseIds.flatMap (CaseId.issues field) :=
  List.flatMap_congr fun text htext => CaseId.ofRead_parseField (hsome text htext)

theorem resolve_error_iff_validateAll {caseIds : List String} (hnonempty : caseIds ≠ [])
    (hsome : ∀ text ∈ caseIds, Text.isBlank text = false) (error : OrderError) :
    resolve [] caseIds = .error error ↔ CaseId.validateAll "case_ids" caseIds = .error error := by
  obtain ⟨text, rest, rfl⟩ := List.exists_cons_of_ne_nil hnonempty
  simp only [resolve, readAll, CaseId.validateAll]
  rw [flatMap_issues hsome]
  split <;> split <;> simp_all

theorem Copies.resolved {ids others caseIds otherCases : List String} {found : OrderFilter}
    (hids : Copies (fun text other => OrderId.spelling text = OrderId.spelling other) ids others)
    (hcases : Copies (fun text other => text = other) caseIds otherCases)
    (h : resolve ids caseIds = .ok found) : resolve others otherCases = .ok found := by
  by_cases hnone : ids = [] ↔ caseIds = []
  · obtain ⟨detail, hdetail⟩ := (resolve_filter_iff ids caseIds).mpr hnone
    rw [hdetail] at h
    cases h
  · by_cases hid : ids = []
    · have hsome : caseIds ≠ [] := fun hcase => hnone ⟨fun _ => hcase, fun _ => hid⟩
      have hothers : otherCases ≠ [] := fun hcase => hsome (hcases.eq_nil_iff.mpr hcase)
      cases hids.eq_nil_iff.mp hid
      cases hid
      exact (resolved_caseIds hsome).copies (fun _ _ hsame _ => by rw [hsame])
        (resolved_caseIds hothers) hcases h
    · have hcase : caseIds = [] := by
        by_contra hsome
        exact hnone ⟨fun hnil => absurd hnil hid, fun hnil => absurd hnil hsome⟩
      have hothers : others ≠ [] := fun hnil => hid (hids.eq_nil_iff.mpr hnil)
      cases hcases.eq_nil_iff.mp hcase
      cases hcase
      refine (resolved_ids hid).copies (fun _ _ hsame k => ?_) (resolved_ids hothers) hids h
      rw [OrderId.parseField_eq_ok, OrderId.parseField_eq_ok, OrderId.parse_eq_of_spelling hsame]

theorem Resolved.report_eq {α : Type} {read : String → Except Report α} {key : α → Nat}
    {filter : List α → OrderFilter} {texts : List String}
    {answer : Except OrderError OrderFilter} (h : Resolved read key filter texts answer)
    {report : Report} (hreport : answer = .error (.validation report)) :
    report = texts.flatMap (Report.ofRead ∘ read) := by
  have hrefused : ¬ ∀ text ∈ texts, ∃ k, read text = .ok k := by
    intro hall
    obtain ⟨found, hfound⟩ := h.accepts.mpr hall
    rw [hfound] at hreport
    cases hreport
  push Not at hrefused
  obtain ⟨text, htext, hone⟩ := hrefused
  rw [h.rejects text htext hone] at hreport
  cases hreport
  rfl

/-- The values that a report names are the texts that are no keys, if none of these is blank. -/
theorem invalidValues_of_resolve {ids caseIds : List String}
    (hsome : ∀ text ∈ ids ++ caseIds, Text.isBlank text = false) {report : Report}
    (h : resolve ids caseIds = .error (.validation report)) :
    report.invalidValues = (ids.filter (fun text => !(OrderId.parseField "ids" text).isOk) ++
      caseIds.filter (fun text => !(CaseId.parseField "case_ids" text).isOk)).eraseDups := by
  cases ids with
  | nil =>
      cases caseIds with
      | nil => cases h
      | cons text rest =>
          rw [(resolved_caseIds (by simp)).report_eq h, List.filter_nil, List.nil_append]
          exact invalidValues_flatMap fun one hone hrefused =>
            CaseId.values_of_rejected (hsome one hone) hrefused
  | cons text rest =>
      cases caseIds with
      | cons other others => cases h
      | nil =>
          rw [(resolved_ids (by simp)).report_eq h, List.filter_nil, List.append_nil]
          refine invalidValues_flatMap fun one hone hrefused => ⟨0, ?_⟩
          exact OrderId.values_of_rejected (hsome one (List.mem_append_left _ hone)) hrefused

/-! ## The whole of it -/

/-- What a request is resolved to. Both lists or neither is an error of the filter, whatever the
texts are. Otherwise the texts come to the filter of their keys or to all that is wrong with them;
order ids that are spelled differently and texts that stand elsewhere or more than once do not
matter. A case id has one spelling; what is wrong with case ids is what the validator of many says,
and the values that it names are those that were rejected. -/
theorem resolve_exact (ids caseIds : List String) :
    ((∃ detail, resolve ids caseIds = .error (.filter detail)) ↔ (ids = [] ↔ caseIds = [])) ∧
    (ids ≠ [] → caseIds = [] →
      Resolved (OrderId.parseField "ids") OrderId.value .ids ids (resolve ids caseIds)) ∧
    (ids = [] → caseIds ≠ [] →
      Resolved (CaseId.parseField "case_ids") CaseId.number .caseIds caseIds
        (resolve ids caseIds)) ∧
    (∀ others otherCases found,
      Copies (fun text other => OrderId.spelling text = OrderId.spelling other) ids others →
      Copies (fun text other => text = other) caseIds otherCases →
      resolve ids caseIds = .ok found → resolve others otherCases = .ok found) ∧
    (∀ text caseId, CaseId.parseField "case_ids" text = .ok caseId → text = caseId.toText) ∧
    (ids = [] → caseIds ≠ [] → (∀ text ∈ caseIds, Text.isBlank text = false) → ∀ error,
      resolve ids caseIds = .error error ↔
        CaseId.validateAll "case_ids" caseIds = .error error) ∧
    ((∀ text ∈ ids ++ caseIds, Text.isBlank text = false) → ∀ report,
      resolve ids caseIds = .error (.validation report) →
      report.invalidValues = (ids.filter (fun text => !(OrderId.parseField "ids" text).isOk) ++
        caseIds.filter (fun text => !(CaseId.parseField "case_ids" text).isOk)).eraseDups) := by
  refine ⟨resolve_filter_iff ids caseIds, ?_, ?_, ?_, ?_, ?_, ?_⟩
  · rintro hsome rfl
    exact resolved_ids hsome
  · rintro rfl hsome
    exact resolved_caseIds hsome
  · intro others otherCases found hids hcases hfound
    exact hids.resolved hcases hfound
  · intro text caseId hread
    exact CaseId.eq_toText_of_parseField hread
  · rintro rfl hnonempty hsome error
    exact resolve_error_iff_validateAll hnonempty hsome error
  · intro hsome report hreport
    exact invalidValues_of_resolve hsome hreport

/-- Two ids in another order, one of them twice and with a small letter and spaces; and three case
ids, of which one is wrong in two ways and named twice. -/
theorem resolve_exact_respelled :
    resolve [" 0000000000000000000000000a", "00000000000000000000000002",
        "0000000000000000000000000A"] [] = .ok (.ids [⟨2, by decide⟩, ⟨10, by decide⟩]) ∧
      ∃ report, resolve [] ["12x", "6551341964128977", "12x"] = .error (.validation report) ∧
        report.length = 4 ∧ report.invalidValues = ["12x"] := by
  have hread : resolve ["00000000000000000000000002", "0000000000000000000000000A"] [] =
      .ok (.ids [⟨2, by decide⟩, ⟨10, by decide⟩]) := by decide +kernel
  obtain ⟨_, _, _, hcopies, _⟩ :=
    resolve_exact ["00000000000000000000000002", "0000000000000000000000000A"] []
  have hids : Copies (fun text other => OrderId.spelling text = OrderId.spelling other)
      ["00000000000000000000000002", "0000000000000000000000000A"]
      [" 0000000000000000000000000a", "00000000000000000000000002",
        "0000000000000000000000000A"] := by
    constructor <;> decide +kernel
  have hcases : Copies (fun text other => text = other) [] [] := by constructor <;> simp
  obtain ⟨_, _, hresolved, _, _, _, hvalues⟩ :=
    resolve_exact [] ["12x", "6551341964128977", "12x"]
  have hrefused : (CaseId.parseField "case_ids" "12x").isOk = false := by decide +kernel
  have hnone : ∀ k, CaseId.parseField "case_ids" "12x" ≠ .ok k := by
    intro k hk
    rw [hk] at hrefused
    cases hrefused
  have hrejects := (hresolved rfl (by simp)).rejects "12x" (by simp) hnone
  refine ⟨hcopies _ _ _ hids hcases hread, _, hrejects, by decide +kernel, ?_⟩
  rw [hvalues (by decide +kernel) _ hrejects]
  decide +kernel

end OrderFilter

end PaymentOrders
