import PaymentOrders.Proofs.Wire.Record
import PaymentOrders.Wire.Service
/-!
# Documents that are written again

What is read from a document, with members left out, members that nobody knows, ids in small
letters, leap seconds or fractions of any length, is written in one form only. Reading that form
gives the same value: a timestamp with its local time, its nanoseconds and its offset.
-/

namespace PaymentOrders.Wire

open Record

/-! ## The domain -/

instance : Faithful OrderFields where
  readBack fields := by
    refine Accepts.readBack ?_ (fun _ => rfl) rfl (by simp)
    refine .seq (.seq (.seq (.seq (.map _ ?_) ?_) ?_) ?_) ?_
    all_goals exact .member rfl (Faithful.readBack _)

instance : Faithful Order where
  readBack order := by
    refine Accepts.readBack ?_ (fun _ => rfl) rfl (by simp)
    refine .seq (.seq (.seq (.seq (.seq (.seq (.seq (.map _ ?_) ?_) ?_) ?_) ?_) ?_) ?_) ?_
    all_goals exact .member rfl (Faithful.readBack _)

instance : Solid Order := ⟨fun _ h => by cases h⟩

theorem ReadBack.revision {revision : Revision} (hnumber : ReadBack revision.number) :
    ReadBack revision := by
  refine Accepts.readBack ?_ (fun _ => rfl) rfl (by simp)
  refine .seq (.seq (.seq (.seq (.map _ ?_) ?_) ?_) ?_) ?_
  · exact .member rfl hnumber
  all_goals exact .member rfl (Faithful.readBack _)

instance : Stable Revision := by
  have hmakes : revisionRecord.Makes ReadBack := by
    refine .seq (.seq (.seq (.seq (.map ?_ ?_) ?_) ?_) ?_) (.optional _)
    · intro number hnumber _ _ _ _ _ _ _ _
      exact .revision hnumber
    all_goals exact .required _
  exact hmakes.stable fun _ => rfl

instance : Faithful OrderFilter where
  readBack filter := by
    cases filter with
    | ids keys =>
        have hkeys : decode (encode keys) = .ok keys := Faithful.readBack keys
        change (decode (encode keys)).map OrderFilter.ids = .ok (.ids keys)
        rw [hkeys]
        rfl
    | caseIds keys =>
        have hkeys : decode (encode keys) = .ok keys := Faithful.readBack keys
        change (decode (encode keys)).map OrderFilter.caseIds = .ok (.caseIds keys)
        rw [hkeys]
        rfl

instance : Faithful PageRequest where
  readBack request := by
    refine Accepts.readBack ?_ (fun _ => rfl) rfl (by simp)
    refine .seq (.map _ ?_) ?_
    all_goals exact .member rfl (Faithful.readBack _)

theorem ReadBack.page {α : Type} [Wire α] {page : Page α} (hcontent : ReadBack page.content) :
    ReadBack page := by
  refine Accepts.readBack ?_ (fun _ => rfl) rfl (by simp)
  refine .seq (.seq (.seq (.seq (.map _ ?_) ?_) ?_) ?_) ?_
  · exact .member rfl hcontent
  all_goals exact .member rfl (Faithful.readBack _)

instance {α : Type} [Wire α] [Stable α] : Stable (Page α) := by
  have hmakes : (pageRecord α).Makes ReadBack := by
    refine .seq (.seq (.seq (.seq (.map ?_ ?_) ?_) ?_) ?_) ?_
    · intro content hcontent _ _ _ _ _ _ _ _
      exact .page hcontent
    all_goals exact .required _
  exact hmakes.stable fun _ => rfl

/-- An issue is read back if the record of its kind accepts the kind and what is written behind
it. -/
theorem ReadBack.issue {issue : Issue} {kind name : String} {members : List (String × Json)}
    {record : Record Issue} (hmembers : issueMembers issue = (kind, members))
    (hrecord : issueRecord? kind = Option.some (name, record))
    (hnames : ((("kind", Json.string kind) :: members).map Prod.fst).Nodup)
    (haccepts : record.Accepts (("kind", Json.string kind) :: members) issue) :
    ReadBack issue := by
  simp only [ReadBack, encode, decode, hmembers, decodeIssue, Json.find?, if_true, decodeIssueKind,
    hrecord, Steps.bind_ok]
  exact haccepts.ofObject hnames

instance : Faithful Issue where
  readBack issue := by
    cases issue with
    | required field =>
        refine .issue rfl rfl (by simp) (.map _ ?_)
        exact .member rfl (Faithful.readBack _)
    | caseIdLength field value =>
        refine .issue rfl rfl (by simp) (.seq (.map _ ?_) ?_)
        all_goals exact .member rfl (Faithful.readBack _)
    | caseIdChecksum field value =>
        refine .issue rfl rfl (by simp) (.seq (.map _ ?_) ?_)
        all_goals exact .member rfl (Faithful.readBack _)
    | malformedId field value =>
        refine .issue rfl rfl (by simp) (.seq (.map _ ?_) ?_)
        all_goals exact .member rfl (Faithful.readBack _)
    | invalidPagination detail =>
        refine .issue rfl rfl (by simp) (.map _ ?_)
        exact .member rfl (Faithful.readBack _)

instance : Faithful ErrorReport where
  readBack report := by
    obtain ⟨kind, message, issues⟩ := report
    cases issues with
    | nil =>
        -- A report without issues does not write the list, which then stands for an empty one.
        refine Accepts.readBack ?_ (fun _ => rfl) rfl (by simp)
        refine .seq (.seq (.map _ ?_) ?_) (.missing rfl rfl)
        all_goals exact .member rfl (Faithful.readBack _)
    | cons issue issues =>
        refine Accepts.readBack ?_ (fun _ => rfl) rfl (by simp)
        refine .seq (.seq (.map _ ?_) ?_) ?_
        all_goals exact .member rfl (Faithful.readBack _)

/-! ## Requests -/

instance : Solid Timestamp := ⟨fun _ h => by cases h⟩

instance : Solid UInt32 := ⟨fun _ h => by cases h⟩

theorem accepts_orderRequest (request : OrderRequest) {members : List (String × Json)}
    (hfind : ∀ member ∈ orderRequestMembers request,
      Json.find? member.1 members = some member.2) :
    orderRequestRecord.Accepts members request := by
  simp only [orderRequestMembers, List.forall_mem_cons] at hfind
  obtain ⟨heffective, hcase, haction, hparty, hreference, _⟩ := hfind
  refine .seq (.seq (.seq (.seq (.map _ ?_) ?_) ?_) ?_) ?_
  · exact .member heffective (Faithful.readBack _)
  · exact .member hcase (Faithful.readBack _)
  · exact .member haction (Faithful.readBack _)
  · exact .member hparty (Faithful.readBack _)
  · exact .member hreference (Faithful.readBack _)

theorem names_orderRequestMembers (request : OrderRequest) :
    ((orderRequestMembers request).map Prod.fst) =
      ["effective_from", "case_id", "action", "responsible_party", "order_reference"] := rfl

instance : Faithful OrderRequest where
  readBack request := by
    have hnames : ((orderRequestMembers request).map Prod.fst).Nodup := by
      simp [names_orderRequestMembers]
    have haccepts := accepts_orderRequest request fun member hmember =>
      Json.find?_of_mem hnames hmember
    exact haccepts.ofObject hnames

instance : Faithful UpdateRequest where
  readBack request := by
    let members := ("id", encode request.id) :: orderRequestMembers request.order
    have hnames : (members.map Prod.fst).Nodup := by
      simp [members, names_orderRequestMembers]
    have hid : idRecord.Accepts members request.id := by
      unfold idRecord Record.defaulted
      exact .member rfl (Faithful.readBack _)
    have horder := accepts_orderRequest request.order fun member hmember =>
      Json.find?_of_mem hnames (List.mem_cons_of_mem _ hmember)
    change (do
      let id ← idRecord.ofObject members
      let order ← orderRequestRecord.ofObject members
      return UpdateRequest.mk id order) = .ok request
    rw [hid.ofObject hnames, Steps.bind_ok, horder.ofObject hnames, Steps.bind_ok]
    rfl

instance : Faithful QueryRequest where
  readBack request := by
    refine Accepts.readBack ?_ (fun _ => rfl) rfl (by simp)
    refine .seq (.seq (.seq (.map _ ?_) ?_) ?_) ?_
    all_goals exact .member rfl (Faithful.readBack _)

instance : Faithful Store.DeleteRequest where
  readBack request := by
    refine Accepts.readBack ?_ (fun _ => rfl) rfl (by simp)
    refine .seq (.map _ ?_) ?_
    all_goals exact .member rfl (Faithful.readBack _)

/-! ## Results -/

theorem ReadBack.deletionSummary {summary : Store.DeletionSummary}
    (hrequested : ReadBack summary.requested) (hrecords : ReadBack summary.recordsDeleted)
    (hrevisions : ReadBack summary.revisionsDeleted) : ReadBack summary := by
  refine Accepts.readBack ?_ (fun _ => rfl) rfl (by simp)
  refine .seq (.seq (.seq (.map _ ?_) ?_) ?_) ?_
  · exact .member rfl (Faithful.readBack _)
  · exact .member rfl hrequested
  · exact .member rfl hrecords
  · exact .member rfl hrevisions

instance : Stable Store.DeletionSummary := by
  have hmakes : deletionSummaryRecord.Makes ReadBack := by
    refine .seq (.seq (.seq (.map ?_ ?_) ?_) ?_) ?_
    · intro _ _ requested hrequested records hrecords revisions hrevisions
      exact .deletionSummary hrequested hrecords hrevisions
    all_goals exact .required _
  exact hmakes.stable fun _ => rfl

theorem ReadBack.schemaStatus {status : Store.SchemaStatus}
    (hcurrent : ReadBack status.currentVersion) (htarget : ReadBack status.targetVersion)
    (hpending : ReadBack status.pendingVersions) : ReadBack status := by
  refine Accepts.readBack ?_ (fun _ => rfl) rfl (by simp)
  refine .seq (.seq (.map _ ?_) ?_) ?_
  · exact .member rfl hcurrent
  · exact .member rfl htarget
  · exact .member rfl hpending

instance : Stable Store.SchemaStatus := by
  have hmakes : schemaStatusRecord.Makes ReadBack := by
    refine .seq (.seq (.map ?_ ?_) ?_) ?_
    · intro current hcurrent target htarget pending hpending
      exact .schemaStatus hcurrent htarget hpending
    all_goals exact .required _
  exact hmakes.stable fun _ => rfl

theorem ReadBack.integrityReport {report : Store.IntegrityReport}
    (hstatus : ReadBack report.schemaStatus) : ReadBack report := by
  refine Accepts.readBack ?_ (fun _ => rfl) rfl (by simp)
  refine .seq (.seq (.seq (.seq (.map _ ?_) ?_) ?_) ?_) (.member rfl hstatus)
  all_goals exact .member rfl (Faithful.readBack _)

instance : Stable Store.IntegrityReport := by
  have hmakes : integrityReportRecord.Makes ReadBack := by
    refine .seq (.seq (.seq (.seq (.map ?_ ?_) ?_) ?_) ?_) ?_
    · intro _ _ _ _ _ _ _ _ status hstatus
      exact .integrityReport hstatus
    all_goals exact .required _
  exact hmakes.stable fun _ => rfl

instance : Solid Int := ⟨fun _ h => by cases h⟩

instance : Solid Bool := ⟨fun _ h => by cases h⟩

theorem ReadBack.migrateResult {result : MigrateResult}
    (hcurrent : ReadBack result.currentVersion) (htarget : ReadBack result.targetVersion)
    (hwould : ReadBack result.wouldApplyVersions) (hafter : ReadBack result.afterVersion) :
    ReadBack result := by
  refine Accepts.readBack ?_ (fun _ => rfl) rfl (by simp)
  refine .seq (.seq (.seq (.seq (.seq (.map _ ?_) ?_) ?_) ?_) ?_) ?_
  · exact .member rfl (Faithful.readBack _)
  · exact .member rfl hcurrent
  · exact .member rfl htarget
  · exact .member rfl hwould
  · exact .member rfl hafter
  · exact .member rfl (Faithful.readBack _)

instance : Stable MigrateResult := by
  have hmakes : migrateResultRecord.Makes ReadBack := by
    refine .seq (.seq (.seq (.seq (.seq (.map ?_ ?_) ?_) ?_) ?_) (.optional _)) (.optional _)
    · intro _ _ current hcurrent target htarget would hwould after hafter _ _
      exact .migrateResult hcurrent htarget hwould hafter
    all_goals exact .required _
  exact hmakes.stable fun _ => rfl

/-! ## Every type of the wire -/

/-- Of every type, what is read from a document is read again from the document that is written
for it, unchanged. -/
theorem written_documents_read_the_same :
    (Stable CaseId ∧ Stable OrderId ∧ Stable OrderFields ∧ Stable Order ∧ Stable Revision ∧
      Stable OrderFilter ∧ Stable PageRequest ∧
      (∀ (α : Type) [Wire α] [Stable α], Stable (Page α)) ∧ Stable Issue ∧ Stable ErrorReport) ∧
    (Stable OrderRequest ∧ Stable UpdateRequest ∧ Stable QueryRequest ∧
      Stable Store.DeleteRequest) ∧
    (Stable Store.DeletionSummary ∧ Stable Store.SchemaStatus ∧ Stable MigrateResult ∧
      Stable Store.IntegrityReport) := by
  refine ⟨⟨?_, ?_, ?_, ?_, ?_, ?_, ?_, fun α _ _ => ?_, ?_, ?_⟩, ⟨?_, ?_, ?_, ?_⟩,
    ⟨?_, ?_, ?_, ?_⟩⟩
  all_goals infer_instance

namespace Sample

/-- A revision of an order of a leap second, with a member that nobody knows and without the order
as it was. -/
def leapRevision : Json :=
  .object [("record_id", .string "8zzzzzzzzzzzzzzzzzzzzzzzzz"), ("note", .null),
    ("revision_timestamp", .string "2016-12-31T18:29:60.123-05:30"),
    ("change_type", .object [("deleted", .null)]), ("revision_number", .integer 7)]

def leapPage : Json :=
  .object [("total_pages", .integer 1), ("total_elements", .integer 1), ("size", .integer 20),
    ("page", .integer 0), ("content", .array [leapRevision])]

end Sample

theorem page_of_leap_second_reads_the_same :
    ∃ revision : Revision, (decode Sample.leapPage = .ok (Page.mk [revision] 0 20 1 1) ∧
      revision.recordId.toText = "0ZZZZZZZZZZZZZZZZZZZZZZZZZ" ∧
      revision.timestamp.toText = "2016-12-31T18:29:59.999999999-05:30") ∧
    decode (encode (Page.mk [revision] 0 20 1 1)) = .ok (Page.mk [revision] 0 20 1 1) := by
  let revision : Revision := {
    number := 7
    recordId := ⟨42535295865117307932921825928971026431, by decide⟩
    changeType := .deleted
    timestamp := {
      year := 2016, month := 12, day := 31, hour := 18, minute := 29, second := 59
      nanosecond := 999999999, offset := -330
      year_le := by decide, one_le_month := by decide, month_le := by decide
      one_le_day := by decide, day_le := by decide, hour_le := by decide, minute_le := by decide
      second_le := by decide, nanosecond_lt := by decide, offset_le := by decide }
    snapshot := none }
  have hread : decode Sample.leapPage = .ok (Page.mk [revision] 0 20 1 1) := by decide +kernel
  obtain ⟨⟨_, _, _, _, _, _, _, hpage, _, _⟩, _, _⟩ := written_documents_read_the_same
  have hstable : Stable (Page Revision) := hpage Revision
  exact ⟨revision, ⟨hread, by decide +kernel, by decide +kernel⟩, hstable.readBack_of_decode hread⟩

end PaymentOrders.Wire
