import PaymentOrders.Proofs.Wire.ReadBack
/-!
# Records that are read back

A record makes a value of the members of an object if each of its parts is read from the member of
its name and no member is wrong. What a record makes of any document is made of parts that were
themselves read from documents, or that stand for members that are missing.
-/

namespace PaymentOrders

theorem Json.find?_of_mem {members : List (String × Json)} (hnames : (members.map Prod.fst).Nodup)
    {name : String} {value : Json} (hmem : (name, value) ∈ members) :
    find? name members = some value := by
  induction members with
  | nil => cases hmem
  | cons member members ih =>
      obtain ⟨key, old⟩ := member
      obtain ⟨hfresh, hrest⟩ := List.nodup_cons.mp hnames
      rcases List.mem_cons.mp hmem with hsame | hmem
      · cases hsame
        rw [find?, if_pos rfl]
      · have hne : key ≠ name := by
          rintro rfl
          exact hfresh (List.mem_map.mpr ⟨_, hmem, rfl⟩)
        rw [find?, if_neg hne, ih hrest hmem]

namespace Wire.Record

variable {α β : Type}

/-! ## What a record accepts -/

/-- The record makes the value of the members, and finds nothing wrong with any of them. -/
structure Accepts (record : Record α) (members : List (String × Json)) (x : α) : Prop where
  made : record.ofMembers members = .ok x
  judged : ∀ rule ∈ record.rules, ∀ value, Json.find? rule.1 members = some value →
    rule.2 value = .ok ()

section Accepts

variable {members : List (String × Json)}

theorem judgeMember_eq_ok {rules : List (String × (Json → Except DecodeError Unit))}
    {name : String} {value : Json}
    (h : ∀ rule ∈ rules, rule.1 = name → rule.2 value = .ok ()) :
    judgeMember rules (name, value) = .ok () := by
  unfold judgeMember
  split
  next rule hrule =>
    have hname : rule.1 = name := by simpa using List.find?_some hrule
    exact h rule (List.mem_of_find?_eq_some hrule) hname
  next => rfl

theorem forM_eq_ok {judgement : String × Json → Except DecodeError Unit}
    (h : ∀ member ∈ members, judgement member = .ok ()) : members.forM judgement = .ok () := by
  induction members with
  | nil => rfl
  | cons member members ih =>
      change (judgement member >>= fun _ => members.forM judgement) = .ok ()
      rw [h member (List.mem_cons_self ..), Steps.bind_ok]
      exact ih fun other hother => h other (List.mem_cons_of_mem _ hother)

/-- An object whose names differ is read as the value that a record makes of its members. -/
theorem Accepts.ofObject {record : Record α} {x : α} (h : record.Accepts members x)
    (hnames : (members.map Prod.fst).Nodup) : record.ofObject members = .ok x := by
  have hjudge : record.judge members = .ok () := by
    apply forM_eq_ok
    rintro ⟨name, value⟩ hmem
    apply judgeMember_eq_ok
    rintro rule hrule rfl
    exact h.judged rule hrule value (Json.find?_of_mem hnames hmem)
  rw [Record.ofObject, hjudge, Steps.bind_ok, h.made]

/-- A member is accepted that holds what is written for its value. -/
theorem Accepts.member [Wire α] {name : String} {absent : Except DecodeError α} {short : Option α}
    {x : α} (hfind : Json.find? name members = some (encode x)) (hx : ReadBack x) :
    (member name absent short).Accepts members x where
  made := by
    simp only [Record.member, hfind]
    exact hx
  judged := by
    intro rule hrule value hvalue
    rw [List.mem_singleton.mp hrule, hfind] at hvalue
    cases hvalue
    rw [List.mem_singleton.mp hrule]
    change (Wire.decode (encode x) : Except DecodeError α).map (fun _ => ()) = .ok ()
    rw [show Wire.decode (encode x) = .ok x from hx]
    rfl

/-- A member may be missing if its value is the one that stands for that. -/
theorem Accepts.missing [Wire α] {name : String} {absent : Except DecodeError α} {short : Option α}
    {x : α} (hfind : Json.find? name members = none) (habsent : absent = .ok x) :
    (Record.member name absent short).Accepts members x where
  made := by
    simp only [Record.member, hfind]
    exact habsent
  judged := by
    intro rule hrule value hvalue
    rw [List.mem_singleton.mp hrule, hfind] at hvalue
    cases hvalue

theorem Accepts.seq {f : Record (α → β)} {record : Record α} {g : α → β} {x : α}
    (hf : f.Accepts members g) (hx : record.Accepts members x) :
    (f <*> record).Accepts members (g x) where
  made := by
    change (f.ofMembers members >>= fun g => record.ofMembers members >>= fun a =>
      .ok (g a)) = .ok (g x)
    rw [hf.made, Steps.bind_ok, hx.made, Steps.bind_ok]
  judged := by
    intro rule hrule
    rcases List.mem_append.mp hrule with hrule | hrule
    · exact hf.judged rule hrule
    · exact hx.judged rule hrule

theorem Accepts.map (f : α → β) {record : Record α} {x : α} (hx : record.Accepts members x) :
    (f <$> record).Accepts members (f x) := by
  have hpure : (Record.pure f).Accepts members f :=
    ⟨rfl, fun _ hrule => by cases hrule⟩
  exact hpure.seq hx

/-- A value of a type that a record reads is read back if the record accepts what is written. -/
theorem Accepts.readBack [Wire α] {record : Record α} {name : String} {x : α}
    (h : record.Accepts members x)
    (hdecode : ∀ document, Wire.decode document = record.decode name document)
    (hencode : encode x = .object members) (hnames : (members.map Prod.fst).Nodup) :
    ReadBack x := by
  rw [ReadBack, hdecode, hencode]
  exact h.ofObject hnames

end Accepts

/-! ## What a record makes -/

/-- Whatever the record makes of an object or of an array has the property. -/
structure Makes (record : Record α) (p : α → Prop) : Prop where
  ofMembers : ∀ members x, record.ofMembers members = .ok x → p x
  ofItems : ∀ expected position items x rest,
    record.ofItems expected position items = .ok (x, rest) → p x

section Makes

theorem Makes.member [Wire α] [Stable α] (name : String) {absent : Except DecodeError α}
    {short : Option α} (habsent : ∀ x, absent = .ok x → ReadBack x)
    (hshort : ∀ x, short = some x → ReadBack x) :
    (member name absent short).Makes ReadBack where
  ofMembers := by
    intro members x h
    simp only [Record.member] at h
    split at h
    · exact Stable.readBack_of_decode h
    · exact habsent x h
  ofItems := by
    intro expected position items x rest h
    simp only [Record.member] at h
    split at h
    · split at h
      next value =>
        cases h
        exact hshort _ rfl
      next => cases h
    next item items =>
      cases hread : (Wire.decode item : Except DecodeError α) with
      | error error =>
          rw [hread] at h
          cases h
      | ok value =>
          rw [hread] at h
          cases h
          exact Stable.readBack_of_decode hread

theorem Makes.required [Wire α] [Stable α] (name : String) :
    (required name : Record α).Makes ReadBack :=
  Makes.member name (fun _ h => by cases h) (fun _ h => by cases h)

theorem Makes.optional [Wire α] [Stable α] [Solid α] (name : String) :
    (optional name : Record (Option α)).Makes ReadBack :=
  Makes.member name (fun _ h => by cases h; exact readBack_none) (fun _ h => by cases h)

/-- The last part of a record gives way to a property of the function that takes it. -/
theorem Makes.seq {f : Record (α → β)} {record : Record α} {p : β → Prop} [Wire α]
    (hf : f.Makes fun g => ∀ a, ReadBack a → p (g a)) (hx : record.Makes ReadBack) :
    (f <*> record).Makes p where
  ofMembers := by
    intro members x h
    obtain ⟨g, hg, h⟩ := Steps.bind_eq_ok.mp h
    obtain ⟨a, ha, h⟩ := Steps.bind_eq_ok.mp h
    cases h
    exact hf.ofMembers members g hg a (hx.ofMembers members a ha)
  ofItems := by
    intro expected position items x rest h
    obtain ⟨⟨g, left⟩, hg, h⟩ := Steps.bind_eq_ok.mp h
    obtain ⟨⟨a, left'⟩, ha, h⟩ := Steps.bind_eq_ok.mp h
    cases h
    exact hf.ofItems _ _ _ g _ hg a (hx.ofItems _ _ _ a _ ha)

theorem Makes.map {f : α → β} {record : Record α} {p : β → Prop} [Wire α]
    (hf : ∀ a, ReadBack a → p (f a)) (hx : record.Makes ReadBack) : (f <$> record).Makes p := by
  have hpure : (Record.pure f).Makes fun g => ∀ a, ReadBack a → p (g a) := by
    constructor
    · intro members g h
      cases h
      exact hf
    · intro expected position items g rest h
      cases h
      exact hf
  exact hpure.seq hx

/-- A type whose values are the ones that a record makes is stable if the record makes only values
that are read back. -/
theorem Makes.stable [Wire α] {record : Record α} {name : String} (h : record.Makes ReadBack)
    (hdecode : ∀ document, Wire.decode document = record.decode name document) : Stable α where
  readBack_of_decode {document x} hread := by
    rw [hdecode] at hread
    unfold Record.decode at hread
    split at hread
    · obtain ⟨_, _, hmade⟩ := Steps.bind_eq_ok.mp hread
      exact h.ofMembers _ _ hmade
    · obtain ⟨⟨found, rest⟩, hmade, hread⟩ := Steps.bind_eq_ok.mp hread
      have hfound := h.ofItems _ _ _ _ _ hmade
      simp only at hread
      split at hread
      · cases hread
        exact hfound
      · cases hread
    · cases hread

end Makes

end Wire.Record

end PaymentOrders
