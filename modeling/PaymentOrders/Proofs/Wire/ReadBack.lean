import PaymentOrders.Proofs.CaseId
import PaymentOrders.Proofs.OrderId
import PaymentOrders.Proofs.Steps
import PaymentOrders.Proofs.Timestamp
import PaymentOrders.Wire.Domain
/-!
# Values that are read back

A value is read back if reading the document that is written for it gives it again. Of most types
every value is. Numbers that a document can spell are only those of one word, so of a type with a
number the values are read back that were themselves read from a document.
-/

namespace PaymentOrders.Wire

/-- Reading the document that is written for the value gives the value. -/
def ReadBack {α : Type} [Wire α] (x : α) : Prop :=
  decode (encode x) = .ok x

/-- Every value of the type is read back. -/
class Faithful (α : Type) [Wire α] : Prop where
  readBack : ∀ x : α, ReadBack x

/-- Every value that some document is read as is read back. -/
class Stable (α : Type) [Wire α] : Prop where
  readBack_of_decode : ∀ {document : Json} {x : α}, decode document = .ok x → ReadBack x

/-- Nothing is not read as a value of the type. -/
class Solid (α : Type) [Wire α] : Prop where
  decode_null_ne : ∀ x : α, (decode .null : Except DecodeError α) ≠ .ok x

instance {α : Type} [Wire α] [Faithful α] : Stable α :=
  ⟨fun {_ x} _ => Faithful.readBack x⟩

/-! ## Texts, truth values and words -/

instance : Faithful String := ⟨fun _ => rfl⟩

instance : Faithful Bool := ⟨fun _ => rfl⟩

theorem decodeNatural_natCast {greatest n : Nat} (hle : n ≤ greatest) (expected : String) :
    decodeNatural greatest expected (.integer n) = .ok n := by
  have hfits : (0 : Int) ≤ n ∧ (n : Int) ≤ greatest := by omega
  rw [decodeNatural, decodeInteger, if_pos hfits]
  rfl

instance : Faithful UInt32 where
  readBack n := by
    have hle : n.toNat ≤ maxWord32 := Nat.le_of_lt_succ n.toNat_lt
    have hread : decodeNatural maxWord32 "u32" (encode n) = .ok n.toNat :=
      decodeNatural_natCast hle "u32"
    change (decodeNatural maxWord32 "u32" (encode n)).map Nat.toUInt32 = .ok n
    rw [hread]
    exact congrArg Except.ok (UInt32.ofNat_toNat ..)

instance : Faithful UInt64 where
  readBack n := by
    have hle : n.toNat ≤ maxWord64 := Nat.le_of_lt_succ n.toNat_lt
    have hread : decodeNatural maxWord64 "u64" (encode n) = .ok n.toNat :=
      decodeNatural_natCast hle "u64"
    change (decodeNatural maxWord64 "u64" (encode n)).map Nat.toUInt64 = .ok n
    rw [hread]
    exact congrArg Except.ok (UInt64.ofNat_toNat ..)

theorem decodeInteger_eq_ok {least greatest n : Int} {expected : String} {document : Json}
    (h : decodeInteger least greatest expected document = .ok n) : least ≤ n ∧ n ≤ greatest := by
  unfold decodeInteger at h
  split at h
  · split at h
    next hfits =>
      cases h
      exact hfits
    next => cases h
  · cases h

instance : Stable Int where
  readBack_of_decode {document n} h := by
    have hfits := decodeInteger_eq_ok h
    change decodeInteger minSigned64 maxSigned64 "i64" (.integer n) = .ok n
    rw [decodeInteger, if_pos hfits]

instance : Stable Nat where
  readBack_of_decode {document n} h := by
    change (decodeInteger 0 maxWord64 "usize" document).map Int.toNat = .ok n at h
    cases hread : decodeInteger 0 maxWord64 "usize" document with
    | error error =>
        rw [hread] at h
        cases h
    | ok found =>
        rw [hread] at h
        have hfound : found.toNat = n := Except.ok.inj h
        have hfits := decodeInteger_eq_ok hread
        exact decodeNatural_natCast (by omega) "usize"

/-! ## Ids, timestamps and names -/

instance : Faithful OrderId where
  readBack id := by
    simp only [ReadBack, encode, decode, decodeText, Steps.bind_ok, OrderId.ofText_toText]
    rfl

instance : Faithful Timestamp where
  readBack t := by
    simp only [ReadBack, encode, decode, Timestamp.ofText_toText]
    rfl

theorem number_le_maxWord64 (id : CaseId) : id.number ≤ maxWord64 := by
  have hlt : id.number < 10000000000000000 := id.number_lt
  simp only [maxWord64]
  omega

instance : Faithful CaseId where
  readBack id := by
    have hread := decodeNatural_natCast (number_le_maxWord64 id) "u64"
    simp only [ReadBack, encode, decode]
    rw [hread, Steps.bind_ok, CaseId.ofNumber_number]
    rfl

instance : Faithful ErrorKind where
  readBack kind := by cases kind <;> rfl

instance : Faithful Referent where
  readBack referent := by cases referent <;> rfl

instance : Faithful ChangeType where
  readBack change := by cases change <;> rfl

/-! ## Lists and values that may be missing -/

section Composed

variable {α : Type} [Wire α]

theorem ReadBack.list {xs : List α} (h : ∀ x ∈ xs, ReadBack x) : ReadBack xs := by
  change (xs.map encode).mapM (decode : Json → Except DecodeError α) = .ok xs
  rw [Steps.mapM_eq_ok, List.forall₂_map_left_iff]
  exact List.forall₂_same.mpr h

instance [Faithful α] : Faithful (List α) :=
  ⟨fun _ => ReadBack.list fun x _ => Faithful.readBack x⟩

theorem exists_decode_of_mem {document : Json} {xs : List α} (h : decode document = .ok xs)
    {x : α} (hx : x ∈ xs) : ∃ item : Json, decode item = .ok x := by
  change decodeItems decode document = .ok xs at h
  unfold decodeItems at h
  split at h
  · obtain ⟨item, _, hitem⟩ := Steps.exists_of_forall₂ (Steps.mapM_eq_ok.mp h).flip hx
    exact ⟨item, hitem⟩
  · cases h

instance [Stable α] : Stable (List α) where
  readBack_of_decode h := ReadBack.list fun _ hx =>
    let ⟨_, hitem⟩ := exists_decode_of_mem h hx
    Stable.readBack_of_decode hitem

theorem readBack_none : ReadBack (none : Option α) := rfl

/-- What is written for a value is not what is written for nothing. -/
theorem ReadBack.some [Solid α] {x : α} (h : ReadBack x) : ReadBack (Option.some x) := by
  change decodeOption decode (encode x) = .ok (Option.some x)
  unfold decodeOption
  split
  next hnull =>
    rw [ReadBack, hnull] at h
    exact absurd h (Solid.decode_null_ne x)
  next => rw [h]; rfl

instance [Faithful α] [Solid α] : Faithful (Option α) where
  readBack
    | none => readBack_none
    | some x => (Faithful.readBack x).some

theorem exists_decode_of_some {document : Json} {x : α}
    (h : decode document = .ok (some x)) : ∃ found : Json, decode found = .ok x := by
  change decodeOption decode document = .ok (some x) at h
  unfold decodeOption at h
  split at h
  · cases h
  · cases hread : (decode document : Except DecodeError α) with
    | error error =>
        rw [hread] at h
        cases h
    | ok found =>
        rw [hread] at h
        cases h
        exact ⟨document, hread⟩

instance [Stable α] [Solid α] : Stable (Option α) where
  readBack_of_decode {_ x} h := by
    cases x with
    | none => exact readBack_none
    | some x =>
        obtain ⟨found, hfound⟩ := exists_decode_of_some h
        exact (Stable.readBack_of_decode hfound).some

end Composed

end PaymentOrders.Wire
