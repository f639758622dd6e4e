import Mathlib.Data.List.TakeWhile
import PaymentOrders.OrderId
import PaymentOrders.Proofs.Text.Numerals
/-!
# Order ids and their texts

The text of an order id is read back as that id, so no two ids share a text. One id has many texts:
letters of either case, and white space around them.
-/

namespace PaymentOrders.Text

theorem trim_of_isBlank {s : String} (h : isBlank s = true) : trim s.toList = [] := by
  have hdrop : s.toList.dropWhile isSpace = [] :=
    List.dropWhile_eq_nil_iff.mpr fun c hc => List.all_eq_true.mp h c hc
  rw [trim, hdrop]
  rfl

theorem trim_eq_self {cs : List Char} (h : ∀ c ∈ cs, isSpace c = false) : trim cs = cs := by
  have hkeep {ds : List Char} (hds : ∀ d ∈ ds, isSpace d = false) :
      ds.dropWhile isSpace = ds := by
    cases ds with
    | nil => rfl
    | cons d ds => rw [List.dropWhile_cons_of_neg (by simp [hds d])]
  rw [trim, hkeep h, hkeep (by simpa using h), List.reverse_reverse]

theorem toNat_toUpper (c : Char) :
    c.toUpper.toNat = if 97 ≤ c.toNat ∧ c.toNat ≤ 122 then c.toNat - 32 else c.toNat := by
  unfold Char.toUpper
  have hiff : ('a'.val ≤ c.val ∧ c.val ≤ 'z'.val) ↔ 97 ≤ c.toNat ∧ c.toNat ≤ 122 := by
    rw [UInt32.le_iff_toNat_le, UInt32.le_iff_toNat_le]
    exact Iff.rfl
  by_cases h : 'a'.val ≤ c.val ∧ c.val ≤ 'z'.val
  · have hrange := hiff.mp h
    rw [dif_pos h, if_pos hrange]
    change (c.val + ('A'.val - 'a'.val)).toNat = c.toNat - 32
    rw [UInt32.toNat_add]
    change (c.toNat + 4294967264) % 4294967296 = c.toNat - 32
    omega
  · rw [dif_neg h, if_neg fun hrange => h (hiff.mpr hrange)]

theorem toUpper_toUpper (c : Char) : c.toUpper.toUpper = c.toUpper := by
  apply Char.toNat_inj.mp
  rw [toNat_toUpper c.toUpper, toNat_toUpper c]
  split_ifs <;> omega

theorem utf8Size_eq (c : Char) :
    c.utf8Size = if c.toNat ≤ 127 then 1 else if c.toNat ≤ 2047 then 2
      else if c.toNat ≤ 65535 then 3 else 4 := rfl

/-- Only letters of one byte change, and they stay letters of one byte. -/
theorem utf8Size_toUpper (c : Char) : c.toUpper.utf8Size = c.utf8Size := by
  rw [utf8Size_eq, utf8Size_eq, toNat_toUpper]
  split_ifs <;> omega

theorem utf8ByteSize_map_toUpper (cs : List Char) :
    (String.ofList (cs.map Char.toUpper)).utf8ByteSize = (String.ofList cs).utf8ByteSize := by
  induction cs with
  | nil => rfl
  | cons c cs ih =>
      rw [List.map_cons, String.ofList_cons, String.ofList_cons, String.utf8ByteSize_append,
        String.utf8ByteSize_append, String.utf8ByteSize_singleton, String.utf8ByteSize_singleton,
        utf8Size_toUpper, ih]

end PaymentOrders.Text

namespace PaymentOrders.OrderId

theorem symbolValue?_symbol {d : Nat} (hd : d < 32) : symbolValue? (symbol d) = some d := by
  interval_cases d <;> decide

theorem utf8Size_symbol {d : Nat} (hd : d < 32) : (symbol d).utf8Size = 1 := by
  interval_cases d <;> decide

theorem mapM_symbolValue?_map_symbol {ds : List Nat} (hds : ∀ d ∈ ds, d < 32) :
    (ds.map symbol).mapM symbolValue? = some ds := by
  induction ds with
  | nil => rfl
  | cons d ds ih =>
      rw [List.map_cons, List.mapM_cons, symbolValue?_symbol (hds d (by simp)),
        ih fun e he => hds e (by simp [he])]
      rfl

theorem utf8ByteSize_ofList_map_symbol {ds : List Nat} (hds : ∀ d ∈ ds, d < 32) :
    (String.ofList (ds.map symbol)).utf8ByteSize = ds.length := by
  induction ds with
  | nil => rfl
  | cons d ds ih =>
      rw [List.map_cons, String.ofList_cons, String.utf8ByteSize_append,
        String.utf8ByteSize_singleton, utf8Size_symbol (hds d (by simp)),
        ih fun e he => hds e (by simp [he]), List.length_cons, Nat.add_comm]

theorem lt_of_mem_digits_value (id : OrderId) {d : Nat}
    (hd : d ∈ Text.digits 32 textLength id.value) : d < 32 :=
  Text.lt_of_mem_digits (by omega) hd

@[simp] theorem toList_toText (id : OrderId) :
    id.toText.toList = (Text.digits 32 textLength id.value).map symbol :=
  String.toList_ofList

/-- Writing and reading an order id gives the id back: 26 symbols have room for 130 bits. -/
@[simp] theorem ofText_toText (id : OrderId) : ofText id.toText = .ok id := by
  have hsize : id.toText.utf8ByteSize = textLength := by
    rw [toText, utf8ByteSize_ofList_map_symbol fun d hd => lt_of_mem_digits_value id hd,
      Text.length_digits]
  have hvalue : Text.value 32 (Text.digits 32 textLength id.value) = id.value := by
    apply Text.value_digits_of_lt
    exact id.value_lt.trans (by decide)
  rw [ofText, if_pos hsize, toList_toText,
    mapM_symbolValue?_map_symbol fun d hd => lt_of_mem_digits_value id hd]
  simp only [ofNat, hvalue, Nat.mod_eq_of_lt id.value_lt]

theorem toText_injective : Function.Injective toText := by
  intro a b h
  have hread := congrArg ofText h
  rw [ofText_toText, ofText_toText] at hread
  exact Except.ok.inj hread

@[simp] theorem toText_inj {a b : OrderId} : a.toText = b.toText ↔ a = b :=
  toText_injective.eq_iff

/-! ## Spellings -/

/-- What counts of the text of an id: the characters between the white space around them, in upper
case. -/
def spelling (s : String) : List Char :=
  (Text.trim s.toList).map Char.toUpper

theorem symbolValue?_toUpper (c : Char) : symbolValue? c.toUpper = symbolValue? c := by
  rw [symbolValue?, Text.toUpper_toUpper]
  rfl

theorem ofText_map_toUpper (cs : List Char) :
    ofText (String.ofList (cs.map Char.toUpper)) = ofText (String.ofList cs) := by
  have hsymbols : symbolValue? ∘ Char.toUpper = symbolValue? := funext symbolValue?_toUpper
  rw [ofText, ofText, Text.utf8ByteSize_map_toUpper, String.toList_ofList, String.toList_ofList,
    List.mapM_map, hsymbols]

/-- Texts that differ in the case of letters and in the white space around them are one id. -/
theorem parse_eq_of_spelling {s t : String} (h : spelling s = spelling t) :
    parse s = parse t := by
  rw [parse, parse, ← ofText_map_toUpper, ← ofText_map_toUpper (Text.trim t.toList)]
  exact congrArg (fun cs => (ofText (String.ofList cs)).toOption) h

theorem parse_of_isBlank {s : String} (h : Text.isBlank s = true) : parse s = none := by
  rw [parse, Text.trim_of_isBlank h]
  rfl

theorem parseField_eq_ok {field s : String} {id : OrderId} :
    parseField field s = .ok id ↔ parse s = some id := by
  unfold parseField Issue.ofBlank
  by_cases hblank : Text.isBlank s = true
  · rw [if_pos hblank, parse_of_isBlank hblank]
    simp
  · rw [if_neg hblank]
    cases parse s <;> simp

end PaymentOrders.OrderId
