import PaymentOrders.Proofs.OrderId
import PaymentOrders.Proofs.Sorted
import PaymentOrders.Proofs.Text.Order
import PaymentOrders.Store.Integrity
/-!
# Which texts name which order

A text is read as an order id exactly if it has the bytes of 26 symbols between its white space. Its
first symbol counts modulo eight, so eight symbols in a row name the same id there; behind it no
two symbols do. An id is written with a first symbol below eight, and ids stand in the order of
their texts.
-/

namespace PaymentOrders.OrderId

/-- The bytes that are symbols, letters in either case. -/
def symbolBytes : List UInt8 :=
  (alphabet ++ alphabet.map Char.toLower).map fun c => UInt8.ofNat c.toNat

/-- The text of an id: between white space it has 26 bytes, all of them symbols. -/
structure Spelled (s : String) : Prop where
  size : (Text.bytes (String.ofList (Text.trim s.toList))).length = textLength
  symbols : ∀ b ∈ Text.bytes (String.ofList (Text.trim s.toList)), b ∈ symbolBytes

/-- The place of a symbol among the symbols, whatever its case. -/
def place (c : Char) : Nat :=
  alphabet.idxOf c.toUpper

/-- The place of the first symbol of a text. -/
def firstPlace (s : String) : Nat :=
  place ((spelling s).headD '0')

/-- The text that an id is written with: 26 symbols in upper case, the first of them a digit below
eight. -/
structure Written (text : String) : Prop where
  length : text.length = textLength
  symbols : ∀ c ∈ text.toList, c ∈ alphabet
  first : ∃ c, text.toList.head? = some c ∧ '0'.toNat ≤ c.toNat ∧ c.toNat ≤ '7'.toNat

/-! ## Symbols -/

section Symbols

variable {c d : Char}

theorem toUpper_of_large (hc : 127 < c.toNat) : c.toUpper = c := by
  apply Char.toNat_inj.mp
  rw [Text.toNat_toUpper, if_neg (by omega)]

theorem toNat_le_of_mem_alphabet (hc : c ∈ alphabet) : c.toNat ≤ 127 := by
  have hall : alphabet.all (fun c => c.toNat ≤ 127) = true := by decide
  exact of_decide_eq_true (List.all_eq_true.mp hall c hc)

theorem toNat_le_of_symbol (hc : c.toUpper ∈ alphabet) : c.toNat ≤ 127 := by
  by_contra hlarge
  rw [toUpper_of_large (by omega)] at hc
  exact hlarge (toNat_le_of_mem_alphabet hc)

theorem symbolValue?_eq_some (hc : c.toUpper ∈ alphabet) : symbolValue? c = some (place c) := by
  have hlt := List.idxOf_lt_length_of_mem hc
  rw [symbolValue?, place]
  rw [List.idxOf_eq_getD_idxOf?] at hlt ⊢
  cases hfound : alphabet.idxOf? c.toUpper with
  | none =>
      rw [hfound] at hlt
      exact absurd hlt (Nat.lt_irrefl _)
  | some d => rfl

theorem isSpace_of_mem_alphabet (hc : c ∈ alphabet) : Text.isSpace c = false := by
  have hall : alphabet.all (fun c => !Text.isSpace c) = true := by decide
  simpa using List.all_eq_true.mp hall c hc

theorem symbolValue?_eq_none (hc : c.toUpper ∉ alphabet) : symbolValue? c = none :=
  List.idxOf?_eq_none_iff.mpr hc

theorem place_lt (hc : c.toUpper ∈ alphabet) : place c < 32 :=
  List.idxOf_lt_length_of_mem hc

theorem place_toUpper (c : Char) : place c.toUpper = place c := by
  rw [place, Text.toUpper_toUpper, place]

theorem symbol_place (hc : c.toUpper ∈ alphabet) : symbol (place c) = c.toUpper := by
  rw [symbol, List.getD_eq_getElem?_getD, List.getElem?_eq_getElem (place_lt hc)]
  exact List.getElem_idxOf _

theorem byte_mem_symbolBytes_iff (hc : c.toNat ≤ 127) :
    UInt8.ofNat c.toNat ∈ symbolBytes ↔ c.toUpper ∈ alphabet := by
  have hall : ∀ n < 128, UInt8.ofNat n ∈ symbolBytes ↔ (Char.ofNat n).toUpper ∈ alphabet := by
    decide +kernel
  have hfound := hall c.toNat (by omega)
  rwa [Char.ofNat_toNat] at hfound

theorem toNat_lt_of_mem_symbolBytes {b : UInt8} (hb : b ∈ symbolBytes) : b.toNat < 128 := by
  have hall : ∀ b ∈ symbolBytes, b.toNat < 128 := by decide +kernel
  exact hall b hb

end Symbols

/-! ## Texts that are read -/

section Texts

variable {cs ds : List Char} {s t : String} {a b id : OrderId}

theorem mapM_symbolValue?_eq (hcs : ∀ c ∈ cs, c.toUpper ∈ alphabet) :
    cs.mapM symbolValue? = some (cs.map place) := by
  induction cs with
  | nil => rfl
  | cons c cs ih =>
      rw [List.forall_mem_cons] at hcs
      rw [List.mapM_cons, symbolValue?_eq_some hcs.1, ih hcs.2]
      rfl

theorem forall_symbol_of_mapM {values : List Nat} (h : cs.mapM symbolValue? = some values) :
    ∀ c ∈ cs, c.toUpper ∈ alphabet := by
  induction cs generalizing values with
  | nil => simp
  | cons c cs ih =>
      rw [List.mapM_cons] at h
      obtain ⟨value, hfirst, hrest⟩ := Option.bind_eq_some_iff.mp h
      obtain ⟨rest, hmap, _⟩ := Option.bind_eq_some_iff.mp hrest
      refine List.forall_mem_cons.mpr ⟨?_, ih hmap⟩
      by_contra hc
      cases (symbolValue?_eq_none hc).symm.trans hfirst

theorem bytes_ofList_of_symbols (hcs : ∀ c ∈ cs, c.toUpper ∈ alphabet) :
    Text.bytes (String.ofList cs) = cs.map fun c => UInt8.ofNat c.toNat := by
  rw [Text.bytes_eq_flatMap, String.toList_ofList]
  induction cs with
  | nil => rfl
  | cons c cs ih =>
      rw [List.forall_mem_cons] at hcs
      rw [List.flatMap_cons, Text.utf8EncodeChar_of_le (toNat_le_of_symbol hcs.1), ih hcs.2]
      rfl

/-- The bytes of a text are symbols exactly if its characters are: a character with more than one
byte has no byte that is a symbol. -/
theorem forall_byte_iff :
    (∀ b ∈ Text.bytes (String.ofList cs), b ∈ symbolBytes) ↔ ∀ c ∈ cs, c.toUpper ∈ alphabet := by
  constructor
  · intro hbytes c hc
    rw [Text.bytes_eq_flatMap, String.toList_ofList] at hbytes
    have hlow : c.toNat ≤ 127 := by
      by_contra hlarge
      obtain ⟨b, hb, hbyte⟩ := Text.exists_large_byte (Nat.lt_of_not_le hlarge)
      have hlt := toNat_lt_of_mem_symbolBytes (hbytes b (List.mem_flatMap.mpr ⟨c, hc, hb⟩))
      omega
    have hbyte := hbytes (UInt8.ofNat c.toNat) (List.mem_flatMap.mpr ⟨c, hc, by
      rw [Text.utf8EncodeChar_of_le hlow]
      exact List.mem_singleton_self _⟩)
    exact (byte_mem_symbolBytes_iff hlow).mp hbyte
  · intro hcs b hb
    rw [bytes_ofList_of_symbols hcs] at hb
    obtain ⟨c, hc, rfl⟩ := List.mem_map.mp hb
    exact (byte_mem_symbolBytes_iff (toNat_le_of_symbol (hcs c hc))).mpr (hcs c hc)

/-- The characters between the white space of a text that is read: 26 symbols. -/
structure Symbols (cs : List Char) : Prop where
  length : cs.length = textLength
  all : ∀ c ∈ cs, c.toUpper ∈ alphabet

theorem spelled_iff : Spelled s ↔ Symbols (Text.trim s.toList) := by
  constructor
  · rintro ⟨hsize, hbytes⟩
    have hall := forall_byte_iff.mp hbytes
    rw [bytes_ofList_of_symbols hall, List.length_map] at hsize
    exact ⟨hsize, hall⟩
  · rintro ⟨hlength, hall⟩
    refine ⟨?_, forall_byte_iff.mpr hall⟩
    rw [bytes_ofList_of_symbols hall, List.length_map]
    exact hlength

theorem utf8ByteSize_eq_iff (hall : ∀ c ∈ cs, c.toUpper ∈ alphabet) :
    (String.ofList cs).utf8ByteSize = textLength ↔ cs.length = textLength := by
  rw [← Text.length_bytes, bytes_ofList_of_symbols hall, List.length_map]

theorem ofText_eq_ok_iff :
    ofText (String.ofList cs) = .ok id ↔
      Symbols cs ∧ ofNat (Text.value 32 (cs.map place)) = id := by
  rw [ofText, String.toList_ofList]
  constructor
  · intro h
    split at h
    next hsize =>
      split at h
      next values hvalues =>
        have hall := forall_symbol_of_mapM hvalues
        rw [mapM_symbolValue?_eq hall] at hvalues
        cases hvalues
        exact ⟨⟨(utf8ByteSize_eq_iff hall).mp hsize, hall⟩, Except.ok.inj h⟩
      next => cases h
    next => cases h
  · rintro ⟨⟨hlength, hall⟩, rfl⟩
    rw [if_pos ((utf8ByteSize_eq_iff hall).mpr hlength), mapM_symbolValue?_eq hall]

theorem parse_eq_some_iff :
    parse s = some id ↔
      Symbols (Text.trim s.toList) ∧
        ofNat (Text.value 32 ((Text.trim s.toList).map place)) = id := by
  rw [← ofText_eq_ok_iff, parse]
  cases ofText (String.ofList (Text.trim s.toList)) <;> simp [Except.toOption]

theorem exists_parse_iff : (∃ id, parse s = some id) ↔ Spelled s := by
  rw [spelled_iff]
  constructor
  · rintro ⟨id, hread⟩
    exact (parse_eq_some_iff.mp hread).1
  · intro hsymbols
    exact ⟨_, parse_eq_some_iff.mpr ⟨hsymbols, rfl⟩⟩

theorem parse_eq_none_iff : parse s = none ↔ ¬ Spelled s := by
  rw [← exists_parse_iff]
  cases parse s <;> simp

theorem parseField_eq_required_iff {field : String} :
    parseField field s = .error [.required field] ↔ Text.isBlank s = true := by
  unfold parseField Issue.ofBlank
  cases Text.isBlank s <;> cases parse s <;> simp

theorem parseField_eq_malformed_iff {field : String} :
    parseField field s = .error [.malformedId field s] ↔
      Text.isBlank s = false ∧ ¬ Spelled s := by
  rw [← parse_eq_none_iff]
  unfold parseField Issue.ofBlank
  cases Text.isBlank s <;> cases parse s <;> simp

/-! ## Texts of one id -/

theorem lt_of_mem_map_place (hall : ∀ c ∈ cs, c.toUpper ∈ alphabet) :
    ∀ d ∈ cs.map place, d < 32 := by
  rw [List.forall_mem_map]
  exact fun c hc => place_lt (hall c hc)

theorem map_place_inj (hcs : ∀ c ∈ cs, c.toUpper ∈ alphabet)
    (hds : ∀ d ∈ ds, d.toUpper ∈ alphabet) :
    cs.map place = ds.map place ↔ cs.map Char.toUpper = ds.map Char.toUpper := by
  have hsymbols {xs : List Char} (hxs : ∀ x ∈ xs, x.toUpper ∈ alphabet) :
      (xs.map place).map symbol = xs.map Char.toUpper := by
    rw [List.map_map]
    exact List.map_congr_left fun x hx => symbol_place (hxs x hx)
  have hplaces (xs : List Char) : (xs.map Char.toUpper).map place = xs.map place := by
    rw [List.map_map]
    exact List.map_congr_left fun x _ => place_toUpper x
  constructor
  · intro h
    rw [← hsymbols hcs, h, hsymbols hds]
  · intro h
    rw [← hplaces cs, h, hplaces ds]

/-- The bits that the first symbol has too many are lost; nothing else is. -/
theorem ofNat_eq_iff {d e m n : Nat} (hm : m < 32 ^ 25) (hn : n < 32 ^ 25) :
    ofNat (d * 32 ^ 25 + m) = ofNat (e * 32 ^ 25 + n) ↔ m = n ∧ d % 8 = e % 8 := by
  have hpow : (32 : Nat) ^ 25 = 42535295865117307932921825928971026432 := by decide
  rw [hpow] at hm hn ⊢
  simp only [ofNat, OrderId.mk.injEq, orderIdCount]
  omega

theorem eq_iff_of_parse (hs : parse s = some a) (ht : parse t = some b) :
    a = b ↔ (spelling s).tail = (spelling t).tail ∧ firstPlace s % 8 = firstPlace t % 8 := by
  obtain ⟨⟨hlength, hall⟩, rfl⟩ := parse_eq_some_iff.mp hs
  obtain ⟨⟨hlength', hall'⟩, rfl⟩ := parse_eq_some_iff.mp ht
  rw [firstPlace, firstPlace, spelling, spelling]
  obtain ⟨c, cs, hcs⟩ := List.exists_cons_of_length_eq_add_one (n := 25) hlength
  obtain ⟨d, ds, hds⟩ := List.exists_cons_of_length_eq_add_one (n := 25) hlength'
  rw [hcs] at hlength hall ⊢
  rw [hds] at hlength' hall' ⊢
  rw [List.forall_mem_cons] at hall hall'
  have hm := Text.value_lt (lt_of_mem_map_place hall.2)
  have hn := Text.value_lt (lt_of_mem_map_place hall'.2)
  have hcount : cs.length = 25 := Nat.succ.inj hlength
  have hcount' : ds.length = 25 := Nat.succ.inj hlength'
  have hsame : (cs.map place).length = (ds.map place).length := by simp [hcount, hcount']
  rw [List.length_map, hcount] at hm
  rw [List.length_map, hcount'] at hn
  simp only [List.map_cons, List.tail_cons, List.headD_cons, place_toUpper, Text.value_cons,
    List.length_map, hcount, hcount']
  rw [ofNat_eq_iff hm hn, Text.value_inj hsame (lt_of_mem_map_place hall.2)
    (lt_of_mem_map_place hall'.2), map_place_inj hall.2 hall'.2]

end Texts

/-! ## Written texts -/

section Written

variable {a b : OrderId}

theorem symbol_lt_symbol (d e : Nat) (hlt : d < e) (he : e < 32) :
    (symbol d).toNat < (symbol e).toNat := by
  have hall : ∀ e < 32, ∀ d < e, (symbol d).toNat < (symbol e).toNat := by decide
  exact hall e he d hlt

theorem symbol_mem_alphabet {d : Nat} (hd : d < 32) : symbol d ∈ alphabet := by
  have hall : ∀ d < 32, symbol d ∈ alphabet := by decide
  exact hall d hd

theorem written_toText (id : OrderId) : Written id.toText where
  length := by
    rw [← String.length_toList, toList_toText, List.length_map, Text.length_digits]
  symbols := by
    rw [toList_toText, List.forall_mem_map]
    exact fun d hd => symbol_mem_alphabet (lt_of_mem_digits_value id hd)
  first := by
    have hlow : id.value / 32 ^ 25 % 32 < 8 := by
      have hpow : (32 : Nat) ^ 25 = 42535295865117307932921825928971026432 := by decide
      have hlt := id.value_lt
      rw [orderIdCount] at hlt
      rw [hpow]
      omega
    have hdigit : ∀ d < 8, '0'.toNat ≤ (symbol d).toNat ∧ (symbol d).toNat ≤ '7'.toNat := by
      decide
    refine ⟨symbol (id.value / 32 ^ 25 % 32), ?_, hdigit _ hlow⟩
    rw [toList_toText, textLength, Text.digits_succ_eq_cons, List.map_cons]
    rfl

theorem parse_toText (id : OrderId) : parse id.toText = some id := by
  have htrim : Text.trim id.toText.toList = id.toText.toList :=
    Text.trim_eq_self fun c hc => isSpace_of_mem_alphabet ((written_toText id).symbols c hc)
  rw [parse, htrim, String.ofList_toList, ofText_toText]
  rfl

theorem le_toText_iff :
    Text.le a.toText.toList b.toText.toList = true ↔ a.value ≤ b.value := by
  have hcount : orderIdCount ≤ 32 ^ textLength := by decide
  rw [toList_toText, toList_toText]
  exact Text.le_map_digits_iff symbol_lt_symbol (a.value_lt.trans_le hcount)
    (b.value_lt.trans_le hcount)

theorem value_inj : a.value = b.value ↔ a = b := by
  cases a
  cases b
  simp

theorem bytes_toText_lt_iff :
    Text.bytes a.toText < Text.bytes b.toText ↔ a.value < b.value := by
  rw [Text.bytes_lt_iff, le_toText_iff, Ne, toText_inj, ← value_inj]
  omega

theorem sortTexts_toText (ids : List OrderId) :
    Store.sortTexts (ids.map toText) =
      (ids.mergeSort fun a b => a.value ≤ b.value).map toText := by
  refine (List.map_mergeSort fun a _ b _ => ?_).symm
  rw [Bool.eq_iff_iff, le_toText_iff, decide_eq_true_iff]

theorem sortTexts_ofKeys (ids : List OrderId) :
    Store.sortTexts ((Sorted.ofKeys value ids).map toText) =
      (Sorted.ofKeys value ids).map toText := by
  have hkeys : (Sorted.ofKeys value ids).Pairwise fun a b => decide (a.value ≤ b.value) = true :=
    (Sorted.pairwise_ofKeys (fun _ _ => value_inj.mp) ids).imp fun h => decide_eq_true h.le
  rw [sortTexts_toText, List.mergeSort_of_pairwise hkeys]

end Written

/-- A text is read exactly if it is spelled as an id, by itself and as a field of a request; a field
that is not read is missing or, as it stands, malformed. Two texts are one id exactly if, in upper
case, they agree behind their first symbols and these count the same modulo eight. Each id is
written in one way that is read as that id, and ids stand in the order of their texts: sorting
texts changes nothing about a list of keys in ascending order. -/
theorem texts_name_order_ids :
    (∀ s : String,
      ((∃ id, parse s = some id) ↔ Spelled s) ∧
      ∀ field : String,
        (∀ id, parseField field s = .ok id ↔ parse s = some id) ∧
        (parseField field s = .error [.required field] ↔ Text.isBlank s = true) ∧
        (parseField field s = .error [.malformedId field s] ↔
          Text.isBlank s = false ∧ ¬ Spelled s)) ∧
    (∀ (s t : String) (a b : OrderId), parse s = some a → parse t = some b →
      (a = b ↔
        (spelling s).tail = (spelling t).tail ∧ firstPlace s % 8 = firstPlace t % 8)) ∧
    (∀ id : OrderId, ofText id.toText = .ok id ∧ parse id.toText = some id ∧ Written id.toText) ∧
    (∀ a b : OrderId, Text.bytes a.toText < Text.bytes b.toText ↔ a.value < b.value) ∧
    ∀ ids : List OrderId,
      Store.sortTexts (ids.map toText) =
        (ids.mergeSort fun a b => a.value ≤ b.value).map toText ∧
      Store.sortTexts ((Sorted.ofKeys value ids).map toText) =
        (Sorted.ofKeys value ids).map toText := by
  refine ⟨fun s => ⟨exists_parse_iff, fun field => ⟨fun id => parseField_eq_ok,
    parseField_eq_required_iff, parseField_eq_malformed_iff⟩⟩, fun s t a b hs ht => ?_,
    fun id => ⟨ofText_toText id, parse_toText id, written_toText id⟩,
    fun a b => bytes_toText_lt_iff,
    fun ids => ⟨sortTexts_toText ids, sortTexts_ofKeys ids⟩⟩
  exact eq_iff_of_parse hs ht

/-- Two texts with first symbols that are eight apart name one id. -/
theorem texts_name_order_ids_overflown :
    (spelling "8000000000000000000000000a").tail =
        (spelling " 0000000000000000000000000A\n").tail ∧
      ∃ id, parse "8000000000000000000000000a" = some id ∧
        parse " 0000000000000000000000000A\n" = some id := by
  obtain ⟨hread, hsame, _⟩ := texts_name_order_ids
  have hspelled : Spelled "8000000000000000000000000a" :=
    ⟨by decide +kernel, by decide +kernel⟩
  have hspelled' : Spelled " 0000000000000000000000000A\n" :=
    ⟨by decide +kernel, by decide +kernel⟩
  have htail : (spelling "8000000000000000000000000a").tail =
      (spelling " 0000000000000000000000000A\n").tail := by decide +kernel
  obtain ⟨a, ha⟩ := (hread _).1.mpr hspelled
  obtain ⟨b, hb⟩ := (hread _).1.mpr hspelled'
  have hone := (hsame _ _ a b ha hb).mpr ⟨htail, by decide +kernel⟩
  exact ⟨htail, a, ha, by rw [hb, hone]⟩

end PaymentOrders.OrderId
