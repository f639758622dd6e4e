/-!
# The order of texts

Texts are compared character by character from the left, by code point, which is also the
order of their UTF-8 bytes.
-/

namespace PaymentOrders.Text

def le : List Char → List Char → Bool
  | [], _ => true
  | _ :: _, [] => false
  | c :: cs, d :: ds => c.toNat < d.toNat || (c.toNat == d.toNat && le cs ds)

theorem le_refl (cs : List Char) : le cs cs = true := by
  induction cs with
  | nil => rfl
  | cons c cs ih => simp [le, ih]

theorem le_total (cs ds : List Char) : (le cs ds || le ds cs) = true := by
  induction cs generalizing ds with
  | nil => rfl
  | cons c cs ih =>
      cases ds with
      | nil => rfl
      | cons d ds =>
          have := ih ds
          simp only [le, Bool.or_eq_true, Bool.and_eq_true, decide_eq_true_eq,
            beq_iff_eq] at this ⊢
          rcases Nat.lt_trichotomy c.toNat d.toNat with h | h | h
          · exact .inl (.inl h)
          · exact this.imp (fun t => .inr ⟨h, t⟩) (fun t => .inr ⟨h.symm, t⟩)
          · exact .inr (.inl h)

theorem le_trans {cs ds es : List Char} (hfirst : le cs ds = true) (hnext : le ds es = true) :
    le cs es = true := by
  induction cs generalizing ds es with
  | nil => rfl
  | cons c cs ih =>
      cases ds with
      | nil => cases hfirst
      | cons d ds =>
          cases es with
          | nil => cases hnext
          | cons e es =>
              simp only [le, Bool.or_eq_true, Bool.and_eq_true, decide_eq_true_eq,
                beq_iff_eq] at hfirst hnext ⊢
              rcases hfirst with hlt | ⟨heq, hfirst⟩
              · exact .inl (by omega)
              · rcases hnext with hlt | ⟨heq', hnext⟩
                · exact .inl (by omega)
                · exact .inr ⟨heq.trans heq', ih hfirst hnext⟩

end PaymentOrders.Text
