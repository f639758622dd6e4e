/-!
# Parts of a text

A text cut at every occurrence of a character. No part holds that character, and joining the
parts by it gives the text back.
-/

namespace PaymentOrders.Text

/-- The parts of a text between the occurrences of a character. -/
def parts (mark : Char) : List Char → List (List Char)
  | [] => [[]]
  | c :: cs =>
      if c = mark then [] :: parts mark cs
      else
        match parts mark cs with
        | [] => [[c]]
        | part :: rest => (c :: part) :: rest

theorem parts_ne_nil (mark : Char) (cs : List Char) : parts mark cs ≠ [] := by
  cases cs with
  | nil => simp [parts]
  | cons c cs => unfold parts; split; · simp
                 split <;> simp

theorem not_mem_of_mem_parts {mark : Char} {cs part : List Char} (h : part ∈ parts mark cs) :
    mark ∉ part := by
  induction cs generalizing part with
  | nil => simp_all [parts]
  | cons c cs ih =>
      unfold parts at h
      split at h
      · rcases List.mem_cons.mp h with rfl | h
        · simp
        · exact ih h
      · rename_i hc
        split at h
        · simp_all [Ne.symm hc]
        · rename_i first rest heq
          rcases List.mem_cons.mp h with rfl | h
          · simp [Ne.symm hc, @ih first (by simp [heq])]
          · exact ih (by simp [heq, h])

theorem intercalate_parts (mark : Char) (cs : List Char) :
    [mark].intercalate (parts mark cs) = cs := by
  induction cs with
  | nil => rfl
  | cons c cs ih =>
      unfold parts
      split
      · rename_i hc
        obtain ⟨first, rest, heq⟩ := List.exists_cons_of_ne_nil (parts_ne_nil mark cs)
        rw [heq] at ih ⊢
        rw [List.intercalate_cons_cons, ih, hc]
        rfl
      · split
        · rename_i heq
          exact absurd heq (parts_ne_nil mark cs)
        · rename_i first rest heq
          rw [heq] at ih
          rw [← ih]
          cases rest <;> simp [List.intercalate, List.intersperse]

end PaymentOrders.Text
