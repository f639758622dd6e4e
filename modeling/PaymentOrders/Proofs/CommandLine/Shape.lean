import Mathlib.Data.List.TakeWhile
import PaymentOrders.CommandLine.Arguments
/-!
# How arguments look

The shape of an argument tells what the argument is: each shape is that of the texts of one form,
and of no other.
-/

namespace PaymentOrders.CommandLine

def dashed (name : String) : String := "--" ++ name

def joined (name value : String) : String := "--" ++ name ++ "=" ++ value

/-- The looks of a value or a command: no dash at the start, or a dash alone. -/
def IsPlain (argument : String) : Prop :=
  argument = "-" ∨ argument.toList.head? ≠ some '-'

/-- The looks of a request for help. -/
def IsHelp (argument : String) : Prop :=
  argument = "--help" ∨ ['-', 'h'] <+: argument.toList

section Shape

variable {argument name value : String}

theorem toList_dashed (name : String) : (dashed name).toList = '-' :: '-' :: name.toList := by
  simp [dashed]

theorem toList_joined (name value : String) :
    (joined name value).toList = '-' :: '-' :: (name.toList ++ '=' :: value.toList) := by
  simp [joined]

theorem shape_of_dashes {cs : List Char} (hcs : cs ≠ [])
    (hargument : argument.toList = '-' :: '-' :: cs) :
    shape argument =
      match cs.dropWhile fun c => c != '=' with
      | [] => .long (String.ofList (cs.takeWhile fun c => c != '=')) none
      | _ :: value =>
          .long (String.ofList (cs.takeWhile fun c => c != '=')) (some (String.ofList value)) := by
  obtain ⟨c, cs, rfl⟩ := List.exists_cons_of_ne_nil hcs
  rw [shape, hargument]
  rfl

theorem ne_equals_of_mem {c : Char} (hequals : '=' ∉ name.toList) (hc : c ∈ name.toList) :
    (c != '=') = true :=
  bne_iff_ne.mpr fun h => hequals (h ▸ hc)

theorem shape_dashed (hname : name ≠ "") (hequals : '=' ∉ name.toList) :
    shape (dashed name) = .long name none := by
  have hne : name.toList ≠ [] := fun h => hname (String.toList_eq_nil_iff.mp h)
  have htake : name.toList.takeWhile (fun c => c != '=') = name.toList :=
    List.takeWhile_eq_self_iff.mpr fun _ => ne_equals_of_mem hequals
  have hdrop : name.toList.dropWhile (fun c => c != '=') = [] :=
    List.dropWhile_eq_nil_iff.mpr fun _ => ne_equals_of_mem hequals
  rw [shape_of_dashes hne (toList_dashed name), htake, hdrop]
  simp

theorem shape_joined (hequals : '=' ∉ name.toList) (value : String) :
    shape (joined name value) = .long name (some value) := by
  have htake : (name.toList ++ '=' :: value.toList).takeWhile (fun c => c != '=') =
      name.toList := by
    rw [List.takeWhile_append_of_pos fun _ => ne_equals_of_mem hequals]
    simp
  have hdrop : (name.toList ++ '=' :: value.toList).dropWhile (fun c => c != '=') =
      '=' :: value.toList := by
    rw [List.dropWhile_append_of_pos fun _ => ne_equals_of_mem hequals]
    simp
  rw [shape_of_dashes (by simp) (toList_joined name value), htake, hdrop]
  simp

theorem shape_plain (hplain : IsPlain argument) : shape argument = .plain := by
  rcases hplain with rfl | hhead
  · rfl
  · rw [shape]
    split
    next h => simp [h] at hhead
    next h => simp [h] at hhead
    next h => simp [h] at hhead
    next => rfl

/-- What an argument of each shape is. -/
inductive Looks (argument : String) : Shape → Prop where
  | escape (h : argument = "--") : Looks argument .escape
  | dashed {name : String} (h : argument = dashed name) : Looks argument (.long name none)
  | joined {name value : String} (h : argument = joined name value) :
      Looks argument (.long name (some value))
  | short {first : Char} (h : [ '-', first] <+: argument.toList) : Looks argument (.short first)
  | plain (h : IsPlain argument) : Looks argument .plain

theorem looks_shape (argument : String) : Looks argument (shape argument) := by
  rw [shape]
  split
  next h => exact .escape (String.toList_inj.mp (h.trans (by decide)))
  next cs _ h =>
      have hparts := List.takeWhile_append_dropWhile (p := fun c => c != '=') (l := cs)
      split
      next hdrop =>
          rw [hdrop, List.append_nil] at hparts
          refine .dashed (String.toList_inj.mp ?_)
          rw [h, toList_dashed, String.toList_ofList, hparts]
      next c value hdrop =>
          -- the sign that ends the name is the equals sign
          have hc : c = '=' := by
            have hfirst := List.head?_dropWhile_not (fun c => c != '=') cs
            simpa [hdrop] using hfirst
          rw [hdrop, hc] at hparts
          refine .joined (String.toList_inj.mp ?_)
          rw [h, toList_joined, String.toList_ofList, String.toList_ofList, hparts]
  next c cs _ _ h => exact .short ⟨cs, h.symm⟩
  next h₁ h₂ h₃ =>
      refine .plain ?_
      by_cases hhead : argument.toList.head? = some '-'
      · obtain ⟨cs, hcs⟩ := List.head?_eq_some_iff.mp hhead
        cases cs with
        | nil => exact .inl (String.toList_inj.mp (hcs.trans (by decide)))
        | cons c cs => exact absurd hcs (h₃ c cs)
      · exact .inr hhead

theorem isHelp_iff_shape :
    IsHelp argument ↔ shape argument = .long "help" none ∨ shape argument = .short 'h' := by
  constructor
  · rintro (rfl | ⟨cs, hcs⟩)
    · exact .inl (by decide)
    · rw [shape, ← hcs]
      exact .inr rfl
  · have hlooks := looks_shape argument
    rintro (h | h)
    · rw [h] at hlooks
      cases hlooks with
      | dashed hargument => exact .inl (hargument.trans (by decide))
    · rw [h] at hlooks
      cases hlooks with
      | short hstart => exact .inr hstart

end Shape

end PaymentOrders.CommandLine
