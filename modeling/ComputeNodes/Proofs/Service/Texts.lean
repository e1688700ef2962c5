/-
What can be sent as a text of a message.

A single text of a message may be left out, and every text that a message can hold is made of whole
characters.  A message with nothing else among its texts can always be made
(`check_row_eq_ok_iff`).
-/
import ComputeNodes.Service.Texts
import Mathlib.Data.List.Basic

namespace ComputeNodes

/-- Whether a value can be sent as a single text of a message. -/
def Value.IsSendable (v : Value) : Prop :=
  v = .null ∨ ∃ s, v = .text s ∧ Text.halves? s.toList = none

/-- Whether a value can be sent in a row of texts. -/
def Value.IsWholeText (v : Value) : Prop := ∃ s, v = .text s ∧ Text.halves? s.toList = none

namespace Texts

theorem andThen_eq_ok_iff {α ε : Type} {x : Except ε Unit} {f : Unit → Except ε α} {a : α} :
    (x >>= f) = .ok a ↔ x = .ok () ∧ f () = .ok a := by
  cases x <;> simp [bind, Except.bind]

theorem forIn_eq_ok_iff {α ε : Type} {f : α → Except ε Unit} {l : List α} :
    (forIn l PUnit.unit fun a _ => do f a; pure (ForInStep.yield PUnit.unit)) = .ok PUnit.unit ↔
      ∀ a ∈ l, f a = .ok () := by
  induction l with
  | nil => simp [pure, Except.pure]
  | cons a l ih =>
    rw [List.forIn_cons, bind_assoc, andThen_eq_ok_iff, pure_bind, ih, List.forall_mem_cons]

theorem forM_eq_ok_iff {α ε : Type} {f : α → Except ε Unit} {l : List α} :
    l.forM f = .ok () ↔ ∀ a ∈ l, f a = .ok () := by
  induction l with
  | nil => simp [pure, Except.pure]
  | cons a l ih =>
    cases hfirst : f a with
    | error e => simp [hfirst, bind, Except.bind]
    | ok u => simpa [hfirst, bind, Except.bind] using ih

theorem checkText_eq_ok_iff {message : String} {v : Value} :
    checkText message v = .ok () ↔ ∃ s, v = .text s ∧ Text.halves? s.toList = none := by
  cases v with
  | text s => cases hhalves : Text.halves? s.toList <;> simp [checkText, hhalves]
  | _ => simp [checkText]

theorem someHoldsTable_eq_false {l : List Value} (h : ∀ v ∈ l, v.IsSendable) :
    someHoldsTable l = false := by
  induction l with
  | nil => rfl
  | cons v l ih =>
    rw [someHoldsTable, ih fun u hu => h u (List.mem_cons_of_mem v hu), Bool.or_false]
    rcases h v List.mem_cons_self with rfl | ⟨s, rfl, -⟩ <;> rfl

/-- **The texts of a message are fine** if all single ones can be sent, and those of its row are
there as well. -/
theorem check_row_eq_ok_iff {message : String} {singles row : List Value} :
    check message singles row = .ok () ↔
      (∀ v ∈ singles, v.IsSendable) ∧ ∀ v ∈ row, v.IsWholeText := by
  have hsingles : (singles.filter (· != .null)).forM (checkText message) = .ok () ↔
      ∀ v ∈ singles, v.IsSendable := by
    rw [forM_eq_ok_iff]
    simp only [List.mem_filter, bne_iff_ne, checkText_eq_ok_iff, Value.IsSendable, and_imp,
      or_iff_not_imp_left]
  have hrow : row.forM (checkText message) = .ok () ↔ ∀ v ∈ row, v.IsWholeText := by
    simp only [forM_eq_ok_iff, checkText_eq_ok_iff, Value.IsWholeText]
  unfold check
  cases htable : someHoldsTable singles || someHoldsTable row with
  | true =>
    refine iff_of_false (by simp) fun ⟨hsendable, hwhole⟩ => ?_
    rw [someHoldsTable_eq_false hsendable,
      someHoldsTable_eq_false fun v hv => .inr (hwhole v hv)] at htable
    cases htable
  | false => rw [if_neg (by simp), andThen_eq_ok_iff, hsingles, hrow]

/-- The same of a message with no row. -/
theorem check_eq_ok_iff {message : String} {singles : List Value} :
    check message singles = .ok () ↔ ∀ v ∈ singles, v.IsSendable := by
  simp [check_row_eq_ok_iff]

end Texts

end ComputeNodes
