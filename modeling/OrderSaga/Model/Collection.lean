import Mathlib.Data.List.Forall2

/-!
# Collections in natural order

Both MongoDB collections the handlers write are modelled as the list of their
documents in natural order. `UpdateOne` and `FindOneAndUpdate` change the first
document their filter matches and nothing else; `updateFirst` is that update, and
the lemmas below are the frame facts every store operation inherits from it.
-/

set_option autoImplicit false

namespace OrderSaga

/-- Apply `f` to the first document satisfying `p`. -/
def updateFirst {α : Type} (p : α → Bool) (f : α → α) : List α → List α
  | [] => []
  | a :: as => if p a then f a :: as else a :: updateFirst p f as

section UpdateFirst

variable {α : Type} (p : α → Bool) (f : α → α)

/-- An update of the empty collection does nothing. -/
@[simp] theorem updateFirst_nil : updateFirst p f [] = [] := rfl

/-- An update keeps the number of documents. -/
@[simp] theorem length_updateFirst (l : List α) : (updateFirst p f l).length = l.length := by
  induction l with
  | nil => rfl
  | cons a l ih => by_cases h : p a <;> simp [updateFirst, h, ih]

/-- A filter that matches nothing leaves the collection as it is. -/
theorem updateFirst_of_forall_not (l : List α) (h : ∀ a ∈ l, p a = false) :
    updateFirst p f l = l := by
  induction l with
  | nil => rfl
  | cons a l ih => simp [updateFirst, h a (by simp), ih fun b hb => h b (by simp [hb])]

/-- An update whose filter matches nothing in a prefix updates the rest. -/
theorem updateFirst_append_of_forall_not (l l' : List α) (h : ∀ a ∈ l, p a = false) :
    updateFirst p f (l ++ l') = l ++ updateFirst p f l' := by
  induction l with
  | nil => rfl
  | cons a l ih => simp [updateFirst, h a (by simp), ih fun b hb => h b (by simp [hb])]

/-- A field that `f` does not touch reads the same in every document after the update. -/
theorem map_updateFirst {β : Type} (g : α → β) (hg : ∀ a, g (f a) = g a) (l : List α) :
    (updateFirst p f l).map g = l.map g := by
  induction l with
  | nil => rfl
  | cons a l ih => by_cases h : p a <;> simp [updateFirst, h, ih, hg]

/-- Position by position, every document is either unchanged or has had `f` applied. -/
theorem forall₂_updateFirst (l : List α) :
    List.Forall₂ (fun a b => b = a ∨ b = f a) l (updateFirst p f l) := by
  induction l with
  | nil => exact .nil
  | cons a l ih =>
    by_cases h : p a
    · simp [updateFirst, h, List.forall₂_same]
    · simpa [updateFirst, h] using ih

/-- When every document satisfies `B`, every document after the update does exactly when
the first match, updated, does. -/
theorem forall_mem_updateFirst_iff {B : α → Prop} (l : List α) (h : ∀ a ∈ l, B a) :
    (∀ a ∈ updateFirst p f l, B a) ↔ ∀ a, l.find? p = some a → B (f a) := by
  induction l with
  | nil => simp
  | cons b l ih =>
    simp only [List.mem_cons, forall_eq_or_imp] at h
    by_cases hb : p b
    · simpa [updateFirst, hb] using fun _ => h.2
    · simp [updateFirst, hb, h.1, ih h.2]

/-- With unique keys, updating the first document with key `k` updates every document with
key `k`. -/
theorem updateFirst_key_eq_map {β : Type} [DecidableEq β] (key : α → β) (k : β) (l : List α)
    (h : (l.map key).Nodup) :
    updateFirst (fun a => key a == k) f l = l.map fun a => if key a = k then f a else a := by
  induction l with
  | nil => rfl
  | cons a l ih =>
    rw [List.map_cons, List.nodup_cons] at h
    by_cases ha : key a = k
    · have : ∀ b ∈ l, key b ≠ k := fun b hb hbk => h.1 (List.mem_map.2 ⟨b, hb, hbk.trans ha.symm⟩)
      simp only [updateFirst, ha, beq_self_eq_true, if_true, List.map_cons, List.cons.injEq, true_and]
      exact (List.map_congr_left fun b hb => if_neg (this b hb)).trans (List.map_id' l) |>.symm
    · simp [updateFirst, ha, ih h.2]

end UpdateFirst

end OrderSaga
