import Mathlib.Data.List.Basic
import Mathlib.Data.Nat.Notation

namespace LengthPrefix
set_option autoImplicit true

variable {β : Type} {header : Nat → List β} {width bound : Nat} {x y s t : List β}
  {xs ys : List (List β)}

/-- Lengths below a bound have headers of one width, which tell them apart. -/
structure Headers (header : Nat → List β) (width bound : Nat) : Prop where
  positive : 0 < width
  width : ∀ n < bound, (header n).length = width
  injective : ∀ m < bound, ∀ n < bound, header m = header n → m = n

def field (header : Nat → List β) (x : List β) : List β := header x.length ++ x

def stream (header : Nat → List β) (xs : List (List β)) : List β := xs.flatMap (field header)

theorem stream_append (xs ys : List (List β)) :
    stream header (xs ++ ys) = stream header xs ++ stream header ys :=
  List.flatMap_append

theorem Headers.field_ne_nil (h : Headers header width bound) (hx : x.length < bound) :
    field header x ≠ [] := by
  intro hnil
  have hlength := congrArg List.length hnil
  rw [field, List.length_append, h.width _ hx] at hlength
  have hpositive := h.positive
  simp only [List.length_nil] at hlength
  omega

theorem Headers.field_inj (h : Headers header width bound) (hx : x.length < bound)
    (hy : y.length < bound) (heq : field header x ++ s = field header y ++ t) : x = y ∧ s = t := by
  rw [field, field, List.append_assoc, List.append_assoc] at heq
  have hwidth : (header x.length).length = (header y.length).length := by
    rw [h.width _ hx, h.width _ hy]
  obtain ⟨hheader, hrest⟩ := List.append_inj heq hwidth
  exact List.append_inj hrest (h.injective _ hx _ hy hheader)

theorem Headers.stream_inj (h : Headers header width bound) (hxs : ∀ x ∈ xs, x.length < bound)
    (hys : ∀ y ∈ ys, y.length < bound) (heq : stream header xs = stream header ys) : xs = ys := by
  induction xs generalizing ys with
  | nil =>
    cases ys with
    | nil => rfl
    | cons y ys =>
      rw [stream, stream, List.flatMap_nil, List.flatMap_cons] at heq
      have hy := (List.forall_mem_cons.1 hys).1
      exact absurd (List.append_eq_nil_iff.1 heq.symm).1 (h.field_ne_nil hy)
  | cons x xs ih =>
    obtain ⟨hx, hxs⟩ := List.forall_mem_cons.1 hxs
    cases ys with
    | nil =>
      rw [stream, stream, List.flatMap_nil, List.flatMap_cons] at heq
      exact absurd (List.append_eq_nil_iff.1 heq).1 (h.field_ne_nil hx)
    | cons y ys =>
      obtain ⟨hy, hys⟩ := List.forall_mem_cons.1 hys
      rw [stream, stream, List.flatMap_cons, List.flatMap_cons] at heq
      obtain ⟨hfirst, hrest⟩ := h.field_inj hx hy heq
      rw [hfirst, ih hxs hys hrest]

end LengthPrefix
