import BrunostJudge.PyText
import Mathlib.Data.List.DropRight

namespace Python
set_option autoImplicit true

def dot : CodePoint := .ofChar '.'

def slash : CodePoint := .ofChar '/'

/-- The name of a file without its suffix. A suffix begins at the last dot, unless the name begins
or ends there. -/
def stem (name : PyStr) : PyStr :=
  let rest := name.rdropWhile (· ≠ dot)
  if rest.dropLast = [] ∨ rest = name then name else rest.dropLast

/-- The parts of a `PurePosixPath`, but for the root of an absolute one. -/
def pathParts (name : PyStr) : List PyStr :=
  (name.splitOn slash).filter fun part => part ≠ [] ∧ part ≠ [dot]

def isAbsolutePath (name : PyStr) : Bool := name.head? = some slash

theorem stem_append {name rest : PyStr} (hname : name ≠ []) (hrest : rest ≠ [])
    (hdot : dot ∉ rest) :
    stem (name ++ dot :: rest) = name := by
  have hdrop : (name ++ dot :: rest).rdropWhile (· ≠ dot) = name ++ [dot] := by
    have hall : ∀ c ∈ rest, (decide (c ≠ dot)) = true := by
      intro c hc
      exact decide_eq_true fun heq => hdot (heq ▸ hc)
    rw [← List.singleton_append, ← List.append_assoc, List.rdropWhile, List.reverse_append,
      List.dropWhile_append_of_pos (by simpa using hall)]
    simp
  rw [stem, hdrop, List.dropLast_concat, if_neg]
  rintro (h | h)
  · exact hname h
  · rw [List.append_cancel_left_eq, List.cons.injEq] at h
    exact hrest h.2.symm

theorem stem_slash {name : PyStr} (h : slash ∉ name) : slash ∉ stem name := by
  have hpre : stem name <+: name := by
    rw [stem]
    split
    · exact List.prefix_refl name
    · exact (List.dropLast_prefix _).trans (List.rdropWhile_prefix _ _)
  exact fun hmem => h (hpre.subset hmem)

theorem join_eq_intercalate (separator : PyStr) (parts : List PyStr) :
    PyStr.join separator parts = separator.intercalate parts := by
  induction parts with
  | nil => rfl
  | cons part parts ih =>
    cases parts with
    | nil => simp [PyStr.join, List.intercalate]
    | cons next rest =>
      rw [PyStr.join, ih]
      simp [List.intercalate, List.intersperse]

theorem join_slash_inj {xs ys : List PyStr} (hx : xs ≠ []) (hy : ys ≠ [])
    (hxs : ∀ x ∈ xs, slash ∉ x) (hys : ∀ y ∈ ys, slash ∉ y)
    (h : PyStr.join [slash] xs = PyStr.join [slash] ys) : xs = ys := by
  rw [join_eq_intercalate, join_eq_intercalate] at h
  have hsplit := congrArg (List.splitOn slash) h
  rwa [List.splitOn_intercalate slash hxs hx, List.splitOn_intercalate slash hys hy] at hsplit

/-- What a directory can list: not the directory itself, and no path. -/
def FileName (name : PyStr) : Prop := name ≠ [] ∧ name ≠ [dot] ∧ slash ∉ name

instance (name : PyStr) : Decidable (FileName name) := inferInstanceAs (Decidable (_ ∧ _ ∧ _))

theorem pathParts_join {parts : List PyStr} (hne : parts ≠ []) (h : ∀ part ∈ parts, FileName part) :
    pathParts (PyStr.join [slash] parts) = parts := by
  rw [pathParts, join_eq_intercalate,
    List.splitOn_intercalate slash (fun part hp => (h part hp).2.2) hne, List.filter_eq_self]
  intro part hpart
  exact decide_eq_true ⟨(h part hpart).1, (h part hpart).2.1⟩

theorem isAbsolutePath_join {parts : List PyStr} (h : ∀ part ∈ parts, FileName part) :
    isAbsolutePath (PyStr.join [slash] parts) = false := by
  have hpart : ∀ part rest, FileName part → isAbsolutePath (part ++ rest) = false := by
    rintro part rest ⟨hne, -, hslash⟩
    cases part with
    | nil => exact absurd rfl hne
    | cons c cs =>
      apply decide_eq_false
      intro hhead
      exact hslash (List.mem_cons.2 (.inl (Option.some.inj hhead).symm))
  cases parts with
  | nil => rfl
  | cons part rest =>
    have hfirst := (List.forall_mem_cons.1 h).1
    cases rest with
    | nil =>
      rw [PyStr.join, ← List.append_nil part]
      exact hpart part [] hfirst
    | cons next rest =>
      rw [PyStr.join, List.append_assoc]
      exact hpart part _ hfirst

theorem mem_join {separator : PyStr} {parts : List PyStr} {c : CodePoint}
    (h : c ∈ PyStr.join separator parts) : c ∈ separator ∨ ∃ part ∈ parts, c ∈ part := by
  induction parts with
  | nil => cases h
  | cons part rest ih =>
    cases rest with
    | nil => exact .inr ⟨part, List.mem_cons_self, h⟩
    | cons next rest =>
      rw [PyStr.join, List.mem_append, List.mem_append] at h
      obtain (hc | hc) | hc := h
      · exact .inr ⟨part, List.mem_cons_self, hc⟩
      · exact .inl hc
      · obtain hc | ⟨other, hother, hc⟩ := ih hc
        · exact .inl hc
        · exact .inr ⟨other, List.mem_cons_of_mem _ hother, hc⟩

end Python
