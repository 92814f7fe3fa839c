import BrunostJudge.Table
import Mathlib.Data.List.Infix

namespace FileTree
open Relational
set_option autoImplicit true

inductive Node (γ : Type) where
  | directory
  | file (content : γ)
deriving DecidableEq

structure Row (α γ : Type) where
  path : List α
  node : Node γ
deriving DecidableEq

instance : Keyed (Row α γ) (List α) := ⟨Row.path⟩

abbrev Files (α γ : Type) := Table (Row α γ)

variable {α γ : Type} [DecidableEq α] {files files' : Files α γ} {path : List α} {content : γ}

/-- What a path leads to. The empty path leads to the directory itself. -/
def node? (files : Files α γ) (path : List α) : Option (Node γ) :=
  if path = [] then some .directory else (files.find? path).map Row.node

/-- A directory is made unless it is there. -/
def ensure (files : Files α γ) (path : List α) : Option (Files α γ) :=
  match node? files path with
  | none => files.insert? ⟨path, .directory⟩
  | some .directory => some files
  | some (.file _) => none

/-- `mkdir -p`. -/
def mkdirs (files : Files α γ) (path : List α) : Option (Files α γ) :=
  path.inits.foldlM ensure files

/-- A file is created where nothing is. -/
def create (files : Files α γ) (path : List α) (content : γ) : Option (Files α γ) :=
  match node? files path with
  | none => files.insert? ⟨path, .file content⟩
  | some _ => none

theorem node?_empty (hpath : path ≠ []) : node? (Table.empty : Files α γ) path = none := by
  rw [node?, if_neg hpath]
  rfl

theorem find?_of_node? (h : node? files path = none) : path ≠ [] ∧ files.find? path = none := by
  rw [node?] at h
  split at h
  · cases h
  · next hpath => exact ⟨hpath, Option.map_eq_none_iff.1 h⟩

theorem insert_fresh (node : Node γ) (h : node? files path = none) :
    ∃ files', files.insert? ⟨path, node⟩ = some files' ∧
      ∀ q, node? files' q = if q = path then some node else node? files q := by
  obtain ⟨hpath, hfresh⟩ := find?_of_node? h
  cases hinsert : files.insert? ⟨path, node⟩ with
  | none =>
    rw [Table.insert?] at hinsert
    split at hinsert
    · cases hinsert
    · next hnot => exact absurd hfresh hnot
  | some files' =>
    refine ⟨files', rfl, ?_⟩
    intro q
    have hfind : files'.find? q = if path = q then some ⟨path, node⟩ else files.find? q :=
      Table.find?_insert hinsert q
    by_cases hq : q = path
    · subst hq
      rw [if_pos rfl, node?, if_neg hpath, hfind, if_pos rfl]
      rfl
    · rw [if_neg hq, node?, node?, hfind, if_neg (Ne.symm hq)]

theorem create_fresh (content : γ) (h : node? files path = none) :
    ∃ files', create files path content = some files' ∧
      ∀ q, node? files' q = if q = path then some (.file content) else node? files q := by
  rw [create, h]
  exact insert_fresh _ h

theorem create_taken (content : γ) (h : node? files path ≠ none) :
    create files path content = none := by
  rw [create]
  split
  · next hnone => exact absurd hnone h
  · rfl

theorem ensure_free (h : ∀ content, node? files path ≠ some (.file content)) :
    ∃ files', ensure files path = some files' ∧
      ∀ q, node? files' q = if q = path then some .directory else node? files q := by
  rw [ensure]
  split
  · next hnone => exact insert_fresh _ hnone
  · next hdirectory =>
    refine ⟨files, rfl, ?_⟩
    intro q
    split
    · next hq => rw [hq, hdirectory]
    · rfl
  · next hfile => exact absurd hfile (h _)

theorem ensureAll_free (files : Files α γ) (paths : List (List α))
    (h : ∀ path ∈ paths, ∀ content, node? files path ≠ some (.file content)) :
    ∃ files', paths.foldlM ensure files = some files' ∧
      ∀ q, node? files' q = if q ∈ paths then some .directory else node? files q := by
  induction paths generalizing files with
  | nil => exact ⟨files, rfl, fun q => (if_neg List.not_mem_nil).symm⟩
  | cons path paths ih =>
    obtain ⟨hfirst, hrest⟩ := List.forall_mem_cons.1 h
    obtain ⟨middle, hmiddle, hnode⟩ := ensure_free hfirst
    have hfree : ∀ p ∈ paths, ∀ content, node? middle p ≠ some (.file content) := by
      intro p hp content
      rw [hnode]
      split
      · intro heq
        cases heq
      · exact hrest p hp content
    obtain ⟨files', hfiles', hnode'⟩ := ih middle hfree
    refine ⟨files', ?_, ?_⟩
    · rw [List.foldlM_cons, hmiddle]
      exact hfiles'
    · intro q
      rw [hnode', hnode]
      by_cases hq : q = path
      · rw [if_pos hq, if_pos (List.mem_cons.2 (.inl hq)), ite_self]
      · by_cases hmem : q ∈ paths
        · rw [if_pos hmem, if_pos (List.mem_cons_of_mem _ hmem)]
        · rw [if_neg hmem, if_neg hq, if_neg]
          exact fun h => (List.mem_cons.1 h).elim hq hmem

theorem mkdirs_free (h : ∀ q, q <+: path → ∀ content, node? files q ≠ some (.file content)) :
    ∃ files', mkdirs files path = some files' ∧
      ∀ q, node? files' q = if q <+: path then some .directory else node? files q := by
  obtain ⟨files', hfiles', hnode⟩ := ensureAll_free files path.inits
    (fun q hq => h q ((List.mem_inits _ _).1 hq))
  refine ⟨files', hfiles', ?_⟩
  intro q
  rw [hnode]
  simp only [List.mem_inits]

end FileTree
