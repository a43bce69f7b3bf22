import Snippetry.Include.Index

/-! # The index of names finds the first snippet in document order -/
namespace Snippetry.Include

def firstAnswering (snippets : List Snippet) (name : Text) : Option Nat :=
  snippets.findIdx? fun s => s.answersTo name

theorem lt_of_firstAnswering {snippets : List Snippet} {name : Text} {i : Nat}
    (h : firstAnswering snippets name = some i) : i < snippets.length := by
  obtain ⟨hi, -⟩ := List.findIdx?_eq_some_iff_getElem.mp h
  exact hi

namespace Index

theorem lookup_insertNew (index : Index) (key name : Text) (i : Nat) :
    (index.insertNew key i).lookup name =
      (index.lookup name).or (if name = key then some i else none) := by
  unfold insertNew
  cases hk : index.lookup key with
  | some j =>
    by_cases h : name = key
    · simp [h, hk]
    · simp [h]
  | none =>
    by_cases h : name = key
    · simp [h, hk]
    · have hb : (name == key) = false := beq_false_of_ne h
      simp [h, List.lookup_cons, hb]

theorem lookup_foldl_insertNew (index : Index) (keys : List Text) (name : Text) (i : Nat) :
    (keys.foldl (fun index key => index.insertNew key i) index).lookup name =
      (index.lookup name).or (if name ∈ keys then some i else none) := by
  induction keys generalizing index with
  | nil => simp
  | cons key keys ih =>
    rw [List.foldl_cons, ih, lookup_insertNew, Option.or_assoc]
    by_cases h : name = key <;> simp [h]

theorem mem_keys {s : Snippet} {name : Text} : name ∈ keys s ↔ s.answersTo name = true := by
  simp [keys, Snippet.answersTo]

theorem lookup_extend (index : Index) (i : Nat) (snippets : List Snippet) (name : Text) :
    (index.extend i snippets).lookup name =
      (index.lookup name).or ((firstAnswering snippets name).map (· + i)) := by
  induction snippets generalizing index i with
  | nil => simp [extend, firstAnswering]
  | cons s snippets ih =>
    rw [extend, ih, lookup_foldl_insertNew, Option.or_assoc]
    congr 1
    by_cases h : s.answersTo name = true
    · simp [firstAnswering, List.findIdx?_cons, mem_keys, h]
    · simp [firstAnswering, List.findIdx?_cons, mem_keys, h, Option.map_map, Function.comp_def,
        Nat.add_comm, Nat.add_left_comm]

/-- Entering the snippets one by one lets the first that answers to a name keep it. -/
theorem lookup_ofSnippets (snippets : List Snippet) (name : Text) :
    (ofSnippets snippets).lookup name = firstAnswering snippets name := by
  rw [ofSnippets, lookup_extend]
  simp

end Index
end Snippetry.Include
