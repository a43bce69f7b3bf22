import Snippetry.Proofs.Include.Expand
import Snippetry.Proofs.Table

/-! # A key leads to the same snippet through the index and along the document

The index is filled once, with the names and the aliases of the snippets as they come; a search goes
along the document and asks each snippet whether it answers. Both come to the first snippet that has the
key as its name or its alias, however many have it again. A walk changes nothing but how far snippets are
expanded, so that an index filled before it also agrees with a search in what the walk has made of the
document. -/
namespace Snippetry

theorem Snippet.answersTo_iff {s : Snippet} {key : Text} :
    s.answersTo key = true ↔ s.name = some key ∨ s.aliasName = some key := by
  simp [answersTo]

namespace Include

/-- At position `i` stands `s`, the first of the snippets whose name or alias is `key`. -/
structure IsFirst (snippets : List Snippet) (key : Text) (i : Nat) (s : Snippet) : Prop where
  stands : snippets[i]? = some s
  called : s.name = some key ∨ s.aliasName = some key
  before : ∀ j < i, ∀ t, snippets[j]? = some t → t.name ≠ some key ∧ t.aliasName ≠ some key

theorem firstAnswering_eq_some_iff {snippets : List Snippet} {key : Text} {i : Nat} :
    firstAnswering snippets key = some i ↔ ∃ s, IsFirst snippets key i s := by
  rw [firstAnswering, List.findIdx?_eq_some_iff_getElem]
  constructor
  · rintro ⟨hi, hcalled, hbefore⟩
    refine ⟨snippets[i], List.getElem?_eq_getElem hi, Snippet.answersTo_iff.mp hcalled, ?_⟩
    intro j hj t ht
    obtain ⟨hlt, rfl⟩ := List.getElem?_eq_some_iff.mp ht
    exact not_or.mp (mt Snippet.answersTo_iff.mpr (hbefore j hj))
  · rintro ⟨s, hs, hcalled, hbefore⟩
    obtain ⟨hi, rfl⟩ := List.getElem?_eq_some_iff.mp hs
    refine ⟨hi, Snippet.answersTo_iff.mpr hcalled, ?_⟩
    intro j hj
    have hlt := Nat.lt_trans hj hi
    exact mt Snippet.answersTo_iff.mp
      (not_or.mpr (hbefore j hj _ (List.getElem?_eq_getElem hlt)))

namespace Index

theorem nodup_insertNew {index : Index} (h : (index.map Prod.fst).Nodup) (key : Text) (i : Nat) :
    ((index.insertNew key i).map Prod.fst).Nodup := by
  unfold insertNew
  cases hk : index.lookup key with
  | some j => exact h
  | none =>
    refine List.nodup_cons.mpr ⟨fun hmem => ?_, h⟩
    obtain ⟨entry, hentry, rfl⟩ := List.mem_map.mp hmem
    simpa using List.lookup_eq_none_iff.mp hk entry hentry

theorem nodup_extend {index : Index} (h : (index.map Prod.fst).Nodup) (i : Nat)
    (snippets : List Snippet) : ((index.extend i snippets).map Prod.fst).Nodup := by
  induction snippets generalizing index i with
  | nil => exact h
  | cons s snippets ih =>
    refine ih ?_ (i + 1)
    exact List.foldlRecOn (motive := fun index : Index => (index.map Prod.fst).Nodup) (keys s) _ h
      fun index hindex key _ => nodup_insertNew hindex key i

/-- A key that several snippets have is entered once. -/
theorem nodup_ofSnippets (snippets : List Snippet) :
    ((ofSnippets snippets).map Prod.fst).Nodup :=
  have hempty : (([] : Index).map Prod.fst).Nodup := List.nodup_nil
  nodup_extend hempty 0 snippets

end Index
end Include

namespace Document

open Include

variable {d e : Document} {key : Text}

theorem find?_eq_some_iff {s : Snippet} :
    d.find? key = some s ↔ ∃ i, IsFirst d.snippets key i s := by
  have hfound : d.find? key = (firstAnswering d.snippets key).bind (d.snippets[·]?) :=
    List.find?_eq_bind_findIdx?_getElem?
  rw [hfound, Option.bind_eq_some_iff]
  refine exists_congr fun i => ?_
  rw [firstAnswering_eq_some_iff]
  constructor
  · rintro ⟨⟨t, ht⟩, hs⟩
    cases ht.stands.symm.trans hs
    exact ht
  · intro h
    exact ⟨⟨s, h⟩, h.stands⟩

/-- An index leads to what a search finds in every document of the same snippets, however far they are
expanded there. -/
theorem lookup_eq_some_iff_of_written
    (h : e.snippets.map Snippet.written = d.snippets.map Snippet.written) (policy : MissingPolicy)
    (key : Text) (i : Nat) :
    (d.setting policy).index.lookup key = some i ↔
      ∃ s, e.find? key = some s ∧ IsFirst e.snippets key i s := by
  have hlookup : (d.setting policy).index.lookup key = firstAnswering e.snippets key :=
    (Index.lookup_ofSnippets d.snippets key).trans (firstAnswering_eq_of_written h key).symm
  rw [hlookup, firstAnswering_eq_some_iff]
  exact exists_congr fun s => ⟨fun hs => ⟨find?_eq_some_iff.mpr ⟨i, hs⟩, hs⟩, And.right⟩

/-- The index leads from a key to the position of the snippet that a search finds, which is the first
that has the key as its name or its alias, and it lacks the keys for which a search finds none. -/
theorem index_agrees (d : Document) (policy : MissingPolicy) (key : Text) :
    (∀ i, (d.setting policy).index.lookup key = some i ↔
      ∃ s, d.find? key = some s ∧ IsFirst d.snippets key i s) ∧
    (∀ s, d.find? key = some s ↔ ∃ i, IsFirst d.snippets key i s) ∧
    ((d.setting policy).index.lookup key = none ↔ d.find? key = none) ∧
    ∀ i, (key, i) ∈ (d.setting policy).index ↔ (d.setting policy).index.lookup key = some i := by
  have hsome := lookup_eq_some_iff_of_written (e := d) (d := d) rfl policy key
  refine ⟨hsome, fun s => find?_eq_some_iff, ?_, ?_⟩
  · rw [Option.eq_none_iff_forall_ne_some, Option.eq_none_iff_forall_ne_some]
    constructor
    · intro hnone s hs
      obtain ⟨i, hi⟩ := find?_eq_some_iff.mp hs
      exact hnone i ((hsome i).mpr ⟨s, hs, hi⟩)
    · intro hnone i hi
      obtain ⟨s, hs, -⟩ := (hsome i).mp hi
      exact hnone s hs
  · intro i
    exact ⟨Text.lookup_of_mem (Index.nodup_ofSnippets d.snippets), Text.mem_of_lookup⟩

/-- Names that are aliases of the snippets before, and one that is also its own alias. -/
def shadowingSource : Text :=
  "```sh\n#%name: a\n#%lib: b\n```\n```sh\n#%name: b\n#%lib: c\n```\n" ++
  "```sh\n#%name: c\n#%lib: c\n```\n"

example :
    let d := read .plain 0 shadowingSource
    let keys : List Text := ["a", "b", "c", "d"]
    keys.map (fun key => (d.setting .strict).index.lookup key) = [some 0, some 0, some 1, none] ∧
      keys.map d.find? = [d.snippets[0]?, d.snippets[0]?, d.snippets[1]?, none] := by
  decide +kernel

end Document

namespace Include.Walk

variable {d : Document} {policy : MissingPolicy} {root : Nat} {s₀ : Snippet} {w : Walk}

/-- At every turn of a walk a name leads to what a search for it finds in the document as it is then. -/
theorem lookup_eq_some_iff
    (m : Relation.ReflTransGen (Move (d.setting policy)) (d.walkInto root s₀) w)
    {key : Text} {i : Nat} {s : Snippet} :
    w.lookup (d.setting policy) key = some (i, s) ↔
      ({ d with snippets := w.snippets } : Document).find? key = some s ∧
        IsFirst w.snippets key i s := by
  have hwritten : w.snippets.map Snippet.written = d.snippets.map Snippet.written :=
    (written_of_moves m).trans (map_written_mark d.snippets root .inProgress)
  have hindex := Document.lookup_eq_some_iff_of_written
    (e := { d with snippets := w.snippets }) hwritten policy key i
  rw [lookup_iff, hindex]
  constructor
  · rintro ⟨⟨t, ht, hfirst⟩, hs⟩
    cases hfirst.stands.symm.trans hs
    exact ⟨ht, hfirst⟩
  · rintro ⟨hs, hfirst⟩
    exact ⟨⟨s, hs, hfirst⟩, hfirst.stands⟩

end Include.Walk
end Snippetry
