import Mathlib.Data.Char
import Mathlib.Data.List.Lex
import Mathlib.Data.List.Sort
import Snippetry.Proofs.TestDocument.Discovery
import Snippetry.Proofs.Text.Segments

/-! # Suites: documents in order, whatever the order in which they are found -/
namespace Snippetry.TestDocument

/-! ## Documents of a suite -/

theorem Location.names_injective : Function.Injective Location.names := by
  rintro ⟨directory, name⟩ ⟨directory', name'⟩ h
  obtain ⟨hdirectory, hname⟩ := List.append_inj' h rfl
  simp_all

def InOrder (ls : List Location) : Prop := ls.Pairwise fun l m => l.names ≤ m.names

theorem perm_insertLocation (l : Location) (ls : List Location) :
    (insertLocation l ls).Perm (l :: ls) := by
  induction ls with
  | nil => exact .refl _
  | cons m ls ih =>
    rw [insertLocation]
    split_ifs
    · exact .refl _
    · exact (ih.cons m).trans (.swap l m ls)

theorem InOrder.insertLocation {ls : List Location} (h : InOrder ls) (l : Location) :
    InOrder (insertLocation l ls) := by
  induction ls with
  | nil => exact List.pairwise_singleton _ _
  | cons m ls ih =>
    obtain ⟨hm, htail⟩ := List.pairwise_cons.mp h
    rw [TestDocument.insertLocation]
    split_ifs with hlt
    · refine List.pairwise_cons.mpr ⟨fun k hk => ?_, h⟩
      rcases List.mem_cons.mp hk with rfl | hk
      · exact hlt.le
      · exact hlt.le.trans (hm k hk)
    · refine List.pairwise_cons.mpr ⟨fun k hk => ?_, ih htail⟩
      rcases List.mem_cons.mp ((perm_insertLocation l ls).subset hk) with rfl | hk
      · exact not_lt.mp hlt
      · exact hm k hk

def arrange (ls : List Location) : List Location :=
  ls.foldl (fun arranged l => insertLocation l arranged) []

theorem arrange_concat (ls : List Location) (l : Location) :
    arrange (ls ++ [l]) = insertLocation l (arrange ls) := by
  simp [arrange]

theorem perm_arrange (ls : List Location) : (arrange ls).Perm ls := by
  induction ls using List.reverseRecOn with
  | nil => exact .refl _
  | append_singleton ls l ih =>
    rw [arrange_concat]
    exact (perm_insertLocation l _).trans ((ih.cons l).trans (List.perm_append_singleton l ls).symm)

theorem inOrder_arrange (ls : List Location) : InOrder (arrange ls) := by
  induction ls using List.reverseRecOn with
  | nil => exact List.Pairwise.nil
  | append_singleton ls l ih =>
    rw [arrange_concat]
    exact ih.insertLocation l

theorem arrange_eq_of_perm {ls ls' : List Location} (h : ls.Perm ls') : arrange ls = arrange ls' :=
  List.Perm.eq_of_pairwise
    (fun _ _ _ _ hle hle' => Location.names_injective (le_antisymm hle hle'))
    (inOrder_arrange ls) (inOrder_arrange ls')
    ((perm_arrange ls).trans (h.trans (perm_arrange ls').symm))

/-! ## The suites -/

def documentsOf (name : Text) : List Suite → List Location
  | [] => []
  | s :: suites => if s.name = name then s.documents else documentsOf name suites

/-- Suites in the order of their names, and none without documents. -/
structure Ordered (suites : List Suite) : Prop where
  names : suites.Pairwise fun s t => s.name < t.name
  filled : ∀ s ∈ suites, s.documents ≠ []

theorem Ordered.tail {s : Suite} {suites : List Suite} (h : Ordered (s :: suites)) :
    Ordered suites :=
  ⟨(List.pairwise_cons.mp h.names).2, fun t ht => h.filled t (.tail _ ht)⟩

theorem documentsOf_of_forall_ne {name : Text} {suites : List Suite}
    (h : ∀ s ∈ suites, s.name ≠ name) : documentsOf name suites = [] := by
  induction suites with
  | nil => rfl
  | cons s suites ih =>
    rw [documentsOf, if_neg (h s List.mem_cons_self)]
    exact ih fun t ht => h t (.tail _ ht)

theorem mem_of_documentsOf_ne_nil {name : Text} {suites : List Suite}
    (h : documentsOf name suites ≠ []) : ⟨name, documentsOf name suites⟩ ∈ suites := by
  induction suites with
  | nil => exact absurd rfl h
  | cons s suites ih =>
    rw [documentsOf] at h ⊢
    split_ifs at h ⊢ with hname
    · exact hname ▸ List.mem_cons_self
    · exact List.mem_cons_of_mem _ (ih h)

namespace Ordered

theorem documentsOf_eq {suites : List Suite} (h : Ordered suites) {s : Suite} (hs : s ∈ suites) :
    documentsOf s.name suites = s.documents := by
  induction suites with
  | nil => cases hs
  | cons t suites ih =>
    rw [documentsOf]
    rcases List.mem_cons.mp hs with rfl | hs
    · exact if_pos rfl
    · rw [if_neg ((List.pairwise_cons.mp h.names).1 s hs).ne]
      exact ih h.tail hs

/-- Suites are the same if under every name they hold the same. -/
theorem eq_of_documentsOf {suites suites' : List Suite} (h : Ordered suites) (h' : Ordered suites')
    (heq : ∀ name, documentsOf name suites = documentsOf name suites') : suites = suites' := by
  have hsubset {ss ts : List Suite} (hss : Ordered ss)
      (hsame : ∀ name, documentsOf name ss = documentsOf name ts) {s : Suite} (hs : s ∈ ss) :
      s ∈ ts := by
    have hdocuments : documentsOf s.name ts = s.documents := hsame s.name ▸ hss.documentsOf_eq hs
    have hmem := mem_of_documentsOf_ne_nil (hdocuments ▸ hss.filled s hs)
    rwa [hdocuments] at hmem
  have hirrefl : Std.Irrefl fun s t : Suite => s.name < t.name := ⟨fun s => lt_irrefl s.name⟩
  have hantisymm : Std.Antisymm fun s t : Suite => s.name < t.name :=
    ⟨fun s t hst hts => absurd hts hst.asymm⟩
  exact h.names.eq_of_mem_iff h'.names fun s =>
    ⟨hsubset h heq, hsubset h' fun name => (heq name).symm⟩

end Ordered

theorem insertLocation_ne_nil (l : Location) (ls : List Location) : insertLocation l ls ≠ [] :=
  fun h => by simpa [h] using (perm_insertLocation l ls).length_eq

theorem documentsOf_insertSuite {suites : List Suite} (h : Ordered suites) (l : Location)
    (name : Text) : documentsOf name (insertSuite l suites)
      = if name = l.category then insertLocation l (documentsOf name suites)
        else documentsOf name suites := by
  induction suites with
  | nil => simp [insertSuite, documentsOf, insertLocation, eq_comm]
  | cons s suites ih =>
    have hlater := (List.pairwise_cons.mp h.names).1
    rw [insertSuite]
    split_ifs with hcategory hname hbefore hname hname
    · simp [documentsOf, hcategory, hname]
    · simp [documentsOf, hcategory, Ne.symm hname]
    · have hnone : documentsOf name (s :: suites) = [] := by
        refine documentsOf_of_forall_ne fun t ht => hname ▸ ?_
        rcases List.mem_cons.mp ht with rfl | ht
        · exact hbefore.ne'
        · exact (hbefore.trans (hlater t ht)).ne'
      rw [hnone, documentsOf, if_pos hname.symm, insertLocation]
    · rw [documentsOf, if_neg (Ne.symm hname)]
    · rw [documentsOf, documentsOf, ih h.tail, if_pos hname, if_neg (hname ▸ hcategory),
        if_neg (hname ▸ hcategory)]
    · rw [documentsOf, documentsOf, ih h.tail, if_neg hname]

/-- The names of the suites are those there were, and the category of the document. -/
theorem name_of_mem_insertSuite {l : Location} {s : Suite} {suites : List Suite}
    (hs : s ∈ insertSuite l suites) : s.name = l.category ∨ ∃ t ∈ suites, t.name = s.name := by
  induction suites with
  | nil => exact .inl (List.mem_singleton.mp hs ▸ rfl)
  | cons t suites ih =>
    rw [insertSuite] at hs
    split_ifs at hs with hcategory hbefore
    · rcases List.mem_cons.mp hs with rfl | hs
      · exact .inl hcategory
      · exact .inr ⟨s, .tail _ hs, rfl⟩
    · rcases List.mem_cons.mp hs with rfl | hs
      · exact .inl rfl
      · exact .inr ⟨s, hs, rfl⟩
    · rcases List.mem_cons.mp hs with rfl | hs
      · exact .inr ⟨s, List.mem_cons_self, rfl⟩
      · exact (ih hs).imp_right fun ⟨u, hu, hname⟩ => ⟨u, .tail _ hu, hname⟩

theorem filled_insertSuite {l : Location} {suites : List Suite}
    (h : ∀ s ∈ suites, s.documents ≠ []) : ∀ s ∈ insertSuite l suites, s.documents ≠ [] := by
  induction suites with
  | nil => simp [insertSuite]
  | cons t suites ih =>
    obtain ⟨ht, htail⟩ := List.forall_mem_cons.mp h
    rw [insertSuite]
    split_ifs
    · exact List.forall_mem_cons.mpr ⟨insertLocation_ne_nil l _, htail⟩
    · exact List.forall_mem_cons.mpr ⟨List.cons_ne_nil _ _, h⟩
    · exact List.forall_mem_cons.mpr ⟨ht, ih htail⟩

theorem Ordered.insertSuite {suites : List Suite} (h : Ordered suites) (l : Location) :
    Ordered (insertSuite l suites) := by
  refine ⟨?_, filled_insertSuite h.filled⟩
  induction suites with
  | nil => exact List.pairwise_singleton _ _
  | cons t suites ih =>
    obtain ⟨hlater, htail⟩ := List.pairwise_cons.mp h.names
    rw [TestDocument.insertSuite]
    split_ifs with hcategory hbefore
    · exact List.pairwise_cons.mpr ⟨hlater, htail⟩
    · refine List.pairwise_cons.mpr ⟨fun s hs => ?_, h.names⟩
      rcases List.mem_cons.mp hs with rfl | hs
      · exact hbefore
      · exact hbefore.trans (hlater s hs)
    · refine List.pairwise_cons.mpr ⟨fun s hs => ?_, ih h.tail⟩
      rcases name_of_mem_insertSuite hs with hname | ⟨u, hu, hname⟩
      · rw [hname]
        exact lt_of_le_of_ne (not_lt.mp hbefore) hcategory
      · exact hname ▸ hlater u hu

theorem suitesOf_concat (ls : List Location) (l : Location) :
    suitesOf (ls ++ [l]) = insertSuite l (suitesOf ls) := by
  simp [suitesOf]

theorem ordered_suitesOf (ls : List Location) : Ordered (suitesOf ls) := by
  induction ls using List.reverseRecOn with
  | nil => exact ⟨List.Pairwise.nil, by simp [suitesOf]⟩
  | append_singleton ls l ih =>
    rw [suitesOf_concat]
    exact ih.insertSuite l

/-- The suite of a name holds the documents of that category, in order. -/
theorem documentsOf_suitesOf (name : Text) (ls : List Location) :
    documentsOf name (suitesOf ls) = arrange (ls.filter fun l => l.category = name) := by
  induction ls using List.reverseRecOn with
  | nil => rfl
  | append_singleton ls l ih =>
    rw [suitesOf_concat, documentsOf_insertSuite (ordered_suitesOf ls), ih, List.filter_append]
    by_cases hname : name = l.category
    · rw [if_pos hname, List.filter_singleton]
      simp [hname, arrange_concat]
    · simp [hname, Ne.symm hname]

/-- The suites do not depend on the order in which the documents are found. -/
theorem suitesOf_eq_of_perm {ls ls' : List Location} (h : ls.Perm ls') :
    suitesOf ls = suitesOf ls' := by
  refine (ordered_suitesOf ls).eq_of_documentsOf (ordered_suitesOf ls') fun name => ?_
  rw [documentsOf_suitesOf, documentsOf_suitesOf]
  exact arrange_eq_of_perm (h.filter _)

/-- A work-list of directories leads to the same suites. -/
theorem findSuites_eq_suitesOf_search (entries : FileNode.Entries) :
    findSuites (.directory entries) = suitesOf (search [([], entries)]) := by
  have hsearch := perm_search [([], entries)]
  rw [List.flatMap_singleton] at hsearch
  rw [findSuites, locations, locationsAmong_eq_flatMap]
  exact (suitesOf_eq_of_perm hsearch).symm
end Snippetry.TestDocument
