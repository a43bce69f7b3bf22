import Snippetry.Proofs.TestDocument.Suites

/-! # Categories: which documents are selected, and in which order they are tested -/
namespace Snippetry.TestDocument

open FileNode

/-! ## What a category covers -/

/-- Without the slashes around it a category is the place, or its segments come first in those of
the place. -/
def Covers (category place : Text) : Prop :=
  ∃ core, Text.Core '/' category core ∧ (core = place ∨ core ≠ []
    ∧ Text.splitOn '/' core <+: Text.splitOn '/' place
    ∧ Text.splitOn '/' core ≠ Text.splitOn '/' place)

def Selected (categories : List Text) (place : Text) : Prop :=
  categories = [] ∨ ∃ category ∈ categories, Covers category place

namespace Suite

theorem core_trimSlashes (t : Text) : Text.Core '/' t (trimSlashes t) := by
  unfold trimSlashes
  obtain ⟨⟨m, hm⟩, hfirst⟩ := Text.exists_replicate_append_dropWhile '/' t
  set inner := t.dropWhile (· = '/')
  obtain ⟨⟨n, hn⟩, hlast⟩ := Text.exists_replicate_append_dropWhile '/' inner.reverse
  set core := inner.reverse.dropWhile (· = '/')
  have hinner : inner = core.reverse ++ List.replicate n '/' := by
    rw [← List.reverse_reverse inner, hn]
    simp
  refine ⟨⟨m, n, by rw [hm, hinner, List.append_assoc]⟩, fun h => hfirst ?_, by simpa using hlast⟩
  rw [hinner, List.head?_append, h, Option.some_or]

theorem trimSlashes_eq {t core : Text} (h : Text.Core '/' t core) : trimSlashes t = core := by
  obtain ⟨m, n, rfl⟩ := h.around
  have hstart : (List.replicate m '/' ++ core ++ List.replicate n '/').dropWhile (· = '/')
      = if core = [] then [] else core ++ List.replicate n '/' := by
    split_ifs with hcore
    · have hall := Text.dropWhile_replicate_append '/' (t := []) (m + n) (by simp)
      rwa [hcore, List.append_nil, List.replicate_append_replicate,
        ← List.append_nil (List.replicate ..)]
    · have hfirst : (core ++ List.replicate n '/').head? ≠ some '/' := by
        simpa [List.head?_append, hcore] using h.first
      rw [List.append_assoc]
      exact Text.dropWhile_replicate_append '/' m hfirst
  rw [trimSlashes, hstart]
  split_ifs with hcore
  · rw [hcore]
    rfl
  · exact Text.chop_append_replicate '/' n h.last

theorem belongsTo_iff {s : Suite} {category : Text} :
    s.belongsTo category = true ↔ Covers category s.name := by
  have hbelongs : s.belongsTo category = true ↔ trimSlashes category = s.name
      ∨ trimSlashes category ≠ [] ∧ trimSlashes category ++ ['/'] <+: s.name := by
    simp [belongsTo, @eq_comm _ s.name]
  rw [hbelongs, Text.append_sep_prefix_iff]
  constructor
  · intro h
    exact ⟨trimSlashes category, core_trimSlashes category, h⟩
  · rintro ⟨core, hcore, h⟩
    rwa [trimSlashes_eq hcore]

example : (Suite.mk "include/deep" []).belongsTo "/include/" = true
    ∧ (Suite.mk "includes" []).belongsTo "include" = false := by decide

end Suite

theorem mem_selectSuites {categories : List Text} {suites : List Suite} {s : Suite} :
    s ∈ selectSuites categories suites ↔ s ∈ suites ∧ Selected categories s.name := by
  unfold selectSuites Selected
  split_ifs with hnone
  · simp [hnone]
  · simp [hnone, Suite.belongsTo_iff]

theorem selectSuites_sublist (categories : List Text) (suites : List Suite) :
    (selectSuites categories suites).Sublist suites := by
  unfold selectSuites
  split_ifs
  · exact .refl _
  · exact List.filter_sublist

/-! ## Places -/

/-- A name as it stands in a directory, without backslashes. -/
structure IsPlain (name : Text) : Prop extends Files.IsEntryName name where
  backslash : '\\' ∉ name

instance (name : Text) : Decidable (IsPlain name) :=
  decidable_of_iff (name ≠ [] ∧ name ≠ ['.'] ∧ name ≠ ['.', '.'] ∧ '/' ∉ name ∧ '\x00' ∉ name
      ∧ name.size ≤ Files.longestName ∧ '\\' ∉ name)
    ⟨fun ⟨h, h₁, h₂, h₃, h₄, h₅, h₆⟩ => ⟨⟨h, h₁, h₂, h₃, h₄, h₅⟩, h₆⟩,
     fun h => ⟨h.nonempty, h.here, h.parent, h.slash, h.nul, h.short, h.backslash⟩⟩

def Named (entries : Entries) : Prop :=
  Throughout (fun inner => ∀ entry ∈ inner, IsPlain entry.1) entries

theorem Named.isPlain {entries inner : Entries} {names : List Text} (h : Named entries)
    (hinside : Inside entries names inner) : ∀ name ∈ names, IsPlain name :=
  Throughout.names h hinside

namespace Location

def place (l : Location) : Text := Text.join ['/'] l.directory

/-- The order in which documents are tested: by place, and in a place by name. -/
def Before (l m : Location) : Prop := l.place < m.place ∨ l.place = m.place ∧ l.name < m.name

variable {entries : Entries} {l m : Location}

theorem IsBelow.isPlain (hnamed : Named entries) (h : l.IsBelow entries) :
    ∀ name ∈ l.directory, IsPlain name := by
  obtain ⟨inner, node, hinside, -⟩ := h
  exact hnamed.isPlain hinside

theorem IsBelow.nameable (hnamed : Named entries) (h : l.IsBelow entries) :
    ∀ name ∈ l.directory, name ≠ [] ∧ '/' ∉ name := fun name hname =>
  ⟨(h.isPlain hnamed name hname).nonempty, (h.isPlain hnamed name hname).slash⟩

theorem IsBelow.category_eq (hnamed : Named entries) (h : l.IsBelow entries) :
    l.category = l.place := by
  refine (List.map_congr_left fun c hc => if_neg ?_).trans (List.map_id _)
  rintro rfl
  rcases Text.mem_of_mem_join hc with hslash | ⟨name, hname, hmem⟩
  · exact absurd hslash (by decide)
  · exact (h.isPlain hnamed name hname).backslash hmem

theorem IsBelow.directory_eq (hnamed : Named entries) (h : l.IsBelow entries)
    (h' : m.IsBelow entries) (hplace : l.place = m.place) : l.directory = m.directory :=
  Text.join_injective (h.nameable hnamed) (h'.nameable hnamed) hplace

theorem name_lt_of_names_lt (hdirectory : l.directory = m.directory) (h : l.names < m.names) :
    l.name < m.name := by
  unfold names at h
  rw [hdirectory] at h
  by_contra hlt
  rcases eq_or_lt_of_le (not_lt.mp hlt) with heq | hgt
  · exact absurd h (heq ▸ lt_irrefl _)
  · have hgreater : [m.name] < [l.name] := List.cons_lt_cons_iff.mpr (.inl hgt)
    exact h.asymm (List.append_left_lt hgreater)

end Location

/-! ## The documents to test -/

def plan (categories : List Text) (entries : Entries) : List Location :=
  (selectSuites categories (findSuites (.directory entries))).flatMap Suite.documents

variable {categories : List Text} {entries : Entries}

theorem documents_eq {s : Suite} (hs : s ∈ findSuites (.directory entries)) :
    s.documents
      = arrange ((locations [] (.directory entries)).filter fun l => l.category = s.name) := by
  rw [← documentsOf_suitesOf]
  exact ((ordered_suitesOf _).documentsOf_eq hs).symm

theorem mem_documents {s : Suite} (hs : s ∈ findSuites (.directory entries)) {l : Location} :
    l ∈ s.documents ↔ l.IsBelow entries ∧ l.category = s.name := by
  rw [documents_eq hs, (perm_arrange _).mem_iff, List.mem_filter, mem_locations, decide_eq_true_iff]

theorem exists_suite {l : Location} (h : l.IsBelow entries) :
    ∃ s ∈ findSuites (.directory entries), s.name = l.category := by
  have hne : documentsOf l.category (findSuites (.directory entries)) ≠ [] := by
    intro hempty
    have hmem : l ∈ arrange ((locations [] (.directory entries)).filter
        fun m => m.category = l.category) := by
      rw [(perm_arrange _).mem_iff, List.mem_filter]
      exact ⟨mem_locations.mpr h, decide_eq_true rfl⟩
    rw [← documentsOf_suitesOf] at hmem
    exact List.not_mem_nil (hempty ▸ hmem)
  exact ⟨_, mem_of_documentsOf_ne_nil hne, rfl⟩

/-- Exactly the documents in selected places are tested. -/
theorem mem_plan (hnamed : Named entries) {l : Location} :
    l ∈ plan categories entries ↔ l.IsBelow entries ∧ Selected categories l.place := by
  unfold plan
  simp only [List.mem_flatMap, mem_selectSuites]
  constructor
  · rintro ⟨s, ⟨hs, hselected⟩, hl⟩
    obtain ⟨hbelow, hcategory⟩ := (mem_documents hs).mp hl
    rw [← hbelow.category_eq hnamed, hcategory]
    exact ⟨hbelow, hselected⟩
  · rintro ⟨hbelow, hselected⟩
    obtain ⟨s, hs, hname⟩ := exists_suite hbelow
    refine ⟨s, ⟨hs, ?_⟩, (mem_documents hs).mpr ⟨hbelow, hname.symm⟩⟩
    rwa [hname, hbelow.category_eq hnamed]

/-- They are tested by place and name, and none of them twice. -/
theorem pairwise_plan (hnamed : Named entries) (hdistinct : Distinct entries) :
    (plan categories entries).Pairwise Location.Before := by
  refine List.pairwise_flatMap.mpr ⟨fun s hs => ?_, ?_⟩
  · obtain ⟨hs, -⟩ := mem_selectSuites.mp hs
    have hnodup : s.documents.Nodup := by
      rw [documents_eq hs, (perm_arrange _).nodup_iff]
      exact (nodup_locations hdistinct).filter _
    have hinOrder : InOrder s.documents := documents_eq hs ▸ inOrder_arrange _
    refine (hinOrder.and hnodup).imp_of_mem fun {l m} hl hm ⟨hle, hne⟩ => .inr ?_
    obtain ⟨hl, hlname⟩ := (mem_documents hs).mp hl
    obtain ⟨hm, hmname⟩ := (mem_documents hs).mp hm
    have hplace : l.place = m.place := by
      rw [← hl.category_eq hnamed, ← hm.category_eq hnamed, hlname, hmname]
    refine ⟨hplace, Location.name_lt_of_names_lt (hl.directory_eq hnamed hm hplace) ?_⟩
    exact lt_of_le_of_ne hle fun heq => hne (Location.names_injective heq)
  · have hnames := (ordered_suitesOf (locations [] (.directory entries))).names.sublist
      (selectSuites_sublist categories _)
    refine hnames.imp_of_mem fun {s t} hs ht hlt l hl m hm => .inl ?_
    obtain ⟨hl, hlname⟩ := (mem_documents (mem_selectSuites.mp hs).1).mp hl
    obtain ⟨hm, hmname⟩ := (mem_documents (mem_selectSuites.mp ht).1).mp hm
    rwa [← hl.category_eq hnamed, ← hm.category_eq hnamed, hlname, hmname]

end Snippetry.TestDocument
