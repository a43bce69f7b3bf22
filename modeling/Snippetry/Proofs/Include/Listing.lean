import Mathlib.Data.List.Perm.Basic
import Mathlib.Data.List.Sigma
import Snippetry.Proofs.Include.Flatten

/-! # The names of a document that nothing answers to

A name stands at a place of a document: in a snippet, on one of its include lines, in the list of that
line. Where no snippet answers to it, there is one warning to give for this place. -/
namespace Snippetry.Include

/-- A place at which a name is listed: the snippet, the line of it and the place in the list of the
line, each counted from 0. -/
structure Listing where
  snippet : Nat
  line : Nat
  place : Nat
deriving DecidableEq, Repr

namespace Listing

def Shows (snippets : List Snippet) (o : Listing) (line : SourceLine) (name : Text) : Prop :=
  (linesAt snippets o.snippet)[o.line]? = some line ∧ (namesOf line)[o.place]? = some name

def Missing (snippets : List Snippet) (o : Listing) : Prop :=
  ∃ line name, o.Shows snippets line name ∧ ∀ s ∈ snippets, s.answersTo name = false

/-- The notice is a warning that shows the line of the place, and names the name and the snippet. -/
def WarnedBy (snippets : List Snippet) (o : Listing) (n : Notice) : Prop :=
  ∃ line name, o.Shows snippets line name ∧ n.diagnostic.severity = .warning ∧ n.span = line.span ∧
    n.message = missingReferenceMessage name (labelAt snippets o.snippet)

end Listing

section Reports

variable (snippets : List Snippet) (sourceId : Nat)

def warning (label : Text) (span : Span) (name : Text) : Notice :=
  ⟨.missingReference name label, span, sourceId⟩

def unanswered (name : Text) : Bool := (firstAnswering snippets name).isNone

def warningsFor (label : Text) (span : Span) (names : List Text) : List Notice :=
  (names.filter (unanswered snippets)).map (warning sourceId label span)

def warningsOf (label : Text) (lines : List SourceLine) : List Notice :=
  lines.flatMap fun line => warningsFor snippets sourceId label line.span (namesOf line)

def warningsIn (i : Nat) : List Notice :=
  warningsOf snippets sourceId (labelAt snippets i) (linesAt snippets i)

def reportsOn (i l : Nat) (line : SourceLine) : List (Listing × Notice) :=
  ((namesOf line).zipIdx.filter (unanswered snippets ∘ Prod.fst)).map fun name =>
    (⟨i, l, name.2⟩, warning sourceId (labelAt snippets i) line.span name.1)

def reportsIn (i : Nat) : List (Listing × Notice) :=
  (linesAt snippets i).zipIdx.flatMap fun line => reportsOn snippets sourceId i line.2 line.1

end Reports

variable {snippets : List Snippet} {sourceId i : Nat}

theorem unanswered_iff {name : Text} :
    unanswered snippets name = true ↔ ∀ s ∈ snippets, s.answersTo name = false := by
  unfold unanswered firstAnswering
  rw [Option.isNone_iff_eq_none, List.findIdx?_eq_none_iff]

theorem map_snd_reportsOn (l : Nat) (line : SourceLine) :
    (reportsOn snippets sourceId i l line).map Prod.snd =
      warningsFor snippets sourceId (labelAt snippets i) line.span (namesOf line) := by
  have hnames : ((namesOf line).zipIdx.filter (unanswered snippets ∘ Prod.fst)).map Prod.fst =
      (namesOf line).filter (unanswered snippets) := by
    rw [← List.filter_map, List.zipIdx_map_fst]
  rw [reportsOn, warningsFor, ← hnames, List.map_map, List.map_map]
  rfl

theorem map_snd_reportsIn :
    (reportsIn snippets sourceId i).map Prod.snd = warningsIn snippets sourceId i := by
  have hlines : warningsIn snippets sourceId i = ((linesAt snippets i).zipIdx.map Prod.fst).flatMap
      fun line => warningsFor snippets sourceId (labelAt snippets i) line.span (namesOf line) := by
    rw [List.zipIdx_map_fst]
    rfl
  rw [hlines, List.flatMap_map, reportsIn, List.map_flatMap]
  simp only [map_snd_reportsOn]

theorem map_snd_flatMap_reportsIn (met : List Nat) :
    (met.flatMap (reportsIn snippets sourceId)).map Prod.snd =
      met.flatMap (warningsIn snippets sourceId) := by
  rw [List.map_flatMap]
  simp only [map_snd_reportsIn]

theorem mem_reportsIn {r : Listing × Notice} : r ∈ reportsIn snippets sourceId i ↔
    r.1.snippet = i ∧ ∃ line name, r.1.Shows snippets line name ∧ unanswered snippets name = true ∧
      r.2 = warning sourceId (labelAt snippets i) line.span name := by
  obtain ⟨⟨j, l, p⟩, n⟩ := r
  simp only [reportsIn, reportsOn, List.mem_flatMap, List.mem_map, List.mem_filter,
    List.mem_zipIdx_iff_getElem?, Listing.Shows, Prod.exists, Function.comp_apply, Prod.mk.injEq,
    Listing.mk.injEq]
  constructor
  · rintro ⟨line, l', hline, name, p', ⟨hname, hn⟩, ⟨rfl, rfl, rfl⟩, rfl⟩
    exact ⟨rfl, line, name, ⟨hline, hname⟩, hn, rfl⟩
  · rintro ⟨rfl, line, name, ⟨hline, hname⟩, hn, rfl⟩
    exact ⟨line, l, hline, name, p, ⟨hname, hn⟩, ⟨rfl, rfl, rfl⟩, rfl⟩

/-- Lists under distinct keys have nothing in common, if their elements show the keys. -/
theorem nodup_flatMap_of_key {α β κ : Type} {xs : List α} {f : α → List β} (key : α → κ) (shown : β → κ)
    (hkeys : (xs.map key).Nodup) (heach : ∀ x ∈ xs, (f x).Nodup)
    (hshown : ∀ x ∈ xs, ∀ y ∈ f x, shown y = key x) : (xs.flatMap f).Nodup := by
  refine List.nodup_flatMap.mpr ⟨heach, ?_⟩
  have hpairs := (List.pairwise_map.mp hkeys).imp_of_mem
    (S := fun x y => List.Disjoint (f x) (f y)) fun {x y} hx hy hne z hzx hzy =>
      hne ((hshown x hx z hzx).symm.trans (hshown y hy z hzy))
  exact hpairs

theorem nodup_reportsOn (l : Nat) (line : SourceLine) :
    ((reportsOn snippets sourceId i l line).map Prod.fst).Nodup := by
  have hplaces : ((reportsOn snippets sourceId i l line).map Prod.fst).map Listing.place =
      ((namesOf line).zipIdx.filter (unanswered snippets ∘ Prod.fst)).map Prod.snd := by
    rw [reportsOn, List.map_map, List.map_map]
    rfl
  apply List.Nodup.of_map Listing.place
  rw [hplaces]
  exact (List.nodup_zipIdx_map_snd (namesOf line)).sublist (List.filter_sublist.map Prod.snd)

theorem nodup_reportsIn : ((reportsIn snippets sourceId i).map Prod.fst).Nodup := by
  rw [reportsIn, List.map_flatMap]
  refine nodup_flatMap_of_key Prod.snd Listing.line (List.nodup_zipIdx_map_snd _) ?_ ?_
  · intro line _
    exact nodup_reportsOn line.2 line.1
  · intro line _ o ho
    simp only [reportsOn, List.map_map, List.mem_map] at ho
    obtain ⟨name, -, rfl⟩ := ho
    rfl

theorem nodup_flatMap_reportsIn {met : List Nat} (h : met.Nodup) :
    ((met.flatMap (reportsIn snippets sourceId)).map Prod.fst).Nodup := by
  rw [List.map_flatMap]
  refine nodup_flatMap_of_key id Listing.snippet (by rwa [List.map_id]) ?_ ?_
  · intro i _
    exact nodup_reportsIn
  · intro i _ o ho
    obtain ⟨r, hr, rfl⟩ := List.mem_map.mp ho
    exact (mem_reportsIn.mp hr).1

/-- The places of some snippets with their warnings are those in them where a name is missing. -/
theorem mem_flatMap_reportsIn {met : List Nat} {o : Listing} :
    o ∈ (met.flatMap (reportsIn snippets sourceId)).map Prod.fst ↔
      o.snippet ∈ met ∧ o.Missing snippets := by
  simp only [List.mem_map, List.mem_flatMap]
  constructor
  · rintro ⟨r, ⟨i, hi, hr⟩, rfl⟩
    obtain ⟨hsnippet, line, name, hshows, hn, -⟩ := mem_reportsIn.mp hr
    exact ⟨hsnippet ▸ hi, line, name, hshows, unanswered_iff.mp hn⟩
  · rintro ⟨hi, line, name, hshows, hn⟩
    exact ⟨(o, warning sourceId (labelAt snippets o.snippet) line.span name), ⟨o.snippet, hi,
      mem_reportsIn.mpr ⟨rfl, line, name, hshows, unanswered_iff.mpr hn, rfl⟩⟩, rfl⟩

theorem warnedBy_of_mem_reportsIn {r : Listing × Notice} (h : r ∈ reportsIn snippets sourceId i) :
    r.1.WarnedBy snippets r.2 := by
  obtain ⟨hsnippet, line, name, hshows, -, hnotice⟩ := mem_reportsIn.mp h
  rw [hnotice, ← hsnippet]
  exact ⟨line, name, hshows, rfl, rfl, rfl⟩

/-- What is a rearrangement of the second parts comes from a rearrangement of the pairs. -/
theorem exists_perm_map_snd {α β : Type} {ys : List β} {pairs : List (α × β)}
    (h : ys.Perm (pairs.map Prod.snd)) :
    ∃ pairs' : List (α × β), pairs'.Perm pairs ∧ ys = pairs'.map Prod.snd := by
  have hpairs : List.Forall₂ (fun y pair => y = Prod.snd pair) (pairs.map Prod.snd) pairs := by
    rw [List.forall₂_map_left_iff, List.forall₂_same]
    exact fun _ _ => rfl
  obtain ⟨pairs', hys, hperm⟩ := List.perm_comp_forall₂ h hpairs
  refine ⟨pairs', hperm, ?_⟩
  rwa [← List.forall₂_map_right_iff, List.forall₂_eq_eq_eq] at hys

end Snippetry.Include
