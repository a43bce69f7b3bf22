import Mathlib.Algebra.GroupWithZero.Nat
import Mathlib.Data.List.Infix
import Mathlib.Data.List.Nodup
import Snippetry.Proofs.Files
import Snippetry.TestDocument.Suite

/-! # Discovery: the test documents below a directory, each found once

A work-list of directories leads to the same documents as the tree does, only in another order. -/
namespace Snippetry.TestDocument

open FileNode

/-- A test document below a directory: an entry that is no directory and whose name ends as it
should, in the directory that the names lead to. -/
def Location.IsBelow (l : Location) (entries : Entries) : Prop :=
  ∃ inner node, Inside entries l.directory inner ∧ (l.name, node) ∈ inner
    ∧ node.isDirectory = false ∧ ending <:+ l.name

theorem isTestName_iff {name : Text} : isTestName name = true ↔ ending <:+ name := by
  simp [isTestName]

def found (directory : List Text) (entry : Text × FileNode) : List Location :=
  if entry.2.isDirectory then locations (directory ++ [entry.1]) entry.2
  else if isTestName entry.1 then [⟨directory, entry.1⟩] else []

theorem locationsAmong_eq_flatMap (directory : List Text) (entries : Entries) :
    locationsAmong directory entries = entries.flatMap (found directory) := by
  induction entries with
  | nil => simp [locationsAmong]
  | cons entry entries ih =>
    rw [locationsAmong, List.flatMap_cons, ih]
    rfl

@[simp] theorem found_directory (directory : List Text) (name : Text) (inner : Entries) :
    found directory (name, .directory inner) = inner.flatMap (found (directory ++ [name])) := by
  rw [← locationsAmong_eq_flatMap]
  exact if_pos rfl

theorem mem_found_leaf {directory : List Text} {name : Text} {node : FileNode}
    (hnode : node.isDirectory = false) {l : Location} :
    l ∈ found directory (name, node) ↔ l = ⟨directory, name⟩ ∧ ending <:+ name := by
  simp only [found, hnode, Bool.false_eq_true, if_false]
  split_ifs with h
  · simp [← isTestName_iff, h]
  · simp [← isTestName_iff, h]

/-- Exactly the test documents are found, behind the names that lead to the directory searched. -/
theorem mem_flatMap_found {directory : List Text} {entries : Entries} {l : Location} :
    l ∈ entries.flatMap (found directory)
      ↔ ∃ names, l.directory = directory ++ names ∧ Location.IsBelow ⟨names, l.name⟩ entries := by
  induction entries using entries_induction generalizing directory with
  | step entries ih =>
    rw [List.mem_flatMap]
    constructor
    · rintro ⟨⟨name, node⟩, hentry, hl⟩
      by_cases hnode : node.isDirectory = true
      · cases node with
        | directory inner =>
          rw [found_directory, ih name inner hentry] at hl
          obtain ⟨names, hnames, innermost, leaf, hinside, hleaf⟩ := hl
          exact ⟨name :: names, by simpa using hnames, innermost, leaf, .deeper hentry hinside,
            hleaf⟩
        | _ => cases hnode
      · rw [Bool.not_eq_true] at hnode
        obtain ⟨rfl, hname⟩ := (mem_found_leaf hnode).mp hl
        exact ⟨[], by simp, entries, node, .here entries, hentry, hnode, hname⟩
    · rintro ⟨names, hnames, innermost, leaf, hinside, hleaf, hnode, hname⟩
      cases hinside with
      | here =>
        refine ⟨(l.name, leaf), hleaf, (mem_found_leaf hnode).mpr ⟨?_, hname⟩⟩
        cases l
        simpa using hnames
      | deeper hentry hinside =>
        refine ⟨_, hentry, ?_⟩
        rw [found_directory, ih _ _ hentry]
        exact ⟨_, by simpa using hnames, innermost, leaf, hinside, hleaf, hnode, hname⟩

theorem mem_locations {entries : Entries} {l : Location} :
    l ∈ locations [] (.directory entries) ↔ l.IsBelow entries := by
  rw [locations, locationsAmong_eq_flatMap, mem_flatMap_found]
  simp

/-- The path to what is found through an entry leads through that entry. -/
theorem prefix_of_mem_found {directory : List Text} {entry : Text × FileNode} {l : Location}
    (h : l ∈ found directory entry) : directory ++ [entry.1] <+: l.names := by
  obtain ⟨name, node⟩ := entry
  by_cases hnode : node.isDirectory = true
  · cases node with
    | directory inner =>
      rw [found_directory, mem_flatMap_found] at h
      obtain ⟨names, hnames, -⟩ := h
      rw [Location.names, hnames, List.append_assoc]
      exact List.prefix_append ..
    | _ => cases hnode
  · obtain ⟨rfl, -⟩ := (mem_found_leaf (Bool.not_eq_true _ ▸ hnode)).mp h
    exact List.prefix_rfl

theorem nodup_flatMap_found {entries : Entries} (hdistinct : Distinct entries)
    (directory : List Text) : (entries.flatMap (found directory)).Nodup := by
  induction entries using entries_induction generalizing directory with
  | step entries ih =>
    refine List.nodup_flatMap.mpr ⟨fun ⟨name, node⟩ hentry => ?_, ?_⟩
    · by_cases hnode : node.isDirectory = true
      · cases node with
        | directory inner =>
          rw [found_directory]
          exact ih name inner hentry (hdistinct.inner hentry) _
        | _ => cases hnode
      · rw [found, if_neg hnode]
        split_ifs
        · exact List.nodup_singleton _
        · exact List.nodup_nil
    · refine (List.pairwise_map.mp hdistinct.here).imp fun {a b} hne l ha hb => hne ?_
      have hprefix : directory ++ [a.1] <+: directory ++ [b.1] :=
        List.prefix_of_prefix_length_le (prefix_of_mem_found ha) (prefix_of_mem_found hb) (by simp)
      simpa using hprefix.eq_of_length (by simp)

theorem nodup_locations {entries : Entries} (hdistinct : Distinct entries) :
    (locations [] (.directory entries)).Nodup := by
  rw [locations, locationsAmong_eq_flatMap]
  exact nodup_flatMap_found hdistinct []

theorem perm_flatMap_found {entries entries' : Entries} (h : Relisted entries entries')
    (directory : List Text) :
    (entries.flatMap (found directory)).Perm (entries'.flatMap (found directory)) := by
  induction h generalizing directory with
  | refl => exact .refl _
  | swap a b entries => exact (List.Perm.swap b a entries).flatMap_right _
  | skip a _ ih => exact (ih directory).append_left _
  | inside name entries _ ih =>
    simp only [List.flatMap_cons, found_directory]
    exact (ih _).append_right _
  | trans _ _ ih ih' => exact (ih directory).trans (ih' directory)

/-- In whatever order directories list their entries, the same documents are found. -/
theorem perm_locations {entries entries' : Entries} (h : Relisted entries entries') :
    (locations [] (.directory entries)).Perm (locations [] (.directory entries')) := by
  simp only [locations, locationsAmong_eq_flatMap]
  exact perm_flatMap_found h []

/-! ## A work-list -/

def directoriesIn (names : List Text) : Entries → List (List Text × Entries)
  | [] => []
  | (name, .directory inner) :: entries => (names ++ [name], inner) :: directoriesIn names entries
  | _ :: entries => directoriesIn names entries

def documentsIn (names : List Text) (entries : Entries) : List Location :=
  (entries.filter fun entry => !entry.2.isDirectory && isTestName entry.1).map fun entry =>
    ⟨names, entry.1⟩

theorem sum_sizeOf_directoriesIn (names : List Text) (entries : Entries) :
    ((directoriesIn names entries).map fun d => sizeOf d.2).sum < sizeOf entries := by
  induction entries with
  | nil => simp [directoriesIn]
  | cons entry entries ih =>
    obtain ⟨name, node⟩ := entry
    cases node with
    | directory inner =>
      simp only [directoriesIn, List.map_cons, List.sum_cons, List.cons.sizeOf_spec,
        Prod.mk.sizeOf_spec, FileNode.directory.sizeOf_spec]
      omega
    | _ =>
      simp only [directoriesIn, List.cons.sizeOf_spec]
      omega

/-- Directories are searched one after another: those found inside one wait on top of the others. -/
def search : List (List Text × Entries) → List Location
  | [] => []
  | (names, entries) :: waiting =>
    documentsIn names entries ++ search ((directoriesIn names entries).reverse ++ waiting)
termination_by waiting => (waiting.map fun d => sizeOf d.2).sum
decreasing_by
  have hlt := sum_sizeOf_directoriesIn names entries
  simp only [List.map_append, List.map_reverse, List.sum_append, List.sum_reverse, List.map_cons,
    List.sum_cons]
  omega

theorem documentsIn_cons_leaf (names : List Text) {name : Text} {node : FileNode}
    (hnode : node.isDirectory = false) (entries : Entries) :
    documentsIn names ((name, node) :: entries)
      = found names (name, node) ++ documentsIn names entries := by
  by_cases hname : isTestName name = true <;> simp [documentsIn, found, hnode, hname]

theorem perm_documentsIn_append (names : List Text) (entries : Entries) :
    (documentsIn names entries
      ++ (directoriesIn names entries).flatMap fun d => d.2.flatMap (found d.1)).Perm
        (entries.flatMap (found names)) := by
  induction entries with
  | nil => exact .refl _
  | cons entry entries ih =>
    obtain ⟨name, node⟩ := entry
    rw [List.flatMap_cons]
    cases node with
    | directory inner =>
      have hdocuments : documentsIn names ((name, .directory inner) :: entries) =
          documentsIn names entries := rfl
      rw [hdocuments, found_directory, directoriesIn, List.flatMap_cons]
      exact (List.perm_append_comm_assoc ..).trans (ih.append_left _)
    | _ =>
      rw [documentsIn_cons_leaf names rfl, directoriesIn, List.append_assoc]
      · exact ih.append_left _
      · exact nofun

theorem perm_search (waiting : List (List Text × Entries)) :
    (search waiting).Perm (waiting.flatMap fun d => d.2.flatMap (found d.1)) := by
  fun_induction search waiting with
  | case1 => exact .refl _
  | case2 names entries waiting ih =>
    have hinside := perm_documentsIn_append names entries
    have hreverse := (List.reverse_perm (directoriesIn names entries)).flatMap_right
      fun d => d.2.flatMap (found d.1)
    rw [List.flatMap_append] at ih
    rw [List.flatMap_cons]
    refine (ih.append_left _).trans (((hreverse.append_right _).append_left _).trans ?_)
    rw [← List.append_assoc]
    exact hinside.append_right _

end Snippetry.TestDocument
