import Mathlib.Data.List.Perm.Basic
import Snippetry.Proofs.Table

/-! # Files: directories inside each other, and the order in which they list what is in them -/
namespace Snippetry
namespace FileNode

abbrev Entries := List (Text × FileNode)

/-- What holds of a directory if it holds of all the directories in it holds of every directory. -/
theorem entries_induction {P : Entries → Prop}
    (step : ∀ entries : Entries,
      (∀ name inner, (name, directory inner) ∈ entries → P inner) → P entries)
    (entries : Entries) : P entries :=
  step entries fun name inner h =>
    have : sizeOf inner < sizeOf entries := by
      have hlt := List.sizeOf_lt_of_mem h
      simp only [Prod.mk.sizeOf_spec, directory.sizeOf_spec] at hlt
      omega
    entries_induction step inner
termination_by sizeOf entries

/-- A directory that the names lead to from another. -/
inductive Inside : Entries → List Text → Entries → Prop
  | here (entries : Entries) : Inside entries [] entries
  | deeper {entries inner innermost : Entries} {name : Text} {names : List Text}
      (hentry : (name, directory inner) ∈ entries) (h : Inside inner names innermost) :
      Inside entries (name :: names) innermost

def Throughout (p : Entries → Prop) (entries : Entries) : Prop :=
  ∀ names inner, Inside entries names inner → p inner

namespace Throughout

variable {p : Entries → Prop} {entries : Entries}

theorem here (h : Throughout p entries) : p entries := h [] entries (.here entries)

theorem inner {inner : Entries} {name : Text} (h : Throughout p entries)
    (hentry : (name, directory inner) ∈ entries) : Throughout p inner :=
  fun names innermost hinside => h (name :: names) innermost (.deeper hentry hinside)

theorem intro (hentries : p entries)
    (hinner : ∀ name inner, (name, directory inner) ∈ entries → Throughout p inner) :
    Throughout p entries := by
  intro names innermost hinside
  cases hinside with
  | here => exact hentries
  | deeper hentry hinside => exact hinner _ _ hentry _ innermost hinside

/-- What holds of all names in the directories holds of those that lead to one. -/
theorem names {p : Text → Prop} {innermost : Entries} {names : List Text}
    (h : Throughout (fun inner => ∀ entry ∈ inner, p entry.1) entries)
    (hinside : Inside entries names innermost) : ∀ name ∈ names, p name := by
  induction hinside with
  | here => simp
  | deeper hentry hinside ih =>
    exact List.forall_mem_cons.mpr ⟨h.here _ hentry, ih (h.inner hentry)⟩

end Throughout

def Distinct (entries : Entries) : Prop :=
  Throughout (fun inner => (inner.map Prod.fst).Nodup) entries

theorem Distinct.entries_of_mem {entries : Entries} (h : Distinct entries) {name : Text}
    {node : FileNode} (hmem : (name, node) ∈ entries) : Distinct node.entries := by
  cases node with
  | directory inner => exact h.inner hmem
  | file | device | program => exact .intro List.nodup_nil fun _ _ hentry => by cases hentry

/-- The same directory but for the order of the entries, also in the directories in it. -/
inductive Relisted : Entries → Entries → Prop
  | refl (entries : Entries) : Relisted entries entries
  | swap (a b : Text × FileNode) (entries : Entries) :
      Relisted (a :: b :: entries) (b :: a :: entries)
  | skip (a : Text × FileNode) {entries entries' : Entries} (h : Relisted entries entries') :
      Relisted (a :: entries) (a :: entries')
  | inside (name : Text) (entries : Entries) {inner inner' : Entries} (h : Relisted inner inner') :
      Relisted ((name, directory inner) :: entries) ((name, directory inner') :: entries)
  | trans {a b c : Entries} (h : Relisted a b) (h' : Relisted b c) : Relisted a c

/-- The same file, or the same directory but for the order of the entries. -/
inductive Same : FileNode → FileNode → Prop
  | refl (node : FileNode) : Same node node
  | directory {entries entries' : Entries} (h : Relisted entries entries') :
      Same (directory entries) (directory entries')

namespace Same

theorem isDirectory_eq {a b : FileNode} (h : Same a b) : a.isDirectory = b.isDirectory := by
  cases h <;> rfl

theorem relisted_entries {a b : FileNode} (h : Same a b) : Relisted a.entries b.entries := by
  cases h with
  | refl node => exact .refl _
  | directory h => exact h

theorem trans {a b c : FileNode} (h : Same a b) (h' : Same b c) : Same a c := by
  cases h with
  | refl => exact h'
  | directory h =>
    cases h' with
    | refl => exact .directory h
    | directory h' => exact .directory (h.trans h')

end Same

namespace Relisted

theorem perm_names {entries entries' : Entries} (h : Relisted entries entries') :
    (entries.map Prod.fst).Perm (entries'.map Prod.fst) := by
  induction h with
  | refl => exact .refl _
  | swap a b entries => exact .swap ..
  | skip a _ ih => exact ih.cons a.1
  | inside name entries _ _ => exact .refl _
  | trans _ _ ih ih' => exact ih.trans ih'

theorem lookup_eq_none {entries entries' : Entries} (h : Relisted entries entries') {name : Text}
    (hnone : entries.lookup name = none) : entries'.lookup name = none := by
  refine List.lookup_eq_none_iff.mpr fun e he => bne_iff_ne.mpr fun heq => ?_
  have hname : name ∈ entries.map Prod.fst :=
    h.perm_names.symm.subset (heq ▸ List.mem_map_of_mem he)
  obtain ⟨e', he', rfl⟩ := List.mem_map.mp hname
  simpa using List.lookup_eq_none_iff.mp hnone e' he'

/-- What has a name in a directory is the same in every order. -/
theorem lookup_eq_some {entries entries' : Entries} (h : Relisted entries entries')
    (hnodup : (entries.map Prod.fst).Nodup) {name : Text} {node : FileNode}
    (hsome : entries.lookup name = some node) :
    ∃ node', entries'.lookup name = some node' ∧ Same node node' := by
  induction h generalizing node with
  | refl entries => exact ⟨node, hsome, .refl node⟩
  | swap a b entries =>
    refine ⟨node, ?_, .refl node⟩
    have hne : a.1 ≠ b.1 := by
      intro heq
      simp [heq] at hnodup
    grind [Text.lookup_cons]
  | skip a h ih =>
    rw [Text.lookup_cons] at hsome ⊢
    split_ifs at hsome ⊢ with hname
    · exact ⟨node, hsome, .refl node⟩
    · exact ih (List.nodup_cons.mp hnodup).2 hsome
  | inside key entries h =>
    rw [Text.lookup_cons] at hsome ⊢
    split_ifs at hsome ⊢ with hname
    · exact ⟨_, rfl, Option.some.inj hsome ▸ .directory h⟩
    · exact ⟨node, hsome, .refl node⟩
  | trans h h' ih ih' =>
    obtain ⟨between, hbetween, hsame⟩ := ih hnodup hsome
    obtain ⟨node', hnode', hsame'⟩ := ih' (h.perm_names.nodup hnodup) hbetween
    exact ⟨node', hnode', hsame.trans hsame'⟩

end Relisted
end FileNode

namespace Files

open FileNode

inductive SameFound : Except FileError FileNode → Except FileError FileNode → Prop
  | error (e : FileError) : SameFound (.error e) (.error e)
  | ok {node node' : FileNode} (h : Same node node') : SameFound (.ok node) (.ok node')

def DistinctAlong (node : FileNode) (ancestors : List FileNode) : Prop :=
  ∀ n ∈ node :: ancestors, Distinct n.entries

theorem DistinctAlong.child {node child : FileNode} {ancestors : List FileNode} {name : Text}
    (h : DistinctAlong node ancestors) (hlookup : node.entries.lookup name = some child) :
    DistinctAlong child (node :: ancestors) :=
  List.forall_mem_cons.mpr
    ⟨(h node List.mem_cons_self).entries_of_mem (Text.mem_of_lookup hlookup), h⟩

theorem SameFound.eq_of_leaf {node : FileNode} {found : Except FileError FileNode}
    (h : SameFound (.ok node) found) (hnode : node.isDirectory = false) : found = .ok node := by
  cases h with
  | ok h =>
    cases h with
    | refl => rfl
    | directory => cases hnode

theorem walk_same {node node' : FileNode} {ancestors ancestors' : List FileNode}
    (hnode : Same node node') (hancestors : ancestors.Forall₂ Same ancestors')
    (hdistinct : DistinctAlong node ancestors) (names : List Text) :
    SameFound (walk node ancestors names) (walk node' ancestors' names) := by
  induction names generalizing node node' ancestors ancestors' with
  | nil => exact .ok hnode
  | cons name names ih =>
    have hentries := hnode.relisted_entries
    have hnames := (hdistinct node List.mem_cons_self).here
    simp only [walk, ← hnode.isDirectory_eq]
    split_ifs with hdirectory hhere hparent hlong
    · exact .error _
    · exact ih hnode hancestors hdistinct
    · cases hancestors with
      | nil => exact ih hnode .nil hdistinct
      | cons hparent hrest => exact ih hparent hrest fun n hn => hdistinct n (.tail _ hn)
    · exact .error _
    · cases hlookup : node.entries.lookup name with
      | none =>
        rw [hentries.lookup_eq_none hlookup]
        exact .error _
      | some child =>
        obtain ⟨child', hlookup', hchild⟩ := hentries.lookup_eq_some hnames hlookup
        rw [hlookup']
        exact ih hchild (.cons hnode hancestors) (hdistinct.child hlookup)

theorem distinct_of_walk {node found : FileNode} {ancestors : List FileNode}
    (hdistinct : DistinctAlong node ancestors) {names : List Text}
    (h : walk node ancestors names = .ok found) : Distinct found.entries := by
  induction names generalizing node ancestors with
  | nil => exact Except.ok.inj h ▸ hdistinct node List.mem_cons_self
  | cons name names ih =>
    simp only [walk] at h
    split_ifs at h with hdirectory hhere hparent hlong
    · exact ih hdistinct h
    · cases ancestors with
      | nil => exact ih hdistinct h
      | cons parent rest => exact ih (fun n hn => hdistinct n (.tail _ hn)) h
    · cases hlookup : node.entries.lookup name with
      | none =>
        rw [hlookup] at h
        cases h
      | some child =>
        rw [hlookup] at h
        exact ih (hdistinct.child hlookup) h

/-! ## Following a path further -/

/-- Where names lead, further names lead on. -/
theorem walk_append (node : FileNode) (ancestors : List FileNode) (names : List Text) :
    ∃ ancestors', ∀ further, walk node ancestors (names ++ further)
      = (walk node ancestors names).bind fun found => walk found ancestors' further := by
  induction names generalizing node ancestors with
  | nil => exact ⟨ancestors, fun further => rfl⟩
  | cons name names ih =>
    simp only [List.cons_append, walk]
    split_ifs
    · exact ⟨ancestors, fun further => rfl⟩
    · exact ih node ancestors
    · cases ancestors with
      | nil => exact ih node []
      | cons parent ancestors => exact ih parent ancestors
    · exact ⟨ancestors, fun further => rfl⟩
    · cases node.entries.lookup name with
      | none => exact ⟨ancestors, fun further => rfl⟩
      | some child => exact ih child (node :: ancestors)

def start (files : Files) (path : Text) : List Text :=
  if path.head? = some '/' then [] else files.here

theorem node?_eq_walk {files : Files} {path : Text} (hnul : '\x00' ∉ path) (hne : path ≠ [])
    (hsize : path.size ≤ longestPath) :
    files.node? path = walk files.root [] (files.start path ++ Text.splitOn '/' path) := by
  rw [node?, if_neg hnul, if_neg hne, if_neg hsize.not_gt, start]
  split_ifs <;> rfl

theorem walk_of_node? {files : Files} {path : Text} {node : FileNode}
    (h : files.node? path = .ok node) : '\x00' ∉ path ∧ path ≠ []
      ∧ walk files.root [] (files.start path ++ Text.splitOn '/' path) = .ok node := by
  have hconditions : '\x00' ∉ path ∧ path ≠ [] ∧ path.size ≤ longestPath := by
    unfold node? at h
    split_ifs at h with hnul hne hsize <;> exact ⟨hnul, hne, not_lt.mp hsize⟩
  obtain ⟨hnul, hne, hsize⟩ := hconditions
  exact ⟨hnul, hne, node?_eq_walk hnul hne hsize ▸ h⟩

/-- A name that leads to an entry of a directory, and nowhere else. -/
structure IsEntryName (name : Text) : Prop where
  nonempty : name ≠ []
  here : name ≠ ['.']
  parent : name ≠ ['.', '.']
  slash : '/' ∉ name
  nul : '\x00' ∉ name
  short : name.size ≤ longestName

theorem walk_entry {entries : Entries} (hdistinct : Distinct entries) {name : Text}
    (hname : IsEntryName name) {node : FileNode} (h : (name, node) ∈ entries)
    (ancestors : List FileNode) (names : List Text) :
    walk (.directory entries) ancestors (name :: names)
      = walk node (.directory entries :: ancestors) names := by
  have hlookup : (FileNode.directory entries).entries.lookup name = some node :=
    Text.lookup_of_mem hdistinct.here h
  simp [walk, FileNode.isDirectory, hname.nonempty, hname.here, hname.parent, hname.short.not_gt,
    hlookup]

/-- The names of an entry below a directory lead to it. -/
theorem walk_inside {entries inner : Entries} {names : List Text}
    (hinside : Inside entries names inner) (hdistinct : Distinct entries)
    (hnames : ∀ name ∈ names, IsEntryName name) {name : Text} (hname : IsEntryName name)
    {node : FileNode} (h : (name, node) ∈ inner) (ancestors : List FileNode) :
    walk (.directory entries) ancestors (names ++ [name]) = .ok node := by
  induction hinside generalizing ancestors with
  | here => exact walk_entry hdistinct hname h ancestors []
  | deeper hentry _ ih =>
    obtain ⟨hfirst, hrest⟩ := List.forall_mem_cons.mp hnames
    rw [List.cons_append, walk_entry hdistinct hfirst hentry]
    exact ih (hdistinct.inner hentry) hrest h _

/-! ## Other orders -/

/-- The same files, whatever the order in which directories list them. -/
structure Relisted (files files' : Files) : Prop where
  here : files.here = files'.here
  root : Same files.root files'.root

theorem Relisted.refl (files : Files) : files.Relisted files := ⟨rfl, .refl _⟩

variable {files files' : Files}

theorem distinctAlong_root (hdistinct : Distinct files.root.entries) :
    DistinctAlong files.root [] := by
  simpa [DistinctAlong] using hdistinct

theorem distinct_of_node? (hdistinct : Distinct files.root.entries) {path : Text} {node : FileNode}
    (h : files.node? path = .ok node) : Distinct node.entries := by
  unfold node? at h
  split_ifs at h <;> exact distinct_of_walk (distinctAlong_root hdistinct) h

namespace Relisted

theorem node?_same (h : files.Relisted files') (hdistinct : Distinct files.root.entries)
    (path : Text) : SameFound (files.node? path) (files'.node? path) := by
  unfold node?
  rw [← h.here]
  split_ifs
  · exact .error _
  · exact .error _
  · exact .error _
  all_goals exact walk_same h.root .nil (distinctAlong_root hdistinct) _

theorem isFile_eq (h : files.Relisted files') (hdistinct : Distinct files.root.entries)
    (path : Text) : files'.isFile path = files.isFile path := by
  have hsame := h.node?_same hdistinct path
  unfold isFile isAt
  generalize files.node? path = found, files'.node? path = found' at hsame
  cases hsame with
  | error => rfl
  | ok hnode => cases hnode <;> rfl

/-- What is read does not depend on the order of entries. -/
theorem read_eq (h : files.Relisted files') (hdistinct : Distinct files.root.entries)
    (path : Text) : files'.read path = files.read path := by
  have hsame := h.node?_same hdistinct path
  unfold read readBytes
  generalize files.node? path = found, files'.node? path = found' at hsame
  cases hsame with
  | error => rfl
  | ok hnode => cases hnode <;> rfl

end Relisted
end Files
end Snippetry
