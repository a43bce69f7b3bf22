import Snippetry.Proofs.CommandLine.Test

/-! # Titles: what a category selects if it is asked for as it is listed

A suite is listed by its title, and the suites of a category are found by their names. For the
documents of a directory below the one that is searched, the two are the same. The documents in that
directory itself have a title, but no name: what is asked for with their title is a directory that is
called so. -/
namespace Snippetry

namespace TestDocument

open FileNode

/-- The names of all entries lead to them, also in the directories inside. -/
def Reachable (entries : Entries) : Prop :=
  Throughout (fun inner => ∀ entry ∈ inner, Files.IsEntryName entry.1) entries

/-! ## The segments of a category -/

/-- The names that lead to a document, and each of them in parts if there are backslashes in it. -/
def Location.segments (l : Location) : List Text := l.directory.flatMap (Text.splitOn '\\')

def Suite.segments (s : Suite) : List Text :=
  if s.name = [] then [] else Text.splitOn '/' s.name

section Segments

variable {entries : Entries} {l : Location} {s : Suite}

theorem splitOn_slashed {t : Text} (h : '/' ∉ t) :
    Text.splitOn '/' (t.map fun c => if c = '\\' then '/' else c) = Text.splitOn '\\' t := by
  induction t with
  | nil => rfl
  | cons c t ih =>
    obtain ⟨hne, ht⟩ := not_or.mp (mt List.mem_cons.mpr h)
    rw [List.map_cons, Text.splitOn, Text.splitOn, ih ht]
    by_cases hc : c = '\\'
    · simp [hc]
    · simp [hc, Ne.symm hne]

theorem splitOn_join_slashed {names : List Text} (hne : names ≠ []) (h : ∀ name ∈ names, '/' ∉ name) :
    Text.splitOn '/' ((Text.join ['/'] names).map fun c => if c = '\\' then '/' else c)
      = names.flatMap (Text.splitOn '\\') := by
  induction names with
  | nil => exact absurd rfl hne
  | cons name names ih =>
    obtain ⟨hname, hnames⟩ := List.forall_mem_cons.mp h
    cases names with
    | nil =>
      rw [Text.join, List.intercalate_singleton, splitOn_slashed hname]
      simp
    | cons next names =>
      have hrest := ih (List.cons_ne_nil next names) hnames
      rw [Text.join] at hrest ⊢
      rw [List.intercalate_cons_cons, List.flatMap_cons, ← hrest, ← splitOn_slashed hname,
        ← Text.splitOn_append_cons]
      simp

namespace Location

theorem segments_eq_nil_iff : l.segments = [] ↔ l.directory = [] := by
  constructor
  · intro h
    by_contra hne
    obtain ⟨name, names, hdirectory⟩ := List.exists_cons_of_ne_nil hne
    have hall : ∀ name ∈ l.directory, Text.splitOn '\\' name = [] := List.flatMap_eq_nil_iff.mp h
    exact Text.splitOn_ne_nil '\\' name (hall name (hdirectory ▸ List.mem_cons_self))
  · intro h
    rw [segments, h, List.flatMap_nil]

theorem category_ne_nil (h : ∀ name ∈ l.directory, name ≠ []) (hne : l.directory ≠ []) :
    l.category ≠ [] := by
  obtain ⟨name, names, hdirectory⟩ := List.exists_cons_of_ne_nil hne
  have hname : name ≠ [] := h name (hdirectory ▸ List.mem_cons_self)
  rw [category, hdirectory]
  cases names with
  | nil => simpa [Text.join] using hname
  | cons next names => simp [Text.join]

/-- A suite has the segments of the documents whose category is its name. -/
theorem segments_of_category (h : ∀ name ∈ l.directory, Files.IsEntryName name)
    (hname : l.category = s.name) : l.segments = s.segments := by
  by_cases hempty : l.directory = []
  · have hcategory : l.category = [] := by simp [category, hempty, Text.join]
    rw [segments_eq_nil_iff.mpr hempty, Suite.segments, if_pos (hname ▸ hcategory)]
  · have hne : s.name ≠ [] := hname ▸ category_ne_nil (fun name hmem => (h name hmem).nonempty) hempty
    rw [Suite.segments, if_neg hne, ← hname]
    exact (splitOn_join_slashed hempty fun name hmem => (h name hmem).slash).symm

theorem category_eq_join (h : ∀ name ∈ l.directory, Files.IsEntryName name) :
    l.category = Text.join ['/'] l.segments := by
  by_cases hempty : l.directory = []
  · rw [segments_eq_nil_iff.mpr hempty]
    simp [category, hempty, Text.join]
  · have hsplit := splitOn_join_slashed hempty fun name hmem => (h name hmem).slash
    rw [segments, ← hsplit, Text.join_splitOn]
    rfl

end Location

theorem Suite.name_eq_join (s : Suite) : s.name = Text.join ['/'] s.segments := by
  unfold segments
  split_ifs with h
  · rw [h]
    rfl
  · rw [Text.join_splitOn]

/-- The documents of a suite are those in directories with its segments. -/
theorem mem_documents_iff_segments
    (hnamed : Reachable entries)
    (hs : s ∈ findSuites (.directory entries)) :
    l ∈ s.documents ↔ l.IsBelow entries ∧ l.segments = s.segments := by
  rw [mem_documents hs]
  refine and_congr_right fun hbelow => ?_
  have hnames : ∀ name ∈ l.directory, Files.IsEntryName name := by
    obtain ⟨inner, node, hinside, -⟩ := hbelow
    exact Throughout.names hnamed hinside
  constructor
  · exact Location.segments_of_category hnames
  · intro hsegments
    rw [Location.category_eq_join hnames, hsegments, ← s.name_eq_join]

end Segments

/-! ## What is selected -/

section Selection

variable {category core : Text} {suites : List Suite} {s t : Suite}

namespace Suite

/-- What is left of a category without the slashes around it begins the segments of its suites. -/
theorem belongsTo_iff_segments (hcore : Text.Core '/' category core) (hne : core ≠ []) :
    t.belongsTo category = true ↔ Text.splitOn '/' core <+: t.segments := by
  rw [belongsTo_iff, segments]
  constructor
  · rintro ⟨core', hcore', hcovers⟩
    obtain rfl : core' = core := (trimSlashes_eq hcore').symm.trans (trimSlashes_eq hcore)
    rcases hcovers with rfl | ⟨-, hstarts, hdiffer⟩
    · rw [if_neg hne]
    · have hname : t.name ≠ [] := by
        intro hempty
        rw [hempty, Text.splitOn] at hstarts hdiffer
        rcases List.prefix_cons_iff.mp hstarts with hnil | ⟨rest, hrest, hnil⟩
        · exact Text.splitOn_ne_nil '/' core' hnil
        · exact hdiffer (by rw [hrest, List.prefix_nil.mp hnil])
      rwa [if_neg hname]
  · intro hstarts
    refine ⟨core, hcore, ?_⟩
    by_cases hname : t.name = []
    · rw [if_pos hname, List.prefix_nil] at hstarts
      exact absurd hstarts (Text.splitOn_ne_nil '/' core)
    · rw [if_neg hname] at hstarts
      by_cases heq : Text.splitOn '/' core = Text.splitOn '/' t.name
      · exact .inl (Text.splitOn_injective '/' heq)
      · exact .inr ⟨hne, hstarts, heq⟩

theorem not_belongsTo_of_slashes (hcore : Text.Core '/' category []) (hne : t.name ≠ []) :
    t.belongsTo category = false := by
  rw [Bool.eq_false_iff, Ne, belongsTo_iff]
  rintro ⟨core, hcore', hcovers⟩
  obtain rfl : core = [] := (trimSlashes_eq hcore').symm.trans (trimSlashes_eq hcore)
  rcases hcovers with hname | ⟨hempty, -⟩
  · exact hne hname.symm
  · exact hempty rfl

/-- A suite belongs to its own name unless that begins with a slash. -/
theorem belongsTo_name_iff (hne : s.name ≠ []) :
    s.belongsTo s.name = true ↔ s.name.head? ≠ some '/' := by
  obtain ⟨core, hcore⟩ : ∃ core, Text.Core '/' s.name core := ⟨_, core_trimSlashes s.name⟩
  obtain ⟨m, n, haround⟩ := hcore.around
  by_cases hempty : core = []
  · subst hempty
    have hslashes : s.name = List.replicate (m + n) '/' := by
      rw [haround, List.append_nil, List.replicate_append_replicate]
    have hpos : m + n ≠ 0 := by
      intro hzero
      exact hne (by rw [hslashes, hzero, List.replicate_zero])
    have hhead : s.name.head? = some '/' := by rw [hslashes, List.head?_replicate, if_neg hpos]
    simp [not_belongsTo_of_slashes hcore hne, hhead]
  · have hsegments : s.segments = Text.splitOn '/' s.name := if_neg hne
    rw [belongsTo_iff_segments hcore hempty, hsegments]
    constructor
    · rintro ⟨rest, hrest⟩ hhead
      have hfirst : (Text.splitOn '/' s.name).head? = some [] := (Text.head?_splitOn hne).mpr hhead
      rw [← hrest, List.head?_append_of_ne_nil _ (Text.splitOn_ne_nil '/' core),
        Text.head?_splitOn hempty] at hfirst
      exact hcore.first hfirst
    · intro hhead
      have hm : m = 0 := by
        by_contra hpos
        rw [haround, List.append_assoc, List.head?_append, List.head?_replicate, if_neg hpos] at hhead
        exact hhead rfl
      rw [hm, List.replicate_zero, List.nil_append] at haround
      rw [haround]
      cases n with
      | zero => simp
      | succ n =>
        rw [List.replicate_succ, Text.splitOn_append_cons]
        exact List.prefix_append ..

end Suite

theorem selectSuites_of_core (hcore : Text.Core '/' category core) (hne : core ≠ [])
    (suites : List Suite) : selectSuites [category] suites
      = suites.filter fun t => Text.splitOn '/' core <+: t.segments := by
  rw [selectSuites, if_neg (List.cons_ne_nil category [])]
  refine List.filter_congr fun t _ => ?_
  rw [Bool.eq_iff_iff, decide_eq_true_iff, ← Suite.belongsTo_iff_segments hcore hne]
  simp

theorem unknownCategories_eq_nil_iff :
    unknownCategories [category] suites = [] ↔ ∃ t ∈ suites, t.belongsTo category = true := by
  simp [unknownCategories]

/-- The title of a suite with a name selects it and those below it, as long as the name neither begins
nor ends with a slash; if it ends with one, the suite is still among those selected. -/
theorem select_title_of_name (hs : s ∈ suites) (hne : s.segments ≠ []) :
    s.title = Text.join ['/'] s.segments
      ∧ (s ∈ selectSuites [s.title] suites ↔ s.segments.head? ≠ some [])
      ∧ (s.segments.head? ≠ some [] → unknownCategories [s.title] suites = [])
      ∧ (s.segments.head? ≠ some [] → s.segments.getLast? ≠ some [] →
          selectSuites [s.title] suites = suites.filter fun t => s.segments <+: t.segments) := by
  have hname : s.name ≠ [] := by
    intro hempty
    exact hne (if_pos hempty)
  have htitle : s.title = s.name := if_neg hname
  have hsegments : s.segments = Text.splitOn '/' s.name := if_neg hname
  have hbelongs : s.belongsTo s.name = true ↔ s.segments.head? ≠ some [] := by
    rw [Suite.belongsTo_name_iff hname, hsegments, ne_eq, ne_eq, Text.head?_splitOn hname]
  rw [htitle]
  refine ⟨s.name_eq_join, ?selected, ?known, ?exactly⟩
  case selected =>
    rw [← hbelongs, selectSuites, if_neg (List.cons_ne_nil s.name [])]
    simp [hs]
  case known =>
    intro hhead
    exact unknownCategories_eq_nil_iff.mpr ⟨s, hs, hbelongs.mpr hhead⟩
  case exactly =>
    intro hhead hlast
    have hcore : Text.Core '/' s.name s.name := by
      refine ⟨⟨0, 0, by simp⟩, ?_, ?_⟩
      · exact (Suite.belongsTo_name_iff hname).mp (hbelongs.mpr hhead)
      · intro hslash
        exact hlast (hsegments ▸ Text.getLast?_splitOn hslash)
    rw [hsegments]
    exact selectSuites_of_core hcore hname suites

/-- The title of the suite without a name selects what is in and below a directory that is called so. -/
theorem select_title_of_root (suites : List Suite) (hroot : s.segments = []) :
    s.title = "(root)" ∧ s ∉ selectSuites [s.title] suites
      ∧ selectSuites [s.title] suites = suites.filter (fun t => [("(root)" : Text)] <+: t.segments)
      ∧ (unknownCategories [s.title] suites = []
          ↔ ∃ t ∈ suites, [("(root)" : Text)] <+: t.segments) := by
  have hname : s.name = [] := by
    rw [s.name_eq_join, hroot]
    rfl
  have htitle : s.title = "(root)" := if_pos hname
  have hcore : Text.Core '/' "(root)" "(root)" := ⟨⟨0, 0, rfl⟩, by decide, by decide⟩
  have hselected : selectSuites ["(root)"] suites
      = suites.filter fun t => [("(root)" : Text)] <+: t.segments :=
    selectSuites_of_core hcore (by decide) suites
  rw [htitle, unknownCategories_eq_nil_iff]
  refine ⟨rfl, ?_, hselected, ?_⟩
  · rw [hselected, List.mem_filter, hroot]
    simp
  · simp only [Suite.belongsTo_iff_segments hcore (by decide)]
    rfl

end Selection
end TestDocument

namespace CommandLine

open FileNode TestDocument

/-- Below a directory every suite is listed by its title. Asked for by that title, the documents of a
directory inside are selected with all that is below, as long as no backslash stands first or last in
the names that lead there; a directory behind a name that begins with one is never selected so, and
neither are the documents of the directory itself. -/
theorem select_listed {files : Files} {path : Text} {entries : Entries} {s : Suite}
    (hpath : files.node? path = .ok (.directory entries))
    (hnamed : Reachable entries)
    (hs : s ∈ findSuites (.directory entries)) :
    listCategories files path = (findSuites (.directory entries)).map categoryLine
      ∧ (∀ l, l ∈ s.documents ↔ l.IsBelow entries ∧ l.segments = s.segments)
      ∧ (s.segments ≠ [] → s.title = Text.join ['/'] s.segments
          ∧ (s ∈ selectSuites [s.title] (findSuites (.directory entries))
              ↔ s.segments.head? ≠ some [])
          ∧ (s.segments.head? ≠ some [] →
              unknownCategories [s.title] (findSuites (.directory entries)) = [])
          ∧ (s.segments.head? ≠ some [] → s.segments.getLast? ≠ some [] →
              selectSuites [s.title] (findSuites (.directory entries))
                = (findSuites (.directory entries)).filter fun t => s.segments <+: t.segments))
      ∧ (s.segments = [] → s.title = "(root)"
          ∧ s ∉ selectSuites [s.title] (findSuites (.directory entries))
          ∧ selectSuites [s.title] (findSuites (.directory entries))
            = (findSuites (.directory entries)).filter (fun t => [("(root)" : Text)] <+: t.segments)
          ∧ (unknownCategories [s.title] (findSuites (.directory entries)) = []
              ↔ ∃ t ∈ findSuites (.directory entries), [("(root)" : Text)] <+: t.segments)) := by
  have hlisted : listCategories files path = (findSuites (.directory entries)).map categoryLine := by
    have hfile : files.isFile path = false := by rw [Files.isFile, Files.isAt, hpath]; rfl
    have hsuites : suitesAt files path = (findSuites (.directory entries), []) := by
      rw [suitesAt, hpath]
    rw [listCategories, if_neg (hfile ▸ Bool.false_ne_true), hsuites]
    exact if_neg (List.ne_nil_of_mem hs)
  refine ⟨hlisted, fun l => mem_documents_iff_segments hnamed hs, ?_, ?_⟩
  · exact select_title_of_name hs
  · exact select_title_of_root _

/-- With a category comes what is below it, but not another whose name only begins like its own. -/
theorem select_listed_shelf :
    shelf.node? "tests/" = .ok (.directory shelfEntries)
      ∧ Reachable shelfEntries
      ∧ ∃ s ∈ findSuites (.directory shelfEntries), s.title = "include"
        ∧ (selectSuites ["include"] (findSuites (.directory shelfEntries))).map Suite.title
          = ["include", "include/deep"] := by
  have hpath : shelf.node? "tests/" = .ok (.directory shelfEntries) := by rfl
  have hnamed : Named shelfEntries :=
    throughout_shelf (by decide) (by decide) (by decide) (by decide)
  have hentries : Reachable shelfEntries := fun names inner hinside entry hentry =>
    (hnamed names inner hinside entry hentry).toIsEntryName
  have hs : ⟨"include", [⟨["include"], "a.test.md"⟩, ⟨["include"], "b.test.md"⟩]⟩
      ∈ findSuites (.directory shelfEntries) := by decide +kernel
  obtain ⟨-, -, hname, -⟩ := select_listed hpath hentries hs
  obtain ⟨htitle, -, -, hexactly⟩ := hname (by decide)
  refine ⟨hpath, hentries, _, hs, htitle, ?_⟩
  have hselected := hexactly (by decide) (by decide)
  exact (congrArg (List.map Suite.title) hselected).trans (by decide +kernel)

/-- The documents of the directory itself are listed with a title that selects nothing. -/
theorem select_listed_root : ∃ s ∈ findSuites (.directory deepEntries), s.title = "(root)"
    ∧ selectSuites ["(root)"] (findSuites (.directory deepEntries)) = []
    ∧ unknownCategories ["(root)"] (findSuites (.directory deepEntries)) = ["(root)"] :=
  ⟨⟨[], [⟨[], "a.test.md"⟩]⟩, by decide +kernel, by decide, by decide +kernel, by decide +kernel⟩

end CommandLine
end Snippetry
