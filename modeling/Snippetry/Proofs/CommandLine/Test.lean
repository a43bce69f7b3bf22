import Snippetry.CommandLine.Test
import Snippetry.Proofs.TestDocument.Categories

/-! # Running the test documents of a directory

The documents in the selected places are tested in one fixed order, each in the state that the one
before leaves, whatever comes of those before. In which order directories list their entries makes no
difference. -/
namespace Snippetry

/-- The same host, whose directories list their entries in another order. -/
def Host.relisted {σ : Type} (host : Host σ) (relist : σ → Files) : Host σ :=
  { host with files := relist }

namespace CommandLine

open TestDocument FileNode

variable {σ : Type} {host : Host σ} {noColor : Bool}

def pathBelow (directory : Text) (l : Location) : Text :=
  joinPath directory (Text.join ['/'] l.names)

/-- A path below a directory goes on behind one slash, which the directory may bring along. -/
theorem exists_joinPath_eq {directory : Text} (hne : directory ≠ []) (below : Text) :
    ∃ stem, joinPath directory below = stem ++ '/' :: below
      ∧ (directory = stem ∨ directory = stem ++ ['/']) := by
  by_cases hslash : directory.getLast? = some '/'
  · obtain ⟨stem, rfl⟩ := List.getLast?_eq_some_iff.mp hslash
    exact ⟨stem, by simp [joinPath], .inr rfl⟩
  · exact ⟨directory, by simp [joinPath, hne, hslash], .inl rfl⟩

theorem start_joinPath (files : Files) {directory : Text} (hne : directory ≠ []) (below : Text) :
    files.start (joinPath directory below) = files.start directory := by
  have hhead : (joinPath directory below).head? = directory.head? := by
    unfold joinPath
    split_ifs <;> exact List.head?_append_of_ne_nil _ hne
  rw [Files.start, hhead, Files.start]

/-- A slash at the end of a path leads nowhere. -/
theorem walk_of_slash {node found : FileNode} {ancestors : List FileNode} {names : List Text}
    (h : Files.walk node ancestors (names ++ [[]]) = .ok found) :
    Files.walk node ancestors names = .ok found := by
  obtain ⟨ancestors', hwalk⟩ := Files.walk_append node ancestors names
  rw [hwalk] at h
  cases hnames : Files.walk node ancestors names with
  | error e =>
    rw [hnames] at h
    cases h
  | ok found' =>
    rw [hnames] at h
    have hstay : Files.walk found' ancestors' [[]] = .ok found := h
    by_cases hdirectory : found'.isDirectory = true
    · simpa [Files.walk, hdirectory] using hstay
    · simp [Files.walk, hdirectory] at hstay

theorem node?_joinPath {files : Files} {directory below : Text} {entries : Entries}
    (h : files.node? directory = .ok (.directory entries)) (hnul : '\x00' ∉ below)
    (hsize : (joinPath directory below).size ≤ Files.longestPath) :
    ∃ ancestors, files.node? (joinPath directory below)
      = Files.walk (.directory entries) ancestors (Text.splitOn '/' below) := by
  obtain ⟨hnul', hne, hwalk⟩ := Files.walk_of_node? h
  obtain ⟨stem, hpath, hstem⟩ := exists_joinPath_eq hne below
  have hwalk' : Files.walk files.root [] (files.start directory ++ Text.splitOn '/' stem)
      = .ok (.directory entries) := by
    rcases hstem with hstem | hstem
    · rwa [← hstem]
    · have hsplit : Text.splitOn '/' directory = Text.splitOn '/' stem ++ [[]] := by
        rw [hstem, Text.splitOn_append_cons]
        rfl
      rw [hsplit, ← List.append_assoc] at hwalk
      exact walk_of_slash hwalk
  obtain ⟨ancestors, hfurther⟩ := Files.walk_append files.root []
    (files.start directory ++ Text.splitOn '/' stem)
  refine ⟨ancestors, ?_⟩
  have hnul'' : '\x00' ∉ joinPath directory below := by
    rw [hpath]
    rcases hstem with rfl | rfl <;> simp_all
  have hne' : joinPath directory below ≠ [] := by
    rw [hpath]
    simp
  rw [Files.node?_eq_walk hnul'' hne' hsize, start_joinPath files hne, hpath,
    Text.splitOn_append_cons, ← List.append_assoc, hfurther, hwalk']
  rfl

/-- The path of an entry below a directory leads to that entry. -/
theorem node?_pathBelow {files : Files} {directory : Text} {entries inner : Entries}
    (h : files.node? directory = .ok (.directory entries)) (hnamed : Named entries)
    (hdistinct : Distinct entries) {l : Location} {node : FileNode}
    (hinside : Inside entries l.directory inner) (hmem : (l.name, node) ∈ inner)
    (hsize : (pathBelow directory l).size ≤ Files.longestPath) :
    files.node? (pathBelow directory l) = .ok node := by
  have hdirectory : ∀ name ∈ l.directory, Files.IsEntryName name := fun name hname =>
    (hnamed.isPlain hinside name hname).toIsEntryName
  have hname : Files.IsEntryName l.name := (hnamed _ _ hinside _ hmem).toIsEntryName
  have hnames : ∀ name ∈ l.names, Files.IsEntryName name := by
    simpa [Location.names, or_imp, forall_and] using ⟨hdirectory, hname⟩
  have hnul : '\x00' ∉ Text.join ['/'] l.names := by
    intro hnul
    rcases Text.mem_of_mem_join hnul with hslash | ⟨name, hmem, hnul⟩
    · exact absurd hslash (by decide)
    · exact (hnames name hmem).nul hnul
  have hsplit : Text.splitOn '/' (Text.join ['/'] l.names) = l.names :=
    Text.splitOn_join (by simp [Location.names]) fun name hname => (hnames name hname).slash
  obtain ⟨ancestors, hwalk⟩ := node?_joinPath h hnul hsize
  rw [pathBelow, hwalk, hsplit]
  exact Files.walk_inside hinside hdistinct hdirectory hname hmem ancestors

/-! ## Tests in turn -/

/-- Test documents in turn, by their paths: each finds the state that the test before it leaves. -/
inductive Turns (host : Host σ) : σ → List (Text × Tested σ) → σ → Prop
  | done (state : σ) : Turns host state [] state
  | next {path : Text} {state final : σ} {runs : List (Text × Tested σ)}
      (h : Turns host (testOne host path state).state runs final) :
      Turns host state ((path, testOne host path state) :: runs) final

theorem Turns.append {state between final : σ} {runs runs' : List (Text × Tested σ)}
    (h : Turns host state runs between) (h' : Turns host between runs' final) :
    Turns host state (runs ++ runs') final := by
  induction h with
  | done => exact h'
  | next _ ih => exact .next (ih h')

/-- In no state that tests lead to does a name stand twice in a directory. -/
def Orderly (host : Host σ) (state : σ) : Prop :=
  ∀ runs after, Turns host state runs after → Distinct (host.files after).root.entries

theorem Orderly.here {state : σ} (h : Orderly host state) :
    Distinct (host.files state).root.entries :=
  h [] state (.done state)

theorem Orderly.after {state after : σ} {runs : List (Text × Tested σ)} (h : Orderly host state)
    (hturns : Turns host state runs after) : Orderly host after :=
  fun runs' final hfinal => h (runs ++ runs') final (hturns.append hfinal)

def passed (runs : List (Text × Tested σ)) : Nat := runs.countP fun run => run.2.failure.isNone

def failures (runs : List (Text × Tested σ)) : List (Text × Failure) :=
  runs.filterMap fun run => run.2.failure.map fun f => (run.1, f)

/-- The results after some tests, from those before: each is counted, and reported in its turn. -/
structure Accounts (host : Host σ) (noColor : Bool) (r : Results σ) (runs : List (Text × Tested σ))
    (r' : Results σ) : Prop where
  turns : Turns host r.state runs r'.state
  passed : r'.passed = r.passed + passed runs
  failures : r'.failures = r.failures ++ failures runs
  reported : ∃ shown, r'.emissions = r.emissions ++ shown
    ∧ (runs.map fun run => resultLine noColor run.1 run.2).Sublist shown

namespace Accounts

theorem refl (host : Host σ) (noColor : Bool) (r : Results σ) : Accounts host noColor r [] r :=
  ⟨.done _, rfl, (List.append_nil _).symm, [], (List.append_nil _).symm, .slnil⟩

theorem trans {r r' r'' : Results σ} {runs runs' : List (Text × Tested σ)}
    (h : Accounts host noColor r runs r') (h' : Accounts host noColor r' runs' r'') :
    Accounts host noColor r (runs ++ runs') r'' := by
  obtain ⟨shown, hshown, hlines⟩ := h.reported
  obtain ⟨shown', hshown', hlines'⟩ := h'.reported
  refine ⟨h.turns.append h'.turns, ?_, ?_, shown ++ shown', ?_, ?_⟩
  · rw [h'.passed, h.passed, CommandLine.passed, CommandLine.passed, CommandLine.passed,
      List.countP_append, Nat.add_assoc]
  · rw [h'.failures, h.failures, CommandLine.failures, CommandLine.failures, CommandLine.failures,
      List.filterMap_append, List.append_assoc]
  · rw [hshown', hshown, List.append_assoc]
  · rw [List.map_append]
    exact hlines.append hlines'

/-- Before any test there are only warnings. -/
theorem of_none {state : σ} {warnings : List Emission} {r : Results σ}
    {runs : List (Text × Tested σ)}
    (h : Accounts host noColor { Results.none state with emissions := warnings } runs r) :
    r.passed = CommandLine.passed runs ∧ r.failures = CommandLine.failures runs
      ∧ (runs.map fun run => resultLine noColor run.1 run.2).Sublist r.emissions := by
  obtain ⟨shown, hshown, hlines⟩ := h.reported
  have hpassed : r.passed = 0 + CommandLine.passed runs := h.passed
  refine ⟨by rw [hpassed, Nat.zero_add], h.failures, ?_⟩
  rw [hshown]
  exact hlines.trans (List.sublist_append_right ..)

/-- What is only shown is no test. -/
theorem told (host : Host σ) (noColor : Bool) (r : Results σ) (shown : List Emission) :
    Accounts host noColor r [] { r with emissions := r.emissions ++ shown } :=
  ⟨.done _, rfl, (List.append_nil _).symm, shown, rfl, List.nil_sublist _⟩

theorem add (host : Host σ) (noColor : Bool) (r : Results σ) (path : Text) :
    Accounts host noColor r [(path, testOne host path r.state)]
      (r.add noColor path (testOne host path r.state)) := by
  set t := testOne host path r.state
  refine ⟨.next (.done _), ?_, ?_, t.log ++ [resultLine noColor path t], ?_, ?_⟩
  · simp [Results.add, CommandLine.passed, List.countP_singleton]
  · cases hfailure : t.failure <;> simp [Results.add, CommandLine.failures, hfailure]
  · rw [Results.add, List.append_assoc]
  · exact List.sublist_append_right ..

theorem testEach (host : Host σ) (noColor : Bool) (r : Results σ) (paths : List Text) :
    ∃ runs, runs.map Prod.fst = paths
      ∧ Accounts host noColor r runs (testEach host noColor r paths) := by
  induction paths generalizing r with
  | nil => exact ⟨[], rfl, .refl host noColor r⟩
  | cons path paths ih =>
    obtain ⟨runs, hruns, haccounts⟩ := ih (r.add noColor path (testOne host path r.state))
    exact ⟨(path, testOne host path r.state) :: runs, by rw [List.map_cons, hruns],
      (add host noColor r path).trans haccounts⟩

theorem testSuites (host : Host σ) (noColor : Bool) (directory : Text) (r : Results σ)
    (suites : List Suite) : ∃ runs,
      runs.map Prod.fst = (suites.flatMap Suite.documents).map (pathBelow directory)
      ∧ Accounts host noColor r runs (testSuites host noColor directory r suites) := by
  induction suites generalizing r with
  | nil => exact ⟨[], rfl, .refl host noColor r⟩
  | cons s suites ih =>
    obtain ⟨runs, hruns, haccounts⟩ := testEach host noColor
      { r with emissions := r.emissions ++ [.toldLine [], .toldLine (paint noColor "1" s.title)] }
      (s.documents.map (pathBelow directory))
    obtain ⟨runs', hruns', haccounts'⟩ := ih (CommandLine.testEach host noColor _ _)
    refine ⟨runs ++ runs', ?_, ((told host noColor r _).trans haccounts).trans haccounts'⟩
    rw [List.map_append, hruns, hruns', List.flatMap_cons, List.map_append]

end Accounts

/-! ## The order of entries -/

section

variable (host : Host σ) (relist : σ → Files)

theorem runOne_relisted : runOne (host.relisted relist) = runOne host := rfl

theorem blocks_relisted : (host.relisted relist).blocks = host.blocks := rfl

theorem runEach_relisted (e : Expectations) (ids : List SnippetId) (d : Document) (state : σ) :
    TestDocument.runEach (host.relisted relist) e ids d state
      = TestDocument.runEach host e ids d state := by
  induction ids generalizing d state with
  | nil => rfl
  | cons id ids ih => simp only [TestDocument.runEach, runOne_relisted, ih]

theorem check_relisted (e : Expectations) (source : Text) (state : σ) :
    check (host.relisted relist) e source state = check host e source state := by
  simp only [check, checkRun, runSelected, runEach_relisted, blocks_relisted]

end

theorem testOne_relisted {relist : σ → Files} {state : σ}
    (h : (host.files state).Relisted (relist state))
    (hdistinct : Distinct (host.files state).root.entries) (path : Text) :
    testOne (host.relisted relist) path state = testOne host path state := by
  have hread : ((host.relisted relist).files state).read path = (host.files state).read path :=
    h.read_eq hdistinct path
  simp only [testOne, hread, check_relisted]

section

variable {relist : σ → Files} (hrelist : ∀ state, (host.files state).Relisted (relist state))

include hrelist

theorem testEach_relisted {r : Results σ} (horderly : Orderly host r.state) (paths : List Text) :
    testEach (host.relisted relist) noColor r paths = testEach host noColor r paths := by
  induction paths generalizing r with
  | nil => rfl
  | cons path paths ih =>
    rw [testEach, testEach, testOne_relisted (hrelist r.state) horderly.here]
    exact ih (horderly.after (.next (.done _)))

theorem testSuites_relisted (directory : Text) {r : Results σ} (horderly : Orderly host r.state)
    (suites : List Suite) : testSuites (host.relisted relist) noColor directory r suites
      = testSuites host noColor directory r suites := by
  induction suites generalizing r with
  | nil => rfl
  | cons s suites ih =>
    let headed : Results σ :=
      { r with emissions := r.emissions ++ [.toldLine [], .toldLine (paint noColor "1" s.title)] }
    have hheaded : Orderly host headed.state := horderly
    obtain ⟨runs, -, haccounts⟩ := Accounts.testEach host noColor headed
      (s.documents.map (pathBelow directory))
    rw [testSuites, testSuites, testEach_relisted hrelist hheaded]
    exact ih (hheaded.after haccounts.turns)

theorem Turns.relisted {state final : σ} (horderly : Orderly host state)
    {runs : List (Text × Tested σ)} (h : Turns host state runs final) :
    Turns (host.relisted relist) state runs final := by
  induction h with
  | done state => exact .done state
  | @next path state final runs h ih =>
    have hrest := ih (horderly.after (.next (.done _)))
    rw [← testOne_relisted (hrelist state) horderly.here] at hrest ⊢
    exact .next hrest

end

theorem suitesAt_relisted {files files' : Files} (h : files.Relisted files')
    (hdistinct : Distinct files.root.entries) (path : Text) :
    suitesAt files' path = suitesAt files path := by
  have hsame := h.node?_same hdistinct path
  unfold suitesAt
  generalize files.node? path = found, files'.node? path = found' at hsame
  cases hsame with
  | error => rfl
  | ok hnode =>
    cases hnode with
    | refl => rfl
    | directory hentries =>
      have hsuites := suitesOf_eq_of_perm (perm_locations hentries)
      simp only [findSuites, hsuites]

/-- In which order directories list their entries makes no difference to a run of tests. -/
theorem runTests_relisted {relist : σ → Files}
    (hrelist : ∀ state, (host.files state).Relisted (relist state)) (args : TestArguments)
    {state : σ} (horderly : Orderly host state) :
    runTests (host.relisted relist) noColor args state = runTests host noColor args state := by
  have hfile : (relist state).isFile args.path = (host.files state).isFile args.path :=
    (hrelist state).isFile_eq horderly.here args.path
  have hsuites : suitesAt (relist state) args.path = suitesAt (host.files state) args.path :=
    suitesAt_relisted (hrelist state) horderly.here args.path
  have hfiles : (host.relisted relist).files state = relist state := rfl
  have hsingle : testEach (host.relisted relist) noColor (.none state) [args.path]
      = testEach host noColor (.none state) [args.path] :=
    testEach_relisted hrelist horderly _
  have hall (warnings : List Emission) (suites : List Suite) :
      testSuites (host.relisted relist) noColor args.path
          { Results.none state with emissions := warnings } suites
        = testSuites host noColor args.path { Results.none state with emissions := warnings }
          suites :=
    testSuites_relisted hrelist args.path horderly suites
  simp only [runTests, hfiles, hfile, hsuites, hsingle, hall]

/-! ## Runs of tests -/

/-- How the test documents below a directory are run: which ones and in which order, with what comes
of them, and how the command ends. -/
structure Conduct (host : Host σ) (noColor : Bool) (args : TestArguments) (entries : Entries)
    (state : σ) (documents : List Location) (runs : List (Text × Tested σ)) (ended : Ended σ) :
    Prop where
  /-- Those in the selected places, each once. -/
  selected : ∀ l, l ∈ documents ↔ l.IsBelow entries ∧ Selected args.categories l.place
  ordered : documents.Pairwise Location.Before
  paths : runs.map Prod.fst = documents.map (pathBelow args.path)
  /-- The paths lead to the documents. -/
  reached : ∀ l ∈ documents, (pathBelow args.path l).size ≤ Files.longestPath →
    ∃ inner node, Inside entries l.directory inner ∧ (l.name, node) ∈ inner
      ∧ node.isDirectory = false ∧ (host.files state).node? (pathBelow args.path l) = .ok node
  turns : Turns host state runs ended.state
  reported : (runs.map fun run => resultLine noColor run.1 run.2).Sublist ended.emissions
  counted : documents ≠ [] → ∃ r, ended = conclude noColor r
    ∧ r.passed = passed runs ∧ r.failures = failures runs
  code : ended.exit = .code 0 ↔ documents ≠ [] ∧ ∀ run ∈ runs, run.2.failure = none

variable {args : TestArguments} {state : σ} {entries : Entries}

theorem failures_eq_nil_iff {runs : List (Text × Tested σ)} :
    failures runs = [] ↔ ∀ run ∈ runs, run.2.failure = none := by
  simp [failures, List.filterMap_eq_nil_iff]

theorem plan_eq_nil_iff {categories : List Text} : plan categories entries = []
    ↔ selectSuites categories (findSuites (.directory entries)) = [] := by
  rw [plan, List.flatMap_eq_nil_iff, List.eq_nil_iff_forall_not_mem]
  refine forall_congr' fun s => imp_congr_right fun hs => ?_
  have hfilled := (ordered_suitesOf _).filled s (mem_selectSuites.mp hs).1
  exact iff_of_false hfilled id

/-- What a run of tests comes to, depending on whether any are selected. -/
theorem runTests_eq (noColor : Bool)
    (hroot : (host.files state).node? args.path = .ok (.directory entries)) :
    let selected := selectSuites args.categories (findSuites (.directory entries))
    (selected = [] ∧ ∃ emissions, runTests host noColor args state = ⟨.code 1, emissions, state⟩)
      ∨ selected ≠ [] ∧ ∃ warnings, runTests host noColor args state = conclude noColor
        (testSuites host noColor args.path { Results.none state with emissions := warnings }
          selected) := by
  intro selected
  have hfile : (host.files state).isFile args.path = false := by
    simp only [Files.isFile, Files.isAt, hroot]
    rfl
  have hsuites : suitesAt (host.files state) args.path = (findSuites (.directory entries), []) := by
    simp only [suitesAt, hroot]
  simp only [runTests, hfile, hsuites, Bool.false_eq_true, if_false]
  by_cases hfound : findSuites (.directory entries) = []
  · have hnone : selected = [] :=
      List.sublist_nil.mp (hfound ▸ selectSuites_sublist args.categories _)
    exact .inl ⟨hnone, _, if_pos hfound⟩
  · rw [if_neg hfound]
    by_cases hselected : selected = []
    · exact .inl ⟨hselected, _, if_pos hselected⟩
    · exact .inr ⟨hselected, _, if_neg hselected⟩

theorem exit_conclude (r : Results σ) : (conclude noColor r).exit = .code 0 ↔ r.failures = [] := by
  have hexit : (conclude noColor r).exit = .code (if r.failures.length = 0 then 0 else 1) := rfl
  rw [hexit, ← List.length_eq_zero_iff]
  split_ifs with h <;> simp [h]

theorem sublist_conclude (r : Results σ) : r.emissions.Sublist (conclude noColor r).emissions := by
  rw [conclude, List.append_assoc]
  exact List.sublist_append_left ..

theorem node?_of_mem_plan (hroot : (host.files state).node? args.path = .ok (.directory entries))
    (hnamed : Named entries) (hdistinct : Distinct entries) {l : Location}
    (hl : l ∈ plan args.categories entries)
    (hsize : (pathBelow args.path l).size ≤ Files.longestPath) :
    ∃ inner node, Inside entries l.directory inner ∧ (l.name, node) ∈ inner
      ∧ node.isDirectory = false
      ∧ (host.files state).node? (pathBelow args.path l) = .ok node := by
  obtain ⟨⟨inner, node, hinside, hmem, hnode, -⟩, -⟩ := (mem_plan hnamed).mp hl
  exact ⟨inner, node, hinside, hmem, hnode,
    node?_pathBelow hroot hnamed hdistinct hinside hmem hsize⟩

theorem conduct_runTests (noColor : Bool)
    (hroot : (host.files state).node? args.path = .ok (.directory entries))
    (hnamed : Named entries) (hdistinct : Distinct entries) :
    ∃ runs, Conduct host noColor args entries state (plan args.categories entries) runs
      (runTests host noColor args state) := by
  have hordered : (plan args.categories entries).Pairwise Location.Before :=
    pairwise_plan hnamed hdistinct
  rcases runTests_eq noColor hroot with ⟨hnone, emissions, hended⟩ | ⟨hsome, warnings, hended⟩
  · have hplan : plan args.categories entries = [] := plan_eq_nil_iff.mpr hnone
    rw [hended]
    refine ⟨[], fun l => mem_plan hnamed, hordered, ?_,
      fun l => node?_of_mem_plan hroot hnamed hdistinct, .done state, List.nil_sublist _,
      fun h => absurd hplan h, ?_⟩
    · rw [hplan]
      rfl
    · simp [hplan]
  · have hplan : plan args.categories entries ≠ [] := mt plan_eq_nil_iff.mp hsome
    obtain ⟨runs, hruns, haccounts⟩ := Accounts.testSuites host noColor args.path
      { Results.none state with emissions := warnings }
      (selectSuites args.categories (findSuites (.directory entries)))
    obtain ⟨hpassed, hfailures, hreported⟩ := haccounts.of_none
    rw [hended]
    refine ⟨runs, fun l => mem_plan hnamed, hordered, hruns,
      fun l => node?_of_mem_plan hroot hnamed hdistinct, haccounts.turns,
      hreported.trans (sublist_conclude _), fun _ => ⟨_, rfl, hpassed, hfailures⟩, ?_⟩
    rw [exit_conclude, hfailures, failures_eq_nil_iff]
    exact (and_iff_right hplan).symm

theorem Conduct.relisted {relist : σ → Files}
    (hrelist : ∀ state, (host.files state).Relisted (relist state))
    (horderly : Orderly host state) {documents : List Location}
    {runs : List (Text × Tested σ)} {ended : Ended σ}
    (h : Conduct host noColor args entries state documents runs ended) :
    Conduct (host.relisted relist) noColor args entries state documents runs ended := by
  refine { h with reached := fun l hl hsize => ?_, turns := h.turns.relisted hrelist horderly }
  obtain ⟨inner, node, hinside, hmem, hnode, hfound⟩ := h.reached l hl hsize
  refine ⟨inner, node, hinside, hmem, hnode, ?_⟩
  have hsame := (hrelist state).node?_same horderly.here (pathBelow args.path l)
  rw [hfound] at hsame
  exact hsame.eq_of_leaf hnode

/-- The test documents below a directory are run as their places and names have it, in whatever order
the directories list their entries. -/
theorem exists_conduct_runTests (noColor : Bool)
    (hroot : (host.files state).node? args.path = .ok (.directory entries))
    (hnamed : Named entries) (horderly : Orderly host state) :
    ∃ documents runs ended, ∀ relist : σ → Files,
      (∀ state, (host.files state).Relisted (relist state)) →
      runTests (host.relisted relist) noColor args state = ended
        ∧ Conduct (host.relisted relist) noColor args entries state documents runs ended := by
  have hdistinct : Distinct entries := Files.distinct_of_node? horderly.here hroot
  obtain ⟨runs, hconduct⟩ := conduct_runTests noColor hroot hnamed hdistinct
  refine ⟨_, runs, _, fun relist hrelist => ⟨?_, hconduct.relisted hrelist horderly⟩⟩
  exact runTests_relisted hrelist args horderly

def easyDocument : FileNode := .file (Utf8.encode "---\n\n---\n")

def deepEntries : Entries := [("a.test.md", easyDocument)]

def includeEntries : Entries :=
  [("b.test.md", easyDocument), ("notes.md", .file []), ("deep", .directory deepEntries),
   ("a.test.md", easyDocument)]

def includesEntries : Entries := [("c.test.md", .file [])]

/-- Documents in the directory itself, in one below it, and in one whose name only begins like that
one's. -/
def shelfEntries : Entries :=
  [("includes", .directory includesEntries), ("include", .directory includeEntries),
   ("z.test.md", .file [])]

def shelf : Files := ⟨.directory [("tests", .directory shelfEntries)], []⟩

def shelfHost : Host Unit where
  files _ := shelf
  blocks := Markdown.fencedBlocks
  run _ _ _ := ((.failed (.io "none"), []), ())
  run_ne_crashed _ _ _ _ := nofun

def shelfArguments : TestArguments := ⟨"tests/", ["/include/", "absent"], false⟩

theorem throughout_shelf {p : Entries → Prop} (h : p shelfEntries) (hincludes : p includesEntries)
    (hinclude : p includeEntries) (hdeep : p deepEntries) : Throughout p shelfEntries := by
  have hlowest : Throughout p deepEntries := .intro hdeep (by simp [deepEntries, easyDocument])
  have hbelow : Throughout p includeEntries := .intro hinclude (by
    simpa [includeEntries, easyDocument] using hlowest)
  have hbeside : Throughout p includesEntries := .intro hincludes (by simp [includesEntries])
  refine .intro h fun name inner hentry => ?_
  have hinner : inner = includesEntries ∨ inner = includeEntries := by
    simp only [shelfEntries, List.mem_cons, Prod.mk.injEq, FileNode.directory.injEq] at hentry
    grind
  rcases hinner with rfl | rfl
  · exact hbeside
  · exact hbelow

theorem exists_conduct_shelf :
    (shelfHost.files ()).node? shelfArguments.path = .ok (.directory shelfEntries)
      ∧ Named shelfEntries ∧ Orderly shelfHost ()
      ∧ ∃ documents runs ended, ended.exit = .code 0 ∧ ∀ relist : Unit → Files,
      (∀ state, (shelfHost.files state).Relisted (relist state)) →
      runTests (shelfHost.relisted relist) true shelfArguments () = ended
        ∧ Conduct (shelfHost.relisted relist) true shelfArguments shelfEntries () documents runs
          ended := by
  have hroot : (shelfHost.files ()).node? shelfArguments.path = .ok (.directory shelfEntries) := by
    rfl
  have hnamed : Named shelfEntries :=
    throughout_shelf (by decide) (by decide) (by decide) (by decide)
  have hshelf : Distinct shelfEntries :=
    throughout_shelf (by decide) (by decide) (by decide) (by decide)
  have hfiles : Distinct shelf.root.entries := by
    refine .intro (by decide) fun name inner hentry => ?_
    have hinner : inner = shelfEntries := by simp_all [shelf, FileNode.entries]
    exact hinner ▸ hshelf
  have hcode : (runTests shelfHost true shelfArguments ()).exit = .code 0 := by
    decide +kernel
  have horderly : Orderly shelfHost () := fun _ _ _ => hfiles
  obtain ⟨documents, runs, ended, h⟩ := exists_conduct_runTests true hroot hnamed horderly
  refine ⟨hroot, hnamed, horderly, documents, runs, ended, ?_, h⟩
  have hended := (h shelfHost.files fun _ => .refl _).1
  exact hended ▸ hcode

end CommandLine
end Snippetry
