import Mathlib.Data.Finset.Card
import Mathlib.Data.Finset.Range
import Snippetry.Include.Walk
import Snippetry.Proofs.Include.Index

/-! # What a snippet expands to, by recursion over the includes

The flattening of a snippet copies its lines and puts, for every include line, the flattenings of the
snippets that the line names. It knows the snippets that led to it and fails on a name that leads back
to one of them. It has neither a stack nor a memory; what it gives for a snippet depends on the way to
it only by the cycles that way would close. -/
namespace Snippetry.Include

@[simp] theorem ok_bind {ε α β : Type} (a : α) (f : α → Except ε β) : (.ok a >>= f) = f a := rfl

@[simp] theorem error_bind {ε α β : Type} (e : ε) (f : α → Except ε β) :
    (.error e >>= f) = .error e := rfl

theorem bind_eq_ok {ε α β : Type} {x : Except ε α} {f : α → Except ε β} {b : β} :
    (x >>= f) = .ok b ↔ ∃ a, x = .ok a ∧ f a = .ok b := by
  cases x <;> simp

theorem bind_eq_error {ε α β : Type} {x : Except ε α} {f : α → Except ε β} {e : ε} :
    (x >>= f) = .error e ↔ x = .error e ∨ ∃ a, x = .ok a ∧ f a = .error e := by
  cases x <;> simp

def linesAt (snippets : List Snippet) (i : Nat) : List SourceLine :=
  (snippets[i]?).elim [] Snippet.rawLines

def labelAt (snippets : List Snippet) (i : Nat) : Text := (snippets[i]?).elim [] Snippet.label

/-- The bodies of the names in turn, without those that have none. -/
def bodies (body : Text → Except IncludeError (Option (List Text))) :
    List Text → Except IncludeError (List (List Text))
  | [] => .ok []
  | name :: names => do
    let here ← body name
    let rest ← bodies body names
    return here.toList ++ rest

/-- A line is copied, unless it lists names: then an empty line stands between any two bodies. -/
def flattenLine (body : Span → Text → Except IncludeError (Option (List Text))) (line : SourceLine) :
    Except IncludeError (List Text) :=
  match includeNames? line.text with
  | none => .ok [line.text]
  | some names => do return [[]].intercalate (← bodies (body line.span) names)

def flattenLines (body : Span → Text → Except IncludeError (Option (List Text))) :
    List SourceLine → Except IncludeError (List Text)
  | [] => .ok []
  | line :: lines => do
    let here ← flattenLine body line
    let rest ← flattenLines body lines
    return here ++ rest

/-- The names a line lists; a line that is no include line lists none. -/
def namesOf (line : SourceLine) : List Text := (includeNames? line.text).getD []

def listed (lines : List SourceLine) : List Text := lines.flatMap namesOf

def Includes (snippets : List Snippet) (i j : Nat) : Prop :=
  ∃ name ∈ listed (linesAt snippets i), firstAnswering snippets name = some j

section Bodies

variable {body body' : Text → Except IncludeError (Option (List Text))} {names : List Text}
  {found : List (List Text)}

theorem bodies_ok (h : bodies body names = .ok found) {name : Text} (hn : name ∈ names) :
    ∃ b, body name = .ok b := by
  induction names generalizing found with
  | nil => simp at hn
  | cons first names ih =>
    obtain ⟨b, hb, h⟩ := bind_eq_ok.mp h
    obtain ⟨rest, hr, -⟩ := bind_eq_ok.mp h
    rcases List.mem_cons.mp hn with rfl | hn
    · exact ⟨b, hb⟩
    · exact ih hr hn

theorem bodies_error {e : IncludeError} (h : bodies body names = .error e) :
    ∃ name ∈ names, body name = .error e := by
  induction names with
  | nil => simp [bodies] at h
  | cons first names ih =>
    rcases bind_eq_error.mp h with hb | ⟨b, -, h⟩
    · exact ⟨first, List.mem_cons_self, hb⟩
    · rcases bind_eq_error.mp h with hr | ⟨rest, -, h⟩
      · obtain ⟨name, hn, he⟩ := ih hr
        exact ⟨name, List.mem_cons_of_mem _ hn, he⟩
      · cases h

theorem bodies_mono (hb : ∀ name ∈ names, ∀ b, body name = .ok b → body' name = .ok b)
    (h : bodies body names = .ok found) : bodies body' names = .ok found := by
  induction names generalizing found with
  | nil => exact h
  | cons first names ih =>
    obtain ⟨b, hf, h⟩ := bind_eq_ok.mp h
    obtain ⟨rest, hr, h⟩ := bind_eq_ok.mp h
    have hr' := ih (fun name hn => hb name (List.mem_cons_of_mem _ hn)) hr
    simp only [bodies, hb first List.mem_cons_self b hf, hr']
    exact h

end Bodies

section Lines

variable {body body' : Span → Text → Except IncludeError (Option (List Text))} {line : SourceLine}
  {lines : List SourceLine} {out : List Text} {e : IncludeError}

theorem flattenLine_ok (h : flattenLine body line = .ok out) {name : Text}
    (hn : name ∈ namesOf line) : ∃ b, body line.span name = .ok b := by
  unfold flattenLine at h
  unfold namesOf at hn
  cases hi : includeNames? line.text with
  | none => simp [hi] at hn
  | some names =>
    simp only [hi] at h hn
    obtain ⟨found, hf, -⟩ := bind_eq_ok.mp h
    exact bodies_ok hf hn

theorem flattenLine_error (h : flattenLine body line = .error e) :
    ∃ name ∈ namesOf line, body line.span name = .error e := by
  unfold flattenLine at h
  unfold namesOf
  cases hi : includeNames? line.text with
  | none => simp [hi] at h
  | some names =>
    simp only [hi] at h
    rcases bind_eq_error.mp h with hb | ⟨found, -, h⟩
    · exact bodies_error hb
    · cases h

theorem flattenLine_mono (hb : ∀ name ∈ namesOf line, ∀ b,
      body line.span name = .ok b → body' line.span name = .ok b)
    (h : flattenLine body line = .ok out) : flattenLine body' line = .ok out := by
  unfold flattenLine at h ⊢
  unfold namesOf at hb
  cases hi : includeNames? line.text with
  | none => simpa [hi] using h
  | some names =>
    simp only [hi, Option.getD_some] at h hb ⊢
    obtain ⟨found, hf, h⟩ := bind_eq_ok.mp h
    rw [bodies_mono hb hf]
    exact h

theorem flattenLines_ok (h : flattenLines body lines = .ok out) (hl : line ∈ lines) {name : Text}
    (hn : name ∈ namesOf line) : ∃ b, body line.span name = .ok b := by
  induction lines generalizing out with
  | nil => simp at hl
  | cons first lines ih =>
    obtain ⟨here, hh, h⟩ := bind_eq_ok.mp h
    obtain ⟨rest, hr, -⟩ := bind_eq_ok.mp h
    rcases List.mem_cons.mp hl with rfl | hl
    · exact flattenLine_ok hh hn
    · exact ih hr hl

theorem flattenLines_error (h : flattenLines body lines = .error e) :
    ∃ line ∈ lines, ∃ name ∈ namesOf line, body line.span name = .error e := by
  induction lines with
  | nil => simp [flattenLines] at h
  | cons first lines ih =>
    rcases bind_eq_error.mp h with hh | ⟨here, -, h⟩
    · exact ⟨first, List.mem_cons_self, flattenLine_error hh⟩
    · rcases bind_eq_error.mp h with hr | ⟨rest, -, h⟩
      · obtain ⟨line, hl, hn⟩ := ih hr
        exact ⟨line, List.mem_cons_of_mem _ hl, hn⟩
      · cases h

theorem flattenLines_mono (hb : ∀ line ∈ lines, ∀ name ∈ namesOf line, ∀ b,
      body line.span name = .ok b → body' line.span name = .ok b)
    (h : flattenLines body lines = .ok out) : flattenLines body' lines = .ok out := by
  induction lines generalizing out with
  | nil => exact h
  | cons first lines ih =>
    obtain ⟨here, hh, h⟩ := bind_eq_ok.mp h
    obtain ⟨rest, hr, h⟩ := bind_eq_ok.mp h
    have hh' := flattenLine_mono (hb first List.mem_cons_self) hh
    have hr' := ih (fun line hl => hb line (List.mem_cons_of_mem _ hl)) hr
    simp only [flattenLines, hh', hr']
    exact h

end Lines

def offPath (snippets : List Snippet) (path : List Nat) : Nat :=
  (Finset.range snippets.length \ path.toFinset).card

theorem offPath_append_lt {snippets : List Snippet} {path : List Nat} {i : Nat}
    (hi : i < snippets.length) (hn : i ∉ path) :
    offPath snippets (path ++ [i]) < offPath snippets path := by
  apply Finset.card_lt_card
  refine Finset.ssubset_iff_subset_ne.mpr ⟨?_, ?_⟩
  · exact Finset.sdiff_subset_sdiff le_rfl (by simp)
  · intro h
    have hm : i ∈ Finset.range snippets.length \ (path ++ [i]).toFinset := by
      rw [h]
      simp [hi, hn]
    simp at hm

mutual

/-- The lines of the snippet at `i`, to which the snippets on `path` led. -/
def flatten (snippets : List Snippet) (policy : MissingPolicy) (path : List Nat) (i : Nat) :
    Except IncludeError (List Text) :=
  flattenLines (fun span name => flattenName snippets policy path i span name) (linesAt snippets i)
termination_by (offPath snippets (path ++ [i]), 1)

/-- The body to put for a name that a line of the snippet at `i` lists, if it is not left out. -/
def flattenName (snippets : List Snippet) (policy : MissingPolicy) (path : List Nat) (i : Nat)
    (span : Span) (name : Text) : Except IncludeError (Option (List Text)) :=
  match _found : firstAnswering snippets name with
  | none =>
    match policy with
    | .strict => .error (.missing name (labelAt snippets i) span)
    | .lenient => .ok none
  | some j =>
    if _met : j ∈ path ++ [i] then
      .error (.cyclic name ((path ++ [i]).map (labelAt snippets) ++ [name]) span)
    else do return some (← flatten snippets policy (path ++ [i]) j)
termination_by (offPath snippets (path ++ [i]), 0)
decreasing_by exact Prod.Lex.left _ _ (offPath_append_lt (lt_of_firstAnswering _found) _met)

end

/-- A path can only grow by positions that are not on it, so this comes to an end. -/
theorem path_induction (snippets : List Snippet) {motive : List Nat → Nat → Prop}
    (step : ∀ path i, (∀ name j, firstAnswering snippets name = some j → j ∉ path ++ [i] →
      motive (path ++ [i]) j) → motive path i) (path : List Nat) (i : Nat) : motive path i := by
  induction hn : offPath snippets (path ++ [i]) using Nat.strongRecOn generalizing path i with
  | _ n ih =>
    apply step
    intro name j hj hm
    apply ih _ _ _ _ rfl
    rw [← hn]
    exact offPath_append_lt (lt_of_firstAnswering hj) hm

theorem flattenName_missing {snippets : List Snippet} {name : Text} (policy : MissingPolicy)
    (path : List Nat) (i : Nat) (span : Span) (h : firstAnswering snippets name = none) :
    flattenName snippets policy path i span name =
      match policy with
      | .strict => .error (.missing name (labelAt snippets i) span)
      | .lenient => .ok none := by
  unfold flattenName
  split <;> simp_all

theorem flattenName_cyclic {snippets : List Snippet} {name : Text} {j : Nat} (policy : MissingPolicy)
    {path : List Nat} {i : Nat} (span : Span) (h : firstAnswering snippets name = some j)
    (hm : j ∈ path ++ [i]) : flattenName snippets policy path i span name =
      .error (.cyclic name ((path ++ [i]).map (labelAt snippets) ++ [name]) span) := by
  unfold flattenName
  split
  · simp_all
  · next k hk =>
    obtain rfl : j = k := Option.some.inj (h.symm.trans hk)
    rw [dif_pos hm]

theorem flattenName_found {snippets : List Snippet} {name : Text} {j : Nat} (policy : MissingPolicy)
    {path : List Nat} {i : Nat} (span : Span) (h : firstAnswering snippets name = some j)
    (hm : j ∉ path ++ [i]) : flattenName snippets policy path i span name =
      (do return some (← flatten snippets policy (path ++ [i]) j)) := by
  unfold flattenName
  split
  · simp_all
  · next k hk =>
    obtain rfl : j = k := Option.some.inj (h.symm.trans hk)
    rw [dif_neg hm]

section Paths

variable {snippets : List Snippet} {policy : MissingPolicy}

/-- A name that does not fail is left out, or the snippet it leads to is off the path and flattens. -/
theorem flattenName_eq_ok {path : List Nat} {i : Nat} {span : Span} {name : Text}
    {b : Option (List Text)} (h : flattenName snippets policy path i span name = .ok b) :
    (firstAnswering snippets name = none ∧ policy = .lenient ∧ b = none) ∨
      ∃ j inner, firstAnswering snippets name = some j ∧ j ∉ path ++ [i] ∧
        flatten snippets policy (path ++ [i]) j = .ok inner ∧ b = some inner := by
  cases hf : firstAnswering snippets name with
  | none =>
    rw [flattenName_missing policy _ _ _ hf] at h
    cases policy with
    | strict => cases h
    | lenient =>
      cases h
      exact .inl ⟨rfl, rfl, rfl⟩
  | some j =>
    by_cases hm : j ∈ path ++ [i]
    · rw [flattenName_cyclic policy _ hf hm] at h
      cases h
    · rw [flattenName_found policy _ hf hm] at h
      obtain ⟨inner, hinner, hb⟩ := bind_eq_ok.mp h
      exact .inr ⟨j, inner, rfl, hm, hinner, (Except.ok.inj hb).symm⟩

theorem flatten_eq (path : List Nat) (i : Nat) : flatten snippets policy path i =
    flattenLines (flattenName snippets policy path i) (linesAt snippets i) := by
  rw [flatten]

/-- What succeeds below some snippets succeeds with the same lines below fewer of them. -/
theorem flatten_drop (above path : List Nat) (i : Nat) {out : List Text}
    (h : flatten snippets policy (above ++ path) i = .ok out) :
    flatten snippets policy path i = .ok out := by
  induction path, i using path_induction snippets generalizing out with
  | step path i ih =>
    rw [flatten_eq] at h ⊢
    refine flattenLines_mono (fun line hl name hn b hb => ?_) h
    rcases flattenName_eq_ok hb with ⟨hf, hq, rfl⟩ | ⟨j, inner, hf, hm, hi, rfl⟩
    · rw [flattenName_missing policy _ _ _ hf, hq]
    · rw [List.append_assoc] at hi hm
      have hm' : j ∉ path ++ [i] := fun h' => hm (List.mem_append_right _ h')
      rw [flattenName_found policy _ hf hm', ih name j hf hm' hi]
      rfl

/-- Snippets that are out of reach from `i` may stand above it. -/
theorem flatten_extend {reach : Nat → Prop} (hr : ∀ k j, reach k → Includes snippets k j → reach j)
    {above : List Nat} (ha : ∀ k ∈ above, ¬ reach k) (path : List Nat) (i : Nat) (hi : reach i)
    {out : List Text} (h : flatten snippets policy path i = .ok out) :
    flatten snippets policy (above ++ path) i = .ok out := by
  induction path, i using path_induction snippets generalizing out with
  | step path i ih =>
    rw [flatten_eq] at h ⊢
    refine flattenLines_mono (fun line hl name hn b hb => ?_) h
    rcases flattenName_eq_ok hb with ⟨hf, hq, rfl⟩ | ⟨j, inner, hf, hm, hinner, rfl⟩
    · rw [flattenName_missing policy _ _ _ hf, hq]
    · have hj : reach j := hr i j hi ⟨name, List.mem_flatMap.mpr ⟨line, hl, hn⟩, hf⟩
      have hm' : j ∉ above ++ path ++ [i] := by
        rw [List.append_assoc]
        intro h'
        rcases List.mem_append.mp h' with h' | h'
        · exact ha j h' hj
        · exact hm h'
      rw [flattenName_found policy _ hf hm', List.append_assoc, ih name j hf hm hj hinner]
      rfl

end Paths

end Snippetry.Include
