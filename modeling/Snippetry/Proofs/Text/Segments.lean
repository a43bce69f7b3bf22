import Mathlib.Data.List.Basic
import Snippetry.Text.Basic

/-! # Segments: texts taken apart at a separator, and what is below a path of names -/
namespace Snippetry
namespace Text

variable {sep : Char} {s t : Text} {pieces : List Text}

/-! ## Taking apart and joining -/

theorem splitOn_eq_splitOn (sep : Char) (t : Text) : splitOn sep t = List.splitOn sep t := by
  induction t with
  | nil => rw [splitOn, List.splitOn_nil]
  | cons c t ih =>
    rw [splitOn, List.splitOn_cons_eq_if_modifyHead, ih]
    have hne := List.splitOn_ne_nil sep t
    cases hsplit : List.splitOn sep t with
    | nil => exact absurd hsplit hne
    | cons piece pieces => by_cases h : c = sep <;> simp [h]

theorem splitOn_ne_nil (sep : Char) (t : Text) : splitOn sep t ≠ [] :=
  splitOn_eq_splitOn sep t ▸ List.splitOn_ne_nil sep t

theorem splitOn_append_cons (s t : Text) :
    splitOn sep (s ++ sep :: t) = splitOn sep s ++ splitOn sep t := by
  simp only [splitOn_eq_splitOn]
  exact List.splitOn_append_cons_self ..

@[simp] theorem join_splitOn (sep : Char) (t : Text) : join [sep] (splitOn sep t) = t := by
  rw [splitOn_eq_splitOn]
  exact List.intercalate_splitOn sep

theorem splitOn_join (hne : pieces ≠ []) (h : ∀ piece ∈ pieces, sep ∉ piece) :
    splitOn sep (join [sep] pieces) = pieces := by
  rw [splitOn_eq_splitOn]
  exact List.splitOn_intercalate sep h hne

theorem splitOn_of_notMem (h : sep ∉ t) : splitOn sep t = [t] := by
  have hsplit : splitOn sep (join [sep] [t]) = [t] := splitOn_join (by simp) (by simpa using h)
  rwa [join, List.intercalate_singleton] at hsplit

/-- Pieces that are each followed by a separator leave nothing after the last one. -/
theorem splitOn_flatMap (h : ∀ piece ∈ pieces, sep ∉ piece) :
    splitOn sep (pieces.flatMap (· ++ [sep])) = pieces ++ [[]] := by
  induction pieces with
  | nil => rfl
  | cons piece pieces ih =>
    obtain ⟨hpiece, hpieces⟩ := List.forall_mem_cons.mp h
    rw [List.flatMap_cons, List.append_assoc, List.singleton_append, splitOn_append_cons,
      splitOn_of_notMem hpiece, ih hpieces]
    rfl

theorem splitOn_injective (sep : Char) (h : splitOn sep s = splitOn sep t) : s = t := by
  rw [← join_splitOn sep s, h, join_splitOn]

theorem mem_of_mem_join {c : Char} (h : c ∈ join [sep] pieces) :
    c = sep ∨ ∃ piece ∈ pieces, c ∈ piece := by
  induction pieces with
  | nil => cases h
  | cons piece pieces ih =>
    cases pieces with
    | nil => exact .inr ⟨piece, List.mem_singleton_self _, by simpa [join] using h⟩
    | cons piece' pieces =>
      rw [join, List.intercalate_cons_cons, List.append_assoc, List.mem_append] at h
      rcases h with h | h
      · exact .inr ⟨piece, List.mem_cons_self, h⟩
      · rcases List.mem_cons.mp h with rfl | h
        · exact .inl rfl
        · exact (ih h).imp_right fun ⟨p, hp, hc⟩ => ⟨p, .tail _ hp, hc⟩

/-- Different names are joined to different texts. -/
theorem join_injective {pieces' : List Text} (h : ∀ piece ∈ pieces, piece ≠ [] ∧ sep ∉ piece)
    (h' : ∀ piece ∈ pieces', piece ≠ [] ∧ sep ∉ piece)
    (heq : join [sep] pieces = join [sep] pieces') : pieces = pieces' := by
  have hnil : ∀ {ps : List Text}, (∀ piece ∈ ps, piece ≠ [] ∧ sep ∉ piece) →
      join [sep] ps = [] → ps = [] := by
    intro ps hps hempty
    by_contra hne
    have hsplit := splitOn_join hne fun piece hpiece => (hps piece hpiece).2
    rw [hempty] at hsplit
    exact (hps [] (hsplit ▸ List.mem_singleton_self _)).1 rfl
  by_cases hempty : join [sep] pieces = []
  · rw [hnil h hempty, hnil h' (heq ▸ hempty)]
  · have hne : ∀ {ps : List Text}, join [sep] ps = join [sep] pieces → ps ≠ [] := by
      rintro _ hps rfl
      exact hempty hps.symm
    rw [← splitOn_join (hne rfl) fun piece hpiece => (h piece hpiece).2, heq,
      splitOn_join (hne heq.symm) fun piece hpiece => (h' piece hpiece).2]

theorem not_mem_of_mem_splitOn {piece : Text} (h : piece ∈ splitOn sep t) : sep ∉ piece := by
  induction t generalizing piece with
  | nil => simp_all [splitOn]
  | cons c t ih =>
    rw [splitOn] at h
    split_ifs at h with hc
    · rcases List.mem_cons.mp h with rfl | h
      · exact List.not_mem_nil
      · exact ih h
    · split at h
      · have hpiece : piece = [c] := List.mem_singleton.mp h
        simpa [hpiece] using Ne.symm hc
      · rename_i first rest hsplit
        rcases List.mem_cons.mp h with rfl | h
        · have hfirst : sep ∉ first := ih (hsplit ▸ List.mem_cons_self)
          simpa [hfirst] using Ne.symm hc
        · exact ih (hsplit ▸ List.mem_cons_of_mem _ h)

/-- A text with a separator after it begins another if its pieces come first there, and there are
more. -/
theorem append_sep_prefix_iff : s ++ [sep] <+: t
    ↔ splitOn sep s <+: splitOn sep t ∧ splitOn sep s ≠ splitOn sep t := by
  constructor
  · rintro ⟨rest, rfl⟩
    rw [List.append_assoc, List.singleton_append, splitOn_append_cons]
    refine ⟨List.prefix_append .., fun h => splitOn_ne_nil sep rest ?_⟩
    simpa using h
  · rintro ⟨⟨rest, hrest⟩, hne⟩
    have hpieces : splitOn sep (join [sep] rest) = rest := by
      refine splitOn_join ?_ fun piece hpiece => ?_
      · rintro rfl
        exact hne (by simpa using hrest)
      · exact not_mem_of_mem_splitOn (hrest ▸ List.mem_append_right _ hpiece)
    refine ⟨join [sep] rest, splitOn_injective sep ?_⟩
    rw [List.append_assoc, List.singleton_append, splitOn_append_cons, hpieces, hrest]

/-! ## Separators at the ends -/

theorem head?_splitOn (hne : t ≠ []) : (splitOn sep t).head? = some [] ↔ t.head? = some sep := by
  obtain ⟨c, t, rfl⟩ := List.exists_cons_of_ne_nil hne
  have hrest := splitOn_ne_nil sep t
  rw [splitOn]
  by_cases hc : c = sep
  · simp [hc]
  · cases hsplit : splitOn sep t with
    | nil => exact absurd hsplit hrest
    | cons piece pieces => simp [hc]

theorem getLast?_splitOn (h : t.getLast? = some sep) : (splitOn sep t).getLast? = some [] := by
  obtain ⟨s, rfl⟩ := List.getLast?_eq_some_iff.mp h
  rw [splitOn_append_cons]
  simp [splitOn]

/-! ## The first separator -/

theorem splitFirst?_cons (sep c : Char) (t : Text) : splitFirst? [sep] (c :: t)
    = if sep = c then some ([], t)
      else (splitFirst? [sep] t).map fun (before, after) => (c :: before, after) := by
  by_cases h : sep = c <;> simp [splitFirst?, List.isPrefixOf?, h]

theorem splitFirst?_eq_some_iff {before after : Text} :
    splitFirst? [sep] t = some (before, after) ↔ sep ∉ before ∧ t = before ++ sep :: after := by
  induction t generalizing before with
  | nil => simp [splitFirst?]
  | cons c t ih =>
    rw [splitFirst?_cons]
    split_ifs with h
    · subst h
      cases before with
      | nil => simp
      | cons b before =>
        simp only [List.mem_cons, not_or, List.cons_append, List.cons.injEq]
        exact iff_of_false (by simp) fun hsplit => hsplit.1.1 hsplit.2.1
    · constructor
      · intro hsome
        obtain ⟨⟨first, rest⟩, hsplit, heq⟩ := Option.map_eq_some_iff.mp hsome
        cases heq
        obtain ⟨hnot, rfl⟩ := ih.mp hsplit
        exact ⟨by simp [h, hnot], rfl⟩
      · rintro ⟨hnot, heq⟩
        cases before with
        | nil => exact absurd (List.cons.inj heq).1.symm h
        | cons b before =>
          obtain ⟨rfl, rfl⟩ := List.cons.inj heq
          rw [ih.mpr ⟨fun hmem => hnot (.tail _ hmem), rfl⟩]
          rfl

/-! ## Separators around a text -/

/-- A text between separators, which has none at its ends. -/
structure Core (sep : Char) (t core : Text) : Prop where
  around : ∃ m n, t = List.replicate m sep ++ core ++ List.replicate n sep
  first : core.head? ≠ some sep
  last : core.getLast? ≠ some sep

theorem dropWhile_replicate_append (sep : Char) (n : Nat) (h : t.head? ≠ some sep) :
    (List.replicate n sep ++ t).dropWhile (· = sep) = t := by
  induction n with
  | zero =>
    cases t with
    | nil => rfl
    | cons c t =>
      have hc : c ≠ sep := by simpa using h
      simp [hc]
  | succ n ih => simpa [List.replicate_succ, List.dropWhile_cons] using ih

/-- Separators at the end are dropped as those at the start are, from the text the other way round. -/
theorem chop_append_replicate (sep : Char) (n : Nat) (h : t.getLast? ≠ some sep) :
    ((t ++ List.replicate n sep).reverse.dropWhile (· = sep)).reverse = t := by
  have hhead : t.reverse.head? ≠ some sep := by rwa [List.head?_reverse]
  rw [List.reverse_append, List.reverse_replicate, dropWhile_replicate_append sep n hhead,
    List.reverse_reverse]

theorem exists_replicate_append_dropWhile (sep : Char) (t : Text) :
    (∃ n, t = List.replicate n sep ++ t.dropWhile (· = sep))
      ∧ (t.dropWhile (· = sep)).head? ≠ some sep := by
  induction t with
  | nil => exact ⟨⟨0, rfl⟩, by simp⟩
  | cons c t ih =>
    by_cases hc : c = sep
    · subst hc
      obtain ⟨⟨n, hn⟩, hhead⟩ := ih
      have hdrop : (c :: t).dropWhile (· = c) = t.dropWhile (· = c) := by simp
      rw [hdrop]
      exact ⟨⟨n + 1, by rw [List.replicate_succ, List.cons_append, ← hn]⟩, hhead⟩
    · have hdrop : (c :: t).dropWhile (· = sep) = c :: t := by simp [hc]
      rw [hdrop]
      exact ⟨⟨0, rfl⟩, by simpa using hc⟩

end Text
end Snippetry
