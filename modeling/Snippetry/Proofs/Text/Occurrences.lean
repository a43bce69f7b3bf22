import Mathlib.Data.List.Infix
import Snippetry.Text.Basic

/-! # Occurrences: the first place at which a text stands inside another -/
namespace Snippetry

theorem isPrefixOf?_eq_none_iff {s t : Text} : s.isPrefixOf? t = none ↔ ¬ s <+: t := by
  rw [← Option.not_isSome_iff_eq_none, List.isSome_isPrefixOf?_eq_isPrefixOf, List.isPrefixOf_iff_prefix]

namespace Text

variable {c : Char} {needle t before after : Text}

theorem contains_iff : contains t needle = true ↔ needle <:+: t := by
  induction t with
  | nil =>
    rw [contains, splitFirst?, List.infix_nil]
    split <;> simp [*]
  | cons c t ih =>
    rw [contains] at ih ⊢
    rw [List.infix_cons_iff, ← ih, splitFirst?]
    cases hfits : needle.isPrefixOf? (c :: t) with
    | none =>
      rw [or_iff_right (isPrefixOf?_eq_none_iff.mp hfits)]
      simp
    | some rest =>
      have happend := List.isPrefixOf?_eq_some_iff_append_eq.mp hfits
      exact iff_of_true rfl (.inl ⟨rest, happend⟩)

theorem splitFirst?_eq_none_iff : splitFirst? needle t = none ↔ ¬ needle <:+: t := by
  rw [← contains_iff, contains, Bool.not_eq_true, Option.isSome_eq_false_iff,
    Option.isNone_iff_eq_none]

theorem eq_append_of_splitFirst? (h : splitFirst? needle t = some (before, after)) :
    t = before ++ (needle ++ after) := by
  induction t generalizing before with
  | nil =>
    unfold splitFirst? at h
    split at h
    · next hneedle =>
      cases h
      simp [hneedle]
    · cases h
  | cons c t ih =>
    rw [splitFirst?] at h
    cases hfits : needle.isPrefixOf? (c :: t) with
    | some rest =>
      rw [hfits] at h
      cases h
      exact (List.isPrefixOf?_eq_some_iff_append_eq.mp hfits).symm
    | none =>
      rw [hfits] at h
      obtain ⟨⟨before', after'⟩, hsplit, heq⟩ := Option.map_eq_some_iff.mp h
      cases heq
      rw [List.cons_append, ← ih hsplit]

/-- A needle does not begin in what has not got its first character. -/
theorem splitFirst?_append_of_notMem (h : c ∉ before) (t : Text) :
    splitFirst? (c :: needle) (before ++ t)
      = (splitFirst? (c :: needle) t).map fun (first, rest) => (before ++ first, rest) := by
  induction before with
  | nil => simp
  | cons b before ih =>
    obtain ⟨hne, hbefore⟩ := not_or.mp (mt List.mem_cons.mpr h)
    have hfits : (c :: needle).isPrefixOf? (b :: (before ++ t)) = none := by
      rw [isPrefixOf?_eq_none_iff, List.cons_prefix_cons]
      exact fun hp => hne hp.1
    rw [List.cons_append, splitFirst?, hfits, ih hbefore, Option.map_map]
    rfl

theorem splitFirst?_self (hne : needle ≠ []) (after : Text) :
    splitFirst? needle (needle ++ after) = some ([], after) := by
  obtain ⟨b, rest, rfl⟩ := List.exists_cons_of_ne_nil hne
  have hfits : (b :: rest).isPrefixOf? (b :: (rest ++ after)) = some after :=
    List.isPrefixOf?_eq_some_iff_append_eq.mpr rfl
  rw [List.cons_append, splitFirst?, hfits]

/-- What stands before the first `needle`, and what follows it. -/
theorem splitFirst?_append (h : c ∉ before) :
    splitFirst? (c :: needle) (before ++ (c :: needle ++ after)) = some (before, after) := by
  rw [splitFirst?_append_of_notMem h, splitFirst?_self (List.cons_ne_nil c needle)]
  simp

end Text
end Snippetry
