import Mathlib.Data.Char
import Mathlib.Data.List.Lex
import Snippetry.Config

/-! # Tables: what a key stands for, and the order of the keys -/
namespace Snippetry

theorem Text.lookup_cons {α : Type} (k : Text) (entry : Text × α) (entries : List (Text × α)) :
    List.lookup k (entry :: entries) = if k = entry.1 then some entry.2 else entries.lookup k := by
  rw [List.lookup_cons]
  by_cases h : k = entry.1
  · simp [h]
  · simp [h, beq_eq_false_iff_ne.mpr h]

theorem Text.mem_of_lookup {α : Type} {entries : List (Text × α)} {k : Text} {a : α}
    (h : entries.lookup k = some a) : (k, a) ∈ entries := by
  obtain ⟨before, after, rfl, -⟩ := List.lookup_eq_some_iff.mp h
  simp

theorem Text.lookup_of_mem {α : Type} {entries : List (Text × α)}
    (hdistinct : (entries.map Prod.fst).Nodup) {k : Text} {a : α} (h : (k, a) ∈ entries) :
    entries.lookup k = some a := by
  induction entries with
  | nil => cases h
  | cons entry entries ih =>
    obtain ⟨hfirst, hrest⟩ := List.nodup_cons.mp hdistinct
    rw [Text.lookup_cons]
    rcases List.mem_cons.mp h with rfl | h
    · exact if_pos rfl
    · have hne : k ≠ entry.1 := fun heq => hfirst (heq ▸ List.mem_map_of_mem h)
      rw [if_neg hne]
      exact ih hrest h

namespace Table

open Text (lookup_cons)

/-- The keys increase, so that each stands once. -/
def Sorted (t : Table) : Prop := t.Pairwise fun a b => a.1 < b.1

/-! ## Values -/

theorem lookup_insert (k key value : Text) (t : Table) :
    (t.insert key value).lookup k = if k = key then some value else t.lookup k := by
  induction t with
  | nil => rw [insert, lookup_cons]
  | cons entry t ih =>
    obtain ⟨name, v⟩ := entry
    rw [insert]
    split_ifs <;> grind [lookup_cons]

/-- Of the new values for a key the last one counts, and without one the old value. -/
theorem lookup_insertAll (k : Text) (t : Table) (entries : List (Text × Text)) :
    (t.insertAll entries).lookup k = (entries.reverse.lookup k).or (t.lookup k) := by
  induction entries generalizing t with
  | nil => rfl
  | cons entry entries ih =>
    obtain ⟨key, value⟩ := entry
    have hrest : (t.insertAll ((key, value) :: entries)).lookup k
        = (entries.reverse.lookup k).or ((t.insert key value).lookup k) := ih _
    rw [hrest, lookup_insert, List.reverse_cons, List.lookup_append, Option.or_assoc]
    by_cases h : k = key <;> simp [h]

/-! ## Order -/

/-- The keys of the table and the one inserted. -/
theorem key_of_mem_insert {e : Text × Text} {key value : Text} {t : Table}
    (h : e ∈ t.insert key value) : e.1 = key ∨ e ∈ t := by
  induction t with
  | nil => simp_all [insert]
  | cons entry t ih =>
    rw [insert] at h
    split_ifs at h <;> grind

theorem Sorted.insert {t : Table} (ht : t.Sorted) (key value : Text) :
    (t.insert key value).Sorted := by
  induction t with
  | nil => exact List.pairwise_singleton _ _
  | cons entry t ih =>
    obtain ⟨name, v⟩ := entry
    obtain ⟨hname, htail⟩ := List.pairwise_cons.mp ht
    rw [Table.insert]
    split_ifs with heq hlt
    · exact List.pairwise_cons.mpr ⟨fun e he => heq ▸ hname e he, htail⟩
    · refine List.pairwise_cons.mpr ⟨fun e he => ?_, ht⟩
      rcases List.mem_cons.mp he with rfl | he
      · exact hlt
      · exact hlt.trans (hname e he)
    · refine List.pairwise_cons.mpr ⟨fun e he => ?_, ih htail⟩
      rcases key_of_mem_insert he with hkey | he
      · rw [hkey]
        exact lt_of_le_of_ne (not_lt.mp hlt) heq
      · exact hname e he

theorem Sorted.insertAll {t : Table} (ht : t.Sorted) (entries : List (Text × Text)) :
    (t.insertAll entries).Sorted := by
  induction entries generalizing t with
  | nil => exact ht
  | cons entry entries ih => exact ih (ht.insert entry.1 entry.2)

/-- In a sorted table the first value for a key is also the last. -/
theorem Sorted.lookup_reverse {t : Table} (ht : t.Sorted) (k : Text) :
    t.reverse.lookup k = t.lookup k := by
  induction t with
  | nil => rfl
  | cons entry t ih =>
    obtain ⟨name, v⟩ := entry
    obtain ⟨hname, htail⟩ := List.pairwise_cons.mp ht
    rw [List.reverse_cons, List.lookup_append, ih htail]
    by_cases h : k = name
    · have hnone : t.lookup k = none := by
        refine List.lookup_eq_none_iff.mpr fun e he => ?_
        simpa [h] using (hname e he).ne
      rw [hnone, Option.none_or, lookup_cons, lookup_cons, if_pos h, if_pos h]
    · rw [lookup_cons, lookup_cons, if_neg h, if_neg h]
      exact Option.or_none

end Table

/-! ## Tables that are read -/

theorem Toml.Value.sorted_of_textTable? {v : Value} {t : Table} (h : v.textTable? = some t) :
    t.Sorted := by
  have hnil : Table.Sorted [] := List.Pairwise.nil
  cases v with
  | table origin fields =>
    obtain ⟨entries, -, ht⟩ := Option.bind_eq_some_iff.mp h
    rw [← Option.some.inj ht]
    exact hnil.insertAll entries
  | datetime d =>
    rw [← Option.some.inj h]
    exact List.pairwise_singleton _ _
  | _ => cases h

namespace Config

theorem env_of_decodeRun {c c' : Config} {v : Toml.Value} (h : c.decodeRun v = some c') :
    c'.env = c.env := by
  simp only [decodeRun, Option.bind_eq_bind, Option.bind_eq_some_iff] at h
  obtain ⟨_, _, _, _, _, _, _, _, hc⟩ := h
  rw [← Option.some.inj hc]

theorem sorted_env_of_decode {fields : Toml.Fields} {c : Config} (h : decode fields = some c) :
    c.env.Sorted := by
  simp only [decode, Option.bind_eq_bind, Option.bind_eq_some_iff] at h
  obtain ⟨fields, -, fences, -, missing, -, env, henv, interpreters, -, h⟩ := h
  have hsorted : env.Sorted := by
    unfold Toml.Fields.get? at henv
    split at henv
    · exact Toml.Value.sorted_of_textTable? henv
    · rw [← Option.some.inj henv]
      exact List.Pairwise.nil
  unfold Toml.Fields.get? at h
  split at h
  · rwa [env_of_decodeRun h]
  · rwa [← Option.some.inj h]

/-- Whatever configuration a program runs with, its variables are in order. -/
theorem sorted_env_of_load {files : Files} {explicit : Option Text} {c : Config}
    (h : (load files explicit).1 = .ok c) : c.env.Sorted := by
  unfold load at h
  split at h
  · cases h
    exact List.Pairwise.nil
  · simp only [readFrom] at h
    split at h
    · cases h
    · split at h
      · cases h
      · cases h
        rename_i hparse
        obtain ⟨fields, -, hdecode⟩ := Option.bind_eq_some_iff.mp hparse
        exact sorted_env_of_decode hdecode

end Config
end Snippetry
