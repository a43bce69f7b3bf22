import Mathlib.Data.List.TakeWhile
import Snippetry.Fence.Plain

/-! # The blocks of a source with plain fences

A block goes from a fence with a tag to the next fence, whatever that carries, and what comes between
blocks opens none. Every sequence of lines has exactly one such layout. -/
namespace Snippetry

theorem isWord_eq_false_of_isBlank {c : Char} (h : isBlank c = true) : isWord c = false := by
  have hall : ∀ n ∈ [9, 10, 11, 12, 13, 0x20, 0x85, 0xA0, 0x1680, 0x2000, 0x2001, 0x2002, 0x2003, 0x2004,
      0x2005, 0x2006, 0x2007, 0x2008, 0x2009, 0x200A, 0x2028, 0x2029, 0x202F, 0x205F, 0x3000],
      isWord (Char.ofNat n) = false := by decide +kernel
  rw [← Char.ofNat_toNat c]
  apply hall
  simp only [isBlank, decide_eq_true_eq] at h
  simp only [List.mem_cons, List.not_mem_nil, or_false]
  omega

namespace Plain

def IsFence (line : Text) : Prop := List.replicate 3 '\x60' <+: line

/-- After all ticks, and perhaps blanks, comes a word, which is as long as can be. -/
inductive Tagged : Text → Text → Prop
  | intro {ticks blanks tag rest : Text} (many : 3 ≤ ticks.length) (ht : ∀ c ∈ ticks, c = '\x60')
      (hb : ∀ c ∈ blanks, isBlank c = true) (word : tag ≠ []) (hw : ∀ c ∈ tag, isWord c = true)
      (longest : ∀ c ∈ rest.head?, isWord c = false) : Tagged (ticks ++ (blanks ++ (tag ++ rest))) tag

section Fences

theorem takeWhile_append_of_head {p : Char → Bool} {s t : Text} (hs : ∀ c ∈ s, p c = true)
    (ht : ∀ c ∈ t.head?, p c = false) : (s ++ t).takeWhile p = s := by
  rw [List.takeWhile_append_of_pos hs]
  cases t with
  | nil => simp
  | cons c t => simp [ht c (by simp)]

theorem dropWhile_append_of_head {p : Char → Bool} {s t : Text} (hs : ∀ c ∈ s, p c = true)
    (ht : ∀ c ∈ t.head?, p c = false) : (s ++ t).dropWhile p = t := by
  rw [List.dropWhile_append_of_pos hs]
  cases t with
  | nil => rfl
  | cons c t => simp [ht c (by simp)]

theorem head?_dropWhile {p : Char → Bool} {t : Text} : ∀ c ∈ (t.dropWhile p).head?, p c = false := by
  intro c hc
  have h := List.head?_dropWhile_not p t
  rw [Option.mem_def.mp hc] at h
  simpa using h

theorem drop_length_takeWhile (p : Char → Bool) (t : Text) :
    t.drop (t.takeWhile p).length = t.dropWhile p := by
  have h : (t.takeWhile p ++ t.dropWhile p).drop (t.takeWhile p).length = t.dropWhile p :=
    List.drop_left
  rwa [List.takeWhile_append_dropWhile] at h

theorem fence?_eq (line : Text) : fence? line = if 3 ≤ (line.takeWhile isTick).length then
    some (Text.word? ((line.dropWhile isTick).dropWhile isBlank)) else none := by
  simp only [fence?, drop_length_takeWhile, Text.trimStart]
  by_cases h : 3 ≤ (line.takeWhile isTick).length
  · simp [h, Nat.not_lt.mpr h]
  · simp [h, Nat.lt_of_not_le h]

theorem isFence_iff {line : Text} : IsFence line ↔ 3 ≤ (line.takeWhile isTick).length := by
  constructor
  · rintro ⟨rest, rfl⟩
    rw [List.takeWhile_append_of_pos (by simp [isTick])]
    simp
  · intro h
    have hticks : line.takeWhile isTick = List.replicate (line.takeWhile isTick).length '\x60' :=
      List.eq_replicate_of_mem fun c hc => by simpa [isTick] using List.mem_takeWhile_imp hc
    obtain ⟨n, hn⟩ := Nat.exists_eq_add_of_le h
    rw [hn, ← List.replicate_append_replicate] at hticks
    exact List.IsPrefix.trans ⟨_, hticks.symm⟩ (List.takeWhile_prefix isTick)

theorem fence?_isSome_iff {line : Text} : (fence? line).isSome = true ↔ IsFence line := by
  rw [isFence_iff, fence?_eq]
  split <;> simp [*]

theorem word?_eq_some_iff {t w : Text} : Text.word? t = some w ↔
    w ≠ [] ∧ (∀ c ∈ w, isWord c = true) ∧ ∃ rest, t = w ++ rest ∧ ∀ c ∈ rest.head?, isWord c = false := by
  constructor
  · intro h
    simp only [Text.word?] at h
    split at h
    · cases h
    · next hn =>
      cases h
      exact ⟨hn, fun c hc => List.mem_takeWhile_imp hc, t.dropWhile isWord,
        List.takeWhile_append_dropWhile.symm, head?_dropWhile⟩
  · rintro ⟨hn, hw, rest, rfl, hr⟩
    simp [Text.word?, takeWhile_append_of_head hw hr, hn]

theorem isTick_eq_false {c : Char} (h : isBlank c = true ∨ isWord c = true) : isTick c = false := by
  by_contra ht
  have hc : c = '\x60' := by simpa [isTick] using ht
  subst hc
  revert h
  decide

/-- The tag that a scan finds on a fence is the one that is there. -/
theorem fence?_eq_tag_iff {line tag : Text} : fence? line = some (some tag) ↔ Tagged line tag := by
  rw [fence?_eq]
  constructor
  · intro h
    split at h
    · next many =>
      obtain ⟨hn, hw, rest, hrest, hr⟩ := word?_eq_some_iff.mp (Option.some.inj h)
      have hline : line = line.takeWhile isTick ++
          ((line.dropWhile isTick).takeWhile isBlank ++ (tag ++ rest)) := by
        rw [← hrest, List.takeWhile_append_dropWhile, List.takeWhile_append_dropWhile]
      rw [hline]
      exact .intro many (fun c hc => by simpa [isTick] using List.mem_takeWhile_imp hc)
        (fun c hc => List.mem_takeWhile_imp hc) hn hw hr
    · cases h
  · rintro ⟨many, ht, hb, hn, hw, hr⟩
    next ticks blanks rest =>
    have hword : ∀ c ∈ (tag ++ rest).head?, isWord c = true := by
      obtain ⟨b, w, rfl⟩ := List.exists_cons_of_ne_nil hn
      intro c hc
      exact hw c (List.mem_of_mem_head? (l := b :: w) hc)
    have hblank : ∀ c ∈ (tag ++ rest).head?, isBlank c = false := by
      intro c hc
      by_contra h
      cases (hword c hc).symm.trans (isWord_eq_false_of_isBlank (by simpa using h))
    have htick : ∀ c ∈ (blanks ++ (tag ++ rest)).head?, isTick c = false := by
      intro c hc
      cases blanks with
      | nil => exact isTick_eq_false (.inr (hword c hc))
      | cons b blanks => exact isTick_eq_false (.inl (hb c (List.mem_of_mem_head? hc)))
    have hticks : ∀ c ∈ ticks, isTick c = true := fun c hc => by simpa [isTick] using ht c hc
    rw [takeWhile_append_of_head hticks htick, if_pos many, dropWhile_append_of_head hticks htick,
      dropWhile_append_of_head hb hblank, word?_eq_some_iff.mpr ⟨hn, hw, rest, rfl, hr⟩]

theorem not_tagged_of_not_isFence {line : Text} (h : ¬ IsFence line) (tag : Text) :
    ¬ Tagged line tag := by
  intro ht
  exact h (fence?_isSome_iff.mp (by rw [fence?_eq_tag_iff.mpr ht]; rfl))

theorem Tagged.isWord {line tag : Text} (h : Tagged line tag) : ∀ c ∈ tag, isWord c = true := by
  obtain ⟨-, -, -, -, hw, -⟩ := h
  exact hw

end Fences

structure Block where
  opener : Line
  tag : Text
  body : List Line
  closer : Option Line

/-- A block begins at the first fence with a tag after the block before it. -/
inductive Layout : List Line → List Block → Prop
  | outside {lines : List Line} (plain : ∀ l ∈ lines, ∀ tag, ¬ Tagged l.text tag) : Layout lines []
  | unclosed {before body : List Line} {opener : Line} {tag : Text}
      (plain : ∀ l ∈ before, ∀ tag, ¬ Tagged l.text tag) (opens : Tagged opener.text tag)
      (inner : ∀ l ∈ body, ¬ IsFence l.text) :
      Layout (before ++ opener :: body) [⟨opener, tag, body, none⟩]
  | closed {before body rest : List Line} {opener closer : Line} {tag : Text} {blocks : List Block}
      (plain : ∀ l ∈ before, ∀ tag, ¬ Tagged l.text tag) (opens : Tagged opener.text tag)
      (inner : ∀ l ∈ body, ¬ IsFence l.text) (closes : IsFence closer.text)
      (after : Layout rest blocks) :
      Layout (before ++ opener :: (body ++ closer :: rest)) (⟨opener, tag, body, some closer⟩ :: blocks)

section Uniqueness

variable {α : Type} {p : α → Prop}

/-- Up to the first element of a kind, if there is one. -/
theorem exists_first (p : α → Prop) (l : List α) : (∀ a ∈ l, ¬ p a) ∨
    ∃ before a after, l = before ++ a :: after ∧ (∀ b ∈ before, ¬ p b) ∧ p a := by
  induction l with
  | nil => simp
  | cons a l ih =>
    by_cases ha : p a
    · exact .inr ⟨[], a, l, rfl, by simp, ha⟩
    · rcases ih with hl | ⟨before, b, after, rfl, hb, hpb⟩
      · exact .inl (by simpa [ha] using hl)
      · exact .inr ⟨a :: before, b, after, rfl, by simpa [ha] using hb, hpb⟩

theorem first_unique {before before' after after' : List α} {a a' : α} (hb : ∀ b ∈ before, ¬ p b)
    (hb' : ∀ b ∈ before', ¬ p b) (ha : p a) (ha' : p a')
    (h : before ++ a :: after = before' ++ a' :: after') :
    before = before' ∧ a = a' ∧ after = after' := by
  induction before generalizing before' with
  | nil =>
    cases before' with
    | nil => simpa using h
    | cons b before' =>
      obtain ⟨rfl, -⟩ := List.cons.inj h
      exact absurd ha (hb' _ List.mem_cons_self)
  | cons c before ih =>
    cases before' with
    | nil =>
      obtain ⟨rfl, -⟩ := List.cons.inj h
      exact absurd ha' (hb _ List.mem_cons_self)
    | cons b before' =>
      obtain ⟨rfl, htail⟩ := List.cons.inj h
      obtain ⟨rfl, hrest⟩ := ih (fun b hm => hb b (List.mem_cons_of_mem _ hm))
        (fun b hm => hb' b (List.mem_cons_of_mem _ hm)) htail
      exact ⟨rfl, hrest⟩

end Uniqueness

theorem exists_layout (lines : List Line) : ∃ blocks, Layout lines blocks := by
  induction hn : lines.length using Nat.strongRecOn generalizing lines with
  | _ n ih =>
    rcases exists_first (fun l : Line => ∃ tag, Tagged l.text tag) lines with
      hnone | ⟨before, opener, after, rfl, hb, tag, htag⟩
    · exact ⟨[], .outside fun l hl tag ht => hnone l hl ⟨tag, ht⟩⟩
    have hplain : ∀ l ∈ before, ∀ tag, ¬ Tagged l.text tag := fun l hl tag ht => hb l hl ⟨tag, ht⟩
    rcases exists_first (fun l : Line => IsFence l.text) after with
      hinner | ⟨body, closer, rest, rfl, hinner, hclose⟩
    · exact ⟨_, .unclosed hplain htag hinner⟩
    · obtain ⟨blocks, hblocks⟩ := ih rest.length (by simp at hn; omega) rest rfl
      exact ⟨_, .closed hplain htag hinner hclose hblocks⟩

theorem tag_unique {line tag tag' : Text} (h : Tagged line tag) (h' : Tagged line tag') :
    tag = tag' :=
  Option.some.inj (Option.some.inj ((fence?_eq_tag_iff.mpr h).symm.trans (fence?_eq_tag_iff.mpr h')))

theorem Layout.mem_body {lines : List Line} {blocks : List Block} (h : Layout lines blocks) {b : Block}
    (hb : b ∈ blocks) {l : Line} (hl : l ∈ b.body) : l ∈ lines := by
  induction h with
  | outside => simp at hb
  | unclosed =>
    obtain rfl := List.mem_singleton.mp hb
    simp [hl]
  | closed _ _ _ _ _ ih =>
    rcases List.mem_cons.mp hb with rfl | hb
    · simp [hl]
    · simp [ih hb]

theorem Layout.tagged_of_mem {lines : List Line} {blocks : List Block} (h : Layout lines blocks)
    {b : Block} (hb : b ∈ blocks) :
    Tagged b.opener.text b.tag ∧ ∀ l ∈ b.body, ¬ IsFence l.text := by
  induction h with
  | outside => cases hb
  | unclosed _ opens inner =>
    rw [List.mem_singleton.mp hb]
    exact ⟨opens, inner⟩
  | closed _ opens inner _ _ ih =>
    rcases List.mem_cons.mp hb with rfl | hb
    · exact ⟨opens, inner⟩
    · exact ih hb

theorem Layout.of_plain {lines : List Line} {blocks : List Block} (h : Layout lines blocks)
    (plain : ∀ l ∈ lines, ∀ tag, ¬ Tagged l.text tag) : blocks = [] := by
  cases h with
  | outside => rfl
  | unclosed _ opens => exact absurd opens (plain _ (by simp) _)
  | closed _ opens => exact absurd opens (plain _ (by simp) _)

/-- What follows the first fence with a tag makes the first block. -/
theorem Layout.of_opener {before after : List Line} {opener : Line} {tag : Text}
    {blocks : List Block} (h : Layout (before ++ opener :: after) blocks)
    (plain : ∀ l ∈ before, ∀ tag, ¬ Tagged l.text tag) (opens : Tagged opener.text tag) :
    ((∀ l ∈ after, ¬ IsFence l.text) ∧ blocks = [⟨opener, tag, after, none⟩]) ∨
      ∃ body closer rest later, after = body ++ closer :: rest ∧ (∀ l ∈ body, ¬ IsFence l.text) ∧
        IsFence closer.text ∧ Layout rest later ∧ blocks = ⟨opener, tag, body, some closer⟩ :: later := by
  have hbefore : ∀ l ∈ before, ¬ ∃ tag, Tagged l.text tag := fun l hl ⟨t, ht⟩ => plain l hl t ht
  generalize hlines : before ++ opener :: after = lines at h
  cases h with
  | outside hnone => exact absurd opens (hnone opener (by simp [← hlines]) tag)
  | @unclosed before' body opener' tag' plain' opens' inner =>
    obtain ⟨rfl, rfl, rfl⟩ := first_unique (p := fun l : Line => ∃ tag, Tagged l.text tag) hbefore
      (fun l hl ⟨t, ht⟩ => plain' l hl t ht) ⟨tag, opens⟩ ⟨tag', opens'⟩ hlines
    exact .inl ⟨inner, by rw [tag_unique opens opens']⟩
  | @closed before' body rest opener' closer tag' later plain' opens' inner closes later' =>
    obtain ⟨rfl, rfl, rfl⟩ := first_unique (p := fun l : Line => ∃ tag, Tagged l.text tag) hbefore
      (fun l hl ⟨t, ht⟩ => plain' l hl t ht) ⟨tag, opens⟩ ⟨tag', opens'⟩ hlines
    exact .inr ⟨body, closer, rest, later, rfl, inner, closes, later', by rw [tag_unique opens opens']⟩

theorem Layout.unique {lines : List Line} {blocks blocks' : List Block} (h : Layout lines blocks)
    (h' : Layout lines blocks') : blocks' = blocks := by
  induction h generalizing blocks' with
  | outside plain => exact h'.of_plain plain
  | unclosed plain opens inner =>
    rcases h'.of_opener plain opens with ⟨-, he⟩ | ⟨body, closer, rest, later, rfl, -, hclose, -, -⟩
    · exact he
    · exact absurd hclose (inner closer (by simp))
  | @closed before body rest opener closer tag blocks plain opens inner closes after ih =>
    rcases h'.of_opener plain opens with
      ⟨hinner, -⟩ | ⟨body', closer', rest', later, he, hinner, hclose, hlater, rfl⟩
    · exact absurd closes (hinner closer (by simp))
    · obtain ⟨rfl, rfl, rfl⟩ := first_unique (p := fun l : Line => IsFence l.text) inner hinner closes
        hclose he
      rw [ih hlater]

end Plain
end Snippetry
