import Snippetry.Proofs.Text.Occurrences
import Snippetry.Proofs.Text.Segments
import Snippetry.TestDocument.Expectations

/-! # Frontmatter: a test document is taken apart where it was put together

A test document is written as a line of dashes, the lines of its frontmatter, another line of dashes and
its source. The second line of dashes is looked for behind a newline. Each line of the frontmatter brings
one, so that whatever the source holds the two parts come out again; but a frontmatter without lines
leaves none between the dashes, and the line that should close it is passed over. -/
namespace Snippetry.TestDocument

def dashes : Text := "---"

structure IsField (line : Text) : Prop where
  newline : '\n' ∉ line
  returned : '\r' ∉ line
  dashes : ¬ dashes <+: line

instance (line : Text) : Decidable (IsField line) :=
  decidable_of_iff ('\n' ∉ line ∧ '\r' ∉ line ∧ ¬ dashes <+: line)
    ⟨fun ⟨h, h', h''⟩ => ⟨h, h', h''⟩, fun h => ⟨h.newline, h.returned, h.dashes⟩⟩

def Dashed (t : Text) : Prop := '\n' :: dashes <:+: '\n' :: t

instance (t : Text) : Decidable (Dashed t) := inferInstanceAs (Decidable (_ <:+: _))

structure Writing where
  /-- How many byte order marks it begins with. -/
  marks : Nat
  /-- Whether there is a carriage return before each newline. -/
  returned : Bool

namespace Writing

variable (w : Writing)

def returns : Text := List.replicate w.returned.toNat '\r'

def ending : Text := w.returns ++ ['\n']

def document (fields : List Text) (source : Text) : Text :=
  List.replicate w.marks byteOrderMark
    ++ (dashes ++ (w.ending ++ (fields.flatMap (· ++ w.ending) ++ (dashes ++ (w.ending ++ source)))))

theorem newline_notMem_returns : '\n' ∉ w.returns := by
  simp [returns]

theorem afterLineEnd_ending (t : Text) : afterLineEnd (w.ending ++ t) = t := by
  obtain ⟨marks, returned⟩ := w
  cases returned <;> rfl

end Writing

/-! ## The line that closes the frontmatter -/

section Closing

variable {fields : List Text} {field : Text} (w : Writing)

/-- A line goes on in its end, but not with dashes. -/
theorem not_dashes_prefix (h : ¬ dashes <+: field) (rest : Text) :
    ¬ dashes <+: field ++ (w.ending ++ rest) := by
  intro hdashed
  have hline : field <+: field ++ (w.ending ++ rest) := List.prefix_append ..
  rcases List.prefix_or_prefix_of_prefix hdashed hline with hshort | ⟨more, hmore⟩
  · exact h hshort
  · rw [← hmore, List.prefix_append_right_inj] at hdashed
    cases more with
    | nil =>
      rw [List.append_nil] at hmore
      exact h (hmore ▸ List.prefix_rfl)
    | cons c more =>
      have hmem : c ∈ dashes := hmore ▸ List.mem_append_right _ List.mem_cons_self
      have hc : c = '-' := by simpa [dashes] using hmem
      obtain ⟨marks, returned⟩ := w
      cases returned <;> simp_all [Writing.ending, Writing.returns]

/-- The dashes behind a frontmatter are the first to follow a newline. -/
theorem splitFirst?_fields (h : ∀ f ∈ field :: fields, IsField f) (rest : Text) :
    Text.splitFirst? ('\n' :: dashes) ((field :: fields).flatMap (· ++ w.ending) ++ (dashes ++ rest))
      = some (Text.join w.ending (field :: fields) ++ w.returns, rest) := by
  have hline {f : Text} (hf : IsField f) : '\n' ∉ f ++ w.returns := by
    simp [hf.newline, w.newline_notMem_returns]
  induction fields generalizing field with
  | nil =>
    have hfield : IsField field := h field List.mem_cons_self
    have happend : [field].flatMap (· ++ w.ending) ++ (dashes ++ rest)
        = field ++ w.returns ++ ('\n' :: dashes ++ rest) := by simp [Writing.ending]
    rw [happend, Text.splitFirst?_append (hline hfield), Text.join, List.intercalate_singleton]
  | cons next fields ih =>
    obtain ⟨hfield, hfields⟩ := List.forall_mem_cons.mp h
    have hnext : IsField next := hfields next List.mem_cons_self
    set further := fields.flatMap (· ++ w.ending) ++ (dashes ++ rest)
    have happend : (field :: next :: fields).flatMap (· ++ w.ending) ++ (dashes ++ rest)
        = field ++ w.returns ++ '\n' :: (next ++ (w.ending ++ further)) := by
      simp [further, Writing.ending]
    have hfurther : (next :: fields).flatMap (· ++ w.ending) ++ (dashes ++ rest)
        = next ++ (w.ending ++ further) := by simp [further]
    have hnone : ('\n' :: dashes).isPrefixOf? ('\n' :: (next ++ (w.ending ++ further))) = none := by
      rw [isPrefixOf?_eq_none_iff, List.cons_prefix_cons]
      exact fun hdashed => not_dashes_prefix w hnext.dashes further hdashed.2
    rw [happend, Text.splitFirst?_append_of_notMem (hline hfield), Text.splitFirst?, hnone, ← hfurther,
      ih hfields]
    simp [Text.join, Writing.ending]

/-- Without lines, the dashes that close the frontmatter are passed over. -/
theorem splitFirst?_no_fields (source : Text) :
    Text.splitFirst? ('\n' :: dashes) (dashes ++ (w.ending ++ source))
      = (Text.splitFirst? ('\n' :: dashes) ('\n' :: source)).map
          fun (before, after) => (dashes ++ w.returns ++ before, after) := by
  have hline : '\n' ∉ dashes ++ w.returns := by
    have hdashes : '\n' ∉ dashes := by decide
    simp [hdashes, w.newline_notMem_returns]
  have happend : dashes ++ (w.ending ++ source) = dashes ++ w.returns ++ '\n' :: source := by
    simp [Writing.ending]
  rw [happend, Text.splitFirst?_append_of_notMem hline]

end Closing

/-! ## The returns before it -/

section Returns

variable {fields : List Text} (w : Writing)

theorem getLast?_join_ne (h : ∀ f ∈ fields, '\r' ∉ f) :
    (Text.join w.ending fields).getLast? ≠ some '\r' := by
  induction fields with
  | nil => simp [Text.join]
  | cons field fields ih =>
    obtain ⟨hfield, hfields⟩ := List.forall_mem_cons.mp h
    cases fields with
    | nil =>
      rw [Text.join, List.intercalate_singleton]
      exact fun hlast => hfield (List.mem_of_getLast? hlast)
    | cons next fields =>
      have hending : w.ending.getLast? = some '\n' := by simp [Writing.ending]
      have hjoin : (Text.join w.ending (next :: fields)).getLast? ≠ some '\r' := ih hfields
      rw [Text.join, List.intercalate_cons_cons, ← Text.join, List.getLast?_append,
        List.getLast?_append, hending]
      cases hlast : (Text.join w.ending (next :: fields)).getLast? with
      | none => simp
      | some c => simpa [hlast] using hjoin

theorem dashes_prefix_chop (t : Text) :
    dashes <+: ((dashes ++ t).reverse.dropWhile (· = '\r')).reverse := by
  have hdashes : dashes.reverse.dropWhile (· = '\r') = dashes.reverse := by decide
  rw [List.reverse_append, List.dropWhile_append, hdashes]
  split_ifs
  · simp
  · simp

end Returns

/-! ## The parts of a test document -/

section Parts

variable {fields : List Text} {source before after : Text} (w : Writing)

/-- The opening dashes are found behind any number of byte order marks. -/
theorem split_document (fields : List Text) (source : Text) : split (w.document fields source)
    = match Text.splitFirst? ('\n' :: dashes)
        (fields.flatMap (· ++ w.ending) ++ (dashes ++ (w.ending ++ source))) with
      | none => .error .noClosing
      | some (before, after) =>
        .ok ⟨(before.reverse.dropWhile (· = '\r')).reverse, afterLineEnd after⟩ := by
  set further := fields.flatMap (· ++ w.ending) ++ (dashes ++ (w.ending ++ source))
  have hmarks : (w.document fields source).dropWhile (· = byteOrderMark)
      = dashes ++ (w.ending ++ further) :=
    Text.dropWhile_replicate_append byteOrderMark w.marks (by simp [dashes, byteOrderMark])
  have hopening : dashes.isPrefixOf? (dashes ++ (w.ending ++ further)) = some (w.ending ++ further) :=
    List.isPrefixOf?_eq_some_iff_append_eq.mpr rfl
  rw [split, hmarks, show ("---" : Text) = dashes from rfl, hopening]
  simp only [w.afterLineEnd_ending]
  rfl

theorem split_document_fields (hne : fields ≠ []) (h : ∀ f ∈ fields, IsField f) (source : Text) :
    split (w.document fields source) = .ok ⟨Text.join w.ending fields, source⟩ := by
  obtain ⟨field, fields, rfl⟩ := List.exists_cons_of_ne_nil hne
  have hlast := getLast?_join_ne w fun f hf => (h f hf).returned
  have hchop := Text.chop_append_replicate '\r' w.returned.toNat hlast
  rw [← Writing.returns] at hchop
  rw [split_document, splitFirst?_fields w h]
  simp only [hchop, w.afterLineEnd_ending]

theorem split_document_no_fields (hsource : ¬ Dashed source) :
    split (w.document [] source) = .error .noClosing := by
  have hnone : Text.splitFirst? ('\n' :: dashes) ('\n' :: source) = none :=
    Text.splitFirst?_eq_none_iff.mpr hsource
  rw [split_document, List.flatMap_nil, List.nil_append, splitFirst?_no_fields, hnone]
  rfl

theorem afterLineEnd_suffix (t : Text) : afterLineEnd t <:+ t := by
  unfold afterLineEnd
  split
  · exact List.suffix_cons ..
  · exact (List.suffix_cons ..).trans (List.suffix_cons ..)
  · exact List.suffix_rfl

/-- A later line of dashes is taken for the one that closes the frontmatter. -/
theorem exists_split_document_no_fields (hsource : Dashed source) : ∃ frontmatter later : Text,
    dashes <+: frontmatter ∧ later <:+ source ∧ later.length < source.length
      ∧ split (w.document [] source) = .ok ⟨frontmatter, later⟩ := by
  cases hfirst : Text.splitFirst? ('\n' :: dashes) ('\n' :: source) with
  | none => exact absurd hsource (Text.splitFirst?_eq_none_iff.mp hfirst)
  | some parts =>
    obtain ⟨before, after⟩ := parts
    have hsource : '\n' :: source = before ++ ('\n' :: dashes ++ after) :=
      Text.eq_append_of_splitFirst? hfirst
    have hlength : after.length + 3 ≤ source.length := by
      have hsum := congrArg List.length hsource
      simp [dashes] at hsum
      omega
    have hafter : after <:+ source := by
      have hcons : after <:+ '\n' :: source := ⟨before ++ '\n' :: dashes, by simp [hsource]⟩
      rcases List.suffix_cons_iff.mp hcons with hall | hsuffix
      · have hsum := congrArg List.length hall
        simp at hsum
        omega
      · exact hsuffix
    have hlater : afterLineEnd after <:+ after := afterLineEnd_suffix after
    refine ⟨((dashes ++ (w.returns ++ before)).reverse.dropWhile (· = '\r')).reverse,
      afterLineEnd after, dashes_prefix_chop _, hlater.trans hafter, ?_, ?_⟩
    · have := hlater.length_le
      omega
    · rw [split_document, List.flatMap_nil, List.nil_append, splitFirst?_no_fields, hfirst,
        ← List.append_assoc]
      rfl

/-- What a test document comes to whose frontmatter was decoded so. -/
def taken (decoded : Option Expectations) (source : Text) :
    Except FrontmatterError (Expectations × Text) :=
  match decoded with
  | some e => .ok (e, source)
  | none => .error .malformed

theorem readWith_of_split {decode? : Text → Option Expectations} {t : Text} {parts : Parts}
    (h : split t = .ok parts) : readWith decode? t = taken (decode? parts.frontmatter) parts.source := by
  rw [readWith, h]
  rfl

/-- With lines in its frontmatter, what is decoded are those lines, and the source is what follows the
dashes behind them. Without, the dashes behind the opening ones are no end: the next line of dashes in
the source is one, or there is none. -/
theorem readWith_document (decode? : Text → Option Expectations) (w : Writing) {fields : List Text}
    (h : ∀ f ∈ fields, IsField f) (source : Text) :
    (fields ≠ [] → readWith decode? (w.document fields source)
        = taken (decode? (Text.join w.ending fields)) source)
      ∧ (fields = [] → ¬ Dashed source →
          readWith decode? (w.document fields source) = .error .noClosing)
      ∧ (fields = [] → Dashed source → ∃ frontmatter later : Text,
          dashes <+: frontmatter ∧ later <:+ source ∧ later.length < source.length
            ∧ readWith decode? (w.document fields source) = taken (decode? frontmatter) later) := by
  refine ⟨?fields, ?unclosed, ?dashed⟩
  case fields =>
    intro hne
    exact readWith_of_split (split_document_fields w hne h source)
  case unclosed =>
    rintro rfl hsource
    rw [readWith, split_document_no_fields w hsource]
    rfl
  case dashed =>
    rintro rfl hsource
    obtain ⟨frontmatter, later, hdashes, hlater, hlength, hsplit⟩ :=
      exists_split_document_no_fields w hsource
    exact ⟨frontmatter, later, hdashes, hlater, hlength, readWith_of_split hsplit⟩

/-- Lines of dashes in the source are left there. -/
theorem read_ruled : ∃ e : Expectations,
    read "\ufeff---\r\nids = '1'\r\n\r\n---\r\n\n---\n```sh\n```\n---" = .ok (e, "\n---\n```sh\n```\n---")
      ∧ e.ids = some "1" := by
  have hfields : ∀ f ∈ (["ids = '1'", ""] : List Text), IsField f := by decide
  have hread := (readWith_document (fun t => do Expectations.decode (← Toml.parse? t)) ⟨1, true⟩ hfields
    "\n---\n```sh\n```\n---").1 (by decide)
  exact ⟨{ Expectations.none with ids := some "1" }, hread, rfl⟩

/-- What stands in a frontmatter of no lines can be decoded, but no document with one can be read. -/
theorem read_unclosed :
    read (Writing.document ⟨0, false⟩ [] "```sh\n```\n") = .error .noClosing
      ∧ taken (do Expectations.decode (← Toml.parse? (Text.join ['\n'] []))) "```sh\n```\n"
        = .ok (Expectations.none, "```sh\n```\n") :=
  ⟨rfl, rfl⟩

end Parts

end Snippetry.TestDocument
