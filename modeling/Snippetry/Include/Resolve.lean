import Snippetry.Include.Walk

/-! # Expanding the snippets of a document -/
namespace Snippetry

open Include

/-- What an attempt to expand returns: the result, the document as it is then, and the log. -/
structure Expanded (α : Type) where
  result : Except IncludeError α
  document : Document
  log : Log

namespace Document

def setting (d : Document) (policy : MissingPolicy) : Setting :=
  ⟨.ofSnippets d.snippets, policy, d.sourceId⟩

/-- Expand the snippet at a position, unless it is expanded already. -/
def expand (setting : Setting) (d : Document) (position : Nat) : Expanded Unit :=
  match d.snippets[position]? with
  | none => ⟨.ok (), d, []⟩
  | some s =>
    if s.isResolved then ⟨.ok (), d, []⟩
    else
      let start : Walk := ⟨d.snippets, d.notices, [], []⟩
      match (start.enter position s).run setting with
      | (w, none) => ⟨.ok (), { d with snippets := w.snippets, notices := w.notices }, w.log⟩
      | (w, some e) => ⟨.error e, { d with snippets := w.abandon, notices := w.notices }, w.log⟩

def position? (setting : Setting) (d : Document) : Target → Option Nat
  | .id id => d.snippets.findIdx? fun s => s.id = some id
  | .name key => setting.index.lookup key

def resolve (d : Document) (policy : MissingPolicy) (target : Target) : Expanded (List Text) :=
  let setting := d.setting policy
  match d.position? setting target with
  | none => ⟨.error (.unknownTarget target), d, []⟩
  | some position =>
    match d.expand setting position with
    | ⟨.error e, d, log⟩ => ⟨.error e, d, log⟩
    | ⟨.ok (), d, log⟩ => ⟨.ok ((d.snippets[position]?.bind Snippet.resolvedLines?).getD []), d, log⟩

/-- Expand the snippets at the given positions in turn, up to the first that fails. -/
def expandEach (setting : Setting) (d : Document) : List Nat → Expanded Unit
  | [] => ⟨.ok (), d, []⟩
  | position :: positions =>
    match d.expand setting position with
    | ⟨.error e, d, log⟩ => ⟨.error e, d, log⟩
    | ⟨.ok (), d, log⟩ =>
      let rest := expandEach setting d positions
      { rest with log := log ++ rest.log }

/-- Expand all snippets in document order. -/
def resolveAll (d : Document) (policy : MissingPolicy) : Expanded Unit :=
  d.expandEach (d.setting policy) (List.range d.snippets.length)

end Document
end Snippetry
