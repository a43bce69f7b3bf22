import Snippetry.Proofs.Include.Flatten

/-! # A snippet being expanded stands for the rest of its flattening

A frame holds the lines gathered so far, the names of the include line at hand and the lines not read
yet. `finish` says what all that comes to by recursion; it does not change while the frame is worked
on, and it is the flattening of the snippet at the start. -/
namespace Snippetry.Include

/-- What more bodies of an include line add, when some of its bodies are there already. -/
def joinAfter (included : Nat) (found : List (List Text)) : List Text :=
  if included = 0 then [[]].intercalate found else found.flatMap ([] :: ·)

theorem intercalate_cons_eq (b : List Text) (found : List (List Text)) :
    [[]].intercalate (b :: found) = b ++ found.flatMap ([] :: ·) := by
  induction found generalizing b with
  | nil => simp
  | cons c found ih => simp [List.intercalate_cons_cons, ih]

namespace Frame

def put (f : Frame) (body : Option (List Text)) : Frame := body.elim f f.splice

@[simp] theorem position_put (f : Frame) (body : Option (List Text)) :
    (f.put body).position = f.position := by cases body <;> rfl

@[simp] theorem label_put (f : Frame) (body : Option (List Text)) :
    (f.put body).label = f.label := by cases body <;> rfl

@[simp] theorem position_read (f : Frame) (line : SourceLine) (unread : List SourceLine) :
    (f.read line unread).position = f.position := by
  unfold read
  cases includeNames? line.text <;> rfl

@[simp] theorem label_read (f : Frame) (line : SourceLine) (unread : List SourceLine) :
    (f.read line unread).label = f.label := by
  unfold read
  cases includeNames? line.text <;> rfl

def left (f : Frame) : List Text := f.pending ++ listed f.unread

@[simp] theorem left_enter (i : Nat) (s : Snippet) : (enter i s).left = listed s.rawLines := rfl

@[simp] theorem left_put (f : Frame) (body : Option (List Text)) : (f.put body).left = f.left := by
  cases body <;> rfl

theorem left_eq_cons {f : Frame} {name : Text} {names : List Text} (hp : f.pending = name :: names) :
    f.left = name :: ({ f with pending := names } : Frame).left := by
  simp [left, hp]

theorem left_read {f : Frame} {line : SourceLine} {unread : List SourceLine} (hp : f.pending = [])
    (hu : f.unread = line :: unread) : (f.read line unread).left = f.left := by
  unfold read left
  cases hi : includeNames? line.text <;> simp [hp, hu, listed, namesOf, hi]

def finish (body : Span → Text → Except IncludeError (Option (List Text))) (f : Frame) :
    Except IncludeError (List Text) := do
  let more ← bodies (body f.span) f.pending
  let rest ← flattenLines body f.unread
  return f.lines ++ joinAfter f.included more ++ rest

theorem lines_splice (f : Frame) (b : List Text) (more : List (List Text)) :
    (f.splice b).lines ++ joinAfter (f.splice b).included more =
      f.lines ++ joinAfter f.included (b :: more) := by
  by_cases h : f.included = 0
  · simp [splice, joinAfter, h, intercalate_cons_eq]
  · simp [splice, joinAfter, h]

section Finish

variable {body : Span → Text → Except IncludeError (Option (List Text))} {f : Frame}

theorem finish_enter (i : Nat) (s : Snippet) :
    finish body (.enter i s) = flattenLines body s.rawLines := by
  simp [finish, enter, bodies, joinAfter]

theorem finish_done (hp : f.pending = []) (hu : f.unread = []) : finish body f = .ok f.lines := by
  simp [finish, hp, hu, bodies, flattenLines, joinAfter, pure, Except.pure]

theorem finish_name {name : Text} {names : List Text} (hp : f.pending = name :: names) :
    finish body f =
      (do finish body (({ f with pending := names } : Frame).put (← body f.span name))) := by
  simp only [finish, hp, bodies, bind_assoc, pure_bind]
  congr 1
  funext b
  cases b with
  | none => rfl
  | some b =>
    simp only [put, Option.elim_some, lines_splice]
    rfl

theorem finish_read {line : SourceLine} {unread : List SourceLine} (hp : f.pending = [])
    (hu : f.unread = line :: unread) : finish body f = finish body (f.read line unread) := by
  unfold read
  cases hi : includeNames? line.text with
  | none => simp [finish, hp, hu, bodies, flattenLines, flattenLine, hi, joinAfter]
  | some names => simp [finish, hp, hu, bodies, flattenLines, flattenLine, hi, joinAfter]

end Finish

end Frame
end Snippetry.Include
