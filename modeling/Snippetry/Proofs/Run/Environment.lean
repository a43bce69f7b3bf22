import Snippetry.CommandLine.Request
import Snippetry.Proofs.Table
import Snippetry.Proofs.Text.Segments

/-! # The environment of an interpreter: which layer gives a variable its value -/
namespace Snippetry

/-! ## Assignments -/

/-- What stands before the first sign for equality is the variable, what follows is the value. -/
def Assigns (t key value : Text) : Prop := '=' ∉ key ∧ t = key ++ '=' :: value

theorem Assigns.unique {t key key' value value' : Text} (h : Assigns t key value)
    (h' : Assigns t key' value') : key = key' ∧ value = value' := by
  have hsplit := Text.splitFirst?_eq_some_iff.mpr h
  have hsplit' := Text.splitFirst?_eq_some_iff.mpr h'
  simpa using hsplit.symm.trans hsplit'

theorem Assignment.assigns_of_parse? {t : Text} {a : Assignment} (h : parse? t = some a) :
    Assigns t a.key a.value := by
  unfold parse? at h
  split at h
  · cases h
  · rename_i hsplit
    cases h
    exact Text.splitFirst?_eq_some_iff.mp hsplit
  · cases h

/-- The value that the last of the texts for a variable gives it, if there is such a text. -/
inductive Given (key : Text) : List Text → Option Text → Prop
  | last (before after : List Text) {t value : Text} (ht : Assigns t key value)
      (hafter : ∀ u ∈ after, ∀ v, ¬ Assigns u key v) :
      Given key (before ++ t :: after) (some value)
  | never {texts : List Text} (h : ∀ u ∈ texts, ∀ v, ¬ Assigns u key v) : Given key texts none

/-- One more text in front counts if no other is for the variable. -/
theorem Given.cons {key : Text} {texts : List Text} {given : Option Text}
    (h : Given key texts given) {t name value : Text} (ht : Assigns t name value) :
    Given key (t :: texts) (given.or (if key = name then some value else none)) := by
  cases h with
  | last before after hlast hafter => exact .last (t :: before) after hlast hafter
  | never hnever =>
    by_cases hkey : key = name
    · rw [if_pos hkey]
      exact .last [] texts (hkey ▸ ht) hnever
    · rw [if_neg hkey]
      refine .never fun u hu v hv => ?_
      rcases List.mem_cons.mp hu with rfl | hu
      · exact hkey (hv.unique ht).1
      · exact hnever u hu v hv

theorem Given.of_parsed (key : Text) {texts : List Text} {assignments : List Assignment}
    (h : texts.Forall₂ (fun t a => Assignment.parse? t = some a) assignments) :
    Given key texts ((assignments.map fun a => (a.key, a.value)).reverse.lookup key) := by
  induction h with
  | nil => exact .never (by simp)
  | cons hparse _ ih =>
    have hcons := ih.cons (Assignment.assigns_of_parse? hparse)
    rwa [List.map_cons, List.reverse_cons, List.lookup_append, Text.lookup_cons]

/-! ## Layers -/

/-- The value of a variable for an interpreter: of an unbuffered run, of the texts on the command
line, of the configuration, or the inherited one, in this order. -/
inductive Effective (unbuffered : Prop) (texts : List Text) (configured inherited : Table)
    (key : Text) : Option Text → Prop
  | unbuffered (hon : unbuffered) (hkey : key = ("PYTHONUNBUFFERED" : Text)) :
      Effective unbuffered texts configured inherited key (some "YES")
  | given {value : Text} (hoff : ¬ (unbuffered ∧ key = ("PYTHONUNBUFFERED" : Text)))
      (hgiven : Given key texts (some value)) :
      Effective unbuffered texts configured inherited key (some value)
  | configured {value : Text} (hoff : ¬ (unbuffered ∧ key = ("PYTHONUNBUFFERED" : Text)))
      (hgiven : Given key texts none) (hvalue : configured.lookup key = some value) :
      Effective unbuffered texts configured inherited key (some value)
  | inherited (hoff : ¬ (unbuffered ∧ key = ("PYTHONUNBUFFERED" : Text)))
      (hgiven : Given key texts none) (hnone : configured.lookup key = none) :
      Effective unbuffered texts configured inherited key (inherited.lookup key)

theorem RunOptions.env_of_prepare {o : RunOptions} {s : Snippet} {job : Job}
    (h : o.prepare s = .ok job) : job.env = o.jobEnv := by
  unfold prepare at h
  split at h <;> cases h
  rfl

/-- The layers an interpreter sees, the nearest first. -/
theorem RunOptions.lookup_childEnvironment {o : RunOptions} (ho : o.env.Sorted) (inherited : Table)
    (key : Text) :
    (childEnvironment inherited o.jobEnv).lookup key
      = if o.unbuffered = true ∧ key = unbufferedEntry.1 then some unbufferedEntry.2
        else (o.env.lookup key).or (inherited.lookup key) := by
  rw [childEnvironment, Table.lookup_insertAll, jobEnv, List.reverse_append, List.lookup_append,
    ho.lookup_reverse]
  cases hon : o.unbuffered with
  | false => simp
  | true =>
    rw [if_pos rfl, List.reverse_singleton, Text.lookup_cons]
    by_cases hkey : key = unbufferedEntry.1 <;> simp [hkey]

namespace CommandLine

/-- An interpreter sees each variable as the nearest layer sets it, and all that are inherited. -/
theorem RunArguments.effective_of_prepare {args : RunArguments} {texts : List Text}
    (htexts : texts.Forall₂ (fun t a => Assignment.parse? t = some a) args.env)
    {config : Config} (hconfig : config.env.Sorted) {s : Snippet} {job : Job}
    (hjob : (args.options config).prepare s = .ok job) (inherited : Table) (key : Text) :
    Effective (args.unbuffered = true ∨ config.unbuffered = true) texts config.env inherited key
        ((childEnvironment inherited job.env).lookup key)
      ∧ ((inherited.lookup key).isSome →
        ((childEnvironment inherited job.env).lookup key).isSome) := by
  have hon : (args.options config).unbuffered = true
      ↔ args.unbuffered = true ∨ config.unbuffered = true := Bool.or_eq_true_iff
  have hgiven := Given.of_parsed key htexts
  set given := (args.env.map fun a => (a.key, a.value)).reverse.lookup key
  have henv : (args.options config).env.lookup key = given.or (config.env.lookup key) :=
    Table.lookup_insertAll key config.env _
  rw [RunOptions.env_of_prepare hjob,
    RunOptions.lookup_childEnvironment (hconfig.insertAll _), henv, Option.or_assoc]
  split_ifs with h
  · exact ⟨.unbuffered (hon.mp h.1) h.2, fun _ => rfl⟩
  · have hunbuffered : ¬ ((args.unbuffered = true ∨ config.unbuffered = true)
        ∧ key = ("PYTHONUNBUFFERED" : Text)) := fun h' => h ⟨hon.mpr h'.1, h'.2⟩
    refine ⟨?_, by simp +contextual⟩
    cases hg : given with
    | some value => exact .given hunbuffered (hg ▸ hgiven)
    | none =>
      rw [hg] at hgiven
      cases hc : config.env.lookup key with
      | some value => exact .configured hunbuffered hgiven hc
      | none => exact .inherited hunbuffered hgiven hc

/-- Assignments that repeat a variable, with signs for equality in values. -/
def layeredTexts : List Text :=
  ["LEVEL=one", "PYTHONUNBUFFERED=NO", "FLAGS=-a=b", "LEVEL=two=2"]

def layeredArguments : RunArguments :=
  ⟨.none, layeredTexts.filterMap Assignment.parse?, false, false, false, none, true, true⟩

def layeredConfig : Config :=
  { Config.default with
    unbuffered := true
    env := [("FLAGS", "-c"), ("HOME", "/srv"), ("LEVEL", "none")] }

def layeredSnippet : Snippet :=
  ⟨some .first, .sh, none, none, false, [], .resolved ["env"], ⟨0, 0⟩⟩

def layeredInherited : Table := [("HOME", "/root"), ("LEVEL", "zero"), ("PATH", "/bin")]

def layeredJob : Job where
  invocation := Language.sh.invocation
  source := Language.sh.program ["env"]
  env := (layeredArguments.options layeredConfig).jobEnv
  timeout := none
  cancelled := none
  interactive := false

theorem RunArguments.effective_layered :
    layeredTexts.Forall₂ (fun t a => Assignment.parse? t = some a) layeredArguments.env
      ∧ layeredConfig.env.Sorted
      ∧ (layeredArguments.options layeredConfig).prepare layeredSnippet = .ok layeredJob
      ∧ Effective (layeredArguments.unbuffered = true ∨ layeredConfig.unbuffered = true)
        layeredTexts layeredConfig.env layeredInherited "LEVEL" (some "two=2")
      ∧ Effective (layeredArguments.unbuffered = true ∨ layeredConfig.unbuffered = true)
        layeredTexts layeredConfig.env layeredInherited "HOME" (some "/srv")
      ∧ Effective (layeredArguments.unbuffered = true ∨ layeredConfig.unbuffered = true)
        layeredTexts layeredConfig.env layeredInherited "PYTHONUNBUFFERED" (some "YES") := by
  have htexts : layeredTexts.Forall₂ (fun t a => Assignment.parse? t = some a)
      layeredArguments.env :=
    .cons rfl (.cons rfl (.cons rfl (.cons rfl .nil)))
  have hconfig : layeredConfig.env.Sorted := by
    unfold Table.Sorted
    decide
  have hjob : (layeredArguments.options layeredConfig).prepare layeredSnippet = .ok layeredJob := by
    rfl
  have heffective {key value : Text}
      (hvalue : (childEnvironment layeredInherited layeredJob.env).lookup key = some value) :=
    hvalue ▸ (effective_of_prepare htexts hconfig hjob layeredInherited key).1
  exact ⟨htexts, hconfig, hjob, heffective (by decide +kernel), heffective (by decide +kernel),
    heffective (by decide +kernel)⟩

end CommandLine
end Snippetry
