import Snippetry.Awk.Builtin

/-! # Carrying out programs: expressions and statements

A bound tells how deep these may lie in each other, calls of functions included. -/
namespace Snippetry.Awk

def applyArithmetic (operator : Arithmetic) (x y : Float) : Float :=
  match operator with
  | .add => x + y
  | .subtract => x - y
  | .multiply => x * y
  | .divide => x / y
  | .remainder => remainder x y
  | .power => x.pow y

def applyComparison (operator : Comparison) (numbers : Text) (a b : Value) : Bool :=
  match operator with
  | .less => compareValues numbers a b (fun x y => x < y) (· == .lt)
  | .atMost => compareValues numbers a b (fun x y => x ≤ y) (· != .gt)
  | .equal => compareValues numbers a b (fun x y => x == y) (· == .eq)
  | .unequal => compareValues numbers a b (fun x y => x != y) (· != .eq)
  | .greater => compareValues numbers a b (fun x y => y < x) (· == .gt)
  | .atLeast => compareValues numbers a b (fun x y => y ≤ x) (· != .lt)

/-- The value of a number that was read of a place that is changed by one. -/
def stepValue (up : Bool) (x : Float) : Float := if up then x + 1 else x - 1

def isMatch (r : Regex) (v : Value) : Action Bool := do pure (r.isIn ((← get).toText v))

def setMatch (place length : Int) : Action Unit :=
  modify fun s => (s.setGlobal "RSTART" (.number (Float.ofInt place))).setGlobal "RLENGTH"
    (.number (Float.ofInt length))

def placeOfMatch (r : Regex) (t : Text) : Action Value := do
  match r.find? t with
  | some (place, length) =>
    setMatch (place + 1 : Nat) length
    pure (.number (Float.ofNat (place + 1)))
  | none =>
    setMatch 0 (-1)
    pure (.number 0)

/-- What stands between the pieces of a split: a regular expression, a text, or what stands between
fields. -/
def splitWith (separator : Option (Regex ⊕ Value)) : Action Separator := do
  let s ← get
  match separator with
  | some (.inl .empty) => pure .nothing
  | some (.inl r) => pure (.pattern r)
  | some (.inr v) => separatorOf (s.toText v)
  | none => separatorOf (s.globalText "FS")

/-- The arguments of a call as what the parameters stand for; those that are missing are new. -/
def slotsFor : List Parameter → List (Option Slot) → Action (List (Text × Slot))
  | [], _ => pure []
  | p :: ps, given => do
    let slot ← match given.headD none with
      | some slot => pure slot
      | none =>
        if p.isTable then do
          let s ← get
          set { s with tables := s.tables.push .empty }
          pure (.table s.tables.size)
        else pure (.value .unset)
    let slots ← slotsFor ps given.tail
    pure ((p.name, slot) :: slots)

def joinKeys (s : State) (values : List Value) : Key :=
  match values with
  | [v] => s.keyOf v
  | vs => ⟨Text.join (s.globalText "SUBSEP") (vs.map s.toText), none⟩

/-! ## Loops -/

/-- After so many rounds a loop is taken for endless. -/
def mostRounds : Nat := 2000000

/-- Repeat for as long as a round says so. One that never says no takes forever. -/
def repeatUpTo (round : Action Bool) : Nat → State → Except Stop Unit × State
  | 0, s => (perform Process.stall : Action Unit) s
  | n + 1, s =>
    match round s with
    | (.ok true, s) => repeatUpTo round n s
    | (.ok false, s) => (.ok (), s)
    | (.error stop, s) => (.error stop, s)

def repeating (round : Action Bool) : Action Unit := repeatUpTo round mostRounds

def forEachFrom (round : Text → Action Bool) : List Text → State → Except Stop Unit × State
  | [], s => (.ok (), s)
  | t :: ts, s =>
    match round t s with
    | (.ok true, s) => forEachFrom round ts s
    | (.ok false, s) => (.ok (), s)
    | (.error stop, s) => (.error stop, s)

def forEach (ts : List Text) (round : Text → Action Bool) : Action Unit := forEachFrom round ts

/-- Carry out the body of a loop and what follows it, and tell whether the loop goes on. -/
def inRound (body next : Action Unit) : Action Bool := fun s =>
  match body s with
  | (.ok (), s) | (.error .nextRound, s) => (do next; pure true : Action Bool) s
  | (.error .leaveLoop, s) => (.ok false, s)
  | (.error stop, s) => (.error stop, s)

section

variable (launch : Process.Launch)

/-- Store a record that was read, with its fields if no other place is given. -/
def storeRecord (spot : Option Spot) (t : Text) : Action Unit :=
  match spot with
  | some spot => store spot (.input t)
  | none => setRecord (.input t)

def readInto (spot : Option Spot) (t? : Option (Option Text)) : Action Value := do
  match t? with
  | none => pure (.number (-1))
  | some none => pure (.number 0)
  | some (some t) =>
    storeRecord spot t
    pure (.number 1)

mutual

def eval : Nat → Expr → Action Value
  | 0, _ => throw (.killed 11)
  | fuel + 1, e => do
    match e with
    | .number x => pure (.number x)
    | .text t => pure (.text t)
    | .regex r => do pure (.ofTruth (← isMatch r (← get).record))
    | .read (.variable name) => variableValue name
    | .read p => do load (← spotOf fuel p)
    | .assign p operator e =>
      let spot ← spotOf fuel p
      match operator with
      | none =>
        let v ← eval fuel e
        store spot v
        pure v
      | some operator =>
        let y ← eval fuel e
        let x ← load spot
        let v := Value.number (applyArithmetic operator x.toNumber y.toNumber)
        store spot v
        pure v
    | .step p up before =>
      let spot ← spotOf fuel p
      let x := (← load spot).toNumber
      store spot (.number (stepValue up x))
      pure (.number (if before then x else stepValue up x))
    | .sign negative e =>
      let x := (← eval fuel e).toNumber
      pure (.number (if negative then -x else x))
    | .not e => do pure (.ofTruth !(← eval fuel e).isTrue)
    | .arithmetic operator a b =>
      let x := (← eval fuel a).toNumber
      let y := (← eval fuel b).toNumber
      pure (.number (applyArithmetic operator x y))
    | .compare operator a b =>
      let v ← eval fuel a
      let w ← eval fuel b
      pure (.ofTruth (applyComparison operator (← get).numbers v w))
    | .like negated a b =>
      let v ← eval fuel a
      let r ← evalPattern fuel b
      let found ← isMatch r v
      pure (.ofTruth (found != negated))
    | .both a b =>
      if (← eval fuel a).isTrue then do pure (.ofTruth (← eval fuel b).isTrue)
      else pure (.ofTruth false)
    | .either a b =>
      if (← eval fuel a).isTrue then pure (.ofTruth true)
      else do pure (.ofTruth (← eval fuel b).isTrue)
    | .choice c a b => if (← eval fuel c).isTrue then eval fuel a else eval fuel b
    | .concat a b =>
      let v ← eval fuel a
      let w ← eval fuel b
      let s ← get
      pure (.text (s.toText v ++ s.toText w))
    | .isKey keys table =>
      let key := joinKeys (← get) (← evalAll fuel keys)
      let s ← get
      let number := s.tableNumber table
      let (found, t) := (s.table number).access key none
      set (s.setTable number t)
      pure (.ofTruth found.isSome)
    | .call name arguments => call fuel name arguments
    | .builtin .length [.read (.variable name)] =>
      let s ← get
      if s.isTable name then pure (.number (Float.ofNat (s.table (s.tableNumber name)).size))
      else do pure (.number (Float.ofNat (s.toText (← variableValue name)).length))
    | .builtin .matchPlace [e, pattern] =>
      let v ← eval fuel e
      let r ← evalPattern fuel pattern
      placeOfMatch r ((← get).toText v)
    | .builtin f arguments => do applyBuiltin launch f (← evalAll fuel arguments)
    | .split e table separator =>
      let v ← eval fuel e
      let separator ← match separator with
        | none => pure none
        | some (.regex r) => pure (some (.inl r))
        | some e => do pure (some (.inr (← eval fuel e)))
      let pieces := (← splitWith separator).split ((← get).toText v)
      modify fun s => s.setTable (s.tableNumber table)
        (.ofList Text.ofNat (pieces.map Value.input))
      pure (.number (Float.ofNat pieces.length))
    | .replace all pattern replacement p =>
      let r ← evalPattern fuel pattern
      let replacement ← eval fuel replacement
      let spot ← spotOf fuel p
      let v ← load spot
      let s ← get
      let t := s.toText v
      let replacement := s.toText replacement
      if all then
        let (n, t) := replaceAll r replacement (2 * t.length + 2) true false t
        if 0 < n then store spot (.text t)
        pure (.number (Float.ofNat n))
      else match replaceFirst r replacement t with
        | some t =>
          store spot (.text t)
          pure (.number 1)
        | none => pure (.number 0)
    | .getline source p =>
      let spot ← match p with
        | some p => do pure (some (← spotOf fuel p))
        | none => pure none
      match source with
      | .main =>
        let t ← mainRecord mostFiles
        readInto spot (some t)
      | .file e =>
        let name := (← get).toText (← eval fuel e)
        readInto spot (← recordOf launch name false)
      | .command e =>
        let name := (← get).toText (← eval fuel e)
        readInto spot (← recordOf launch name true)

/-- An expression that stands for a regular expression. -/
def evalPattern : Nat → Expr → Action Regex
  | 0, _ => throw (.killed 11)
  | fuel + 1, e => do
    match e with
    | .regex r => pure r
    | e =>
      let v ← eval fuel e
      patternOf ((← get).toText v)

def evalAll : Nat → List Expr → Action (List Value)
  | 0, _ => throw (.killed 11)
  | _ + 1, [] => pure []
  | fuel + 1, e :: es => do
    let v ← eval fuel e
    let vs ← evalAll fuel es
    pure (v :: vs)

/-- Find the place that an expression leads to. -/
def spotOf : Nat → Place → Action Spot
  | 0, _ => throw (.killed 11)
  | fuel + 1, p => do
    match p with
    | .variable name => pure (.variable name)
    | .element table keys =>
      let values ← evalAll fuel keys
      let s ← get
      let key := joinKeys s values
      let number := s.tableNumber table
      let (_, t) := (s.table number).access key (some .unset)
      set (s.setTable number t)
      pure (.element number key)
    | .field e => do pure (.field (← fieldIndex (← eval fuel e).toNumber))

def givenFor : Nat → List Parameter → List Expr → Action (List (Option Slot))
  | 0, _, _ => throw (.killed 11)
  | _ + 1, _, [] => pure []
  | _ + 1, [], _ :: _ => pure []
  | fuel + 1, parameter :: parameters, e :: es => do
    let slot ← if parameter.isTable then
        match e with
        | .read (.variable name) => do pure (some (.table ((← get).tableNumber name)))
        | _ => pure none
      else do pure (some (.value (← eval fuel e)))
    let slots ← givenFor fuel parameters es
    pure (slot :: slots)

def call : Nat → Text → List Expr → Action Value
  | 0, _, _ => throw (.killed 11)
  | fuel + 1, name, arguments => do
    match (← get).program.functions.lookup name with
    | none => pure .unset
    | some f =>
      let given ← givenFor fuel f.parameters arguments
      let before ← get
      let locals ← slotsFor f.parameters given
      modify fun s => { s with locals }
      let result ← tryCatch (do
        execAll fuel f.body
        pure Value.unset) fun
        | .leaveFunction v => pure v
        | stop => throw stop
      modify fun s => { s with
        locals := before.locals, tables := s.tables.extract 0 before.tables.size }
      pure result

def exec : Nat → Stmt → Action Unit
  | 0, _ => throw (.killed 11)
  | fuel + 1, s => do
    match s with
    | .nothing => pure ()
    | .expr e => let _ ← eval fuel e
    | .print es target =>
      let values ← evalAll fuel es
      let s ← get
      let shown (v : Value) : Text := match v with
        | .number _ => v.toText (s.globalText "OFMT")
        | v => s.toText v
      let t := if values.isEmpty then s.toText s.record
        else Text.join (s.globalText "OFS") (values.map shown)
      deliver fuel target (t ++ s.globalText "ORS")
    | .printf es target =>
      let values ← evalAll fuel es
      let t ← formattedBy "printf" (deliver fuel target) values
      deliver fuel target t
    | .block body => execAll fuel body
    | .conditional c positive negative =>
      if (← eval fuel c).isTrue then exec fuel positive
      else match negative with
        | some s => exec fuel s
        | none => pure ()
    | .loop c body =>
      repeating (do
        if (← eval fuel c).isTrue then inRound (exec fuel body) (pure ()) else pure false)
    | .loopAfter body c =>
      repeating (do
        if ← inRound (exec fuel body) (pure ()) then do pure (← eval fuel c).isTrue
        else pure false)
    | .counted first c next body =>
      let optional (e? : Option Expr) : Action Value := match e? with
        | some e => eval fuel e
        | none => pure (.number 1)
      let _ ← optional first
      repeating (do
        if (← optional c).isTrue then
          inRound (exec fuel body) do
            let _ ← optional next
        else pure false)
    | .forKeys p table body =>
      let s ← get
      let number := s.tableNumber table
      let (keys, t) := (s.table number).keys
      set (s.setTable number t)
      forEach keys fun key => do
        let spot ← spotOf fuel p
        store spot (.text key)
        inRound (exec fuel body) (pure ())
    | .delete table keys =>
      let number := (← get).tableNumber table
      match keys with
      | none => modify fun s => s.setTable number .empty
      | some keys =>
        let values ← evalAll fuel keys
        modify fun s => s.setTable number ((s.table number).erase (joinKeys s values))
    | .next => throw .nextRecord
    | .nextFile => throw .nextFile
    | .exit e =>
      match e with
      | some e =>
        let x := (← eval fuel e).toNumber
        modify fun s => { s with status := (truncated x % 256).toNat }
      | none => pure ()
      throw .exit
    | .leaveFunction e =>
      match e with
      | some e => do throw (.leaveFunction (← eval fuel e))
      | none => throw (.leaveFunction .unset)
    | .leaveLoop => throw .leaveLoop
    | .nextRound => throw .nextRound

def execAll : Nat → List Stmt → Action Unit
  | 0, _ => throw (.killed 11)
  | _ + 1, [] => pure ()
  | fuel + 1, s :: ss => do
    exec fuel s
    execAll fuel ss

/-- Write what a print statement makes. -/
def deliver : Nat → Option (Redirection × Expr) → Text → Action Unit
  | 0, _, _ => throw (.killed 11)
  | fuel + 1, target, t => do
    match target with
    | none => put t
    | some (r, e) =>
      let name := (← get).toText (← eval fuel e)
      putTo r name t

end

end

end Snippetry.Awk
