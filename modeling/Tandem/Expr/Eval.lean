import Tandem.Expr.Builtin
import Tandem.Expr.Failure
import Tandem.Expr.Layout
import Tandem.Expr.Parser
import Tandem.Expr.Scope
import Tandem.Expr.Signature
import Tandem.Table

set_option autoImplicit false

/-!
Evaluation of expressions, and of the statements that may follow one. Functions made in a
comprehension, or in a loop, all see the last values of its variables. No function may run inside
itself, which bounds how deep evaluation goes.
-/

namespace Tandem.Expr

/-- What a name means that no function or comprehension binds: a variable of the script, if the
script assigns to it anywhere, or else a constant. -/
structure Surroundings where
  /-- The names that the script assigns to. -/
  assigned : List Text
  constant? : Text → Option Value

/-- Where a term is evaluated: the groups of variables in sight, the nearest first, the current
frame, and the functions that are running. -/
structure Place where
  groups : List Group
  frame : Nat
  active : List Nat

namespace Place

def outermost : Place := ⟨[], 0, []⟩

/-- The nearest group that binds a name. -/
def group? (place : Place) (name : Text) : Option Group :=
  place.groups.find? fun group => group.names.contains name

end Place

/-! ### Variables -/

/-- The value of a name; a variable that has none yet is an error. -/
def lookup (s : Surroundings) (place : Place) (name : Text) : EvalM Value := do
  let store ← get
  match place.group? name with
  | some group => (store.frames[group.frame]?.getD []).lookup (group.number, name)
  | none => if s.assigned.contains name then store.globals.lookup name else s.constant? name

/-- Sets a variable that a function or comprehension binds, or else one of the script. -/
def setVariable (place : Place) (name : Text) (value : Value) : EvalM Unit :=
  match place.group? name with
  | some group => modify fun store =>
      { store with frames := store.frames.modify group.frame (putEntry (group.number, name) value) }
  | none => modify fun store => { store with globals := putEntry name value store.globals }

/-- Sets the part of a value at an index. -/
def setIndex (x i value : Value) : EvalM Unit := do
  match x with
  | .list place =>
      let n ← Value.position? ((← get).list place).size i
      EvalM.changeList place (·.setIfInBounds n.toNat value)
  | .dict place => EvalM.putKey place i value
  | _ => failure

/-! ### Calls -/

/-- The named arguments in the entries of a table, whose keys must be texts. -/
def namedEntries? (store : Store) : Value → Option (List (Text × Value))
  | .dict place => (store.dict place).entries.mapM fun (key, value) =>
      key.text?.map fun name => (name, value)
  | _ => none

/-- Adds an argument to those before it. -/
def Arguments.push (a : Arguments) (passing : Passing) (value : Value) : EvalM Arguments := do
  match passing with
  | .plain => pure { a with plain := a.plain ++ [value] }
  | .named name => pure { a with named := a.named ++ [(name, value)] }
  | .items => do
      let items ← value.items? (← get)
      pure { a with plain := a.plain ++ items.toList }
  | .entries => do
      let entries ← namedEntries? (← get) value
      pure { a with named := a.named ++ entries }

/-- Enters a function: binds the arguments in a new frame. -/
def enter (f : Closure) (active : List Nat) (a : Arguments) : EvalM Place := do
  let signature := Signature.of f.parameters
  let binding ← signature.bind? f.defaults a
  let restNamed ← match signature.restNamed with
    | some name => do
        let entries := binding.unknown.map fun (name, value) => (Value.str name, value)
        pure [(name, ← EvalM.newDict (Dict.empty.insertAll entries))]
    | none => pure []
  let values := binding.values ++ restNamed
  let frame ← EvalM.newFrame (values.map fun (name, value) => ((f.number, name), value))
  pure ⟨⟨frame, f.number, f.names⟩ :: f.groups, frame, f.number :: active⟩

/-! ### Loops -/

/-- How a statement ends: the next one follows, the innermost loop ends or goes on, or the function
gives its value. -/
inductive Outcome where
  | next
  | breakLoop
  | nextRound
  | give (value : Value)

/-- Runs a step for every item until one ends the loop. -/
def Items.run (items : Items) (step : Value → EvalM Outcome) : (left : Nat) → EvalM Outcome
  | 0 => pure .next
  | left + 1 => do
      match ← step (items.item (items.count - (left + 1))) with
      | .next | .nextRound => items.run step left
      | .breakLoop => pure .next
      | .give value => pure (.give value)

/-- Goes through the items of a value, which cannot be changed meanwhile. -/
def loopOver (x : Value) (step : Value → EvalM Outcome) : EvalM Outcome := do
  let items ← x.items? (← get)
  EvalM.looping x (items.run step items.count)

/-- Runs statements in order until one ends otherwise. -/
def runInOrder (step : Statement → EvalM Outcome) : List Statement → EvalM Outcome
  | [] => pure .next
  | s :: rest => do
      match ← step s with
      | .next => runInOrder step rest
      | outcome => pure outcome

/-- The names of the parameters that have defaults. -/
def defaultNames (parameters : List (Parameter × Option Term)) : List Text :=
  parameters.filterMap fun
    | (.one name, some _) => some name
    | _ => none

/-! ### Terms and statements -/

mutual

/-- The value of a term that is nested no deeper than `fuel`, functions that it calls included. -/
def eval (s : Surroundings) : (fuel : Nat) → Place → Term → EvalM Value
  | 0, _, _ => failure
  | fuel + 1, place, x =>
      let sub := eval s fuel place
      let optional : Option Term → EvalM Value
        | some x => sub x
        | none => pure .none
      let isTrue (x : Term) : EvalM Bool := do
        let a ← sub x
        return a.isTrue (← get)
      match x with
      | .int n => pure (.int n)
      | .float x => pure (.float x)
      | .str t => pure (.str t)
      | .bytes t => pure (.bytes t)
      | .name t => lookup s place t
      | .paren x => sub x
      | .list items => do EvalM.newList (← items.mapM sub).toArray
      | .tuple items => do pure (.tuple (← items.mapM sub))
      | .dict entries => do
          let d ← entries.foldlM (fun d (key, value) => do
            let key ← sub key
            let value ← sub value
            let size := d.size
            let d ← d.insert? key value
            if d.size = size then failure else pure d) Dict.empty
          EvalM.newDict d
      | .unary op x => do Value.unary? op (← sub x)
      | .binary op x y => do
          match (Term.binary op x y).bytes? with
          | some t => pure (.bytes t)
          | none =>
              let a ← sub x
              let b ← sub y
              Value.binary op a b
      | .negation x => do return .bool (!(← isTrue x))
      | .conjunction x y => do
          let a ← sub x
          if a.isTrue (← get) then sub y else pure a
      | .disjunction x y => do
          let a ← sub x
          if a.isTrue (← get) then pure a else sub y
      | .conditional test yes no => do if ← isTrue test then sub yes else sub no
      | .index x i => do
          let a ← sub x
          let b ← sub i
          Value.index? (← get) a b
      | .slice x low high step => do
          let a ← sub x
          let low ← optional low
          let high ← optional high
          let step ← optional step
          Value.slice a low high step
      | .attribute x name => do (← sub x).takeMethod name
      | .call f arguments => do
          let callee ← sub f
          let passed ← arguments.mapM fun (passing, x) => do pure (passing, ← sub x)
          let a ← passed.foldlM
            (fun (a : Arguments) (passing, value) => a.push passing value) ⟨[], []⟩
          call s fuel place.active callee a
      | .function number name parameters body => do
          let defaults ← (parameters.filterMap (·.2)).mapM sub
          let names := functionNames fuel (parameters.map (·.1)) body
          EvalM.newFunction
            { number, name, body, names
              parameters := parameters.map (·.1)
              defaults := (defaultNames parameters).zip defaults
              groups := place.groups }
      | .listOf number item clauses => do
          let place' : Place := { place with groups := ⟨place.frame, number,
            clauses.flatMap (Clause.bound fuel)⟩ :: place.groups }
          let result ← EvalM.newList #[]
          let .list list := result | failure
          let add : EvalM Unit := do
            let x ← eval s fuel place' item
            EvalM.changeList list (·.push x)
          comprehend s fuel place place' clauses add
          pure result
      | .dictOf number key value clauses => do
          let place' : Place := { place with groups := ⟨place.frame, number,
            clauses.flatMap (Clause.bound fuel)⟩ :: place.groups }
          let result ← EvalM.newDict .empty
          let .dict dict := result | failure
          let add : EvalM Unit := do
            let key ← eval s fuel place' key
            let value ← eval s fuel place' value
            EvalM.putKey dict key value
          comprehend s fuel place place' clauses add
          pure result

/-- Calls a value. -/
def call (s : Surroundings) :
    (fuel : Nat) → (active : List Nat) → Value → Arguments → EvalM Value
  | 0, _, _, _ => failure
  | fuel + 1, active, callee, a => do
      match callee with
      | .function place =>
          let f ← (← get).functions[place]?
          if active.contains f.number then failure
          let inner ← enter f active a
          match ← runInOrder (exec s fuel inner) f.body with
          | .give value => pure value
          | _ => pure .none
      | .builtin b => Builtin.apply (call s fuel active) b a
      | .method _ receiver name => receiver.callMethod name a
      | _ => failure

/-- Runs an action for every round of the clauses of a comprehension. The source of the first clause
is evaluated outside of the comprehension, and all else inside. -/
def comprehend (s : Surroundings) : (fuel : Nat) → (outside inside : Place) → List Clause →
    EvalM Unit → EvalM Unit
  | 0, _, _, _, _ => failure
  | fuel + 1, outside, inside, clauses, action => do
      match clauses with
      | [] => action
      | .only condition :: rest =>
          let x ← eval s fuel inside condition
          if x.isTrue (← get) then comprehend s fuel inside inside rest action
      | .each target source :: rest =>
          let x ← eval s fuel outside source
          let _ ← loopOver x fun item => do
            assignTo s fuel inside target item
            comprehend s fuel inside inside rest action
            pure .next

/-- Assigns a value to a target; a list of targets takes a sequence of the same length. -/
def assignTo (s : Surroundings) : (fuel : Nat) → Place → Term → Value → EvalM Unit
  | 0, _, _, _ => failure
  | fuel + 1, place, target, value => do
      match target with
      | .name t => setVariable place t value
      | .paren x => assignTo s fuel place x value
      | .list targets | .tuple targets =>
          let items ← value.items? (← get)
          if items.count ≠ targets.length then failure
          (targets.zip items.toList).forM fun (target, value) => assignTo s fuel place target value
      | .index x i =>
          let a ← eval s fuel place x
          let b ← eval s fuel place i
          setIndex a b value
      | _ => failure

/-- Runs a statement. -/
def exec (s : Surroundings) : (fuel : Nat) → Place → Statement → EvalM Outcome
  | 0, _, _ => failure
  | fuel + 1, place, statement => do
      match statement with
      | .pass => pure .next
      | .breakLoop => pure .breakLoop
      | .nextRound => pure .nextRound
      | .give none => pure (.give .none)
      | .give (some x) => return .give (← eval s fuel place x)
      | .term x =>
          let _ ← eval s fuel place x
          pure .next
      | .assign target value =>
          let value ← eval s fuel place value
          assignTo s fuel place target value
          pure .next
      | .augment op target value =>
          match target.bare with
          | .name t =>
              let old ← lookup s place t
              let value ← eval s fuel place value
              setVariable place t (← Value.augmented op old value)
          | .index x i =>
              let a ← eval s fuel place x
              let b ← eval s fuel place i
              let old ← Value.index? (← get) a b
              let value ← eval s fuel place value
              setIndex a b (← Value.augmented op old value)
          | _ => failure
          pure .next
      | .branch test yes no =>
          let x ← eval s fuel place test
          runInOrder (exec s fuel place) (if x.isTrue (← get) then yes else no)
      | .each target source body =>
          let x ← eval s fuel place source
          loopOver x fun item => do
            assignTo s fuel place target item
            runInOrder (exec s fuel place) body
      | .repeatWhile .. | .load _ => failure

end

/-! ### Scripts -/

/-- The variable that holds the value of an expression. -/
def resultName : Text := "rc"

/-- The script of an expression: it assigns the expression to `resultName`. -/
def scriptOf (expression : Text) : Text := resultName ++ 61 :: expression ++ [10]

/-- A bound on how deep the evaluation of a script with a number of tokens goes: every function runs
once at a time. -/
def depthBound (tokens : Nat) : Nat := 8 * (tokens + 2) * (tokens + 2)

def constant? (equates : Table Int64) (name : Text) : Option Value :=
  match equates.find? name with
  | some n => some (.int n.toInt)
  | none =>
      if name = Text.ofString "None" then some .none
      else if name = Text.ofString "True" then some (.bool true)
      else if name = Text.ofString "False" then some (.bool false)
      else (Builtin.ofName? name).map .builtin

/-- The value of an expression, in which the equates are constants. -/
def evaluate (equates : Table Int64) (expression : Text) : Except Failure Int64 :=
  match (Token.scan? (scriptOf expression)).bind fun tokens =>
      (parse? tokens).map (·, depthBound tokens.length) with
  | none => .error .malformed
  | some (script, fuel) =>
      let constant := constant? equates
      if !scriptResolves (fun name => (constant name).isSome) fuel script then .error .unbound
      else
        let s : Surroundings := ⟨script.flatMap (Statement.bound fuel), constant⟩
        match (runInOrder (exec s fuel .outermost) script).run .initial with
        | none => .error .failed
        | some (_, store) =>
            match (store.globals.lookup resultName).bind Value.count? with
            | some value => .ok value
            | none => .error .notAnInteger

end Tandem.Expr
