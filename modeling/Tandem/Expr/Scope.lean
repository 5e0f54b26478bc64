import Tandem.Expr.Term

set_option autoImplicit false

/-!
Names and what they are bound to. All names of a script are looked up before anything is run, also
in branches that will not be taken and in functions that will not be called. A name is bound by an
enclosing function or comprehension, by a statement anywhere at the top of the script, or by the
surroundings. A function binds its parameters and the names that its statements assign to.

The source of the first clause of a comprehension belongs to the surroundings of the comprehension;
its other parts see the variables of all its clauses.
-/

namespace Tandem.Expr

/-- The most arguments by position, and the most by name, of a call. -/
def argumentLimit : Nat := 255

def parameterName? : Parameter → Option Text
  | .one name | .rest name | .restNamed name => some name
  | .onlyNamed => none

/-- The names that assigning to a target binds. -/
def boundBy : (fuel : Nat) → Term → List Text
  | 0, _ => []
  | fuel + 1, target =>
      match target with
      | .name t => [t]
      | .paren x => boundBy fuel x
      | .list items | .tuple items => items.flatMap (boundBy fuel)
      | _ => []

def Clause.bound (fuel : Nat) : Clause → List Text
  | .each target _ => boundBy fuel target
  | .only _ => []

/-- The names that a statement binds where it stands. -/
def Statement.bound : (fuel : Nat) → Statement → List Text
  | 0, _ => []
  | fuel + 1, s =>
      match s with
      | .assign target _ | .augment _ target _ => boundBy fuel target
      | .branch _ yes no => (yes ++ no).flatMap (Statement.bound fuel)
      | .each target _ body => boundBy fuel target ++ body.flatMap (Statement.bound fuel)
      | .repeatWhile _ body => body.flatMap (Statement.bound fuel)
      | _ => []

/-- The names that a function binds: its parameters, and those of its body. -/
def functionNames (fuel : Nat) (parameters : List Parameter) (body : List Statement) : List Text :=
  (parameters.filterMap parameterName? ++ body.flatMap (Statement.bound fuel)).eraseDups

/-- Whether the arguments of a call come in order: by position, by name, then the items of one list
and the entries of one table. No name is given twice. -/
def wellPassed (arguments : List Passing) : Bool :=
  let named := arguments.filterMap fun
    | .named t => some t
    | _ => none
  let rank : Passing → Nat
    | .plain => 0
    | .named _ => 1
    | .items => 2
    | .entries => 3
  let ranks := arguments.map rank
  let inOrder := (ranks.zip ranks.tail).all fun (a, b) => if a < 2 then a ≤ b else a < b
  inOrder && named.eraseDups.length = named.length &&
    (ranks.count 0) ≤ argumentLimit && named.length ≤ argumentLimit

/-- Whether parameters are well formed: no name twice, none without a default after one with a
default (unless they go by name alone), one `*` at most, `**` last, and some parameter after a
bare `*`. -/
def wellParametered (parameters : List (Parameter × Option Term)) : Bool :=
  let names := parameters.filterMap fun p => parameterName? p.1
  let isStar : Parameter → Bool
    | .onlyNamed | .rest _ => true
    | _ => false
  let isEntries : Parameter → Bool
    | .restNamed _ => true
    | _ => false
  let positional := parameters.takeWhile fun p => !isStar p.1 && !isEntries p.1
  let afterBare := (parameters.dropWhile fun p => p.1 ≠ .onlyNamed).drop 1
  let optional := positional.map (·.2.isSome)
  names.eraseDups.length = names.length &&
    (optional.dropWhile (!·)).all id &&
    (parameters.filter fun p => isStar p.1).length ≤ 1 &&
    (parameters.dropWhile fun p => !isEntries p.1).length ≤ 1 &&
    (!(parameters.any fun p => p.1 = .onlyNamed) || afterBare.any fun p => !isEntries p.1)

mutual

/-- Whether all names of a term are known and its functions and calls are well formed. -/
def resolves (isKnown : Text → Bool) : (fuel : Nat) → (scope : List Text) → Term → Bool
  | 0, _, _ => false
  | fuel + 1, scope, x =>
      let sub := resolves isKnown fuel scope
      match x with
      | .int _ | .float _ | .str _ | .bytes _ => true
      | .name t => scope.contains t || isKnown t
      | .paren x | .unary _ x | .negation x | .attribute x _ => sub x
      | .list items | .tuple items => items.all sub
      | .dict entries => entries.all fun (key, value) => sub key && sub value
      | .binary _ x y | .conjunction x y | .disjunction x y | .index x y => sub x && sub y
      | .conditional a b c => sub a && sub b && sub c
      | .slice x low high step => sub x && low.all sub && high.all sub && step.all sub
      | .call f arguments =>
          sub f && wellPassed (arguments.map (·.1)) && arguments.all fun a => sub a.2
      | .function _ _ parameters body =>
          let names := functionNames fuel (parameters.map (·.1)) body
          wellParametered parameters && (parameters.all fun p => p.2.all sub) &&
            body.all (resolvesStatement isKnown fuel (names ++ scope) false)
      | .listOf _ item clauses => resolvesClauses isKnown fuel scope clauses [item]
      | .dictOf _ key value clauses => resolvesClauses isKnown fuel scope clauses [key, value]

/-- Whether a comprehension over the given clauses resolves. -/
def resolvesClauses (isKnown : Text → Bool) :
    (fuel : Nat) → List Text → List Clause → List Term → Bool
  | 0, _, _, _ => false
  | fuel + 1, scope, clauses, items =>
      let inner := clauses.flatMap (Clause.bound fuel) ++ scope
      let first := match clauses.head? with
        | some (.each _ source) => resolves isKnown fuel scope source
        | _ => true
      let inside : Clause → Bool := fun
        | .each target _ => assignable isKnown fuel inner target
        | .only condition => resolves isKnown fuel inner condition
      let sources : Clause → Bool := fun
        | .each _ source => resolves isKnown fuel inner source
        | .only _ => true
      first && clauses.all inside && clauses.tail.all sources &&
        items.all (resolves isKnown fuel inner)

/-- Whether a term can be assigned to. -/
def assignable (isKnown : Text → Bool) : (fuel : Nat) → List Text → Term → Bool
  | 0, _, _ => false
  | fuel + 1, scope, x =>
      match x with
      | .name _ => true
      | .paren x => assignable isKnown fuel scope x
      | .list items | .tuple items => items.all (assignable isKnown fuel scope)
      | .index x i => resolves isKnown fuel scope x && resolves isKnown fuel scope i
      | .attribute x _ => resolves isKnown fuel scope x
      | _ => false

/-- Whether a statement of a function resolves. A loop is left, or goes on, only from inside it, and
a condition alone makes no loop. -/
def resolvesStatement (isKnown : Text → Bool) :
    (fuel : Nat) → List Text → (inLoop : Bool) → Statement → Bool
  | 0, _, _, _ => false
  | fuel + 1, scope, inLoop, s =>
      let sub := resolves isKnown fuel scope
      match s with
      | .pass => true
      | .breakLoop | .nextRound => inLoop
      | .give value => value.all sub
      | .term x => sub x
      | .assign target value => sub value && assignable isKnown fuel scope target
      | .augment _ target value => sub value && augmentable isKnown fuel scope target
      | .branch test yes no =>
          sub test && (yes ++ no).all (resolvesStatement isKnown fuel scope inLoop)
      | .each target source body =>
          sub source && assignable isKnown fuel scope target &&
            body.all (resolvesStatement isKnown fuel scope true)
      | .repeatWhile .. | .load _ => false

/-- Whether a term can be assigned to with an operator: it is no list of targets. -/
def augmentable (isKnown : Text → Bool) : (fuel : Nat) → List Text → Term → Bool
  | 0, _, _ => false
  | fuel + 1, scope, x =>
      match x.bare with
      | .list _ | .tuple _ => false
      | x => assignable isKnown fuel scope x

end

/-! ### Scripts -/

/-- The names that a script binds: by its statements, and by taking them from other scripts. -/
structure ScriptNames where
  assigned : List Text
  loaded : List Text

/-- Adds the names of a statement. No name is bound twice, except that a name may be taken from
another script after it was assigned to. -/
def ScriptNames.add? (fuel : Nat) (names : ScriptNames) (s : Statement) : Option ScriptNames :=
  let put (taken : List Text) (done : List Text) (new : List Text) : Option (List Text) :=
    new.foldlM
      (fun done t => if done.contains t || taken.contains t then none else some (t :: done))
      done
  match s with
  | .load pairs => (put [] names.loaded (pairs.map (·.1))).map ({ names with loaded := · })
  | _ => (put names.loaded names.assigned (s.bound fuel)).map ({ names with assigned := · })

/-- The names that a script binds, if it binds them well. -/
def scriptNames? (fuel : Nat) (script : List Statement) : Option ScriptNames :=
  script.foldlM (ScriptNames.add? fuel) ⟨[], []⟩

/-- The names in another script do not start with an underscore. -/
def isLoadable (name : Text) : Bool := name.head?.any (· ≠ 95)

/-- Whether a script resolves, where `isKnown` tells the names of its surroundings. At its top there
are no branches and no loops. -/
def scriptResolves (isKnown : Text → Bool) (fuel : Nat) (script : List Statement) : Bool :=
  match scriptNames? fuel script with
  | none => false
  | some names =>
      let known (t : Text) : Bool :=
        names.assigned.contains t || names.loaded.contains t || isKnown t
      script.all fun s => match s with
        | .load pairs => pairs.all fun (_, name) => isLoadable name
        | .branch .. | .each .. | .give _ => false
        | s => resolvesStatement known fuel [] false s

end Tandem.Expr
