import Tandem.Expr.Token

set_option autoImplicit false

/-!
The grammar of the expression language. Operators are, from loosest to tightest: `if else`, `or`,
`and`, `not`, comparisons, `|`, `^`, `&`, shifts, `+ -`, `* / // %`, signs and `~`, and last what
follows a primary term (attributes, indexing, calls). Comparisons do not chain; other operators
group to the left. Statements stand one to a line, or with semicolons between them, and compound
ones are followed by a block of indented lines or by simple statements on the same line.

Every parsing function gets a bound for the depth of its recursion; the number of tokens, times a
constant, is enough for all texts.
-/

namespace Tandem.Expr

abbrev Parse (α : Type) := StateT (List Token) Option α

namespace Parse

/-- The symbol that comes next, if the next token is one. -/
def symbol? : Parse (Option Symbol) := do
  match ← get with
  | .symbol s :: _ => pure (some s)
  | _ => pure none

def isNext (s : Symbol) : Parse Bool := return (← symbol?) = some s

def skip : Parse PUnit := modify List.tail

/-- Takes a symbol, if it comes next. -/
def accept (s : Symbol) : Parse Bool := do
  if ← isNext s then
    skip
    pure true
  else pure false

def expect (s : Symbol) : Parse PUnit := do
  if !(← accept s) then failure

def name : Parse Text := do
  match ← get with
  | .name t :: rest =>
      set rest
      pure t
  | _ => failure

/-- A number for the function or comprehension that starts here. -/
def number : Parse Nat := return (← get).length

/-- Whether a list of terms may end here, after a comma. -/
def endsList : Parse Bool := do
  match ← get with
  | [] | .newline :: _ => pure true
  | .symbol s :: _ =>
      pure (s = .assign || s = .rightBrace || s = .rightBracket || s = .rightParen ||
        s = .semicolon)
  | _ => pure false

/-- The name that a nameless function is shown with. -/
def namelessName : Text := "lambda"

def comparisonLevel : Nat := 3

/-- The binary operator of a symbol, and its level. -/
def operator? : Symbol → Option (Nat × (Term → Term → Term))
  | .wordOr => some (0, .disjunction)
  | .wordAnd => some (1, .conjunction)
  | .equal => some (comparisonLevel, .binary .equal)
  | .notEqual => some (comparisonLevel, .binary .notEqual)
  | .less => some (comparisonLevel, .binary .less)
  | .greater => some (comparisonLevel, .binary .greater)
  | .lessEqual => some (comparisonLevel, .binary .lessEqual)
  | .greaterEqual => some (comparisonLevel, .binary .greaterEqual)
  | .wordIn => some (comparisonLevel, .binary .isIn)
  | .bar => some (4, .binary .bitOr)
  | .caret => some (5, .binary .bitXor)
  | .ampersand => some (6, .binary .bitAnd)
  | .shiftLeft => some (7, .binary .shiftLeft)
  | .shiftRight => some (7, .binary .shiftRight)
  | .plus => some (8, .binary .add)
  | .minus => some (8, .binary .sub)
  | .star => some (9, .binary .mul)
  | .slash => some (9, .binary .div)
  | .floorSlash => some (9, .binary .floorDiv)
  | .percent => some (9, .binary .mod)
  | _ => none

/-- The binary operator that comes next, and the number of its tokens. A `not` here must be
followed by `in`. -/
def nextOperator? : Parse (Option (Nat × Nat × (Term → Term → Term))) := do
  match ← get with
  | .symbol .wordNot :: .symbol .wordIn :: _ =>
      pure (some (2, comparisonLevel, .binary .isNotIn))
  | .symbol .wordNot :: _ => failure
  | .symbol s :: _ => pure ((operator? s).map fun (level, make) => (1, level, make))
  | _ => pure none

mutual

/-- A single term. -/
def test : Nat → Parse Term
  | 0 => failure
  | fuel + 1 => do
      if ← isNext .wordLambda then function fuel true
      else
        let x ← level fuel 0
        if ← accept .wordIf then
          let condition ← level fuel 0
          expect .wordElse
          let y ← test fuel
          pure (.conditional condition x y)
        else pure x

/-- A single term that does not take a following `if` for its own. -/
def testNoIf : Nat → Parse Term
  | 0 => failure
  | fuel + 1 => do
      if ← isNext .wordLambda then function fuel false else level fuel 0

/-- A nameless function. -/
def function : Nat → Bool → Parse Term
  | 0, _ => failure
  | fuel + 1, allowIf => do
      let number ← number
      expect .wordLambda
      let parameters ← parameters fuel []
      expect .colon
      let body ← if allowIf then test fuel else testNoIf fuel
      pure (.function number namelessName parameters [.give (some body)])

/-- Parameters, up to a colon or a closing parenthesis; a comma may stand before the latter. -/
def parameters : Nat → List (Parameter × Option Term) → Parse (List (Parameter × Option Term))
  | 0, _ => failure
  | fuel + 1, done => do
      if (← isNext .colon) || (← isNext .rightParen) then return done.reverse
      if !done.isEmpty then expect .comma
      if ← isNext .rightParen then return done.reverse
      if ← accept .star then
        match ← get with
        | .name _ :: _ => parameters fuel ((.rest (← name), none) :: done)
        | _ => parameters fuel ((.onlyNamed, none) :: done)
      else if ← accept .starStar then parameters fuel ((.restNamed (← name), none) :: done)
      else
        let name ← name
        if ← accept .assign then
          let value ← test fuel
          parameters fuel ((.one name, some value) :: done)
        else parameters fuel ((.one name, none) :: done)

/-- Terms joined by operators of the given level and of tighter ones. -/
def level : Nat → Nat → Parse Term
  | 0, _ => failure
  | fuel + 1, n => do
      if 10 ≤ n then suffixed fuel
      else if n = 2 && (← isNext .wordNot) then
        skip
        return .negation (← level fuel n)
      else
        let x ← level fuel (n + 1)
        operations fuel n true x

def operations : Nat → Nat → Bool → Term → Parse Term
  | 0, _, _, _ => failure
  | fuel + 1, n, isFirst, x => do
      match ← nextOperator? with
      | none => pure x
      | some (tokens, m, make) =>
          if m < n then pure x
          else if !isFirst && m = comparisonLevel then failure
          else
            modify (List.drop tokens)
            let y ← level fuel (m + 1)
            operations fuel n false (make x y)

/-- A primary term and what follows it. -/
def suffixed : Nat → Parse Term
  | 0 => failure
  | fuel + 1 => do suffixes fuel (← primary fuel)

def suffixes : Nat → Term → Parse Term
  | 0, _ => failure
  | fuel + 1, x => do
      if ← accept .dot then suffixes fuel (.attribute x (← name))
      else if ← accept .leftBracket then suffixes fuel (← subscript fuel x)
      else if ← accept .leftParen then
        suffixes fuel (.call x (← arguments fuel []))
      else pure x

/-- An index or a slice, after its opening bracket. -/
def subscript : Nat → Term → Parse Term
  | 0, _ => failure
  | fuel + 1, x => do
      let low ← if ← isNext .colon then pure none else pure (some (← terms fuel false))
      match low with
      | some i =>
          if ← accept .rightBracket then return .index x i
      | none => pure ()
      let high ← if ← accept .colon then
          if (← isNext .colon) || (← isNext .rightBracket) then pure none
          else pure (some (← test fuel))
        else pure none
      let step ← if ← accept .colon then
          if ← isNext .rightBracket then pure none else pure (some (← test fuel))
        else pure none
      expect .rightBracket
      pure (.slice x low high step)

/-- The arguments of a call, after the opening parenthesis. -/
def arguments : Nat → List (Passing × Term) → Parse (List (Passing × Term))
  | 0, _ => failure
  | fuel + 1, done => do
      if ← accept .rightParen then return done.reverse
      if !done.isEmpty then
        expect .comma
        if ← accept .rightParen then return done.reverse
      if ← accept .star then arguments fuel ((.items, ← test fuel) :: done)
      else if ← accept .starStar then arguments fuel ((.entries, ← test fuel) :: done)
      else
        let x ← test fuel
        if ← accept .assign then
          match x with
          | .name t => arguments fuel ((.named t, ← test fuel) :: done)
          | _ => failure
        else arguments fuel ((.plain, x) :: done)

def primary : Nat → Parse Term
  | 0 => failure
  | fuel + 1 => do
      match ← get with
      | .name t :: rest =>
          set rest
          pure (.name t)
      | .int n :: rest =>
          set rest
          pure (.int n)
      | .float x :: rest =>
          set rest
          pure (.float x)
      | .str t :: rest =>
          set rest
          pure (.str t)
      | .bytes t :: rest =>
          set rest
          pure (.bytes t)
      | .symbol .leftBracket :: rest =>
          set rest
          listTerm fuel
      | .symbol .leftBrace :: rest =>
          set rest
          dictTerm fuel
      | .symbol .leftParen :: rest =>
          set rest
          if ← accept .rightParen then pure (.tuple [])
          else
            let x ← terms fuel true
            expect .rightParen
            pure (.paren x)
      | .symbol .minus :: rest =>
          set rest
          return .unary .minus (← suffixed fuel)
      | .symbol .plus :: rest =>
          set rest
          return .unary .plus (← suffixed fuel)
      | .symbol .tilde :: rest =>
          set rest
          return .unary .invert (← suffixed fuel)
      | _ => failure

/-- A list or a list comprehension, after the opening bracket. -/
def listTerm : Nat → Parse Term
  | 0 => failure
  | fuel + 1 => do
      let number ← number
      if ← accept .rightBracket then return .list []
      let x ← test fuel
      if ← isNext .wordFor then return .listOf number x (← clauses fuel .rightBracket [])
      let items ← moreTerms fuel true [x]
      expect .rightBracket
      pure (.list items)

/-- A table or a table comprehension, after the opening brace. -/
def dictTerm : Nat → Parse Term
  | 0 => failure
  | fuel + 1 => do
      let number ← number
      if ← accept .rightBrace then return .dict []
      let key ← test fuel
      expect .colon
      let value ← test fuel
      if ← isNext .wordFor then return .dictOf number key value (← clauses fuel .rightBrace [])
      entries fuel [(key, value)]

/-- The entries of a table after the first, up to its closing brace. -/
def entries : Nat → List (Term × Term) → Parse Term
  | 0, _ => failure
  | fuel + 1, done => do
      if ← accept .comma then
        if ← accept .rightBrace then return .dict done.reverse
        let key ← test fuel
        expect .colon
        let value ← test fuel
        entries fuel ((key, value) :: done)
      else
        expect .rightBrace
        pure (.dict done.reverse)

/-- The clauses of a comprehension, up to its closing bracket. -/
def clauses : Nat → Symbol → List Clause → Parse (List Clause)
  | 0, _, _ => failure
  | fuel + 1, closing, done => do
      if ← accept closing then return done.reverse
      if ← accept .wordFor then
        let first ← suffixed fuel
        let target ← targets fuel [first]
        expect .wordIn
        let source ← level fuel 0
        clauses fuel closing (.each target source :: done)
      else
        expect .wordIf
        let condition ← testNoIf fuel
        clauses fuel closing (.only condition :: done)

/-- The loop variables of a clause after the first ones, last first. -/
def targets : Nat → List Term → Parse Term
  | 0, _ => failure
  | fuel + 1, done => do
      if ← accept .comma then
        if ← endsList then return .tuple done.reverse
        let next ← suffixed fuel
        match ← symbol? with
        | some .comma => targets fuel (next :: done)
        | _ => pure (.tuple (next :: done).reverse)
      else match done with
        | [x] => pure x
        | _ => pure (.tuple done.reverse)

/-- One term, or several with commas between them, which make a tuple. A comma after the last one
is allowed inside parentheses only. -/
def terms : Nat → Bool → Parse Term
  | 0, _ => failure
  | fuel + 1, inParens => do
      let x ← test fuel
      if ← isNext .comma then return .tuple (← moreTerms fuel inParens [x]) else pure x

def moreTerms : Nat → Bool → List Term → Parse (List Term)
  | 0, _, _ => failure
  | fuel + 1, mayEnd, done => do
      if ← accept .comma then
        if ← endsList then
          if mayEnd then pure done.reverse else failure
        else moreTerms fuel mayEnd ((← test fuel) :: done)
      else pure done.reverse

end

/-! ### Statements -/

/-- A string that names something. -/
def quotedName : Parse Text := do
  match ← get with
  | .str t :: rest =>
      set rest
      pure t
  | _ => failure

/-- The names that are taken from another script, up to the closing parenthesis. -/
def loadedNames : (fuel : Nat) → List (Text × Text) → Parse (List (Text × Text))
  | 0, _ => failure
  | fuel + 1, done => do
      if ← accept .rightParen then return done.reverse
      expect .comma
      if ← accept .rightParen then return done.reverse
      match ← get with
      | .name own :: rest =>
          set rest
          expect .assign
          loadedNames fuel ((own, ← quotedName) :: done)
      | _ =>
          let own ← quotedName
          loadedNames fuel ((own, own) :: done)

def smallStatement (fuel : Nat) : Parse Statement := do
  match ← symbol? with
  | some .wordPass =>
      skip
      pure .pass
  | some .wordBreak =>
      skip
      pure .breakLoop
  | some .wordContinue =>
      skip
      pure .nextRound
  | some .wordReturn =>
      skip
      match ← get with
      | [] | .newline :: _ | .symbol .semicolon :: _ => pure (.give none)
      | _ => return .give (some (← terms fuel false))
  | some .wordLoad =>
      skip
      expect .leftParen
      let _ ← quotedName
      let names ← loadedNames fuel []
      if names.isEmpty then failure
      pure (.load names)
  | _ =>
      let x ← terms fuel false
      match ← symbol? with
      | some .assign =>
          skip
          return .assign x (← terms fuel false)
      | some (.augment op) =>
          skip
          return .augment op x (← terms fuel false)
      | _ => pure (.term x)

/-- Small statements with semicolons between them, up to the end of the line. -/
def simpleStatements (depth : Nat) : (fuel : Nat) → List Statement → Parse (List Statement)
  | 0, _ => failure
  | fuel + 1, done => do
      let s ← smallStatement depth
      let more ← accept .semicolon
      match ← get with
      | [] => pure (s :: done).reverse
      | .newline :: rest =>
          set rest
          pure (s :: done).reverse
      | _ => if more then simpleStatements depth fuel (s :: done) else failure

mutual

/-- A compound statement, or the simple statements of a line. -/
def statement (depth : Nat) : Nat → Parse (List Statement)
  | 0 => failure
  | fuel + 1 => do
      let number ← number
      if ← accept .wordDef then
        let name ← name
        expect .leftParen
        let parameters ← parameters depth []
        expect .rightParen
        expect .colon
        let body ← suite depth fuel
        pure [.assign (.name name) (.function number name parameters body)]
      else if ← accept .wordIf then return [← branches depth fuel]
      else if ← accept .wordFor then
        let target ← targets depth [← suffixed depth]
        expect .wordIn
        let source ← terms depth false
        expect .colon
        let body ← suite depth fuel
        pure [.each target source body]
      else if ← accept .wordWhile then
        let condition ← test depth
        expect .colon
        let body ← suite depth fuel
        pure [.repeatWhile condition body]
      else simpleStatements depth depth []

/-- The condition of a branch, its block, and the branches after it. -/
def branches (depth : Nat) : Nat → Parse Statement
  | 0 => failure
  | fuel + 1 => do
      let condition ← test depth
      expect .colon
      let yes ← suite depth fuel
      if ← accept .wordElif then return .branch condition yes [← branches depth fuel]
      if ← accept .wordElse then
        expect .colon
        return .branch condition yes (← suite depth fuel)
      pure (.branch condition yes [])

/-- What a compound statement governs. -/
def suite (depth : Nat) : Nat → Parse (List Statement)
  | 0 => failure
  | fuel + 1 => do
      match ← get with
      | .newline :: .indent :: rest =>
          set rest
          block depth fuel []
      | .newline :: _ => failure
      | _ => simpleStatements depth depth []

/-- The statements up to the end of a block. -/
def block (depth : Nat) : Nat → List Statement → Parse (List Statement)
  | 0, _ => failure
  | fuel + 1, done => do
      match ← get with
      | .outdent :: rest =>
          set rest
          pure done
      | _ => block depth fuel (done ++ (← statement depth fuel))

end

/-- The statements of a script; empty lines may stand between them. -/
def script (depth : Nat) : (fuel : Nat) → List Statement → Parse (List Statement)
  | 0, _ => failure
  | fuel + 1, done => do
      match ← get with
      | [] => pure done
      | .newline :: rest =>
          set rest
          script depth fuel done
      | _ => script depth fuel (done ++ (← statement depth depth))

end Parse

/-- The statements that tokens form, if they do. -/
def parse? (tokens : List Token) : Option (List Statement) :=
  let bound := 20 * tokens.length + 40
  (Parse.script bound bound [] tokens).map (·.1)

end Tandem.Expr
