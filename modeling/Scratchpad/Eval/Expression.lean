import Scratchpad.Eval.Assignment
import Scratchpad.Eval.Placeholder
import Scratchpad.Eval.Call

/-!
# Expressions

The rule for each form of expression. Operands are computed from left to right;
arguments by position come before arguments by name.
-/

namespace Scratchpad

/-- The value of a literal. -/
def Constant.value : Constant → Except Raised Value
  | .none => .ok .none
  | .bool b => .ok (.bool b)
  | .ellipsis => .ok .ellipsis
  | .int n => .ok (.int n)
  | .float x => .ok (.float x)
  | .imaginary _ => .error (.notProvided "a complex number")
  | .str t => .ok (.str t)
  | .bytes bs => .ok (.bytes bs)

namespace Rules

/-! ## Displays -/

/-- The items of a display; starred ones yield all of theirs. -/
def displayed (r : Rules) (env : Env) : List Expr → Run (List Value)
  | [] => return []
  | .starred e :: rest => do
    let v ← r.expression env e
    let fault (type : String) : Raised :=
      .typeError s!"Value after * must be an iterable, not {type}"
    let items ← r.itemsOr fault v
    return items ++ (← displayed r env rest)
  | e :: rest => do
    let v ← r.expression env e
    return v :: (← displayed r env rest)

/-- The entries of a dictionary display, put over those before them. -/
def displayedEntries (r : Rules) (env : Env) :
    List (Value × Value) → List DictItem → Run (List (Value × Value))
  | es, [] => return es
  | es, .entry k v :: rest => do
    let k ← r.expression env k
    let v ← r.expression env v
    displayedEntries r env (entrySet es (← Run.key k) v) rest
  | es, .unpack e :: rest => do
    let v ← r.expression env e
    match Run.entriesOf? (← Run.cells) v with
    | some new => displayedEntries r env (mergeEntries es new) rest
    | none => .typeFault s!"'{← Run.typeName v}' object is not a mapping"

/-- The text of a formatted string. -/
def formattedText (r : Rules) (env : Env) : List Piece → Run Text
  | [] => return []
  | .text t :: rest => return t ++ (← formattedText r env rest)
  | .field e conversion spec :: rest => do
    let v ← Run.converted conversion (← r.expression env e)
    let spec ← formattedText r env spec
    let t ← Run.formatValue v spec
    return t ++ (← formattedText r env rest)

/-! ## Operators -/

/-- The last operand of a conjunction or disjunction that is computed: the first one
whose truth is `decisive`. -/
def connective (r : Rules) (env : Env) (decisive : Bool) : List Expr → Run Value
  | [] => return .none
  | [e] => r.expression env e
  | e :: rest => do
    let v ← r.expression env e
    if truth (← Run.world) v == decisive then return v else connective r env decisive rest

/-- A chain of comparisons, which ends at the first one that fails. -/
def comparisons (r : Rules) (env : Env) (left : Value) : List (CompareOp × Expr) → Run Value
  | [] => return left
  | [(op, e)] => do r.compare op left (← r.expression env e)
  | (op, e) :: rest => do
    let right ← r.expression env e
    let verdict ← r.compare op left right
    if truth (← Run.world) verdict then comparisons r env right rest else return verdict

/-! ## Calls -/

/-- What a callee is called in a complaint about its arguments. -/
def calleeText (f : Value) : Run String := do
  match f with
  | .function loc => match (← Run.cells)[loc]? with
    | some (.function c) => return c.name ++ "()"
    | _ => return "function()"
  | .builtin name | .type name | .method _ name => return name ++ "()"
  | f => return String.ofList (← Run.str f)

/-- The arguments by position. `alone` says that a starred one is the only one. -/
def positionalArguments (r : Rules) (env : Env) (f : Value) (alone : Bool) :
    List Argument → Run (List Value)
  | [] => return []
  | .positional e :: rest => do
    let v ← r.expression env e
    return v :: (← positionalArguments r env f alone rest)
  | .unpack e :: rest => do
    let v ← r.expression env e
    let callee ← calleeText f
    let fault (type : String) : Raised := .typeError <|
      if alone then s!"{callee} argument after * must be an iterable, not {type}"
      else s!"Value after * must be an iterable, not {type}"
    let items ← r.itemsOr fault v
    return items ++ (← positionalArguments r env f alone rest)
  | _ :: rest => positionalArguments r env f alone rest

/-- The arguments by name, behind those that were computed before. -/
def namedArguments (r : Rules) (env : Env) (f : Value) (given : List (String × Value)) :
    List Argument → Run (List (String × Value))
  | [] => return given
  | .keyword n e :: rest => do
    let v ← r.expression env e
    namedArguments r env f (given ++ [(n, v)]) rest
  | .unpackKeywords e :: rest => do
    let v ← r.expression env e
    match Run.entriesOf? (← Run.cells) v with
    | none =>
      let type ← Run.typeName v
      .typeFault s!"{← calleeText f} argument after ** must be a mapping, not {type}"
    | some entries =>
      let more ← entries.mapM fun (k, v) => do
        match k with
        | .str n => pure (String.ofList n, v)
        | _ => .typeFault "keywords must be strings"
      -- keywords given one by one cannot repeat: the syntax keeps that out
      match more.find? fun (n, _) => (given.lookup n).isSome with
      | some (n, _) =>
        .typeFault s!"{← calleeText f} got multiple values for keyword argument '{n}'"
      | none => namedArguments r env f (given ++ more) rest
  | _ :: rest => namedArguments r env f given rest

/-- A call: the callee, the arguments by position, the arguments by name. -/
def callExpression (r : Rules) (env : Env) (callee : Expr) (args : List Argument) : Run Value := do
  let f ← r.expression env callee
  let fills (a : Argument) : Bool := match a with
    | .positional _ | .unpack _ => true
    | _ => false
  let positional ← r.positionalArguments env f ((args.filter fills).length == 1) args
  let named ← r.namedArguments env f [] args
  r.call f positional named

/-! ## Functions -/

/-- The values of the defaults of parameters. -/
def defaultValues (r : Rules) (env : Env) : List Parameter → Run (List (String × Value))
  | [] => return []
  | .mk n _ (some e) :: rest => do
    let v ← r.expression env e
    return (n, v) :: (← defaultValues r env rest)
  | _ :: rest => defaultValues r env rest

/-- Computes the annotations of parameters. -/
def annotations (r : Rules) (env : Env) : List Parameter → Run (List (String × Value))
  | [] => return []
  | .mk n (some e) _ :: rest => do
    let v ← r.expression env e
    return (n, v) :: (← annotations r env rest)
  | _ :: rest => annotations r env rest

/-- The parameters in the order in which their annotations are computed. -/
def annotated (ps : Parameters) : List Parameter :=
  ps.positional ++ ps.positionalOnly ++ ps.rest.toList ++ ps.keywordOnly ++ ps.keywords.toList

/-- Makes a function whose body mentions some names. -/
def makeFunction (r : Rules) (env : Env) (name : String) (ps : Parameters)
    (returns : Option Expr) (body : Body) (mentions : List Mention) : Run Value := do
  let defaults ← r.defaultValues env (ps.positionalOnly ++ ps.positional ++ ps.keywordOnly)
  let declared ← r.annotations env (annotated ps)
  let result ← match returns with
    | none => pure []
    | some e => do pure [("return", ← r.expression env e)]
  return .function (← Run.alloc (.function {
    name := env.path ++ name
    parameters := ps
    defaults, body
    annotations := declared ++ result
    locals := localNames ps.names mentions
    globals := globalNames mentions
    frame := env.frame }))

/-! ## Comprehensions -/

/-- Whether all conditions of a clause hold. -/
def conditionsHold (r : Rules) (env : Env) : List Expr → Run Bool
  | [] => return true
  | e :: rest => do
    let v ← r.expression env e
    if truth (← Run.world) v then conditionsHold r env rest else return false

/-- What `body` gives for each item of an iterator, last first, in front of what was
collected. -/
def collectOver {α : Type} (r : Rules) (iterator : Value) (body : Value → Run (List α)) :
    Nat → List α → Run (List α)
  | 0, _ => .spend
  | n + 1, found => do
    match ← r.next iterator with
    | none => return found
    | some v => collectOver r iterator body n ((← body v).reverse ++ found)

/-- What an element gives under the clauses of a comprehension. The first source was
computed outside. -/
def collect {α : Type} (r : Rules) (env : Env) (element : Run α) :
    Option Value → List Clause → Run (List α)
  | _, [] => return [← element]
  | first, .mk _ target source conditions :: rest => do
    let source ← match first with
      | some v => pure v
      | none => r.expression env source
    let iterator ← Run.iterate source
    let found ← r.collectOver iterator
      (fun v => do
        r.assign env target v
        if ← r.conditionsHold env conditions then collect r env element none rest
        else return [])
      maxRounds []
    return found.reverse

/-- What a comprehension builds. A generator does nothing until its first item is asked
for, but that its first source is computed. -/
def comprehension (r : Rules) (env : Env) (kind : Collection) (key : Option Expr)
    (element : Expr) (clauses : List Clause) : Run Value := do
  let targets := clauses.flatMap fun (.mk _ target _ _) =>
    boundNames (target.targetMentions true)
  let first ← match clauses with
    -- the first source is evaluated outside of the frame
    | .mk _ _ source _ :: _ => r.expression env source
    | [] => pure (.tuple [])
  let frame ← Run.alloc
    (.frame { bindings := [], locals := targets.eraseDups, globals := [], parent := env.frame })
  let inner : Env := { env with frame := some frame }
  match kind, key with
  | .dict, some k =>
    let entries ← r.collect inner
      (do
        let k ← r.expression inner k
        let v ← r.expression inner element
        return (← Run.key k, v))
      (some first) clauses
    Run.newDict (mergeEntries [] entries)
  | .list, _ => Run.newList (← r.collect inner (r.expression inner element) (some first) clauses)
  | .generator, _ =>
    let iterator ← Run.iterate first
    Run.newIterator "generator"
      (.generator { env := inner, element, clauses, active := [iterator] })
  | _, _ => .raise (.notProvided "a set")

/-! ## Generators -/

/-- Lets a generator go on to its next item. -/
def resume (r : Rules) (g : Suspended) (keep : Source → Run Unit) :
    Nat → List Value → Run (Option Value)
  | 0, _ => .spend
  | _, [] => return none
  | n + 1, iterator :: outer => do
    match ← r.next iterator with
    -- an iterator that is spent leaves the turn to the one around it
    | none => resume r g keep n outer
    | some v =>
      -- as many iterators are active as clauses are entered
      match g.clauses.drop outer.length with
      | [] => return none
      | .mk _ target _ conditions :: inner =>
        r.assign g.env target v
        if ← r.conditionsHold g.env conditions then
          match inner with
          | .mk _ _ source _ :: _ =>
            let next ← Run.iterate (← r.expression g.env source)
            resume r g keep n (next :: iterator :: outer)
          | [] =>
            let x ← r.expression g.env g.element
            -- the place is kept only when an item is found, since the item is computed behind it
            keep (.generator { g with active := iterator :: outer })
            return some x
        else resume r g keep n (iterator :: outer)

/-- The next item of any iterator. A generator that an exception leaves has ended. -/
def nextOf (r : Rules) (v : Value) : Run (Option Value) := do
  match v with
  | .iterator _ loc =>
    match (← Run.cells)[loc]? with
    | some (.iterator (.generator g)) =>
      let keep (s : Source) : Run Unit := .store loc (.iterator s)
      -- while it runs it cannot be asked again, and after a fault it is spent
      keep .running
      .handle
        (do
          let item ← r.resume g keep maxRounds g.active
          if item.isNone then keep (.items [])
          return item)
        fun e => do
          keep (.items [])
          .raise <|
            if e.kind == "StopIteration" then
              .of "RuntimeError" "generator raised StopIteration"
            else e
    | _ => r.nextItem v
  | v => r.nextItem v

/-! ## The rule -/

/-- The rule for expressions. -/
def evaluate (r : Rules) (env : Env) (e : Expr) : Run Value := do
  match e with
  | .constant c => .ofExcept c.value
  | .name n => Run.nameValue env n
  | .formatted pieces => return .str (← r.formattedText env pieces)
  | .tuple es => return .tuple (← r.displayed env es)
  | .list es => Run.newList (← r.displayed env es)
  | .set es =>
    let _ ← r.displayed env es
    .raise (.notProvided "a set")
  | .dict items => Run.newDict (← r.displayedEntries env [] items)
  | .unary op e => Run.operateUnary op (← r.expression env e)
  | .binary op a b =>
    let x ← r.expression env a
    Run.operate op false x (← r.expression env b)
  | .and es => r.connective env false es
  | .or es => r.connective env true es
  | .compare first rest => r.comparisons env (← r.expression env first) rest
  | .conditional test yes no =>
    let verdict ← r.expression env test
    if truth (← Run.world) verdict then r.expression env yes else r.expression env no
  | .lambda ps body =>
    -- a function that yields gives an iterator, and runs when its items are asked for
    let code : Body :=
      if body.mentions.contains .yields then .suspended [.mk 0 0 (.giveBack (some body))]
      else .expression body
    r.makeFunction env "<lambda>" ps none code body.mentions
  | .call callee args => r.callExpression env callee args
  | .attribute e n => r.getAttribute (← r.expression env e) n
  | .subscript e i =>
    let collection ← r.expression env e
    Run.getItem collection (← r.expression env i)
  | .slice a b c =>
    let part (e? : Option Expr) : Run Value := match e? with
      | none => return .none
      | some e => r.expression env e
    let a ← part a
    let b ← part b
    return .slice a b (← part c)
  | .comprehension kind key element clauses => r.comprehension env kind key element clauses
  | .walrus n e =>
    let v ← r.expression env e
    Run.bindName env n v
    return v
  | .starred _ => .raise (.notProvided "a starred expression here")
  | .await _ | .yield _ | .yieldFrom _ => .raise (.notProvided "a coroutine")

end Rules

end Scratchpad
