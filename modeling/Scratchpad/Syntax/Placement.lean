import Scratchpad.Syntax.Names

/-!
# Placement rules

Rules that the grammar alone does not state: which statements may stand in which
surroundings, and how a scope may declare its names. The rules on names are
checked for the whole text before the others.
-/

namespace Scratchpad

/-- The surroundings of a statement. -/
structure Place where
  inFunction : Bool := false
  isAsync : Bool := false
  inLoop : Bool := false

/-- A cause and its line. -/
abbrev CauseLine := Cause × Nat

/-- The first of several optional faults. -/
def firstFault : List (Option CauseLine) → Option CauseLine
  | [] => none
  | some f :: _ => some f
  | none :: rest => firstFault rest

/-! ## Names -/

/-- The names of a scope as they are met. -/
structure ScopeNames where
  used : List String := []
  bound : List String := []

/-- Checks a declaration that a name lives elsewhere. -/
def ScopeNames.declaration? (s : ScopeNames) (parameters : List String) (scope n : String) :
    Option Cause :=
  if parameters.contains n then some (.parameterAndScope n scope)
  else if s.used.contains n then some (.scopeAfterUse n "used prior to" scope)
  else if s.bound.contains n then some (.scopeAfterUse n "assigned to before" scope)
  else none

/-- Checks the declarations of a scope against what it mentioned before.
`enclosing` holds the local names of the functions around it. -/
def scopeFault? (parameters enclosing : List String) (topLevel : Bool) :
    ScopeNames → List MentionLine → Option CauseLine
  | _, [] => none
  | s, (line, m) :: rest =>
    match m with
    | .use n => scopeFault? parameters enclosing topLevel { s with used := n :: s.used } rest
    | .bind n =>
      scopeFault? parameters enclosing topLevel { s with bound := n :: s.bound } rest
    | .global n =>
      match s.declaration? parameters "global" n with
      | some c => some (c, line)
      | none => scopeFault? parameters enclosing topLevel s rest
    | .nonlocal n =>
      -- a name is nonlocal only if a function around it binds it
      if topLevel then some (.topLevelNonlocal, line)
      else match s.declaration? parameters "nonlocal" n with
        | some c => some (c, line)
        | none =>
          if enclosing.contains n then scopeFault? parameters enclosing topLevel s rest
          else some (.unboundNonlocal n, line)
    | _ => scopeFault? parameters enclosing topLevel s rest

/-- The first name that a list holds twice. -/
def firstRepeated? : List String → Option String
  | [] => none
  | n :: rest => if rest.contains n then some n else firstRepeated? rest

/-- The mentions without their lines. -/
def plainMentions (ms : List MentionLine) : List Mention := ms.map (·.2)

mutual

/-- Checks the scopes that a statement opens. -/
def Stmt.nameFault? (enclosing : List String) (line : Nat) : Stmt → Option CauseLine
  | .define _ _ ps _ _ body =>
    let names := ps.names
    let ms := blockMentions body
    match firstRepeated? names with
    | some n => some (.duplicateParameter n, line)
    | none =>
      match scopeFault? names enclosing false {} ms with
      | some f => some f
      | none => blockNameFault? (localNames names (plainMentions ms) ++ enclosing) body
  | .defineClass _ _ _ body =>
    match scopeFault? [] enclosing false {} (blockMentions body) with
    | some f => some f
    | none => blockNameFault? enclosing body
  | .branch _ body orelse =>
    firstFault [blockNameFault? enclosing body, blockNameFault? enclosing orelse]
  | .whileLoop _ body orelse =>
    firstFault [blockNameFault? enclosing body, blockNameFault? enclosing orelse]
  | .forLoop _ _ _ body orelse =>
    firstFault [blockNameFault? enclosing body, blockNameFault? enclosing orelse]
  | .attempt body handlers orelse final _ =>
    firstFault [blockNameFault? enclosing body, handlerNameFault? enclosing handlers,
      blockNameFault? enclosing orelse, blockNameFault? enclosing final]
  | .manage _ _ body => blockNameFault? enclosing body
  | .choose _ cases => caseNameFault? enclosing cases
  | _ => none

/-- Checks the scopes that the statements of a block open. -/
def blockNameFault? (enclosing : List String) : List Located → Option CauseLine
  | [] => none
  | .mk line _ s :: rest =>
    match s.nameFault? enclosing line with
    | some f => some f
    | none => blockNameFault? enclosing rest

/-- Checks the scopes in exception handlers. -/
def handlerNameFault? (enclosing : List String) : List Handler → Option CauseLine
  | [] => none
  | .mk _ _ _ body :: rest =>
    match blockNameFault? enclosing body with
    | some f => some f
    | none => handlerNameFault? enclosing rest

/-- Checks the scopes in cases. -/
def caseNameFault? (enclosing : List String) : List Case → Option CauseLine
  | [] => none
  | .mk _ _ body :: rest =>
    match blockNameFault? enclosing body with
    | some f => some f
    | none => caseNameFault? enclosing rest

end

/-! ## Surroundings -/

/-- The fault of a mention in some surroundings. -/
def Mention.fault? (p : Place) : Mention → Option Cause
  | .fault c => some c
  | .yields => if p.inFunction then none else some (.outside "yield" "function")
  | .awaits =>
    if !p.inFunction then some (.outside "await" "function")
    else if !p.isAsync then some (.outside "await" "async function")
    else none
  | _ => none

/-- The first fault among the mentions of a statement. -/
def ownFault? (p : Place) (line : Nat) (ms : List Mention) : Option CauseLine :=
  (ms.findSome? (Mention.fault? p)).map (·, line)

/-- A handler for everything must be the last one. -/
def handlerOrder? : List Handler → Option CauseLine
  | .mk line none _ _ :: _ :: _ => some (.handlerOrder, line)
  | _ :: rest => handlerOrder? rest
  | [] => none

mutual

/-- Checks a statement against its surroundings. -/
def Stmt.placeFault? (p : Place) (line : Nat) (s : Stmt) : Option CauseLine :=
  match ownFault? p line s.ownMentions with
  | some f => some f
  | none =>
    match s with
    | .giveBack _ => if p.inFunction then none else some (.outside "return" "function", line)
    | .breakLoop => if p.inLoop then none else some (.outside "break" "loop", line)
    | .continueLoop => if p.inLoop then none else some (.misplacedContinue, line)
    | .importFrom _ _ names =>
      if p.inFunction && names.any (·.name == "*") then some (.importStarInside, line) else none
    -- a loop around a function is no loop of its body
    | .define isAsync _ _ _ _ body => blockPlaceFault? ⟨true, isAsync, false⟩ body
    | .defineClass _ _ _ body => blockPlaceFault? {} body
    | .branch _ body orelse => firstFault [blockPlaceFault? p body, blockPlaceFault? p orelse]
    | .whileLoop _ body orelse =>
      firstFault [blockPlaceFault? { p with inLoop := true } body, blockPlaceFault? p orelse]
    | .forLoop isAsync _ _ body orelse =>
      firstFault [
        if isAsync && !p.isAsync then some (.outside "async for" "async function", line) else none,
        blockPlaceFault? { p with inLoop := true } body, blockPlaceFault? p orelse]
    | .attempt body handlers orelse final _ =>
      firstFault [handlerOrder? handlers, blockPlaceFault? p body,
        handlerPlaceFault? p handlers, blockPlaceFault? p orelse, blockPlaceFault? p final]
    | .manage isAsync _ body =>
      firstFault [
        if isAsync && !p.isAsync then some (.outside "async with" "async function", line) else none,
        blockPlaceFault? p body]
    | .choose _ cases => casePlaceFault? p line cases
    | _ => none

/-- Checks the statements of a block. -/
def blockPlaceFault? (p : Place) : List Located → Option CauseLine
  | [] => none
  | .mk line _ s :: rest =>
    match s.placeFault? p line with
    | some f => some f
    | none => blockPlaceFault? p rest

/-- Checks exception handlers. -/
def handlerPlaceFault? (p : Place) : List Handler → Option CauseLine
  | [] => none
  | .mk line type _ body :: rest =>
    match ownFault? p line (optionMentions type) with
    | some f => some f
    | none =>
      match blockPlaceFault? p body with
      | some f => some f
      | none => handlerPlaceFault? p rest

/-- Checks the cases of a choice. -/
def casePlaceFault? (p : Place) (line : Nat) : List Case → Option CauseLine
  | [] => none
  | .mk _ guard body :: rest =>
    match ownFault? p line (optionMentions guard) with
    | some f => some f
    | none =>
      match blockPlaceFault? p body with
      | some f => some f
      | none => casePlaceFault? p line rest

end

/-- Checks all placement rules for a whole text. -/
def placementFault? (b : Block) : Option CauseLine :=
  firstFault [scopeFault? [] [] true {} (blockMentions b), blockNameFault? [] b,
    blockPlaceFault? {} b]

end Scratchpad
