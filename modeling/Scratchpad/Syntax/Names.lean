import Scratchpad.Syntax.Fault
import Scratchpad.Syntax.Tree

/-!
# Names in a scope

Which names an expression or a statement uses and binds in its own scope, in the
order of evaluation. The bodies of functions, classes and comprehensions are
scopes of their own; what they bind with a walrus belongs to the scope around a
comprehension.
-/

namespace Scratchpad

/-- Something of note in a scope. -/
inductive Mention where
  | use (name : String)
  | bind (name : String)
  | global (name : String)
  | nonlocal (name : String)
  | yields
  | awaits
  /-- A fault that no scope makes good. -/
  | fault (cause : Cause)
deriving DecidableEq, Repr

/-- What a nested scope lets the scope around it see. -/
def Mention.leaks : Mention → Bool
  | .fault _ => true
  | _ => false

/-- What a comprehension lets the scope around it see. -/
def Mention.leaksBind : Mention → Bool
  | .fault _ | .bind _ => true
  | _ => false

/-- The first keyword that is given twice. -/
def repeatedKeyword? : List String → List Argument → Option String
  | _, [] => none
  | seen, .keyword k _ :: rest =>
    if seen.contains k then some k else repeatedKeyword? (k :: seen) rest
  | seen, _ :: rest => repeatedKeyword? seen rest

mutual

/-- What an expression mentions. -/
def Expr.mentions : Expr → List Mention
  | .constant _ => []
  | .name n => [.use n]
  | .formatted ps => pieceMentions ps
  | .tuple es | .list es | .set es => itemMentions es
  | .dict items => dictMentions items
  | .unary _ e => e.mentions
  | .binary _ a b => a.mentions ++ b.mentions
  | .and es | .or es => listMentions es
  | .compare e rest => e.mentions ++ compareMentions rest
  | .conditional t a b => t.mentions ++ a.mentions ++ b.mentions
  | .lambda ps body =>
    -- what the body mentions is its own, but for what leaks
    parametersMentions ps ++ body.mentions.filter Mention.leaks
  | .call f args =>
    f.mentions ++ argumentMentions args ++
      ((repeatedKeyword? [] args).map fun k => Mention.fault (.repeatedKeyword k)).toList
  | .attribute e _ => e.mentions
  | .subscript e i => e.mentions ++ i.mentions
  | .slice a b c => optionMentions a ++ optionMentions b ++ optionMentions c
  | .comprehension _ key e cs =>
    clauseMentions true cs ++ (optionMentions key ++ e.mentions).filter Mention.leaksBind
  | .starred e => .fault .starredTarget :: e.mentions
  | .walrus n e => e.mentions ++ [.bind n]
  | .await e => e.mentions ++ [.awaits]
  | .yield e => optionMentions e ++ [.yields]
  | .yieldFrom e => e.mentions ++ [.yields]

/-- What several expressions mention. -/
def listMentions : List Expr → List Mention
  | [] => []
  | e :: rest => e.mentions ++ listMentions rest

/-- What the items of a display mention; they may be starred. -/
def itemMentions : List Expr → List Mention
  | [] => []
  | .starred e :: rest => e.mentions ++ itemMentions rest
  | e :: rest => e.mentions ++ itemMentions rest

/-- What an optional expression mentions. -/
def optionMentions : Option Expr → List Mention
  | none => []
  | some e => e.mentions

/-- What the right sides of a comparison mention. -/
def compareMentions : List (CompareOp × Expr) → List Mention
  | [] => []
  | (_, e) :: rest => e.mentions ++ compareMentions rest

/-- What the fields of a formatted string mention. -/
def pieceMentions : List Piece → List Mention
  | [] => []
  | .text _ :: rest => pieceMentions rest
  | .field e _ format :: rest => e.mentions ++ pieceMentions format ++ pieceMentions rest

/-- What the entries of a dictionary mention. -/
def dictMentions : List DictItem → List Mention
  | [] => []
  | .entry k v :: rest => k.mentions ++ v.mentions ++ dictMentions rest
  | .unpack e :: rest => e.mentions ++ dictMentions rest

/-- What arguments mention. -/
def argumentMentions : List Argument → List Mention
  | [] => []
  | .positional e :: rest => e.mentions ++ argumentMentions rest
  | .unpack e :: rest => e.mentions ++ argumentMentions rest
  | .keyword _ e :: rest => e.mentions ++ argumentMentions rest
  | .unpackKeywords e :: rest => e.mentions ++ argumentMentions rest

/-- What the clauses of a comprehension mention. Only the first source belongs to
the scope around it. -/
def clauseMentions (outer : Bool) : List Clause → List Mention
  | [] => []
  | .mk _ target source conditions :: rest =>
    (if outer then source.mentions else source.mentions.filter Mention.leaksBind) ++
      target.mentions.filter (fun _ => false) ++
      (listMentions conditions).filter Mention.leaksBind ++ clauseMentions false rest

/-- What the defaults and annotations of parameters mention. -/
def parametersMentions : Parameters → List Mention
  | .mk a b c d e =>
    parameterMentions a ++ parameterMentions b ++ parameterMentions d ++
      optionParameterMentions c ++ optionParameterMentions e

/-- What the default and the annotation of each parameter mention. -/
def parameterMentions : List Parameter → List Mention
  | [] => []
  | .mk _ a d :: rest => optionMentions d ++ optionMentions a ++ parameterMentions rest

/-- What the annotation of an optional parameter mentions. -/
def optionParameterMentions : Option Parameter → List Mention
  | none => []
  | some (.mk _ a d) => optionMentions d ++ optionMentions a

end

/-! ## Targets -/

/-- Number of starred items. -/
def starCount (es : List Expr) : Nat :=
  (es.filter fun
    | .starred _ => true
    | _ => false).length

mutual

/-- What an assignment to a target mentions. `inner` says that the target is an
item of a list or tuple, where it may be starred. -/
def Expr.targetMentions (inner : Bool) : Expr → List Mention
  | .name n =>
    if n = "__debug__" then [.fault (.cannotAssign n)] else [.bind n]
  | .tuple es | .list es =>
    (if starCount es > 1 then [.fault .multipleStars] else []) ++ targetListMentions es
  | .starred e => (if inner then [] else [.fault .starredAssignment]) ++ e.targetMentions true
  | .attribute e _ => e.mentions
  | .subscript e i => e.mentions ++ i.mentions
  | e => e.mentions

/-- What assignments to several targets mention. -/
def targetListMentions : List Expr → List Mention
  | [] => []
  | e :: rest => e.targetMentions true ++ targetListMentions rest

end

/-- Names that a pattern binds, with fuel for its depth. -/
def Pattern.binds : Nat → Pattern → List String
  | 0, _ => []
  | n + 1, p => match p with
    | .value _ | .wildcard => []
    | .capture x => [x]
    | .sequence ps | .or ps => ps.flatMap (binds n)
    | .star x => x.toList
    | .mapping es rest => es.flatMap (fun e => e.2.binds n) ++ rest.toList
    | .record _ ps named => ps.flatMap (binds n) ++ named.flatMap fun e => e.2.binds n
    | .as p x => p.binds n ++ [x]

/-! ## Statements -/

/-- First part of a dotted name, which an import binds. -/
def firstPart (name : String) : String :=
  String.ofList (name.toList.takeWhile (· != '.'))

/-- The name that an import binds. -/
def Alias.bound (a : Alias) : String := a.renamed.getD (firstPart a.name)

/-- What a statement mentions outside its blocks. -/
def Stmt.ownMentions : Stmt → List Mention
  | .expression e => e.mentions
  | .assign targets value =>
    value.mentions ++ targets.flatMap (·.targetMentions false)
  | .augment target _ value =>
    target.mentions ++ value.mentions ++ target.targetMentions false
  | .annotate target a value simple =>
    optionMentions value ++ a.mentions ++
      (if simple || value.isSome then target.targetMentions false else target.mentions)
  | .delete targets => targets.flatMap (·.targetMentions false)
  | .pass | .breakLoop | .continueLoop => []
  | .giveBack e => optionMentions e
  | .raise e cause => optionMentions e ++ optionMentions cause
  | .globalNames ns => ns.map .global
  | .nonlocalNames ns => ns.map .nonlocal
  | .assert t m => t.mentions ++ optionMentions m
  | .importModules names => names.map fun a => .bind a.bound
  | .importFrom _ _ names => (names.filter (·.name != "*")).map fun a => .bind a.bound
  | .branch t _ _ => t.mentions
  | .whileLoop t _ _ => t.mentions
  | .forLoop _ target source _ _ => source.mentions ++ target.targetMentions false
  | .define _ name ps returns decorators _ =>
    -- the body has mentions of its own; its defaults and annotations are mentioned here
    decorators.flatMap (·.2.mentions) ++ parametersMentions ps ++ optionMentions returns ++
      [.bind name]
  | .defineClass name bases decorators _ =>
    decorators.flatMap (·.2.mentions) ++ argumentMentions bases ++ [.bind name]
  | .attempt .. => []
  | .manage _ items _ =>
    items.flatMap fun i => i.1.mentions ++ (i.2.map (·.targetMentions false)).getD []
  | .choose subject _ => subject.mentions

/-- A mention and the line of its statement. -/
abbrev MentionLine := Nat × Mention

mutual

/-- What a statement mentions in its own scope, its nested blocks included. -/
def Stmt.mentions (line : Nat) (s : Stmt) : List MentionLine :=
  s.ownMentions.map (line, ·) ++
  match s with
  | .branch _ body orelse => blockMentions body ++ blockMentions orelse
  | .whileLoop _ body orelse => blockMentions body ++ blockMentions orelse
  | .forLoop _ _ _ body orelse => blockMentions body ++ blockMentions orelse
  | .attempt body handlers orelse final _ =>
    blockMentions body ++ handlerMentions handlers ++ blockMentions orelse ++
      blockMentions final
  | .manage _ _ body => blockMentions body
  | .choose _ cases => caseMentions line cases
  | _ => []

/-- What the statements of a block mention. -/
def blockMentions : List Located → List MentionLine
  | [] => []
  | .mk line _ s :: rest => s.mentions line ++ blockMentions rest

/-- What exception handlers mention. -/
def handlerMentions : List Handler → List MentionLine
  | [] => []
  | .mk line type name body :: rest =>
    (optionMentions type ++ name.toList.map Mention.bind).map (line, ·) ++ blockMentions body ++
      handlerMentions rest

/-- What the cases of a choice mention. -/
def caseMentions (line : Nat) : List Case → List MentionLine
  | [] => []
  | .mk p guard body :: rest =>
    ((p.binds 100).map Mention.bind ++ optionMentions guard).map (line, ·) ++ blockMentions body ++
      caseMentions line rest

end

/-- Names that mentions bind. -/
def boundNames (ms : List Mention) : List String :=
  ms.filterMap fun
    | .bind n => some n
    | _ => none

/-- Names that mentions declare to live elsewhere. -/
def declaredNames (ms : List Mention) : List String :=
  ms.filterMap fun
    | .global n | .nonlocal n => some n
    | _ => none

/-- Names that mentions declare global. -/
def globalNames (ms : List Mention) : List String :=
  ms.filterMap fun
    | .global n => some n
    | _ => none

/-- The local variables of a scope: its parameters and what its body binds, less
what the body declares to live elsewhere. -/
def localNames (parameters : List String) (body : List Mention) : List String :=
  let elsewhere := declaredNames body
  ((parameters ++ boundNames body).filter (!elsewhere.contains ·)).eraseDups

end Scratchpad
