import MemoryTimeline.Recorder.Construction

/-!
# Walking a program

`Program.timeline` opens the global scope and walks the top-level nodes. A function
is walked where it is called, the main function where it stands. Every scope that
a node opens is closed before the next node is walked.

The walk recurses over statements and takes the walk of callee bodies as an
argument; `bodyWalk` ties the two together by counting down the calls that may
still be entered. A call beyond the limit opens and closes its scope and leaves
the body out, so recursive programs have finite timelines.
-/

namespace MemoryTimeline.Recorder

open Program (Argument Node Parameter)

/-- The most callee bodies that are open at a time. -/
def maxCallDepth : Nat := 32

/-- What a walk reads and never changes. -/
structure Context where
  program : Program
  naming : ScopeNaming

/-- How statements are walked in a scope. -/
abbrev BodyWalk := List Node → String → Recorder → Recorder

/-- Record the parameters of a call, one after the other; each argument is resolved when
its parameter is recorded. -/
def bindParameters (scope : String) (line : Option Nat) :
    List Parameter → List Argument → Recorder → Recorder
  | [], _, recorder => recorder
  | parameter :: rest, args, recorder =>
    let (value, pointee) := recorder.resolve (args.head?.map (·.value))
    let bound : Record :=
      { name := parameter.name
        value
        scope
        kind := .parameter
        pointee
        id := parameter.id
        line := parameter.line.or line }
    bindParameters scope line rest args.tail (recorder.record bound)

/-- The record of a parameter that no call binds. -/
def unboundParameter (scope : String) (line : Option Nat) (parameter : Parameter) : Record where
  name := parameter.name
  value := unresolved
  scope := scope
  kind := .parameter
  id := parameter.id
  line := parameter.line.or line

/-- Walk the main function in its own scope. -/
def enterMain (enter : BodyWalk) (function : Program.Function Node) (recorder : Recorder) :
    Recorder :=
  let scope := scopeOf (some function.name) globalScope
  recorder.inScope scope function.line fun recorder =>
    enter function.body scope
      (recorder.recordAll (function.params.map (unboundParameter scope function.line)))

/-- Walk a called function in a scope of its name, or the body embedded in the call if
the function is not declared. -/
def enterFunction (program : Program) (enter : BodyWalk) (call : Program.FunctionCall Node)
    (recorder : Recorder) : Recorder :=
  let scope := scopeOf (some call.name) globalScope
  recorder.inScope scope call.line fun recorder =>
    match program.function? call.name with
    | some callee =>
      enter callee.body scope (bindParameters scope call.line callee.params call.args recorder)
    | none => enter call.body scope recorder

/-- The method that a call means, by the class of the receiver. -/
def calledMethod? (program : Program) (call : Program.MethodCall) (recorder : Recorder) :
    Option (Program.Member Node) :=
  let className := call.receiver.classType.or (recorder.classOf? call.receiver.name)
  (className.bind program.class?).bind (·.method? call.method)

/-- Walk a called method in a scope of receiver and method. -/
def enterMethod (program : Program) (enter : BodyWalk) (call : Program.MethodCall)
    (recorder : Recorder) : Recorder :=
  let scope := qualified call.receiver.name call.method
  recorder.inScope scope call.line fun recorder =>
    match calledMethod? program call recorder with
    | some method =>
      enter method.body scope (bindParameters scope call.line method.params call.args recorder)
    | none => recorder

/-- Count a block, and carry out an action in its scope. -/
def inBlock (naming : ScopeNaming) (kind : BlockKind) (line : Option Nat)
    (action : String → Recorder → Recorder) (recorder : Recorder) : Recorder :=
  let blocks := recorder.blocks.bump kind
  let scope := naming.blockScope kind (blocks.get kind)
  inScope scope line (action scope) { recorder with blocks }

mutual

/-- Walk one statement inside a scope. -/
def visit (context : Context) (enter : BodyWalk) : Node → String → Recorder → Recorder
  | .declaration statement, parent, recorder => recorder.declare statement parent
  | .assignment statement, parent, recorder => recorder.assign statement parent
  | .memberAssignment statement, parent, recorder => recorder.assignMember statement parent
  | .classDeclaration definition, _, recorder => recorder.declareClass definition
  | .objectDeclaration object, parent, recorder =>
    recorder.declareObject context.program object parent
  | .functionDeclaration _, _, recorder => recorder
  | .mainFunction function, _, recorder => recorder.enterMain enter function
  | .functionCall call, _, recorder => recorder.enterFunction context.program enter call
  | .methodCall call, _, recorder => recorder.enterMethod context.program enter call
  | .classPointer pointer, parent, recorder =>
    recorder.declareClassPointer context.program pointer parent
  | .ifStatement thenBody elseBody line, _, recorder =>
    visitBlock context enter .elseBranch line elseBody
      (visitBlock context enter .thenBranch line thenBody recorder)
  | .whileStatement body line, _, recorder => visitBlock context enter .loop line body recorder
  | .unknown _ body members, parent, recorder =>
    if body.isEmpty then walk context enter members parent recorder
    else walk context enter body parent recorder

/-- Walk a block, if it is there. -/
def visitBlock (context : Context) (enter : BodyWalk) (kind : BlockKind) (line : Option Nat) :
    Option (List Node) → Recorder → Recorder
  | none, recorder => recorder
  | some body, recorder =>
    recorder.inBlock context.naming kind line fun scope recorder =>
      walk context enter body scope recorder

/-- Walk statements in order inside a scope. -/
def walk (context : Context) (enter : BodyWalk) : List Node → String → Recorder → Recorder
  | [], _, recorder => recorder
  | node :: rest, parent, recorder =>
    walk context enter rest parent (visit context enter node parent recorder)

end

/-- Walk a callee body when so many more bodies may be entered. -/
def bodyWalk (context : Context) : Nat → BodyWalk
  | 0 => fun _ _ recorder => recorder
  | budget + 1 => walk context (bodyWalk context budget)

/-- The recorder after the whole program. -/
def run (context : Context) : Recorder :=
  walk context (bodyWalk context maxCallDepth) context.program.nodes globalScope
    (empty.emit (.push globalScope none))

end MemoryTimeline.Recorder

namespace MemoryTimeline

/-- The timeline of a program. -/
def Program.timeline (program : Program) (naming : ScopeNaming) : Timeline :=
  (Recorder.run { program, naming }).timeline

end MemoryTimeline
