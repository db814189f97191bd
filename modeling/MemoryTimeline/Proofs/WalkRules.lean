import MemoryTimeline.Recorder.Walk

/-!
# The walk by rules

`Walks context part scope before after` gives the rules by which a part of a program is
walked, with a counter of the callee bodies that are open. A body is entered while the
counter is below the limit; this raises the counter until the body is left again. The
rules jump from calls to bodies anywhere in the program, and nothing in them bounds a
walk. That every part has exactly one walk, which leaves the counter as it was and the
recorder as the functions compute it, is proved here.
-/

namespace MemoryTimeline

namespace Program

variable {program : Program} {name : String}

/-- A function that a name finds is declared at the top level. -/
theorem mem_nodes_of_function? {function : Function Node}
    (found : program.function? name = some function) :
    .functionDeclaration function ∈ program.nodes ∨ .mainFunction function ∈ program.nodes := by
  obtain ⟨node, isNode, named⟩ := List.exists_of_findSome?_eq_some found
  cases node with
  | functionDeclaration declared =>
      cases (Option.ite_none_right_eq_some.mp named).2
      exact .inl isNode
  | mainFunction declared =>
      cases (Option.ite_none_right_eq_some.mp named).2
      exact .inr isNode
  | _ => contradiction

/-- A class that a name finds is declared at the top level. -/
theorem mem_nodes_of_class? {definition : Class Node}
    (found : program.class? name = some definition) :
    .classDeclaration definition ∈ program.nodes := by
  obtain ⟨node, isNode, named⟩ := List.exists_of_findSome?_eq_some found
  obtain ⟨rfl, _⟩ := Node.classNamed?_eq_some_iff.mp named
  exact isNode

end Program

namespace Recorder

open Program (Node)

/-- A method that a call finds is a member of a class at the top level. -/
theorem exists_class_of_calledMethod? {program : Program} {call : Program.MethodCall}
    {recorder : Recorder} {method : Program.Member Node}
    (found : calledMethod? program call recorder = some method) :
    ∃ definition, .classDeclaration definition ∈ program.nodes ∧ method ∈ definition.members := by
  obtain ⟨definition, isClass, isMethod⟩ := Option.bind_eq_some_iff.mp found
  obtain ⟨name, _, foundClass⟩ := Option.bind_eq_some_iff.mp isClass
  exact ⟨definition, Program.mem_nodes_of_class? foundClass, List.mem_of_find?_eq_some isMethod⟩

/-- What is walked at a time. -/
inductive Part where
  | statement (node : Node)
  | statements (nodes : List Node)
  /-- A branch of a conditional or the body of a loop, if it is there. -/
  | block (kind : BlockKind) (line : Option Nat) (body : Option (List Node))
  /-- The body of a callee, if it is known. -/
  | body (nodes : Option (List Node))

/-- A walk under way. -/
structure Walker where
  recorder : Recorder
  /-- The callee bodies that are open. -/
  depth : Nat
  /-- The most callee bodies that were open at a time. -/
  peak : Nat
  /-- The position of each event that opened a block, with the kind of block, latest first. -/
  openings : List (Nat × BlockKind)

namespace Walker

/-- Change what is recorded. -/
def note (walker : Walker) (action : Recorder → Recorder) : Walker :=
  { walker with recorder := action walker.recorder }

/-- Enter the body of a callee. -/
def enter (walker : Walker) : Walker :=
  { walker with depth := walker.depth + 1, peak := max walker.peak (walker.depth + 1) }

/-- Leave the body of a callee. -/
def leave (walker : Walker) : Walker := { walker with depth := walker.depth - 1 }

/-- The scope of the next block of a kind. -/
def blockScope (walker : Walker) (naming : ScopeNaming) (kind : BlockKind) : String :=
  naming.blockScope kind ((walker.recorder.blocks.bump kind).get kind)

/-- Open the next block of a kind. -/
def openBlock (walker : Walker) (naming : ScopeNaming) (kind : BlockKind) (line : Option Nat) :
    Walker :=
  { walker with
    recorder := emit (.push (walker.blockScope naming kind) line)
      { walker.recorder with blocks := walker.recorder.blocks.bump kind }
    openings := (walker.recorder.history.length, kind) :: walker.openings }

end Walker

/-- What a call opens: a scope, the parameters bound in it, and the body that is walked in
it, if one is known. -/
structure Frame where
  scope : String
  line : Option Nat
  bind : Recorder → Recorder
  body : Option (List Node)

/-- The frame that a statement opens, if it is the main function or a call. -/
def frame? (program : Program) (recorder : Recorder) : Node → Option Frame
  | .mainFunction function =>
    let scope := scopeOf (some function.name) globalScope
    some
      { scope
        line := function.line
        bind := recordAll (function.params.map (unboundParameter scope function.line))
        body := some function.body }
  | .functionCall call =>
    let scope := scopeOf (some call.name) globalScope
    match program.function? call.name with
    | some callee =>
      some
        { scope
          line := call.line
          bind := bindParameters scope call.line callee.params call.args
          body := some callee.body }
    | none => some { scope, line := call.line, bind := id, body := some call.body }
  | .methodCall call =>
    let scope := qualified call.receiver.name call.method
    match calledMethod? program call recorder with
    | some method =>
      some
        { scope
          line := call.line
          bind := bindParameters scope call.line method.params call.args
          body := some method.body }
    | none => some { scope, line := call.line, bind := id, body := none }
  | _ => none

/-- Whether a statement opens no scope and holds no statement that is walked. -/
def isPlain : Node → Bool
  | .declaration _ => true
  | .assignment _ => true
  | .memberAssignment _ => true
  | .classDeclaration _ => true
  | .objectDeclaration _ => true
  | .functionDeclaration _ => true
  | .classPointer _ => true
  | _ => false

/-- The rules of a walk. -/
inductive Walks (context : Context) : Part → String → Walker → Walker → Prop where
  /-- A plain statement is recorded, whatever the walk of bodies. -/
  | plain {node scope walker} (isPlain : isPlain node) :
      Walks context (.statement node) scope walker
        (walker.note (visit context (bodyWalk context 0) node scope))
  | call {node scope before after frame}
      (opens : frame? context.program before.recorder node = some frame)
      (body : Walks context (.body frame.body) frame.scope
        (before.note fun recorder => frame.bind (recorder.emit (.push frame.scope frame.line)))
        after) :
      Walks context (.statement node) scope before (after.note (emit (.pop frame.scope none)))
  | ifStatement {thenBody elseBody line scope before middle after}
      (thenBranch : Walks context (.block .thenBranch line thenBody) scope before middle)
      (elseBranch : Walks context (.block .elseBranch line elseBody) scope middle after) :
      Walks context (.statement (.ifStatement thenBody elseBody line)) scope before after
  | whileStatement {body line scope before after}
      (loop : Walks context (.block .loop line body) scope before after) :
      Walks context (.statement (.whileStatement body line)) scope before after
  | unknown {kind body members scope before after}
      (children : Walks context (.statements (if body.isEmpty then members else body)) scope
        before after) :
      Walks context (.statement (.unknown kind body members)) scope before after
  | noBlock {kind line scope walker} : Walks context (.block kind line none) scope walker walker
  | block {kind line body scope before after}
      (statements : Walks context (.statements body) (before.blockScope context.naming kind)
        (before.openBlock context.naming kind line) after) :
      Walks context (.block kind line (some body)) scope before
        (after.note (emit (.pop (before.blockScope context.naming kind) none)))
  | noBody {scope walker} : Walks context (.body none) scope walker walker
  | tooDeep {nodes scope walker} (deep : maxCallDepth ≤ walker.depth) :
      Walks context (.body (some nodes)) scope walker walker
  | body {nodes scope before after} (shallow : before.depth < maxCallDepth)
      (statements : Walks context (.statements nodes) scope before.enter after) :
      Walks context (.body (some nodes)) scope before after.leave
  | nil {scope walker} : Walks context (.statements []) scope walker walker
  | cons {node nodes scope before middle after}
      (first : Walks context (.statement node) scope before middle)
      (rest : Walks context (.statements nodes) scope middle after) :
      Walks context (.statements (node :: nodes)) scope before after

/-- What the functions record of a part, when so many more bodies may be entered. -/
def Part.walk (context : Context) (budget : Nat) : Part → String → Recorder → Recorder
  | .statement node => visit context (bodyWalk context budget) node
  | .statements nodes => Recorder.walk context (bodyWalk context budget) nodes
  | .block kind line nodes => fun _ => visitBlock context (bodyWalk context budget) kind line nodes
  | .body (some nodes) => bodyWalk context budget nodes
  | .body none => fun _ recorder => recorder

/-- A plain statement is walked without bodies. -/
theorem visit_of_isPlain {node : Node} (plain : isPlain node) (context : Context)
    (enter : BodyWalk) (scope : String) (recorder : Recorder) :
    visit context enter node scope recorder =
      visit context (bodyWalk context 0) node scope recorder := by
  cases node with
  | declaration => rfl
  | assignment => rfl
  | memberAssignment => rfl
  | classDeclaration => rfl
  | objectDeclaration => rfl
  | functionDeclaration => rfl
  | classPointer => rfl
  | mainFunction => contradiction
  | functionCall => contradiction
  | methodCall => contradiction
  | ifStatement => contradiction
  | whileStatement => contradiction
  | unknown => contradiction

/-- A plain statement opens no frame. -/
theorem frame?_of_isPlain {node : Node} (plain : isPlain node) (program : Program)
    (recorder : Recorder) : frame? program recorder node = none := by
  cases node <;> cases plain <;> rfl

/-- A statement that opens a frame walks its body inside the scope of the frame. -/
theorem visit_of_frame? {context : Context} {node : Node} {recorder : Recorder} {frame : Frame}
    (opens : frame? context.program recorder node = some frame) (budget : Nat) (scope : String) :
    visit context (bodyWalk context budget) node scope recorder =
      recorder.inScope frame.scope frame.line fun recorder =>
        (Part.body frame.body).walk context budget frame.scope (frame.bind recorder) := by
  cases node with
  | mainFunction function =>
      cases opens
      rfl
  | functionCall call =>
      simp only [frame?] at opens
      simp only [visit, enterFunction]
      cases found : context.program.function? call.name with
      | none =>
          rw [found] at opens
          cases opens
          rfl
      | some callee =>
          rw [found] at opens
          cases opens
          rfl
  | methodCall call =>
      simp only [frame?] at opens
      -- The push of the scope is no record, so the class of the receiver is still the same.
      have sameMethod (line : Option Nat) : calledMethod? context.program call
          (recorder.emit (.push (qualified call.receiver.name call.method) line)) =
            calledMethod? context.program call recorder := rfl
      simp only [visit, enterMethod, inScope, sameMethod]
      cases found : calledMethod? context.program call recorder with
      | none =>
          rw [found] at opens
          cases opens
          rfl
      | some method =>
          rw [found] at opens
          cases opens
          rfl
  | declaration => contradiction
  | assignment => contradiction
  | memberAssignment => contradiction
  | classDeclaration => contradiction
  | objectDeclaration => contradiction
  | functionDeclaration => contradiction
  | classPointer => contradiction
  | ifStatement => contradiction
  | whileStatement => contradiction
  | unknown => contradiction

namespace Walks

variable {context : Context} {part : Part} {scope : String} {before after : Walker}

/-- A walk leaves the counter as it was. -/
theorem depth_eq (walks : Walks context part scope before after) : after.depth = before.depth := by
  induction walks with
  | plain => rfl
  | call _ _ bodyHypothesis => exact bodyHypothesis
  | ifStatement _ _ thenHypothesis elseHypothesis => exact elseHypothesis.trans thenHypothesis
  | whileStatement _ loopHypothesis => exact loopHypothesis
  | unknown _ childrenHypothesis => exact childrenHypothesis
  | noBlock => rfl
  | block _ statementsHypothesis => exact statementsHypothesis
  | noBody => rfl
  | tooDeep => rfl
  | body _ _ statementsHypothesis =>
      simp [Walker.leave, Walker.enter, statementsHypothesis]
  | nil => rfl
  | cons _ _ firstHypothesis restHypothesis => exact restHypothesis.trans firstHypothesis

/-- A walk never raises the counter above the limit. -/
theorem peak_le (walks : Walks context part scope before after) :
    after.peak ≤ max before.peak maxCallDepth := by
  induction walks with
  | plain => exact Nat.le_max_left _ _
  | call _ _ bodyHypothesis => exact bodyHypothesis
  | ifStatement _ _ thenHypothesis elseHypothesis =>
      omega
  | whileStatement _ loopHypothesis => exact loopHypothesis
  | unknown _ childrenHypothesis => exact childrenHypothesis
  | noBlock => exact Nat.le_max_left _ _
  | block _ statementsHypothesis => exact statementsHypothesis
  | noBody => exact Nat.le_max_left _ _
  | tooDeep => exact Nat.le_max_left _ _
  | body shallow _ statementsHypothesis =>
      simp only [Walker.leave, Walker.enter] at statementsHypothesis ⊢
      omega
  | nil => exact Nat.le_max_left _ _
  | cons _ _ firstHypothesis restHypothesis => omega

/-- A walk records what the functions record. -/
theorem recorder_eq (walks : Walks context part scope before after) :
    after.recorder = part.walk context (maxCallDepth - before.depth) scope before.recorder := by
  induction walks with
  | plain isPlain => exact (visit_of_isPlain isPlain context _ _ _).symm
  | call opens _ bodyHypothesis =>
      rw [Part.walk, visit_of_frame? opens]
      simp only [Walker.note, inScope] at bodyHypothesis ⊢
      rw [bodyHypothesis]
  | ifStatement thenBranch _ thenHypothesis elseHypothesis =>
      rw [elseHypothesis, thenHypothesis, thenBranch.depth_eq]
      rfl
  | whileStatement _ loopHypothesis => exact loopHypothesis
  | @unknown _ body _ _ _ _ _ childrenHypothesis =>
      rw [childrenHypothesis]
      simp only [Part.walk, visit]
      split <;> rfl
  | noBlock => rfl
  | block _ statementsHypothesis =>
      simp only [Walker.note, Walker.openBlock] at statementsHypothesis ⊢
      rw [statementsHypothesis]
      rfl
  | noBody => rfl
  | tooDeep deep =>
      rw [Nat.sub_eq_zero_of_le deep]
      rfl
  | @body _ _ before _ shallow _ statementsHypothesis =>
      have budget : maxCallDepth - before.depth = maxCallDepth - before.enter.depth + 1 := by
        simp only [Walker.enter]
        omega
      rw [budget]
      exact statementsHypothesis
  | nil => rfl
  | cons first _ firstHypothesis restHypothesis =>
      rw [restHypothesis, firstHypothesis, first.depth_eq]
      rfl

/-- There is at most one walk. -/
theorem unique {other : Walker} (walks : Walks context part scope before after)
    (otherWalks : Walks context part scope before other) : after = other := by
  induction walks generalizing other with
  | plain isPlain =>
      cases otherWalks with
      | plain => rfl
      | call opens =>
          rw [frame?_of_isPlain isPlain] at opens
          contradiction
      | ifStatement => contradiction
      | whileStatement => contradiction
      | unknown => contradiction
  | call opens _ bodyHypothesis =>
      cases otherWalks with
      | plain isPlain =>
          rw [frame?_of_isPlain isPlain] at opens
          contradiction
      | call otherOpens otherBody =>
          obtain rfl := Option.some.inj (opens.symm.trans otherOpens)
          rw [bodyHypothesis otherBody]
      | ifStatement => contradiction
      | whileStatement => contradiction
      | unknown => contradiction
  | ifStatement _ _ thenHypothesis elseHypothesis =>
      cases otherWalks with
      | plain isPlain => contradiction
      | call opens => contradiction
      | ifStatement thenBranch elseBranch =>
          obtain rfl := thenHypothesis thenBranch
          exact elseHypothesis elseBranch
  | whileStatement _ loopHypothesis =>
      cases otherWalks with
      | plain isPlain => contradiction
      | call opens => contradiction
      | whileStatement loop => exact loopHypothesis loop
  | unknown _ childrenHypothesis =>
      cases otherWalks with
      | plain isPlain => contradiction
      | call opens => contradiction
      | unknown children => exact childrenHypothesis children
  | noBlock =>
      cases otherWalks
      rfl
  | block _ statementsHypothesis =>
      cases otherWalks with
      | block statements => rw [statementsHypothesis statements]
  | noBody =>
      cases otherWalks
      rfl
  | tooDeep deep =>
      cases otherWalks with
      | tooDeep => rfl
      | body shallow => omega
  | body shallow _ statementsHypothesis =>
      cases otherWalks with
      | tooDeep deep => omega
      | body _ statements => rw [statementsHypothesis statements]
  | nil =>
      cases otherWalks
      rfl
  | cons _ _ firstHypothesis restHypothesis =>
      cases otherWalks with
      | cons first rest =>
          obtain rfl := firstHypothesis first
          exact restHypothesis rest

section Total

/-- Bodies have walks when so many bodies are open. -/
def BodiesWalk (context : Context) (depth : Nat) : Prop :=
  ∀ nodes scope walker, walker.depth = depth →
    ∃ after, Walks context (.body nodes) scope walker after

variable {depth : Nat}

/-- A statement that opens a frame has a walk, since the body of the frame has one. -/
theorem exists_call (bodies : BodiesWalk context depth) {node : Node} {frame : Frame}
    {walker : Walker} (opens : frame? context.program walker.recorder node = some frame)
    (scope : String) (atDepth : walker.depth = depth) :
    ∃ after, Walks context (.statement node) scope walker after := by
  obtain ⟨_, body⟩ := bodies frame.body frame.scope
    (walker.note fun recorder => frame.bind (recorder.emit (.push frame.scope frame.line))) atDepth
  exact ⟨_, .call opens body⟩

mutual

/-- A statement has a walk if bodies have one at its depth. -/
theorem exists_statement (bodies : BodiesWalk context depth) (node : Node) (scope : String)
    (walker : Walker) (atDepth : walker.depth = depth) :
    ∃ after, Walks context (.statement node) scope walker after := by
  cases node with
  | declaration => exact ⟨_, .plain rfl⟩
  | assignment => exact ⟨_, .plain rfl⟩
  | memberAssignment => exact ⟨_, .plain rfl⟩
  | classDeclaration => exact ⟨_, .plain rfl⟩
  | objectDeclaration => exact ⟨_, .plain rfl⟩
  | functionDeclaration => exact ⟨_, .plain rfl⟩
  | classPointer => exact ⟨_, .plain rfl⟩
  | mainFunction function => exact exists_call bodies rfl scope atDepth
  | functionCall call =>
      cases found : context.program.function? call.name with
      | none => exact exists_call bodies (by rw [frame?, found]) scope atDepth
      | some callee => exact exists_call bodies (by rw [frame?, found]) scope atDepth
  | methodCall call =>
      cases found : calledMethod? context.program call walker.recorder with
      | none => exact exists_call bodies (by rw [frame?, found]) scope atDepth
      | some method => exact exists_call bodies (by rw [frame?, found]) scope atDepth
  | ifStatement thenBody elseBody line =>
      obtain ⟨middle, thenBranch⟩ := exists_block bodies .thenBranch line thenBody scope walker
        atDepth
      obtain ⟨after, elseBranch⟩ := exists_block bodies .elseBranch line elseBody scope middle
        (thenBranch.depth_eq.trans atDepth)
      exact ⟨after, .ifStatement thenBranch elseBranch⟩
  | whileStatement body line =>
      obtain ⟨after, loop⟩ := exists_block bodies .loop line body scope walker atDepth
      exact ⟨after, .whileStatement loop⟩
  | unknown kind body members =>
      by_cases empty : body.isEmpty
      · obtain ⟨after, children⟩ := exists_statements bodies members scope walker atDepth
        exact ⟨after, .unknown (by rwa [if_pos empty])⟩
      · obtain ⟨after, children⟩ := exists_statements bodies body scope walker atDepth
        exact ⟨after, .unknown (by rwa [if_neg empty])⟩

/-- A block has a walk, since the statements in it have one. -/
theorem exists_block (bodies : BodiesWalk context depth) (kind : BlockKind) (line : Option Nat)
    (body : Option (List Node)) (scope : String) (walker : Walker)
    (atDepth : walker.depth = depth) :
    ∃ after, Walks context (.block kind line body) scope walker after := by
  cases body with
  | none => exact ⟨walker, .noBlock⟩
  | some body =>
      obtain ⟨_, statements⟩ := exists_statements bodies body
        (walker.blockScope context.naming kind) (walker.openBlock context.naming kind line) atDepth
      exact ⟨_, .block statements⟩

/-- Statements have a walk, each from where the one before it ends. -/
theorem exists_statements (bodies : BodiesWalk context depth) (nodes : List Node)
    (scope : String) (walker : Walker) (atDepth : walker.depth = depth) :
    ∃ after, Walks context (.statements nodes) scope walker after := by
  cases nodes with
  | nil => exact ⟨walker, .nil⟩
  | cons node nodes =>
      obtain ⟨middle, first⟩ := exists_statement bodies node scope walker atDepth
      obtain ⟨after, rest⟩ := exists_statements bodies nodes scope middle
        (first.depth_eq.trans atDepth)
      exact ⟨after, .cons first rest⟩

end

/-- Bodies have walks at every depth. The statements of a body are walked one deeper, so
the induction is over the bodies that may still be entered. -/
theorem bodiesWalk (context : Context) (depth : Nat) : BodiesWalk context depth := by
  generalize rooms : maxCallDepth - depth = budget
  induction budget generalizing depth with
  | zero =>
      intro nodes scope walker atDepth
      cases nodes with
      | none => exact ⟨walker, .noBody⟩
      | some nodes => exact ⟨walker, .tooDeep (by omega)⟩
  | succ budget inductionHypothesis =>
      intro nodes scope walker atDepth
      cases nodes with
      | none => exact ⟨walker, .noBody⟩
      | some nodes =>
          have deeper : BodiesWalk context (depth + 1) := inductionHypothesis _ (by omega)
          obtain ⟨after, statements⟩ := exists_statements deeper nodes scope walker.enter
            (congrArg (· + 1) atDepth)
          exact ⟨_, .body (by omega) statements⟩

/-- Every part has a walk. -/
theorem total (context : Context) (part : Part) (scope : String) (walker : Walker) :
    ∃ after, Walks context part scope walker after := by
  have bodies := bodiesWalk context walker.depth
  cases part with
  | statement node => exact exists_statement bodies node scope walker rfl
  | statements nodes => exact exists_statements bodies nodes scope walker rfl
  | block kind line body => exact exists_block bodies kind line body scope walker rfl
  | body nodes => exact bodies nodes scope walker rfl

end Total

end Walks

/-- A walk that has opened the global scope and nothing else. -/
def Walker.start : Walker where
  recorder := empty.emit (.push globalScope none)
  depth := 0
  peak := 0
  openings := []

/-- A whole program has a walk, and it records what the functions record. -/
theorem exists_walks_program (context : Context) :
    ∃ after, Walks context (.statements context.program.nodes) globalScope .start after ∧
      after.recorder = Recorder.run context := by
  obtain ⟨after, walks⟩ := Walks.total context (.statements context.program.nodes) globalScope
    .start
  exact ⟨after, walks, walks.recorder_eq⟩

end Recorder

end MemoryTimeline
