import CursorLift.Proofs.Representation

/-! # What lifting leaves behind

Where nothing fails, all that lifting does on the way to a tree can be read off the tree, but for
looking through wrappers. Each node is told of before those below it. A literal has its token
looked up then, if its cursor has an extent, and a number that cannot be read is warned of.
-/

namespace CursorLift

open Context

namespace Node

mutual

/-- A node and all below it, each before those below it and these in order. -/
def preorder : Node → List Node
  | .translationUnit cursor body => .translationUnit cursor body :: preorderAll body
  | .varDecl cursor name typeName none => [.varDecl cursor name typeName none]
  | .varDecl cursor name typeName (some value) =>
    .varDecl cursor name typeName (some value) :: value.preorder
  | leaf => [leaf]

def preorderAll : List Node → List Node
  | [] => []
  | node :: rest => node.preorder ++ preorderAll rest

end

def isLiteral : Node → Bool
  | .integerLiteral .. => true
  | .floatingLiteral .. => true
  | .stringLiteral .. => true
  | _ => false

/-- The form of the number of a node, if it should hold one and that is none. -/
def degenerate? : Node → Option Literal.Form
  | .integerLiteral _ value => if value.isNaN then some .integer else none
  | .floatingLiteral _ value => if value.isNaN then some .floating else none
  | _ => none

/-- The lookup that a node takes. -/
def lookup? (unit : Option ActiveUnit) (node : Node) : Option Call :=
  if node.isLiteral && node.cursor.facts.hasExtent then
    some (.findToken (unit.map ActiveUnit.serial) node.cursor.facts.label)
  else none

def warning? (unit : Option ActiveUnit) (node : Node) : Option Notice :=
  node.degenerate?.map fun form => .degenerate form (leadingText unit node.cursor)

/-- What happens for a node itself. -/
def events (unit : Option ActiveUnit) (node : Node) : List Event :=
  .notice (.building node.cursor.facts.kind) ::
    ((node.lookup? unit).toList.map .call ++ (node.warning? unit).toList.map .notice)

end Node

theorem Node.events_of_not_isLiteral {node : Node} (plain : node.isLiteral = false)
    (unit : Option ActiveUnit) :
    node.events unit = [.notice (.building node.cursor.facts.kind)] := by
  cases node <;> first | rfl | cases plain

theorem Node.toList_lookup? {node : Node} (literal : node.isLiteral = true)
    (unit : Option ActiveUnit) :
    (node.lookup? unit).toList.map Event.call = lookups unit node.cursor := by
  cases extent : node.cursor.facts.hasExtent <;> simp [Node.lookup?, lookups, literal, extent]

/-! ## Parts of a trace -/

def Notice.isBuilding : Notice → Bool
  | .building _ => true
  | _ => false

namespace Event

/-- Whether an event is about a node, and not about a wrapper on the way to one. -/
def isOfNode : Event → Bool
  | .notice (.unwrapping _) => false
  | _ => true

@[simp] theorem isOfNode_call (c : Call) : isOfNode (.call c) = true := rfl

@[simp] theorem isOfNode_building (kind : Kind) : isOfNode (.notice (.building kind)) = true := rfl

@[simp] theorem isOfNode_degenerate (form : Literal.Form) (text : String) :
    isOfNode (.notice (.degenerate form text)) = true := rfl

@[simp] theorem filter_isOfNode_events (node : Node) (unit : Option ActiveUnit) :
    (node.events unit).filter isOfNode = node.events unit := by
  cases looked : node.lookup? unit <;> cases form : node.degenerate? <;>
    simp [Node.events, Node.warning?, looked, form]

section Parts

variable {α : Type} {part : Event → Option α} {trace : List Event}

theorem filterMap_isOfNode (other : ∀ kind, part (.notice (.unwrapping kind)) = none)
    (trace : List Event) : (trace.filter isOfNode).filterMap part = trace.filterMap part := by
  induction trace with
  | nil => rfl
  | cons event trace ih =>
      cases kept : isOfNode event with
      | true => simp [List.filterMap_cons, kept, ih]
      | false =>
          cases event with
          | call c => cases kept
          | notice n =>
              cases n with
              | unwrapping kind => simp [kept, ih, other]
              | _ => cases kept

/-- What each node has one of at most is found in the trace in the order of the nodes. -/
theorem filterMap_of_nodes {unit : Option ActiveUnit} {nodes : List Node} {own : Node → Option α}
    (h : trace.filter isOfNode = nodes.flatMap (Node.events unit))
    (other : ∀ kind, part (.notice (.unwrapping kind)) = none)
    (each : ∀ node, (node.events unit).filterMap part = (own node).toList) :
    trace.filterMap part = nodes.filterMap own := by
  rw [← filterMap_isOfNode other, h, List.filterMap_flatMap, List.filterMap_eq_flatMap_toList]
  simp only [each]

end Parts

section Nodes

variable {unit : Option ActiveUnit} {nodes : List Node} {trace : List Event}

theorem calls_of_nodes (h : trace.filter isOfNode = nodes.flatMap (Node.events unit)) :
    calls trace = nodes.filterMap (Node.lookup? unit) := by
  refine filterMap_of_nodes h (fun _ => rfl) fun node => ?_
  cases looked : node.lookup? unit <;> cases warned : node.warning? unit <;>
    simp [Node.events, looked, warned]

theorem warnings_of_nodes (h : trace.filter isOfNode = nodes.flatMap (Node.events unit)) :
    notices .warning trace = nodes.filterMap (Node.warning? unit) := by
  refine filterMap_of_nodes h (fun _ => rfl) fun node => ?_
  cases form : node.degenerate? <;> cases looked : node.lookup? unit <;>
    simp [Node.events, Node.warning?, looked, form] <;> rfl

theorem buildings_of_nodes (h : trace.filter isOfNode = nodes.flatMap (Node.events unit)) :
    (notices .debug trace).filter Notice.isBuilding =
      nodes.map fun node => .building node.cursor.facts.kind := by
  rw [notices, List.filter_filterMap, ← List.filterMap_eq_map']
  refine filterMap_of_nodes h (fun _ => rfl) fun node => ?_
  cases form : node.degenerate? <;> cases looked : node.lookup? unit <;>
    simp [Node.events, Node.warning?, looked, form] <;> rfl

end Nodes

end Event

/-! ## The trace of lifting -/

namespace Context

variable {unit : Option ActiveUnit} {catalogue : Catalogue} {c : Cursor}

theorem noteDegenerate_trace (form : Literal.Form) (text : String) (isNaN : Bool) :
    (Literal.noteDegenerate form text isNaN).trace =
      if isNaN then [.notice (.degenerate form text)] else [] := by
  cases isNaN <;> rfl

theorem integerNode_trace {value : Number}
    (read : Literal.readInteger (leadingText unit c) = .ok value) :
    (integerNode c (leadingText unit c)).trace =
      ((Node.integerLiteral c value).warning? unit).toList.map .notice := by
  rw [integerNode, Run.map_trace, Literal.readNoted]
  simp only [Literal.Form.read, read, Run.ofExcept_ok, pure_bind]
  rw [Run.map_trace, noteDegenerate_trace]
  cases nan : value.isNaN <;> simp [Node.warning?, Node.degenerate?, Node.cursor, nan]

theorem floatingNode_trace :
    (floatingNode c (leadingText unit c)).trace =
      ((Node.floatingLiteral c (Literal.readFloating (leadingText unit c))).warning?
        unit).toList.map .notice := by
  simp only [floatingNode]
  rw [Run.map_trace, noteDegenerate_trace]
  cases nan : (Literal.readFloating (leadingText unit c)).isNaN <;>
    simp [Node.warning?, Node.degenerate?, Node.cursor, nan]

theorem lift_trace_of_wrapper {concrete : Cursor} (kind : c.facts.kind = .unexposedExpr)
    (first : Cursor.firstMet? (Cursor.wraps defaultWrappers) c.children = some concrete) :
    ((faultless unit catalogue).lift c).trace =
      .notice (.unwrapping .unexposedExpr) :: ((faultless unit catalogue).lift concrete).trace := by
  rw [lift_of_wrapper (Cursor.wraps_defaultWrappers.mpr kind),
    Cursor.firstConcrete?_eq_firstMet?, first, kind]
  rfl

theorem lift_trace_of_concrete {shape : Shape} (kind : c.facts.kind ≠ .unexposedExpr)
    (found : catalogue.lookup c.facts.kind = .ok shape) :
    ((faultless unit catalogue).lift c).trace =
      .notice (.building c.facts.kind) :: ((faultless unit catalogue).liftAs c shape).trace := by
  rw [lift_of_concrete (Cursor.wraps_eq_false kind), found]
  rfl

theorem lift_trace_of_literal {shape : Shape} {node : Node} {read : String → Run Node}
    (kind : c.facts.kind ≠ .unexposedExpr) (found : catalogue.lookup c.facts.kind = .ok shape)
    (leaf : (faultless unit catalogue).liftAs c shape = (faultless unit catalogue).liftLeaf c read)
    (literal : node.isLiteral = true) (made : node.cursor = c)
    (warned : (read (leadingText unit c)).trace = (node.warning? unit).toList.map .notice) :
    ((faultless unit catalogue).lift c).trace = node.events unit := by
  rw [lift_trace_of_concrete kind found, leaf, liftLeaf_faultless, warned, Node.events,
    Node.toList_lookup? literal, made]

theorem liftAll_trace {cursors : List Cursor} {nodes : List Node}
    (each : List.Forall₂ (fun d node => ∃ _ : Represents unit catalogue d node,
      ((faultless unit catalogue).lift d).trace.filter Event.isOfNode =
        node.preorder.flatMap (Node.events unit)) cursors nodes) :
    ((faultless unit catalogue).liftAll cursors).trace.filter Event.isOfNode =
      (Node.preorderAll nodes).flatMap (Node.events unit) := by
  induction each with
  | nil => rw [liftAll_nil]; rfl
  | cons head _ ih =>
      obtain ⟨derived, head⟩ := head
      rw [liftAll_cons, Run.bind_of_ok (lift_of_represents derived)]
      simp only [Run.map_trace, List.filter_append, Node.preorderAll, List.flatMap_append, head, ih]

/-- What happens on the way to a node is what happens for each node of its tree, in order, but for
the looking through wrappers. -/
theorem events_of_represents {node : Node} (h : Represents unit catalogue c node) :
    ((faultless unit catalogue).lift c).trace.filter Event.isOfNode =
      node.preorder.flatMap (Node.events unit) := by
  induction h using Represents.induct with
  | wrapper kind first below ih =>
      rw [lift_trace_of_wrapper kind first]
      exact ih
  | translationUnit kind shape each ih =>
      rw [lift_trace_of_concrete kind shape, liftAs, Run.map_trace, Node.preorder,
        List.flatMap_cons, Node.events_of_not_isLiteral rfl, ← liftAll_trace ih]
      rfl
  | integerLiteral kind shape read =>
      rw [lift_trace_of_literal kind shape rfl rfl rfl (integerNode_trace read)]
      simp [Node.preorder]
  | floatingLiteral kind shape =>
      rw [lift_trace_of_literal kind shape rfl rfl rfl floatingNode_trace]
      simp [Node.preorder]
  | @stringLiteral c kind shape =>
      have alone : ((faultless unit catalogue).lift c).trace =
          (Node.stringLiteral c (leadingText unit c)).events unit :=
        lift_trace_of_literal kind shape rfl rfl rfl rfl
      rw [alone]
      simp [Node.preorder]
  | plainVarDecl kind shape absent =>
      have absent := Cursor.properInitializer?_eq_none.mpr absent
      rw [lift_trace_of_concrete kind shape, liftAs, askVariable_faultless, pure_bind,
        initializerOf?_faultless, absent, Node.preorder, List.flatMap_cons,
        Node.events_of_not_isLiteral rfl]
      rfl
  | varDecl kind shape link present below ih =>
      have proper := Cursor.properInitializer?_eq_some.mpr ⟨link, present⟩
      rw [lift_trace_of_concrete kind shape, liftAs, askVariable_faultless, pure_bind,
        initializerOf?_faultless, proper, Node.preorder, List.flatMap_cons,
        Node.events_of_not_isLiteral rfl, ← ih]
      simp only [Run.map_trace]
      rfl

end Context

/-- Lifting to a tree tells of its nodes, looks up their tokens and warns of their numbers, each
node before those below it, and does nothing else but look through wrappers: the lookups are one
for each literal with an extent, and the warnings one for each number that is none. -/
theorem lift_does_what_its_tree_takes (unit : Option ActiveUnit) (catalogue : Catalogue)
    (c : Cursor) {node : Node}
    (h : ((faultless unit catalogue).lift c).outcome = .ok node) :
    let trace := ((faultless unit catalogue).lift c).trace
    let nodes := node.preorder
    trace.filter Event.isOfNode = nodes.flatMap (Node.events unit) ∧
      Event.calls trace =
        (nodes.filter fun m => m.isLiteral && m.cursor.facts.hasExtent).map (fun m =>
          .findToken (unit.map ActiveUnit.serial) m.cursor.facts.label) ∧
      (Event.notices .warning trace).map Notice.line =
        nodes.filterMap (fun m => m.degenerate?.map fun form =>
          "WARNING cursorast.nodes: Degenerate " ++ form.name ++ " literal token "
            ++ Text.quoted (leadingText unit m.cursor) ++ " parsed as NaN") ∧
      ((Event.notices .debug trace).filter Notice.isBuilding).map Notice.line =
        nodes.map fun m => "DEBUG cursorast.builder: Building " ++ m.cursor.facts.kind.shown := by
  have whole := events_of_represents (represents_of_lift h)
  refine ⟨whole, ?_, ?_, ?_⟩
  · rw [Event.calls_of_nodes whole, ← List.filterMap_eq_map', ← List.filterMap_eq_filter,
      List.filterMap_filterMap]
    congr 1
    funext m
    simp only [Node.lookup?, Option.guard]
    split <;> rfl
  · rw [Event.warnings_of_nodes whole, List.map_filterMap]
    congr 1
    funext m
    rw [Node.warning?, Option.map_map]
    rfl
  · rw [Event.buildings_of_nodes whole, List.map_map]
    rfl

/-- The body of a unit: a hidden number, a variable whose value is no number, a number without an
extent, and a text. -/
theorem lift_of_unit_does_what_its_tree_takes :
    let text : Kind := .listed ⟨109, by decide⟩
    let literal (kind : Kind) (label token : String) (hasExtent : Bool) : Cursor :=
      { facts := { kind, label := some label, token := some token, hasExtent } }
    let initializer := literal .floatingLiteral "f" "x" true
    let c : Cursor :=
      { facts := { kind := .translationUnit }
        children := [
          { facts := { kind := .unexposedExpr },
            children := [literal .integerLiteral "i" "12u" true] },
          { facts := { kind := .varDecl }, initializer := some initializer },
          literal .integerLiteral "n" "7" false,
          literal text "t" "abc" true] }
    let catalogue : Catalogue :=
      ⟨[(.translationUnit, some .translationUnit), (.varDecl, some .varDecl),
        (.integerLiteral, some .integerLiteral), (.floatingLiteral, some .floatingLiteral),
        (text, some .stringLiteral)]⟩
    let ran := (faultless none catalogue).lift c
    (∃ node, ran.outcome = .ok node) ∧
      Event.calls ran.trace =
        [.findToken none (some "i"), .findToken none (some "f"), .findToken none (some "t")] ∧
      (Event.notices .warning ran.trace).map Notice.line =
        ["WARNING cursorast.nodes: Degenerate floating literal token 'x' parsed as NaN",
          "WARNING cursorast.nodes: Degenerate integer literal token '' parsed as NaN"] := by
  intro text literal initializer c catalogue ran
  have twelve : Literal.readInteger "12u" = .ok (.integer 12) := by
    rw [Literal.readInteger]
    rfl
  have hidden : Represents none catalogue (literal .integerLiteral "i" "12u" true)
      (.integerLiteral _ (.integer 12)) := .integerLiteral (by decide) rfl twelve
  have value : Represents none catalogue initializer _ := .floatingLiteral (by decide) rfl
  have bare : Represents none catalogue (literal .integerLiteral "n" "7" false)
      (.integerLiteral _ (.double .nan)) := .integerLiteral (by decide) rfl rfl
  have last : Represents none catalogue (literal text "t" "abc" true) _ :=
    .stringLiteral (by decide) rfl
  have derived : Represents none catalogue c _ :=
    .translationUnit (by decide) rfl (.cons (.wrapper rfl rfl hidden)
      (.cons (.varDecl (by decide) rfl rfl rfl value) (.cons bare (.cons last .nil))))
  have given := lift_of_represents derived
  obtain ⟨-, calls, warnings, -⟩ := lift_does_what_its_tree_takes _ _ _ given
  exact ⟨⟨_, given⟩, calls.trans rfl, warnings.trans (by decide +kernel)⟩

end CursorLift
