import CursorLift.Node.Dump
import CursorLift.Proofs.Doubles
import CursorLift.Proofs.Reading
import CursorLift.Proofs.Representation

/-! # What a dump tells

Which JSON value stands for a node is given by rules, one for each shape, that name the fields in
their order and say what each value is read as. The dump of a node that lifting gives is read as
the value that stands for it, whatever the indent, and the value leaves nothing of the node open
but its cursors and which of the numbers that are not finite a floating literal holds.
-/

namespace CursorLift

/-! ## Values that stand for nodes -/

/-- A JSON value stands for a double. A token must be read as the double that it stands for. -/
inductive Binary64.Encodes : Binary64 → Json → Prop where
  | finite {negative : Bool} {rank : Fin Binary64.ranks} {token : String}
      (written : (Binary64.finite negative rank).written? = some token)
      (reads : Literal.readFloating token = .finite negative rank) :
      Encodes (.finite negative rank) (.number token)
  | infinite (negative : Bool) : Encodes (.infinite negative) .null
  | nan : Encodes .nan .null

namespace Node

/-- A JSON value stands for a node: an object with the shape, then the fields of the shape. -/
inductive Encodes : Node → Json → Prop where
  | translationUnit (c : Cursor) {body : List Node} {items : List Json}
      (each : List.Forall₂ Encodes body items) :
      Encodes (.translationUnit c body)
        (.object [("kind", .string "TranslationUnit"), ("body", .array items)])
  | integerLiteral (c : Cursor) {value : Int}
      (reads : (Json.ofInt value).int? = some value) :
      Encodes (.integerLiteral c (.integer value))
        (.object [("kind", .string "IntegerLiteral"), ("value", .ofInt value)])
  /-- An integer literal without digits is no number. -/
  | degenerate (c : Cursor) :
      Encodes (.integerLiteral c (.double .nan))
        (.object [("kind", .string "IntegerLiteral"), ("value", .null)])
  | floatingLiteral (c : Cursor) {value : Binary64} {json : Json} (number : value.Encodes json) :
      Encodes (.floatingLiteral c value)
        (.object [("kind", .string "FloatingLiteral"), ("value", json)])
  | plainVarDecl (c : Cursor) (name typeName : String) :
      Encodes (.varDecl c name typeName none)
        (.object [("kind", .string "VarDecl"), ("name", .string name),
          ("type_name", .string typeName), ("value", .null)])
  | varDecl (c : Cursor) (name typeName : String) {value : Node} {json : Json}
      (below : Encodes value json) :
      Encodes (.varDecl c name typeName (some value))
        (.object [("kind", .string "VarDecl"), ("name", .string name),
          ("type_name", .string typeName), ("value", json)])
  | stringLiteral (c : Cursor) (text : String) :
      Encodes (.stringLiteral c text)
        (.object [("kind", .string "StringLiteral"), ("text", .string text)])

/-- Nodes are alike up to their cursors and to which of the numbers that are not finite a
floating literal holds. -/
inductive Alike : Node → Node → Prop where
  | translationUnit (c d : Cursor) {body others : List Node}
      (each : List.Forall₂ Alike body others) :
      Alike (.translationUnit c body) (.translationUnit d others)
  | integerLiteral (c d : Cursor) (value : Number) :
      Alike (.integerLiteral c value) (.integerLiteral d value)
  | floatingLiteral (c d : Cursor) (value : Binary64) :
      Alike (.floatingLiteral c value) (.floatingLiteral d value)
  | unbounded (c d : Cursor) {value other : Binary64}
      (first : ∀ negative rank, value ≠ .finite negative rank)
      (second : ∀ negative rank, other ≠ .finite negative rank) :
      Alike (.floatingLiteral c value) (.floatingLiteral d other)
  | plainVarDecl (c d : Cursor) (name typeName : String) :
      Alike (.varDecl c name typeName none) (.varDecl d name typeName none)
  | varDecl (c d : Cursor) (name typeName : String) {value other : Node}
      (below : Alike value other) :
      Alike (.varDecl c name typeName (some value)) (.varDecl d name typeName (some other))
  | stringLiteral (c d : Cursor) (text : String) :
      Alike (.stringLiteral c text) (.stringLiteral d text)

/-- Whether lifting gives a node, whatever the engine, the unit and the catalogue are. -/
def Liftable (node : Node) : Prop :=
  ∃ (ctx : Context) (wrappers : List Kind) (c : Cursor),
    (ctx.liftThrough wrappers c).outcome = .ok node

end Node

/-! ## A dump has the value that stands for its node -/

theorem Binary64.encodes_toJson (value : Binary64) : value.Encodes value.toJson := by
  cases value with
  | nan => exact .nan
  | infinite negative => exact .infinite negative
  | finite negative rank => exact .finite rfl (readFloating_of_written? rfl)

namespace Context

variable {ctx : Context} {c : Cursor} {node : Node}

theorem read_of_liftLeaf {read : String → Run Node}
    (h : (ctx.liftLeaf c read).outcome = .ok node) :
    ∃ text, (read text).outcome = .ok node := by
  rw [liftLeaf, Run.bind_outcome] at h
  obtain ⟨text, -, h⟩ := Outcome.bind_eq_ok.mp h
  exact ⟨text, h⟩

theorem encodes_of_integer {text : String} (h : (integerNode c text).outcome = .ok node) :
    node.Encodes node.toJson := by
  rw [integerNode_outcome] at h
  obtain ⟨value, read, rfl⟩ := Outcome.map_eq_ok.mp h
  unfold Literal.readInteger at read
  split at read
  · cases read
    exact .degenerate c
  · split at read
    · cases read
      exact .integerLiteral c (Json.int?_ofInt _)
    · cases read

mutual

theorem encodes_of_liftThrough {wrappers : List Kind} {c : Cursor} {node : Node}
    (h : (ctx.liftThrough wrappers c).outcome = .ok node) : node.Encodes node.toJson := by
  rw [liftThrough_eq, Run.bind_outcome] at h
  obtain ⟨kind, -, h⟩ := Outcome.bind_eq_ok.mp h
  split at h
  · cases h
  · next concrete found =>
      -- The stand-in may be the cursor itself; sizes go down only below it.
      have size := Engine.sizeOf_le_of_standIn? found
      rw [liftConcrete_eq, Run.bind_outcome] at h
      obtain ⟨shape, -, h⟩ := Outcome.bind_eq_ok.mp h
      cases shape with
      | translationUnit =>
          have := Cursor.sizeOf_children_lt concrete
          rw [liftAs, Run.map_outcome] at h
          obtain ⟨body, each, rfl⟩ := Outcome.map_eq_ok.mp h
          exact .translationUnit concrete (encodes_of_liftAll each)
      | literal =>
          obtain ⟨text, read⟩ := read_of_liftLeaf h
          cases read
      | integerLiteral =>
          obtain ⟨text, read⟩ := read_of_liftLeaf h
          exact encodes_of_integer read
      | floatingLiteral =>
          obtain ⟨text, read⟩ := read_of_liftLeaf h
          rw [floatingNode_outcome] at read
          cases read
          exact .floatingLiteral concrete (Binary64.encodes_toJson _)
      | stringLiteral =>
          obtain ⟨text, read⟩ := read_of_liftLeaf h
          cases read
          exact .stringLiteral concrete text
      | varDecl =>
          rw [liftAs, Run.bind_outcome] at h
          obtain ⟨_, -, h⟩ := Outcome.bind_eq_ok.mp h
          split at h
          · cases h
            exact .plainVarDecl concrete _ _
          · next initializer link =>
              have := Engine.sizeOf_lt_of_initializerOf? link
              rw [Run.map_outcome] at h
              obtain ⟨value, below, rfl⟩ := Outcome.map_eq_ok.mp h
              exact .varDecl concrete _ _ (encodes_of_liftThrough below)
termination_by sizeOf c

theorem encodes_of_liftAll {cursors : List Cursor} {nodes : List Node}
    (h : (ctx.liftAll cursors).outcome = .ok nodes) :
    List.Forall₂ Node.Encodes nodes (Node.bodyToJson nodes) := by
  cases cursors with
  | nil =>
      rw [liftAll_nil] at h
      cases h
      exact .nil
  | cons d rest =>
      rw [liftAll_cons, Run.bind_outcome] at h
      obtain ⟨node, head, h⟩ := Outcome.bind_eq_ok.mp h
      rw [Run.map_outcome] at h
      obtain ⟨tail, others, rfl⟩ := Outcome.map_eq_ok.mp h
      exact .cons (encodes_of_liftThrough head) (encodes_of_liftAll others)
termination_by sizeOf cursors

end

end Context

theorem Node.Liftable.encodes {node : Node} (h : node.Liftable) : node.Encodes node.toJson := by
  obtain ⟨ctx, wrappers, c, lifted⟩ := h
  exact Context.encodes_of_liftThrough lifted

/-! ## The value is written properly -/

theorem Binary64.Encodes.proper {value : Binary64} {json : Json} (h : value.Encodes json) :
    Json.Proper json.tokens := by
  cases h with
  | finite written _ => exact Json.proper_number (isNumber_of_written? written)
  | infinite => exact Json.proper_null
  | nan => exact Json.proper_null

namespace Node

mutual

theorem Encodes.proper {node : Node} {json : Json} (h : node.Encodes json) :
    Json.Proper json.tokens := by
  have tag (shape : String) := Json.proper_string shape
  cases h with
  | translationUnit c each =>
      have body := Json.proper_array (proper_of_forall₂ each)
      exact Json.proper_object (by simp [tag, body])
  | @integerLiteral c value _ =>
      have number : Json.Proper (Json.ofInt value).tokens :=
        Json.proper_number (Json.isNumber_decimal value)
      exact Json.proper_object (by simp [tag, number])
  | degenerate c => exact Json.proper_object (by simp [tag, Json.proper_null])
  | floatingLiteral c number => exact Json.proper_object (by simp [tag, number.proper])
  | plainVarDecl c name typeName => exact Json.proper_object (by simp [tag, Json.proper_null])
  | varDecl c name typeName below => exact Json.proper_object (by simp [tag, below.proper])
  | stringLiteral c text => exact Json.proper_object (by simp [tag])
termination_by sizeOf node

theorem proper_of_forall₂ {body : List Node} {items : List Json}
    (h : List.Forall₂ Encodes body items) : ∀ item ∈ items, Json.Proper item.tokens := by
  cases h with
  | nil => nofun
  | cons head rest =>
      intro item member
      cases List.mem_cons.mp member with
      | inl first => exact first ▸ head.proper
      | inr later => exact proper_of_forall₂ rest item later
termination_by sizeOf body

end

end Node

/-! ## The value leaves nothing else open -/

theorem Shape.name_injective : Function.Injective Shape.name := by
  have named : ∀ shape : Shape, ofName? shape.name = some shape := by
    intro shape
    cases shape <;> rfl
  intro shape other same
  have found := named shape
  rw [same, named other] at found
  exact (Option.some.inj found).symm

theorem Binary64.Encodes.alike {value other : Binary64} {json : Json} (first : value.Encodes json)
    (second : other.Encodes json) (c d : Cursor) :
    Node.Alike (.floatingLiteral c value) (.floatingLiteral d other) := by
  cases first with
  | finite _ reads =>
      cases second with
      | finite _ reads' =>
          rw [← reads, reads']
          exact .floatingLiteral c d _
  | infinite =>
      cases second with
      | infinite => exact .unbounded c d nofun nofun
      | nan => exact .unbounded c d nofun nofun
  | nan =>
      cases second with
      | infinite => exact .unbounded c d nofun nofun
      | nan => exact .floatingLiteral c d .nan

namespace Node

variable {a b : Node} {json : Json}

theorem Encodes.kind (h : a.Encodes json) : json.field? "kind" = some (.string a.shape.name) := by
  cases h <;> rfl

theorem Encodes.ne_null (h : a.Encodes json) : json ≠ .null := by
  rintro rfl
  cases h

theorem Encodes.shape_eq (first : a.Encodes json) (second : b.Encodes json) :
    a.shape = b.shape := by
  have same := first.kind
  rw [second.kind] at same
  apply Shape.name_injective
  injection same with same
  injection same with same
  exact same.symm

mutual

/-- What one value stands for is alike. -/
theorem Encodes.alike {a b : Node} {json other : Json} (first : a.Encodes json)
    (second : b.Encodes other) (same : json = other) : a.Alike b := by
  -- The names of the shapes differ, so what is left are nodes of one shape. A null is then either
  -- the lack of a value or a number that is none: no node is encoded as null.
  have shapes : a.shape = b.shape := first.shape_eq (same ▸ second)
  cases first with
  | translationUnit c each =>
      cases second with
      | translationUnit d each' =>
          exact .translationUnit c d (alike_of_forall₂ each each' (by simpa using same))
      | _ => cases shapes
  | @integerLiteral c value reads =>
      cases second with
      | @integerLiteral d value' reads' =>
          have tokens : Json.ofInt value = Json.ofInt value' := by simpa using same
          rw [tokens, reads'] at reads
          rw [Option.some.inj reads]
          exact .integerLiteral c d _
      | degenerate d => simp [Json.ofInt] at same
      | _ => cases shapes
  | degenerate c =>
      cases second with
      | integerLiteral d reads => simp [Json.ofInt] at same
      | degenerate d => exact .integerLiteral c d _
      | _ => cases shapes
  | @floatingLiteral c value json number =>
      cases second with
      | @floatingLiteral d value' json' number' =>
          obtain rfl : json = json' := by simpa using same
          exact number.alike number' c d
      | _ => cases shapes
  | plainVarDecl c name typeName =>
      cases second with
      | plainVarDecl d name' typeName' =>
          obtain ⟨rfl, rfl⟩ : name = name' ∧ typeName = typeName' := by simpa using same
          exact .plainVarDecl c d name typeName
      | varDecl d name' typeName' below => simp [below.ne_null.symm] at same
      | _ => cases shapes
  | @varDecl c name typeName value json below =>
      cases second with
      | plainVarDecl d name' typeName' => simp [below.ne_null] at same
      | @varDecl d name' typeName' value' json' below' =>
          obtain ⟨rfl, rfl, rfl⟩ : name = name' ∧ typeName = typeName' ∧ json = json' := by
            simpa using same
          exact .varDecl c d name typeName (below.alike below' rfl)
      | _ => cases shapes
  | stringLiteral c text =>
      cases second with
      | stringLiteral d text' =>
          obtain rfl : text = text' := by simpa using same
          exact .stringLiteral c d text
      | _ => cases shapes
termination_by sizeOf a

theorem alike_of_forall₂ {body others : List Node} {items items' : List Json}
    (first : List.Forall₂ Encodes body items) (second : List.Forall₂ Encodes others items')
    (same : items = items') : List.Forall₂ Alike body others := by
  cases first with
  | nil =>
      subst same
      cases second
      exact .nil
  | cons head rest =>
      subst same
      cases second with
      | cons head' rest' => exact .cons (head.alike head' rfl) (alike_of_forall₂ rest rest' rfl)
termination_by sizeOf body

end

end Node

/-! ## Dumps are read back -/

/-- What is dumped at all, with whatever indent, is read as the value that stands for the node. -/
theorem Node.Liftable.parse?_dump {node : Node} (h : node.Liftable) {indent : Option Int}
    {text : String} (dumped : node.dump indent = .ok text) :
    Json.parse? text = some node.toJson := by
  rw [Node.dump] at dumped
  obtain ⟨width, -, dumped⟩ := Outcome.bind_eq_ok.mp dumped
  split at dumped
  · cases dumped
  · cases dumped
    exact Json.parse?_render node.toJson h.encodes.proper width

/-- The dump of a tree that lifting gives, of no more levels than can be dumped, is read as the
value that stands for the tree, the same for every indent. Trees with the same dump are alike. -/
theorem dump_tells_all_but_unbounded :
    (∀ node : Node, node.Liftable → ∃ json, node.Encodes json ∧
      ∀ indent : Nat, indent ≤ Node.widestIndent → node.levels ≤ Node.lowestLevel →
        ∃ text, node.dump (some (indent : Int)) = .ok text ∧ Json.parse? text = some json) ∧
    ∀ a b : Node, a.Liftable → b.Liftable → ∀ (indent : Int) (text : String),
      a.dump (some indent) = .ok text → b.dump (some indent) = .ok text → a.Alike b := by
  constructor
  · intro node liftable
    refine ⟨node.toJson, liftable.encodes, ?_⟩
    intro indent fits shallow
    have dumped := Node.dump_of_fits fits node
    rw [if_neg (Nat.not_lt.mpr shallow)] at dumped
    exact ⟨_, dumped, liftable.parse?_dump dumped⟩
  · intro a b first second indent text dumped dumped'
    have read := first.parse?_dump dumped
    rw [second.parse?_dump dumped'] at read
    exact first.encodes.alike second.encodes (Option.some.inj read).symm

theorem dump_tells_all_of_variable :
    let literal (token : String) : Cursor :=
      { facts := { kind := .floatingLiteral, token := some token } }
    let decl (token : String) : Cursor :=
      { facts := { kind := .varDecl, spelling := some "x" }, initializer := some (literal token) }
    let a : Node := .varDecl (decl "1e999") "x" ""
      (some (.floatingLiteral (literal "1e999") (.infinite false)))
    let b : Node := .varDecl (decl "x") "x" "" (some (.floatingLiteral (literal "x") .nan))
    a.Liftable ∧ b.Liftable ∧ a.levels ≤ Node.lowestLevel ∧
      ∃ text json, a.dump (some 3) = .ok text ∧ b.dump (some 3) = .ok text ∧
        Json.parse? text = some json ∧ a.Encodes json ∧ a.Alike b := by
  intro literal decl a b
  have lifted (token : String) : Node.Liftable (.varDecl (decl token) "x" ""
      (some (.floatingLiteral (literal token) (Literal.readFloating token)))) := by
    refine ⟨Context.faultless none ⟨[(.floatingLiteral, some .floatingLiteral),
      (.varDecl, some .varDecl)]⟩, defaultWrappers, decl token, lift_of_represents ?_⟩
    have plain : Kind.varDecl ≠ .unexposedExpr ∧ Kind.floatingLiteral ≠ .unexposedExpr := by decide
    exact .varDecl plain.1 rfl rfl rfl (.floatingLiteral plain.2 rfl)
  have first : a.Liftable := lifted "1e999"
  have second : b.Liftable := lifted "x"
  have shallow : a.levels ≤ Node.lowestLevel := by decide
  obtain ⟨json, encodes, dumps⟩ := dump_tells_all_but_unbounded.1 a first
  obtain ⟨text, dumped, read⟩ := dumps 3 (by decide) shallow
  have same : b.dump (some 3) = a.dump (some 3) := rfl
  have dumped' := same.trans dumped
  have alike := dump_tells_all_but_unbounded.2 a b first second 3 text dumped dumped'
  exact ⟨first, second, shallow, text, json, dumped, dumped', read, encodes, alike⟩

/-- Variables, each the initializer of the one before. -/
def Cursor.nested : Nat → Cursor
  | 0 => { facts := { kind := .varDecl } }
  | n + 1 => { facts := { kind := .varDecl }, initializer := some (nested n) }

def Node.nested : Nat → Node
  | 0 => .varDecl (Cursor.nested 0) "" "" none
  | n + 1 => .varDecl (Cursor.nested (n + 1)) "" "" (some (nested n))

theorem Node.levels_nested (n : Nat) : (nested n).levels = n := by
  induction n with
  | zero => rfl
  | succ n ih => rw [nested, levels, valueLevels, ih]

theorem Node.represents_nested (n : Nat) :
    Represents none ⟨[(.varDecl, some .varDecl)]⟩ (Cursor.nested n) (nested n) := by
  induction n with
  | zero => exact .plainVarDecl (by decide) rfl nofun
  | succ n ih =>
      have plain : Kind.varDecl ≠ .unexposedExpr := by decide
      have present : (Cursor.nested n).facts.isNull = false := by cases n <;> rfl
      exact .varDecl plain rfl rfl present ih

theorem Node.liftable_nested (n : Nat) : (nested n).Liftable :=
  ⟨Context.faultless none _, defaultWrappers, _, lift_of_represents (represents_nested n)⟩

/-- A tree may have more levels than can be dumped, and an indent may be too wide. -/
theorem deep_or_wide_has_no_dump :
    (Node.nested 256).Liftable ∧ (Node.nested 256).dump (some 2) = .error .tooDeep ∧
      (Node.nested 0).Liftable ∧
      (Node.nested 0).dump (some 18446744073709551616) = .error .indentTooLarge := by
  refine ⟨Node.liftable_nested 256, ?_, Node.liftable_nested 0, rfl⟩
  have two : 2 ≤ Node.widestIndent := by decide
  have dumped := Node.dump_of_fits two (Node.nested 256)
  rwa [Node.levels_nested, if_pos (by decide)] at dumped

end CursorLift
