import CursorLift.Proofs.Agreement

/-! # Wrappers can be elided

A wrapper says nothing of its own, so a tree from which wrappers were taken out lifts to the
same nodes, with the same calls and the same warnings. Only the notices of looking through
wrappers are fewer.
-/

namespace CursorLift

open Run (Agree)
open Context

/-! ## Taking wrappers out -/

namespace Cursor

/-- A cursor without wrappers: one that hides a concrete cursor makes way for that one, and
any other stays, at every place that can be lifted. -/
def elide (c : Cursor) : Cursor :=
  match c.hidden?.attach with
  | some ⟨concrete, _found⟩ => concrete.elide
  | none =>
    { c with
      children := c.children.attach.map fun ⟨d, _member⟩ => d.elide
      initializer := c.initializer.attach.map fun ⟨d, _link⟩ => d.elide }
termination_by sizeOf c
decreasing_by
  · exact sizeOf_lt_of_hidden? _found
  · exact sizeOf_lt_of_mem_children _member
  · exact sizeOf_lt_of_initializer _link

theorem elide_of_hidden {c concrete : Cursor} (h : c.hidden? = some concrete) :
    c.elide = concrete.elide := by
  rw [elide]
  split
  · next found _ =>
      rw [h] at found
      cases found
      rfl
  · next absent => simp [h] at absent

theorem elide_of_not_hidden {c : Cursor} (h : c.hidden? = none) :
    c.elide =
      { c with children := c.children.map elide, initializer := c.initializer.map elide } := by
  rw [elide]
  split
  · next found _ =>
      rw [h] at found
      cases found
  · simp

/-- A cursor none of whose parts is null, down through children and initializers. -/
inductive Present : Cursor → Prop where
  | intro {c : Cursor} (shown : c.facts.isNull = false) (children : ∀ d ∈ c.children, Present d)
      (initializer : ∀ d, c.initializer = some d → Present d) : Present c

end Cursor

/-! ## What elision leaves -/

namespace Cursor

variable {c concrete : Cursor}

theorem elide_facts (h : c.hidden? = none) : c.elide.facts = c.facts := by
  rw [elide_of_not_hidden h]

theorem elide_wraps (h : c.hidden? = none) (wrappers : List Kind) :
    c.elide.wraps wrappers = c.wraps wrappers := by
  rw [wraps, elide_facts h, wraps]

theorem firstConcrete?_map_elide (cursors : List Cursor)
    (each : ∀ d ∈ cursors, standIn? (wraps defaultWrappers) d.elide =
      (standIn? (wraps defaultWrappers) d).map elide) :
    firstConcrete? (wraps defaultWrappers) (cursors.map elide) =
      (firstConcrete? (wraps defaultWrappers) cursors).map elide := by
  induction cursors with
  | nil => rfl
  | cons d rest ih =>
      rw [List.map_cons, firstConcrete?, firstConcrete?, each d List.mem_cons_self,
        ih fun e member => each e (List.mem_cons_of_mem d member)]
      cases standIn? (wraps defaultWrappers) d <;> rfl

/-- What stands in for a cursor after elision is the elision of what stands in for it. -/
theorem standIn?_elide (c : Cursor) :
    standIn? (wraps defaultWrappers) c.elide = (standIn? (wraps defaultWrappers) c).map elide := by
  cases wrapper : c.wraps defaultWrappers with
  | false =>
      have same := elide_wraps (hidden?_of_concrete wrapper) defaultWrappers
      rw [standIn?_of_not_isWrapper wrapper, standIn?_of_not_isWrapper (same.trans wrapper)]
      rfl
  | true =>
      rw [standIn?_of_isWrapper wrapper, ← hidden?_of_wrapper wrapper]
      cases found : c.hidden? with
      | some concrete =>
          have plain := concrete_of_hidden? found
          have same := elide_wraps (hidden?_of_concrete plain) defaultWrappers
          rw [elide_of_hidden found, standIn?_of_not_isWrapper (same.trans plain)]
          rfl
      | none =>
          -- A barren wrapper stays one: its children are barren, and so are their elisions.
          have same := elide_wraps found defaultWrappers
          have below := firstConcrete?_map_elide c.children fun d member =>
            have := sizeOf_lt_of_mem_children member
            standIn?_elide d
          rw [standIn?_of_isWrapper (same.trans wrapper), elide_of_not_hidden found, below,
            ← hidden?_of_wrapper wrapper, found]
termination_by sizeOf c

theorem present_of_standIn? {isWrapper : Cursor → Bool} {c concrete : Cursor} (present : c.Present)
    (h : standIn? isWrapper c = some concrete) : concrete.Present := by
  refine of_standIn? ?_ present h
  intro c present
  cases present with
  | intro _ children _ => exact children

theorem present_of_hidden? (present : c.Present) (h : c.hidden? = some concrete) :
    concrete.Present := by
  cases wrapper : c.wraps defaultWrappers with
  | false => simp [hidden?_of_concrete wrapper] at h
  | true =>
      rw [hidden?_of_wrapper wrapper] at h
      have stands : standIn? (wraps defaultWrappers) c = some concrete := by
        rw [standIn?_of_isWrapper wrapper, h]
      exact present_of_standIn? present stands

theorem elide_isNull (present : c.Present) : c.elide.facts.isNull = false := by
  have shown {d : Cursor} (present : d.Present) (h : d.hidden? = none) :
      d.elide.facts.isNull = false := by
    rw [elide_facts h]
    cases present with
    | intro shown _ _ => exact shown
  cases found : c.hidden? with
  | none => exact shown present found
  | some concrete =>
      have plain := concrete_of_hidden? found
      rw [elide_of_hidden found]
      refine shown ?_ (hidden?_of_concrete plain)
      exact present_of_hidden? present found

end Cursor

/-! ## Lifting without wrappers -/

namespace Context

variable {unit : Option ActiveUnit} {catalogue : Catalogue}

theorem liftAlike_elide_of_barren {keep : Event → Bool} {c : Cursor}
    (wrapper : c.wraps defaultWrappers = true) (barren : c.hidden? = none) :
    LiftAlike keep unit catalogue c c.elide := by
  have other := (Cursor.elide_wraps barren defaultWrappers).trans wrapper
  have stuck : Cursor.firstConcrete? (Cursor.wraps defaultWrappers) c.elide.children = none := by
    have stands := Cursor.standIn?_elide c
    rwa [Cursor.standIn?_of_isWrapper other, Cursor.standIn?_of_isWrapper wrapper,
      ← Cursor.hidden?_of_wrapper wrapper, barren] at stands
  rw [LiftAlike, lift_of_wrapper wrapper, lift_of_wrapper other, stuck,
    ← Cursor.hidden?_of_wrapper wrapper, barren, Cursor.elide_facts barren]
  exact Agree.after _ fun _ => .fail _

theorem properInitializer?_elide {c : Cursor} (kept : c.hidden? = none)
    (present : ∀ d, c.initializer = some d → d.Present) :
    c.elide.properInitializer? = c.properInitializer?.map Cursor.elide := by
  rw [Cursor.elide_of_not_hidden kept, Cursor.properInitializer?, Cursor.properInitializer?]
  cases link : c.initializer with
  | none => rfl
  | some d =>
      have present := present d link
      have shown : d.facts.isNull = false := by
        cases present with
        | intro shown _ _ => exact shown
      rw [Option.map_some, Option.filter_some, Option.filter_some, Cursor.elide_isNull present,
        shown]
      rfl

/-- A cursor lifts as its elision does, but for notices below warnings. -/
theorem liftAlike_elide {c : Cursor} (present : c.Present) :
    LiftAlike (Run.reaches .warning) unit catalogue c c.elide := by
  cases wrapper : c.wraps defaultWrappers with
  | true =>
      cases found : c.hidden? with
      | none => exact liftAlike_elide_of_barren wrapper found
      | some concrete =>
          -- The notice of looking through the wrapper is the only event that is lost.
          have := Cursor.sizeOf_lt_of_hidden? found
          rw [LiftAlike, lift_of_wrapper wrapper, ← Cursor.hidden?_of_wrapper wrapper, found,
            Cursor.elide_of_hidden found]
          exact Agree.note_left rfl (liftAlike_elide (Cursor.present_of_hidden? present found))
  | false =>
      have kept := Cursor.hidden?_of_concrete wrapper
      obtain ⟨shown, children, initializer⟩ := present
      refine liftAlike_of_concrete wrapper (Cursor.elide_facts kept) ?_ ?_
      · rw [Cursor.elide_of_not_hidden kept, List.forall₂_map_right_iff, List.forall₂_same]
        intro d member
        have := Cursor.sizeOf_lt_of_mem_children member
        exact liftAlike_elide (children d member)
      · rw [properInitializer?_elide kept initializer]
        cases link : c.properInitializer? with
        | none => exact .none
        | some d =>
            have link := (Cursor.properInitializer?_eq_some.mp link).1
            have := Cursor.sizeOf_lt_of_initializer link
            exact .some (liftAlike_elide (initializer d link))
termination_by sizeOf c

end Context

/-- Taking wrappers out of a tree none of whose cursors is null changes neither the nodes nor
the failure that lifting ends with, neither its calls nor its warnings. -/
theorem lift_elide (unit : Option ActiveUnit) (catalogue : Catalogue) {c : Cursor}
    (present : c.Present) :
    ((faultless unit catalogue).lift c.elide).outcome.map Node.bare =
        ((faultless unit catalogue).lift c).outcome.map Node.bare ∧
      Event.calls ((faultless unit catalogue).lift c.elide).trace =
        Event.calls ((faultless unit catalogue).lift c).trace ∧
      Event.notices .warning ((faultless unit catalogue).lift c.elide).trace =
        Event.notices .warning ((faultless unit catalogue).lift c).trace := by
  have alike : LiftAlike (Run.reaches .warning) unit catalogue c c.elide := liftAlike_elide present
  refine ⟨alike.ends.map_eq.symm, ?_, ?_⟩
  · rw [← Run.calls_filter_reaches .warning, ← alike.events, Run.calls_filter_reaches]
  · rw [← Run.notices_filter_reaches, ← alike.events, Run.notices_filter_reaches]

/-- A wrapper with a barren wrapper before the literal that it hides, and an unknown cursor
after it. -/
theorem lift_elide_past_barren :
    let c : Cursor :=
      { facts := { kind := .unexposedExpr }
        children := [
          { facts := { kind := .unexposedExpr } },
          { facts := { kind := .integerLiteral, token := some "7" } },
          { facts := { kind := .word "?" } }] }
    let ctx := faultless none ⟨[(.integerLiteral, some .integerLiteral)]⟩
    c.Present ∧
      (ctx.lift c.elide).outcome.map Node.bare = (ctx.lift c).outcome.map Node.bare ∧
      Event.calls (ctx.lift c.elide).trace = Event.calls (ctx.lift c).trace ∧
      Event.notices .warning (ctx.lift c.elide).trace =
        Event.notices .warning (ctx.lift c).trace := by
  intro c ctx
  have leaf (facts : Facts) (shown : facts.isNull = false) : Cursor.Present { facts } :=
    .intro shown nofun nofun
  have present : c.Present := by
    refine .intro rfl ?_ nofun
    simp only [c, List.forall_mem_cons]
    exact ⟨leaf _ rfl, leaf _ rfl, leaf _ rfl, nofun⟩
  exact ⟨present, lift_elide none _ present⟩

end CursorLift
