import AreaOfInterest.Editor

/-!
# Runs of an editor

What can come about by using an editor. A run starts with a new editor and goes on by actions, and by other
views that are put in the place of its own. It is recorded turn by turn.

Each turn is kept with the editor that it found. So a statement about a run can speak of what was done, of
the answers, and of every editor on the way. No law of the scalars is assumed.
-/

namespace AreaOfInterest

variable {α : Type} [Scalar α]

/-- The viewports that can be made: new ones, with other tile sizes and zoom limits, moved at will. -/
inductive Viewport.Built : Viewport α → Prop where
  | new (widthPx heightPx : α) : Built (.new widthPx heightPx)
  | withTileSize {v w : Viewport α} {tileSize : α} : Built v → v.withTileSize? tileSize = some w → Built w
  | withZoomLimits {v w : Viewport α} {a b : Nat} : Built v → v.withZoomLimits? a b = some w → Built w
  | move {v : Viewport α} (m : Viewport.Move α) : Built v → Built (v.move m)

/-- An action together with the editor that it was done to. -/
structure Turn (α : Type) where
  before : Editor α
  action : Action α

/-- The turns of a run, the latest first. -/
abbrev History (α : Type) := List (Turn α)

variable [Surface α]

namespace Turn

/-- The editor after a turn. -/
def after (t : Turn α) : Editor α := (t.before.step t.action).1

/-- The answer to a turn. -/
def reply (t : Turn α) : Reply α := (t.before.step t.action).2

/-- A turn that answers with the result of an operation is refused or done as the operation is. -/
theorem settled_cases {t : Turn α} {answer : Editor α × Except (Failure α) Unit}
    (step : t.before.step t.action = (answer.1, .ofResult answer.2)) :
    (∃ failure, answer = (t.after, .error failure) ∧ t.reply = .refused failure) ∨
      (answer = (t.after, .ok ()) ∧ t.reply = .done) := by
  obtain ⟨e', result⟩ := answer
  have hafter : t.after = e' := congrArg Prod.fst step
  have hreply : t.reply = .ofResult result := congrArg Prod.snd step
  rw [hafter, hreply]
  cases result with
  | error failure => exact .inl ⟨failure, rfl, rfl⟩
  | ok => exact .inr ⟨rfl, rfl⟩

end Turn

namespace Editor

/-- The editors that come about by use, each with the turns that led to it. -/
inductive Reached (settings : EditorSettings α) (ops : PlanarOps α) : History α → Editor α → Prop where
  | new {e : Editor α} : new? settings ops = some e → Reached settings ops [] e
  | act {history : History α} {e : Editor α} (a : Action α) :
      Reached settings ops history e → Reached settings ops (⟨e, a⟩ :: history) (e.step a).1
  | view {history : History α} {e : Editor α} {v : Viewport α} :
      Reached settings ops history e → v.Built → Reached settings ops history { e with viewport := v }

/-- The turns of several actions, added to the ones before. -/
def turns (e : Editor α) : List (Action α) → History α → History α
  | [], history => history
  | a :: rest, history => turns (e.step a).1 rest (⟨e, a⟩ :: history)

/-- The turns of several actions come after the ones before. -/
theorem turns_eq_append (e : Editor α) (actions : List (Action α)) (history : History α) :
    e.turns actions history = e.turns actions [] ++ history := by
  induction actions generalizing e history with
  | nil => rfl
  | cons a rest ih => rw [turns, ih, turns, ih _ [_], List.append_assoc, List.singleton_append]

variable {settings : EditorSettings α} {ops : PlanarOps α} {history : History α} {e : Editor α}

/-- Every turn of a run was done to an editor that was reached by the turns before it. -/
theorem Reached.before {later earlier : History α} {t : Turn α} (hr : Reached settings ops (later ++ t :: earlier) e) :
    Reached settings ops earlier t.before := by
  generalize hhistory : later ++ t :: earlier = history at hr
  induction hr generalizing later with
  | new => cases later <;> cases hhistory
  | view _ _ ih => exact ih hhistory
  | act a hr ih =>
    cases later with
    | nil =>
      cases hhistory
      exact hr
    | cons u later =>
      cases hhistory
      exact ih rfl

/-- Several actions lead from a reached editor to a reached one. -/
theorem Reached.run (hr : Reached settings ops history e) (actions : List (Action α)) :
    Reached settings ops (e.turns actions history) (e.run actions) := by
  induction actions generalizing e history with
  | nil => exact hr
  | cons a rest ih => exact ih (hr.act a)

/-- The editors that come about by going on with a given one, each with the turns since. -/
inductive Leads (start : Editor α) : History α → Editor α → Prop where
  | here : Leads start [] start
  | act {history : History α} {e : Editor α} (a : Action α) :
      Leads start history e → Leads start (⟨e, a⟩ :: history) (e.step a).1
  | view {history : History α} {e : Editor α} {v : Viewport α} :
      Leads start history e → v.Built → Leads start history { e with viewport := v }

/-- Several actions go on with an editor. -/
theorem Leads.run {start : Editor α} (hl : start.Leads history e) (actions : List (Action α)) :
    start.Leads (e.turns actions history) (e.run actions) := by
  induction actions generalizing e history with
  | nil => exact hl
  | cons a rest ih => exact ih (hl.act a)

/-- The runs that start with some turns are those that go on with the editor that the last of these turns left. -/
theorem Reached.append_iff {later earlier : History α} {t : Turn α} (hr : Reached settings ops earlier t.before) :
    Reached settings ops (later ++ t :: earlier) e ↔ t.after.Leads later e := by
  constructor
  · intro h
    generalize hhistory : later ++ t :: earlier = history at h
    induction h generalizing later with
    | new => cases later <;> cases hhistory
    | view _ built ih => exact (ih hhistory).view built
    | act a _ ih =>
      cases later with
      | nil =>
        cases hhistory
        exact .here
      | cons u later =>
        cases hhistory
        exact (ih rfl).act a
  · intro h
    induction h with
    | here => exact hr.act t.action
    | act a _ ih => exact ih.act a
    | view _ built ih => exact ih.view built

end Editor

end AreaOfInterest
