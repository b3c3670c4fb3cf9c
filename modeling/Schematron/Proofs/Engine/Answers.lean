import Schematron.Proofs.Engine.Miniature

/-!
What the miniature engine makes of a call over a lookup. A lookup keeps nothing, so what comes of a
call is the same in every state: the engine answers, and all that it leaves behind is the name of
the stylesheet it applied.
-/
namespace Schematron

variable {α σ τ : Type}

def Tie.fixed (s : σ) (t : τ) : Tie σ τ where
  going s' t' := s' = s ∧ t' = t
  ended _ s' t' := s' = s ∧ t' = t
  kept _ := True
  kept_none := trivial
  ended_of_going _ h := h

def Lookup.load (lookup : Lookup) (reference : String) (base : Option String) :
    Except ResolveError (String × List UInt8) :=
  (lookup reference base).bind fun resource => resource.readAll.map (resource.systemId, ·)

theorem Resolver.run_load_ofLookup (lookup : Lookup) (nesting : Nat) (reference : String)
    (base : Option String) (s : σ) :
    ((ofLookup lookup nesting).load reference base).run s = (lookup.load reference base, s) := by
  rw [run_load, run_ofLookup, Lookup.load]
  cases lookup reference base <;> rfl

theorem Resolver.alike_fixed (lookup : Lookup) (nesting : Nat) (s : σ) (t : τ) :
    (ofLookup lookup nesting).Alike (.fixed s t) (ofLookup lookup nesting) := by
  rintro reference base - _ _ ⟨rfl, rfl⟩
  rw [ExceptT.run_mk, ExceptT.run_mk, run_load_ofLookup, run_load_ofLookup]
  cases lookup.load reference base with
  | error error => exact .error ⟨rfl, rfl⟩
  | ok found => exact .ok ⟨rfl, trivial⟩ ⟨rfl, rfl⟩

/-- The action comes to the same in every state and leaves the state as it is. -/
def Answers {ε : Type} (action : ExceptT ε (StateM σ) α) (answer : Except ε α) : Prop :=
  ∀ s, action.run.run s = (answer, s)

namespace Answers

variable {β ε : Type}

theorem pure (a : α) : Answers (pure a : ExceptT ε (StateM σ) α) (.ok a) :=
  fun _ => rfl

theorem throw (fault : ε) : Answers (throw fault : ExceptT ε (StateM σ) α) (.error fault) :=
  fun _ => rfl

theorem bind {action : ExceptT ε (StateM σ) α} {next : α → ExceptT ε (StateM σ) β} {a : α}
    {answer : Except ε β} (h : Answers action (.ok a)) (later : Answers (next a) answer) :
    Answers (action >>= next) answer := by
  intro s
  rw [run_bind, h]
  exact later s

theorem bind_error {action : ExceptT ε (StateM σ) α} {next : α → ExceptT ε (StateM σ) β}
    {fault : ε} (h : Answers action (.error fault)) : Answers (action >>= next) (.error fault) := by
  intro s
  rw [run_bind, h]

theorem adapt {ε' : Type} {action : ExceptT ε (StateM σ) α} {answer : Except ε α}
    (h : Answers action answer) (change : ε → ε') :
    Answers (action.adapt change) (answer.mapError change) := by
  intro s
  rw [run_adapt, h]

end Answers

theorem exists_answer {action : EngineM Journal α}
    (h : ∀ s t, Couples (Tie.fixed s t).going (Tie.fixed s t).ended (· = ·) action action) :
    ∃ answer, Answers action answer := by
  refine ⟨(action.run.run .empty).1, fun s => ?_⟩
  have coupled := h s .empty s .empty ⟨rfl, rfl⟩
  generalize action.run.run s = x, action.run.run .empty = y at coupled ⊢
  cases coupled with
  | ok same stayed => rw [same, stayed.1]
  | error stayed => rw [stayed.1]

namespace Miniature

open Xml

variable (lookup : Lookup) (nesting : Nat) (numbered : Bool)

theorem exists_answer_checkIncludes (systemId : String) (markers : List Element) :
    ∃ answer, Answers (σ := Journal)
      (checkIncludes (.ofLookup lookup nesting) numbered systemId markers) answer := by
  apply exists_answer
  intro s t
  exact (couples_checkIncludes (Resolver.alike_fixed lookup nesting s t) numbered trivial
    markers).mono fun _ _ _ => rfl

theorem exists_answer_applyMode (systemId mode : String) (source : Document) :
    ∃ answer, Answers (σ := Journal)
      (applyMode (.ofLookup lookup nesting) numbered systemId mode source) answer := by
  apply exists_answer
  intro s t
  exact (couples_applyMode (Resolver.alike_fixed lookup nesting s t) rfl numbered systemId mode
    trivial).mono fun _ _ same => same.1

def Notes (systemId : String) (transform : Transformation Journal) : Prop :=
  ∀ source, ∃ result, ∀ s,
    (transform source).run.run s = (result, { s with applied := s.applied ++ [systemId] })

theorem exists_answer_transformation (stylesheet : Stylesheet) :
    ∃ answer, Answers (transformation (.ofLookup lookup nesting) numbered stylesheet) answer ∧
      ∀ transform, answer = .ok transform → Notes stylesheet.systemId transform := by
  obtain ⟨checked, checks⟩ := exists_answer_checkIncludes lookup nesting numbered
    stylesheet.systemId (stylesheet.document.root.childElements.filter isInclude)
  unfold transformation
  dsimp only
  split
  · exact ⟨_, .bind_error (.throw _), nofun⟩
  · cases checked with
    | error error => exact ⟨_, checks.bind_error, nofun⟩
    | ok checked =>
      cases stylesheet.document.root.attribute? "mode" with
      | none => exact ⟨_, checks.bind (.throw _), nofun⟩
      | some mode =>
        refine ⟨_, checks.bind (.pure _), ?_⟩
        intro transform made source
        cases made
        obtain ⟨result, applies⟩ := exists_answer_applyMode lookup nesting numbered
          stylesheet.systemId mode source
        exact ⟨result, fun s => applies _⟩

theorem exists_answer_executable (stylesheet : Document) :
    ∃ answer, Answers (σ := Journal) (executable stylesheet) answer ∧
      ∀ apply, answer = .ok apply →
        apply = fun _ => pure (report (patternIds stylesheet.root)) := by
  unfold executable
  split
  · exact ⟨_, .pure _, fun apply made => (Except.ok.inj made).symm⟩
  · exact ⟨_, .throw _, nofun⟩

end Miniature
end Schematron
