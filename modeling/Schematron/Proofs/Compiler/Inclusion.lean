import Schematron.Proofs.Compiler.Recording
import Schematron.Proofs.Engine.Miniature
import Schematron.Proofs.Resource.Location
import Schematron.Proofs.Resource.Lookup

/-!
A reference that is asked for stands at the root or in a resource that a reference led to. By
induction over the includes, all that a compile reads lies under the root.
-/
namespace Schematron

instance {σ : Type} [Journaled σ] : Journaled (Recorded σ) where
  journal recorded := Journaled.journal recorded.state
  amend change recorded := { recorded with state := Journaled.amend change recorded.state }

def Exchange.Inside (lookup : Lookup) (call : Exchange) : Prop :=
  ∃ reference base, call = .resolve reference base (lookup reference base) ∧ lookup.Reaches base

def Exchange.asked? : Exchange → Option (String × Option String)
  | .resolve reference base _ => some (reference, base)
  | _ => none

def Exchange.Escapes (call : Exchange) (reference : String) : Prop :=
  ∃ base, call.asked? = some (reference, base) ∧ Location.resolve? reference base = none

theorem Exchange.escapes_resolve_iff {reference asked : String} {base : Option String}
    {answer : Except ResolveError Resource} :
    (resolve reference base answer).Escapes asked ↔
      reference = asked ∧ Location.resolve? reference base = none := by
  constructor
  · rintro ⟨_, ⟨⟩, outside⟩
    exact ⟨rfl, outside⟩
  · rintro ⟨rfl, outside⟩
    exact ⟨_, rfl, outside⟩

/-- What a compile that ended so may have asked for: references from the root or from resources
that were come to under it, answered with resources under the root; one that leads nowhere is what
the compile failed with. -/
def Exchange.StaysInside {α : Type} (lookup : Lookup) (outcome : Except CompileError α)
    (call : Exchange) : Prop :=
  ∃ reference base, call = .resolve reference base (lookup reference base) ∧
    lookup.Reaches base ∧ Location.Reached base ∧
    (∀ resource, lookup reference base = .ok resource → Location.IsPath resource.systemId) ∧
    (Location.resolve? reference base = none →
      ∃ step, outcome = .error ⟨step, .resourceNotFound (.notFound reference)⟩)

/-- The record of a compile that only asks from what it came to. Of the references that lead nowhere
it may have asked for those that `missed` lets pass. -/
structure Contained (lookup : Lookup) (missed : String → Prop) (recorded : Recorded Journal)
    (s : Journal) : Prop where
  state : recorded.state = s
  inside : ∀ call ∈ recorded.exchanges, call.Inside lookup
  escapes : ∀ call ∈ recorded.exchanges, ∀ reference, call.Escapes reference → missed reference

namespace Contained

variable {lookup : Lookup} {missed : String → Prop} {recorded : Recorded Journal} {s : Journal}

theorem mono {missed' : String → Prop} (h : Contained lookup missed recorded s)
    (implied : ∀ reference, missed reference → missed' reference) :
    Contained lookup missed' recorded s :=
  { h with escapes := fun call member reference escapes =>
      implied reference (h.escapes call member reference escapes) }

theorem ask {reference : String} {base : Option String} (h : Contained lookup missed recorded s)
    (reaches : lookup.Reaches base)
    (outside : Location.resolve? reference base = none → missed reference) :
    Contained lookup missed ⟨recorded.state,
      recorded.exchanges ++ [.resolve reference base (lookup reference base)]⟩ s where
  state := h.state
  inside := List.forall_mem_append.2
    ⟨h.inside, List.forall_mem_singleton.2 ⟨reference, base, rfl, reaches⟩⟩
  escapes := by
    refine List.forall_mem_append.2 ⟨h.escapes, List.forall_mem_singleton.2 ?_⟩
    intro asked escapes
    obtain ⟨rfl, nowhere⟩ := Exchange.escapes_resolve_iff.1 escapes
    exact outside nowhere

theorem staysInside {α : Type} {outcome : Except CompileError α}
    (h : Contained lookup missed recorded s) (rooted : lookup.Rooted)
    (fails : ∀ reference, missed reference →
      ∃ step, outcome = .error ⟨step, .resourceNotFound (.notFound reference)⟩) :
    ∀ call ∈ recorded.exchanges, call.StaysInside lookup outcome := by
  intro call member
  obtain ⟨reference, base, rfl, reaches⟩ := h.inside call member
  have reached := reaches.reached rooted
  refine ⟨reference, base, rfl, reaches, reached, fun resource found => ?_, fun outside => ?_⟩
  · exact (reached.follow (rooted.found found)).isPath _ rfl
  · exact fails reference (h.escapes _ member reference
      (Exchange.escapes_resolve_iff.2 ⟨rfl, outside⟩))

end Contained

/-- A compile with its calls on record and the compile itself. While they go on nothing was missed;
after an error only what the error says is. -/
def inclusionTie (lookup : Lookup) : Tie (Recorded Journal) Journal where
  going := Contained lookup fun _ => False
  ended error := Contained lookup fun reference => error = .resolve (.notFound reference)
  kept := lookup.Reaches
  kept_none := .root
  ended_of_going _ h := h.mono fun _ => False.elim

theorem inclusionTie_journals (lookup : Lookup) : (inclusionTie lookup).Journals where
  same h := congrArg Journaled.journal h.state
  amend change h := ⟨congrArg (Journaled.amend change) h.state, h.inside, h.escapes⟩

/-- What is found from a base that was reached is reached in its turn. -/
theorem Lookup.Rooted.alike {lookup : Lookup} (rooted : lookup.Rooted) (nesting : Nat) :
    (Resolver.ofLookup lookup nesting).recorded.Alike (inclusionTie lookup)
      (.ofLookup lookup nesting) := by
  rintro reference base reaches ⟨s, exchanges⟩ _ before
  obtain rfl := before.state
  rw [ExceptT.run_mk, ExceptT.run_mk, Resolver.run_load, Resolver.run_load, Resolver.run_recorded,
    Resolver.run_ofLookup]
  cases answered : lookup reference base with
  | error error =>
    -- Only here may the reference lead nowhere, and then the error says so.
    refine .error (answered ▸ (before.mono fun _ => False.elim).ask reaches fun outside => ?_)
    rw [rooted.refused outside, Except.error.injEq] at answered
    exact congrArg _ answered.symm
  | ok resource =>
    have led := rooted.found answered
    have going : (inclusionTie lookup).going
        ⟨s, exchanges ++ [.resolve reference base (.ok resource)]⟩ s :=
      answered ▸ before.ask reaches fun outside => by simp [led] at outside
    dsimp only
    cases resource.readAll with
    | error error => exact .error ((inclusionTie lookup).ended_of_going _ going)
    | ok bytes => exact .ok ⟨rfl, reaches.follow answered⟩ going

namespace Compiler

def miniature {σ : Type} [Journaled σ] (faults : Option (List PlannedFault))
    (resolver : Resolver σ) (configuration : Configuration) : Compiler σ where
  engine :=
    match faults with
    | none => Miniature.engine
    | some faults => Miniature.engine.withFaults faults
  resolver := resolver
  configuration := configuration

theorem miniature_alike {σ τ : Type} [Journaled σ] [Journaled τ] {tie : Tie σ τ}
    {resolver : Resolver σ} {resolver' : Resolver τ} (journals : tie.Journals)
    (alike : resolver.Alike tie resolver') (nesting : resolver.nesting = resolver'.nesting)
    (faults : Option (List PlannedFault)) (configuration : Configuration) :
    Compiler.Alike tie (miniature faults resolver configuration)
      (miniature faults resolver' configuration) where
  configuration := rfl
  resolver := alike
  factory := by
    have plain := Miniature.engine_alike journals alike nesting configuration
    cases faults with
    | none => exact plain
    | some faults => exact plain.withFaults journals faults

/-- A compile with its references on record makes the same as the compile. -/
theorem exists_calls_of_rooted {lookup : Lookup} (rooted : lookup.Rooted) (nesting : Nat)
    (faults : Option (List PlannedFault)) (configuration : Configuration) (id : Nat)
    (rules : Stream) (journal : Journal) :
    ∃ outcome outcome' seen journal' calls,
      ((miniature faults (.ofLookup lookup nesting) configuration).compileObserved id rules).run
        journal = ((outcome, seen), journal') ∧
      ((miniature faults (Resolver.ofLookup lookup nesting).recorded
        configuration).compileObserved id rules).run ⟨journal, []⟩ =
        ((outcome', seen), ⟨journal', calls⟩) ∧
      outcome.map Template.facts = outcome'.map Template.facts ∧
      ∀ call ∈ calls, call.StaysInside lookup outcome := by
  have alike := miniature_alike (inclusionTie_journals lookup) (rooted.alike nesting) rfl faults
    configuration
  have related : (inclusionTie lookup).going ⟨journal, []⟩ journal := ⟨rfl, by simp, by simp⟩
  obtain ⟨outcome', outcome, seen, ⟨_, calls⟩, journal', noted, ran, coupled⟩ :=
    alike.compileObserved id rules related
  cases coupled with
  | ok same going =>
    obtain rfl := going.state
    exact ⟨_, _, _, _, _, ran, noted, congrArg Except.ok same.symm, fun call member =>
      going.staysInside rooted (fun _ => False.elim) call member⟩
  | @error failure _ _ failed =>
    obtain ⟨step, cause⟩ := failure
    obtain ⟨kind, error, rfl, ended⟩ := failed
    obtain rfl := ended.state
    refine ⟨_, _, _, _, _, ran, noted, rfl, fun call member =>
      ended.staysInside rooted (fun reference missed => ⟨step, ?_⟩) call member⟩
    rw [missed]
    rfl

/-- References stay inside the root along any chain of includes. What a reference leads to from
what was reached before is where its walk ends, on a path of names; it leads nowhere exactly when
it is barred, climbs out or comes back to the root. Compiles with the miniature engine ask for
references in nothing but what they came to so, and fail with one that leads nowhere. -/
theorem references_stay_inside :
    (∀ reference base, Location.Reached base →
      (∀ path, Location.resolve? reference base = some path ↔ ¬Location.Barred reference ∧
        path ≠ "" ∧ Location.IsPath path ∧ Location.Walks (Location.origin reference base)
          (Location.route reference) (Text.splitOn '/' path.toList)) ∧
      (Location.resolve? reference base = none ↔ Location.Barred reference ∨
        Location.ClimbsOut (Location.origin reference base) (Location.route reference) ∨
        Location.Walks (Location.origin reference base) (Location.route reference) [])) ∧
    (∀ store : Store, Lookup.Rooted store.resolve) ∧
    (∀ directory : Directory, Lookup.Rooted directory.resolve) ∧
    (∀ lookup systemIds cause, Lookup.Rooted lookup →
      (lookup.breaking systemIds cause).Rooted) ∧
    ∀ lookup, Lookup.Rooted lookup → ∀ nesting faults configuration id rules (journal : Journal),
      ∃ outcome outcome' seen journal' calls,
        ((miniature faults (.ofLookup lookup nesting) configuration).compileObserved id rules).run
          journal = ((outcome, seen), journal') ∧
        ((miniature faults (Resolver.ofLookup lookup nesting).recorded
          configuration).compileObserved id rules).run ⟨journal, []⟩ =
          ((outcome', seen), ⟨journal', calls⟩) ∧
        outcome.map Template.facts = outcome'.map Template.facts ∧
        ∀ call ∈ calls, call.StaysInside lookup outcome := by
  refine ⟨fun reference base reached => ⟨fun path => ?_, ?_⟩,
    fun store => Lookup.rooted_ofContents store.get?,
    fun directory => Lookup.rooted_ofContents directory.get?,
    fun lookup systemIds cause rooted => rooted.breaking systemIds cause,
    fun lookup rooted => exists_calls_of_rooted rooted⟩
  · rw [Location.resolve?_eq_some_iff reached.isPath]
    exact ⟨fun ⟨free, path, walk⟩ => ⟨free, path.ne_empty, path, walk⟩,
      fun ⟨free, _, path, walk⟩ => ⟨free, path, walk⟩⟩
  · exact Location.resolve?_eq_none_iff reached.isPath

theorem references_stay_inside_nested :
    let store : Store := ⟨("sub/a.sch", Utf8.encode "<a><include href=\"../../x\"/></a>".toList) ::
      Miniature.pipelineStore.entries⟩
    let rules := Stream.whole
      (Utf8.encode "<schema><include href=\"./sub//a.sch\"/></schema>".toList)
    Location.Reached (some "sub/a.sch") ∧ Location.resolve? "../../x" (some "sub/a.sch") = none ∧
      Lookup.Rooted store.resolve ∧ ∃ step seen journal,
        ((miniature none (.ofLookup store.resolve store.nesting) .standard).compileObserved 0
          rules).run Journal.empty =
          ((.error ⟨step, .resourceNotFound (.notFound "../../x")⟩, seen), journal) := by
  intro store rules
  obtain ⟨-, stores, -, -, compiles⟩ := references_stay_inside
  have reached : Location.Reached (some "sub/a.sch") := .follow .root
    (show Location.resolve? "./sub//a.sch" none = _ by decide +kernel)
  have outside : Location.resolve? "../../x" (some "sub/a.sch") = none := by decide +kernel
  refine ⟨reached, outside, stores store, ?_⟩
  obtain ⟨outcome, outcome', seen, journal, calls, ran, noted, -, inside⟩ :=
    compiles store.resolve (stores store) store.nesting none .standard 0 rules .empty
  have asked : ("../../x", some "sub/a.sch") ∈
      (((miniature none (Resolver.ofLookup store.resolve store.nesting).recorded
        .standard).compileObserved 0 rules).run
          ⟨Journal.empty, []⟩).2.exchanges.filterMap Exchange.asked? := by
    decide +kernel
  rw [noted] at asked
  obtain ⟨call, member, same⟩ := List.mem_filterMap.1 asked
  obtain ⟨reference, base, rfl, -, -, -, fails⟩ := inside call member
  cases same
  obtain ⟨step, rfl⟩ := fails outside
  exact ⟨step, seen, journal, ran⟩

end Compiler
end Schematron
