import Schematron.Compiler.Session
import Schematron.Proofs.Compiler.Course

/-!
Runs on one compiler share a journal in which all calls are counted, and nothing else. Each goes the
course of its own rules; the calls of the others only decide where a fault strikes it.
-/
namespace Schematron

def Faults.Spares (faults : Faults) (before made : List Call) : Prop :=
  ∀ done call later, made = done ++ call :: later → faults.strikes? (before ++ done) call = none

namespace Faults

variable {faults : Faults} {before made : List Call} {call : Call}

theorem spares_nil : faults.Spares before [] := by
  intro done call later split
  simp at split

theorem spares_cons_iff : faults.Spares before (call :: made) ↔
    faults.strikes? before call = none ∧ faults.Spares (before ++ [call]) made := by
  apply Iff.intro
  · intro spared
    refine ⟨by simpa using spared [] call made rfl, ?_⟩
    intro done later rest split
    simpa using spared (call :: done) later rest (by rw [split, List.cons_append])
  · rintro ⟨first, rest⟩ done next later split
    cases done with
    | nil =>
      obtain ⟨rfl, -⟩ := List.cons.inj split
      simpa using first
    | cons _ done =>
      simp only [List.cons_append, List.cons.injEq] at split
      obtain ⟨rfl, split⟩ := split
      simpa using rest done next later split

theorem spares_toList_append_iff {first? : Option Call} :
    faults.Spares before (first?.toList ++ made) ↔
      (∀ call ∈ first?, faults.strikes? before call = none) ∧
        faults.Spares (before ++ first?.toList) made := by
  cases first? with
  | none => simp
  | some call => simpa using spares_cons_iff

theorem strikes?_of_free (free : faults ∈ [none, some []]) :
    faults.strikes? before call = none := by
  simp only [List.mem_cons, List.not_mem_nil, or_false] at free
  obtain rfl | rfl := free <;> rfl

theorem spares_of_free (free : faults ∈ [none, some []]) : faults.Spares before made :=
  fun _ _ _ _ => strikes?_of_free free

end Faults

theorem Journal.counting_counting (s : Journal) (faults : Faults) (made later : List Call) :
    (s.counting faults made).counting faults later = s.counting faults (made ++ later) := by
  cases faults <;> simp [counting]

def Trace.append (trace later : Trace) : Trace :=
  ⟨trace.started ++ later.started, trace.results ++ later.results⟩

namespace Course

/-- What is left of a course, and the error that breaks it off: it is gone through whole, or up to
the first call that a fault strikes. -/
inductive Ends (faults : Faults) (before : List Call) (course : Course) :
    Course → List Call → Option CompileError → Prop
  | whole : faults.Spares before course.made → Ends faults before course course course.made none
  | struck {done later : Course} {call : Call} {operation : Operation} {error : EngineError} :
    course = done ++ .calls call operation :: later → faults.Spares before done.made →
    faults.strikes? (before ++ done.made) call = some error →
    Ends faults before course done (done.made ++ [call]) (some (operation.report error))

theorem made_cons (event : Event) (course : Course) :
    made (event :: course) = event.call?.toList ++ made course := by
  cases h : event.call? <;> simp [made, h]

namespace Ends

variable {faults : Faults} {before : List Call} {course done : Course} {made : List Call}
  {broken : Option CompileError}

/-- One more event comes first. -/
theorem cons {event : Event}
    (h : Ends faults (before ++ event.call?.toList) course done made broken)
    (spared : ∀ call ∈ event.call?, faults.strikes? before call = none) :
    Ends faults before (event :: course) (event :: done) (event.call?.toList ++ made) broken := by
  cases h with
  | whole rest =>
    rw [← made_cons]
    apply whole
    rw [made_cons]
    exact Faults.spares_toList_append_iff.2 ⟨spared, rest⟩
  | @struck done later call operation error split rest strikes =>
    rw [← List.append_assoc, ← made_cons]
    refine struck (by rw [split, List.cons_append]) ?_ ?_
    · rw [made_cons]
      exact Faults.spares_toList_append_iff.2 ⟨spared, rest⟩
    · rw [made_cons, ← List.append_assoc]
      exact strikes

theorem uncalled {event : Event} (h : Ends faults before course done made broken)
    (silent : event.call? = none) :
    Ends faults before (event :: course) (event :: done) made broken := by
  have longer : Ends faults before (event :: course) (event :: done)
      (event.call?.toList ++ made) broken := cons (by simpa [silent] using h) (by simp [silent])
  simpa [silent] using longer

theorem of_none {before' : List Call} (h : Ends none before course done made broken) :
    Ends none before' course done made broken := by
  cases h with
  | whole _ => exact .whole (Faults.spares_of_free (by simp))
  | struck _ _ strikes => cases strikes

end Ends

/-- A course is gone through up to its end or to a fault. -/
theorem exists_ends (faults : Faults) (course : Course) (trace : Trace) (s : Journal) :
    ∃ done made broken, Ends faults s.calls course done made broken ∧
      course.play faults trace s = ((broken, trace.append done.seen),
        { s.counting faults made with applied := s.applied ++ done.applied }) := by
  fun_induction play faults course trace s with
  | case1 trace s =>
    refine ⟨[], [], none, .whole Faults.spares_nil, ?_⟩
    simp [Trace.append, seen, applied, Journal.counting]
  | case2 stage rest trace s ih =>
    obtain ⟨done, made, broken, ends, played⟩ := ih
    refine ⟨.starts stage :: done, made, broken, ends.uncalled rfl, ?_⟩
    rw [played]
    simp [Trace.append, Trace.start, seen, applied, List.filterMap_cons, Event.started?,
      Event.completed?, Event.applied?]
  | case3 stage result rest trace s ih =>
    obtain ⟨done, made, broken, ends, played⟩ := ih
    refine ⟨.completes stage result :: done, made, broken, ends.uncalled rfl, ?_⟩
    rw [played]
    simp [Trace.append, Trace.complete, seen, applied, List.filterMap_cons, Event.started?,
      Event.completed?, Event.applied?]
  | case4 systemId rest trace s ih =>
    obtain ⟨done, made, broken, ends, played⟩ := ih
    refine ⟨.applies systemId :: done, made, broken, ends.uncalled rfl, ?_⟩
    rw [played]
    simp [Trace.append, seen, applied, List.filterMap_cons, Event.started?, Event.completed?,
      Event.applied?, Journal.counting]
  | case5 call operation rest trace s error strikes =>
    refine ⟨[], [call], some (operation.report error), ?_, ?_⟩
    · exact .struck rfl Faults.spares_nil (by simpa [made] using strikes)
    · simp [Trace.append, seen, applied, Journal.counting]
  | case6 call operation rest trace s spared ih =>
    obtain ⟨done, made, broken, ends, played⟩ := ih
    refine ⟨.calls call operation :: done, call :: made, broken, ?_, ?_⟩
    · -- The journal shows the call only where calls are counted; elsewhere there are no faults.
      have called : Ends faults (s.calls ++ [call]) rest done made broken := by
        cases faults with
        | none => exact ends.of_none
        | some planned => exact ends
      apply Ends.cons called
      intro met member
      obtain rfl := Option.some.inj member
      exact spared
    · rw [played, Journal.counting_counting]
      simp [Trace.append, seen, applied, List.filterMap_cons, Event.started?, Event.completed?,
        Event.applied?, Journal.counting]

theorem Ends.of_free {faults : Faults} {before : List Call} {course done : Course}
    {made : List Call} {broken : Option CompileError}
    (h : Ends faults before course done made broken)
    (free : faults ∈ [none, some []]) : done = course ∧ made = course.made ∧ broken = none := by
  cases h with
  | whole _ => exact ⟨rfl, rfl, rfl⟩
  | struck _ _ strikes => simp [Faults.strikes?_of_free free] at strikes

end Course

theorem Compiler.run_serve (compiler : Compiler Journal) (id : Nat) (request : Request)
    (s : Journal) :
    (compiler.serve id request).run s =
      match (compiler.compileObserved id request.rules).run s with
      | ((outcome, trace), s') => (⟨outcome, if request.observed then trace else .empty,
          s'.applied.drop s.applied.length⟩, s') := by
  rw [serve]
  cases request.observed <;> rfl

theorem Compiler.run_serveAll_cons (compiler : Compiler Journal) (id : Nat) (request : Request)
    (rest : List Request) (s : Journal) :
    (compiler.serveAll id (request :: rest)).run s =
      match (compiler.serve id request).run s with
      | (run, s) =>
        match (compiler.serveAll (id + 1) rest).run s with
        | (runs, s) => (run :: runs, s) :=
  rfl

def Template.Reports (faults : Faults) (template : Template Journal) : Prop :=
  ∀ document t, (template.apply document).run.run t =
    match faults.strikes? t.calls .apply with
    | some error => (.error error, t.counting faults [.apply])
    | none => (.ok (Miniature.report (Miniature.patternIds template.stylesheet.root)),
        t.counting faults [.apply])

/-- How a run fares in a session that made some calls before it; `alone` is what becomes of it on a
compiler of its own without faults, `course` what happens in it there. -/
inductive Run.Fares (faults : Faults) (before : List Call) (course : Course) (alone : Run)
    (observed : Bool) : Run → List Call → Prop
  /-- No fault meets its calls. -/
  | spared {run : Run} : faults.Spares before course.made →
    run.outcome.map Template.facts = alone.outcome.map Template.facts →
    run.trace = (if observed then alone.trace else .empty) → run.applied = alone.applied →
    Fares faults before course alone observed run course.made
  /-- A fault meets one of its calls, and what is later does not happen. -/
  | struck {done later : Course} {call : Call} {operation : Operation} {error : EngineError} :
    course = done ++ .calls call operation :: later → faults.Spares before done.made →
    faults.strikes? (before ++ done.made) call = some error →
    Fares faults before course alone observed ⟨.error (operation.report error),
      if observed then done.seen else .empty, done.applied⟩ (done.made ++ [call])

namespace Setup

variable (setup : Setup)

/-- A run on a compiler of its own, with an observer, and the journal it leaves. -/
def alone (free : Faults) (id : Nat) (rules : Stream) : Run × Journal :=
  ((setup.compiler free).serve id ⟨rules, true⟩).run .empty

variable {setup} {rules : Stream} {course : Course} {result : Except CompileError Xml.Document}

/-- A run that takes a course leaves what is left of it. -/
theorem Takes.exists_serve (takes : setup.Takes rules course result) (faults : Faults) (id : Nat)
    (observed : Bool) (s : Journal) :
    ∃ done made broken, course.Ends faults s.calls done made broken ∧
      ((setup.compiler faults).serve id ⟨rules, observed⟩).run s =
        (⟨match broken with
            | none => result.map (setup.template id · faults)
            | some error => .error error,
          if observed then done.seen else .empty, done.applied⟩,
        { s.counting faults made with
          factories := s.factories + 1, applied := s.applied ++ done.applied }) := by
  obtain ⟨done, made, broken, ends, played⟩ :=
    course.exists_ends faults .empty { s with factories := s.factories + 1 }
  refine ⟨done, made, broken, ends, ?_⟩
  rw [Compiler.run_serve, takes id faults s, played]
  cases broken <;> simp [Course.settle, Trace.append, Trace.empty, Journal.counting]

theorem template_reports (id : Nat) (tree : Xml.Document) (faults : Faults) :
    (setup.template id tree faults).Reports faults := by
  intro document t
  exact Faults.run_hinder faults .apply _ t

theorem Takes.alone_eq (takes : setup.Takes rules course result) {free : Faults}
    (unhindered : free ∈ [none, some []]) (id : Nat) :
    setup.alone free id rules =
      (⟨result.map (setup.template id · free), course.seen, course.applied⟩,
        ⟨1, course.applied, if free.isSome then course.made else []⟩) := by
  obtain ⟨done, made, broken, ends, served⟩ := takes.exists_serve free id true .empty
  obtain ⟨rfl, rfl, rfl⟩ := ends.of_free unhindered
  rw [alone, served]
  simp [Journal.empty, Journal.counting]

variable (setup)

/-- The course is what happens in a run of the rules alone. It is the whole course of a compile or
ends where the run fails. -/
structure IsCourse (rules : Stream) (course : Course) : Prop where
  whole : ∃ works : List Work, works.map Work.stage = Stage.all ∧ course <+: Course.whole works
  alone : ∀ free ∈ [none, some []], ∀ id, ∃ outcome, setup.alone free id rules =
    (⟨outcome, course.seen, course.applied⟩,
      ⟨1, course.applied, if free.isSome then course.made else []⟩)

/-- A run of a session is what the run alone and the faults make it, in the journal it finds. -/
structure Isolated (course : Course) (faults : Faults) (id : Nat) (request : Request)
    (before : Journal) (run : Run) (after : Journal) : Prop where
  fares : ∃ made, after = { before.counting faults made with
      factories := before.factories + 1, applied := before.applied ++ run.applied } ∧
    ∀ free ∈ [none, some []], Run.Fares faults before.calls course
      (setup.alone free id request.rules).1 request.observed run made
  reports : ∀ template, run.outcome = .ok template → template.Reports faults

variable {setup}

theorem Takes.isolated (takes : setup.Takes rules course result) (faults : Faults) (id : Nat)
    (observed : Bool) (s : Journal) :
    ∃ run after, ((setup.compiler faults).serve id ⟨rules, observed⟩).run s = (run, after) ∧
      setup.Isolated course faults id ⟨rules, observed⟩ s run after := by
  obtain ⟨done, made, broken, ends, served⟩ := takes.exists_serve faults id observed s
  refine ⟨_, _, served, ⟨made, rfl, ?_⟩, ?_⟩
  · intro free unhindered
    rw [takes.alone_eq unhindered]
    cases ends with
    | whole spared =>
      have same : (result.map (setup.template id · faults)).map Template.facts =
          (result.map (setup.template id · free)).map Template.facts := by
        cases result <;> rfl
      exact .spared spared same rfl rfl
    | struck split spared strikes => exact .struck split spared strikes
  · intro template succeeded
    cases broken with
    | some error => cases succeeded
    | none =>
      obtain ⟨tree, -, rfl⟩ := map_eq_ok_iff.1 succeeded
      exact setup.template_reports id tree faults

/-- Every request of a session is served as the step says. -/
theorem exists_isolated {course : Stream → Course}
    {result : Stream → Except CompileError Xml.Document}
    (takes : ∀ rules, setup.Takes rules (course rules) (result rules)) (faults : Faults) (id : Nat)
    (requests : List Request) (s : Journal) :
    ∃ runs s', ((setup.compiler faults).serveAll id requests).run s = (runs, s') ∧
      runs.length = requests.length ∧ s'.factories = s.factories + requests.length ∧
      ∀ i request, requests[i]? = some request → ∃ run, runs[i]? = some run ∧
        setup.Isolated (course request.rules) faults (id + i) request
          (((setup.compiler faults).serveAll id (requests.take i)).run s).2 run
          (((setup.compiler faults).serveAll id (requests.take (i + 1))).run s).2 := by
  induction requests generalizing id s with
  | nil => exact ⟨[], s, rfl, rfl, rfl, nofun⟩
  | cons request rest ih =>
    obtain ⟨run, after, served, isolated⟩ :=
      (takes request.rules).isolated faults id request.observed s
    obtain ⟨runs, s', servedAll, length, factories, all⟩ := ih (id + 1) after
    have made : after.factories = s.factories + 1 := by
      obtain ⟨made, rfl, -⟩ := isolated.fares
      rfl
    have step (later : List Request) :
        (((setup.compiler faults).serveAll id (request :: later)).run s).2 =
          (((setup.compiler faults).serveAll (id + 1) later).run after).2 := by
      rw [Compiler.run_serveAll_cons, served]
      rfl
    refine ⟨run :: runs, s', ?_, ?_, ?_, ?_⟩
    · rw [Compiler.run_serveAll_cons, served]
      dsimp only
      rw [servedAll]
    · rw [List.length_cons, List.length_cons, length]
    · rw [factories, made, List.length_cons]
      omega
    · intro i asked found
      cases i with
      | zero =>
        obtain rfl := Option.some.inj found
        refine ⟨run, rfl, ?_⟩
        rw [List.take_succ_cons, step]
        exact isolated
      | succ i =>
        obtain ⟨later, found, isolated⟩ := all i asked found
        refine ⟨later, found, ?_⟩
        have counted : id + (i + 1) = id + 1 + i := by omega
        rw [List.take_succ_cons, List.take_succ_cons, step, step, counted]
        exact isolated

/-- Runs of a session are isolated. Rules lay down a course. In any session a run shows, applies and
comes to what it does alone on a compiler of its own without faults, unless a fault meets one of its
calls; then it fails with that fault in the step of that call, and has shown and applied what comes
before the call in its course. Every run has a factory of its own, and a template reports the
patterns of its own run in whatever state it is applied. -/
theorem serveAll_isolated (setup : Setup) :
    ∃ course : Stream → Course, (∀ rules, setup.IsCourse rules (course rules)) ∧
      ∀ faults id requests s, ∃ runs s',
        ((setup.compiler faults).serveAll id requests).run s = (runs, s') ∧
        runs.length = requests.length ∧ s'.factories = s.factories + requests.length ∧
        ∀ i request, requests[i]? = some request → ∃ run, runs[i]? = some run ∧
          setup.Isolated (course request.rules) faults (id + i) request
            (((setup.compiler faults).serveAll id (requests.take i)).run s).2 run
            (((setup.compiler faults).serveAll id (requests.take (i + 1))).run s).2 := by
  choose course result works complete stops takes using setup.exists_takes
  refine ⟨course, fun rules => ⟨⟨works rules, complete rules, stops rules⟩, ?_⟩, ?_⟩
  · intro free unhindered id
    exact ⟨_, (takes rules).alone_eq unhindered id⟩
  · exact exists_isolated takes

theorem serveAll_isolated_struck :
    let store : Store := ⟨[("iso_dsdl_include.xsl", "<stylesheet mode='include'/>"),
      ("iso_abstract_expand.xsl", "<stylesheet mode='abstract'/>"),
      ("iso_svrl_for_xslt2.xsl", "<stylesheet mode='svrl'/>")].map
        fun (path, content) => (path, Utf8.encode content.toList)⟩
    let setup : Setup := ⟨store.resolve, store.nesting, .standard⟩
    let rules := Stream.whole (Utf8.encode "<schema><pattern id='a'/></schema>".toList)
    let requests : List Request := [⟨rules, true⟩, ⟨rules, true⟩]
    let faults : Faults := some [⟨.transform, 4, .io "gone"⟩]
    requests[0]? = some ⟨rules, true⟩ ∧ requests[1]? = some ⟨rules, true⟩ ∧
      none ∈ ([none, some []] : List Faults) ∧
      ∃ (course : Course) (first second : Run) (template : Template Journal)
        (before made : List Call),
        setup.IsCourse rules course ∧ first.outcome = .ok template ∧ template.Reports faults ∧
        Run.Fares faults before course (setup.alone none 1 rules).1 true second made ∧
        second.outcome = .error ⟨.stage .abstractExpand, .transformation (.io "gone")⟩ ∧
        second.trace.started = [.includeExpand, .abstractExpand] ∧
        second.applied = ["iso_dsdl_include.xsl"] := by
  intro store setup rules requests faults
  refine ⟨rfl, rfl, by simp, ?_⟩
  obtain ⟨course, isCourse, sessions⟩ := serveAll_isolated setup
  obtain ⟨runs, s', served, -, -, all⟩ := sessions faults 0 requests .empty
  obtain ⟨first, found, isolated⟩ := all 0 ⟨rules, true⟩ rfl
  obtain ⟨second, found', isolated'⟩ := all 1 ⟨rules, true⟩ rfl
  obtain ⟨made, -, fares⟩ := isolated'.fares
  have succeeded : ((((setup.compiler faults).serveAll 0 requests).run .empty).1[0]?.map fun run =>
      run.outcome.toOption.isSome) = some true := by
    decide +kernel
  have failed : ((((setup.compiler faults).serveAll 0 requests).run .empty).1[1]?.map fun run =>
      (failure? run.outcome, run.trace.started, run.applied)) =
      some (some ⟨.stage .abstractExpand, .transformation (.io "gone")⟩,
        [.includeExpand, .abstractExpand], ["iso_dsdl_include.xsl"]) := by
    decide +kernel
  rw [served, found, Option.map_some, Option.some.injEq] at succeeded
  rw [served, found', Option.map_some, Option.some.injEq, Prod.mk.injEq, Prod.mk.injEq] at failed
  obtain ⟨template, made_template⟩ : ∃ template, first.outcome = .ok template := by
    cases outcome : first.outcome with
    | ok template => exact ⟨template, rfl⟩
    | error error => simp [outcome, Except.toOption] at succeeded
  exact ⟨course rules, first, second, template, _, made, isCourse rules, made_template,
    isolated.reports template made_template, fares none (by simp),
    failure?_eq_some_iff.1 failed.1, failed.2.1, failed.2.2⟩

end Setup
end Schematron
