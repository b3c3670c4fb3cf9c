import Mathlib.Data.List.Induction
import Schematron.Proofs.Xml.Building

/-!
What the builder has seen. Before the root, inside it and after it the tokens taken so far have a
shape, and one step keeps to these shapes; so the tokens of a finished run are laid out as a
document. Inside the root the shape is a chain of unclosed elements, as many as the builder holds
open.
-/
namespace Schematron.Xml

inductive Unclosed : Nat → List Token → Prop
  | first {content : List Char} {inner : List Token} :
      Content inner → Unclosed 1 (.startTag content :: inner)
  | nested {depth : Nat} {content : List Char} {outer inner : List Token} :
      Unclosed depth outer → Content inner →
        Unclosed (depth + 1) (outer ++ .startTag content :: inner)

namespace Unclosed

variable {depth : Nat} {tokens : List Token}

theorem pos (h : Unclosed depth tokens) : 0 < depth := by
  cases h <;> exact Nat.succ_pos _

theorem append (h : Unclosed depth tokens) {more : List Token} (content : Content more) :
    Unclosed depth (tokens ++ more) := by
  cases h with
  | first inner => exact .first (inner.append content)
  | nested outer inner =>
    rw [List.append_assoc, List.cons_append]
    exact .nested outer (inner.append content)

theorem close (h : Unclosed (depth + 2) tokens) (name : List Char) :
    Unclosed (depth + 1) (tokens ++ [.endTag name]) := by
  cases h with
  | nested outer inner =>
    rw [List.append_assoc]
    exact outer.append (.element inner .nil)

theorem finish (h : Unclosed 1 tokens) (name : List Char) :
    IsElement (tokens ++ [.endTag name]) := by
  cases h with
  | first inner => exact .nested inner
  | nested outer _ => exact absurd outer.pos (Nat.lt_irrefl 0)

end Unclosed

def Token.Surrounds (token : Token) : Prop :=
  token.isTag = false ∧ token.StandsOutside

/-- The shape of the tokens taken so far, and what it says of the builder. -/
inductive Phase : List Token → Builder → Prop
  | before {prolog : List Token} {builder : Builder} :
      (∀ token ∈ prolog, token.Surrounds) → builder.openElements = [] → builder.root = none →
        Phase prolog builder
  | inside {prolog part : List Token} {builder : Builder} :
      (∀ token ∈ prolog, token.Surrounds) → Unclosed builder.openElements.length part →
        (∀ token ∈ part, token.isDoctype = false) → builder.root = none →
        Phase (prolog ++ part) builder
  | after {prolog body epilog : List Token} {builder : Builder} :
      (∀ token ∈ prolog, token.Surrounds) → IsElement body →
        (∀ token ∈ body ++ epilog, token.isDoctype = false) →
        (∀ token ∈ epilog, token.Surrounds) → builder.openElements = [] → builder.root ≠ none →
        Phase (prolog ++ body ++ epilog) builder

theorem Phase.ended {prolog body : List Token} {builder : Builder}
    (around : ∀ token ∈ prolog, token.Surrounds) (whole : IsElement body)
    (untyped : ∀ token ∈ body, token.isDoctype = false) (closed : builder.openElements = [])
    (rooted : builder.root ≠ none) : Phase (prolog ++ body) builder := by
  rw [← List.append_nil (prolog ++ body)]
  exact .after around whole (by simpa using untyped) (by simp) closed rooted

namespace Builder

variable {done : List Token} {builder next : Builder}

theorem phase_leaf (h : Phase done builder) {token : Token} (untagged : token.isTag = false)
    (taken : builder.feed token = .ok next) : Phase (done ++ [token]) next := by
  obtain ⟨sound, _, doctype, outside, rfl⟩ := (feed_leaf_iff untagged).1 taken
  cases h with
  | before around closed rootless =>
    refine .before ?_ (by simp [closed]) rootless
    simpa [or_imp, forall_and] using ⟨around, untagged, outside closed⟩
  | inside around unclosed untyped rootless =>
    have plain : token.isDoctype = false :=
      Bool.eq_false_iff.2 fun h => List.ne_nil_of_length_pos unclosed.pos (doctype h).2.2
    rw [List.append_assoc]
    refine .inside around ?_ (List.forall_mem_append.2 ⟨untyped, by simpa using plain⟩) rootless
    simpa using unclosed.append (.single untagged)
  | after around whole untyped behind closed rooted =>
    have plain : token.isDoctype = false := Bool.eq_false_iff.2 fun h => rooted (doctype h).2.1
    rw [List.append_assoc]
    refine .after around whole ?_ ?_ (by simp [closed]) rooted
    · rw [← List.append_assoc]
      exact List.forall_mem_append.2 ⟨untyped, by simpa using plain⟩
    · exact List.forall_mem_append.2 ⟨behind, by simpa using ⟨untagged, outside closed⟩⟩

theorem phase_startTag (h : Phase done builder) {content : List Char}
    (taken : builder.feed (.startTag content) = .ok next) :
    Phase (done ++ [.startTag content]) next := by
  obtain ⟨element, _, free, rfl⟩ := feed_startTag_iff.1 taken
  cases h with
  | before around closed rootless =>
    exact .inside around (by simpa [closed] using .first .nil) (by simp [Token.isDoctype]) rootless
  | inside around unclosed untyped rootless =>
    rw [List.append_assoc]
    refine .inside around (unclosed.nested .nil) ?_ rootless
    exact List.forall_mem_append.2 ⟨untyped, by simp [Token.isDoctype]⟩
  | after _ _ _ _ closed rooted => exact absurd (free closed) rooted

theorem phase_emptyTag (h : Phase done builder) {content : List Char}
    (taken : builder.feed (.emptyTag content) = .ok next) :
    Phase (done ++ [.emptyTag content]) next := by
  obtain ⟨element, _, free, rfl⟩ := feed_emptyTag_iff.1 taken
  cases h with
  | before around closed rootless =>
    exact .ended around (.empty content) (by simp [Token.isDoctype]) (by simp [closed])
      (by simp [closed])
  | inside around unclosed untyped rootless =>
    have opened : builder.openElements ≠ [] := List.ne_nil_of_length_pos unclosed.pos
    rw [List.append_assoc]
    refine .inside around ?_ ?_ (by simpa [opened] using rootless)
    · simpa using unclosed.append (.empty .nil)
    · exact List.forall_mem_append.2 ⟨untyped, by simp [Token.isDoctype]⟩
  | after _ _ _ _ closed rooted => exact absurd (free closed) rooted

theorem phase_endTag (h : Phase done builder) {name : List Char}
    (taken : builder.feed (.endTag name) = .ok next) :
    Phase (done ++ [.endTag name]) next := by
  obtain ⟨element, outer, opened, free, rfl⟩ := feed_endTag_iff.1 taken
  cases h with
  | before _ closed _ => simp [closed] at opened
  | inside around unclosed untyped rootless =>
    rw [opened] at unclosed
    cases outer with
    | nil =>
      rw [List.append_assoc]
      refine .ended around (unclosed.finish name) ?_ rfl (by simp)
      exact List.forall_mem_append.2 ⟨untyped, by simp [Token.isDoctype]⟩
    | cons parent outer =>
      rw [List.append_assoc]
      refine .inside around ?_ ?_ (by simpa using rootless)
      · simpa using unclosed.close name
      · exact List.forall_mem_append.2 ⟨untyped, by simp [Token.isDoctype]⟩
  | after _ _ _ _ closed _ => simp [closed] at opened

theorem phase_feed (h : Phase done builder) {token : Token}
    (taken : builder.feed token = .ok next) : Phase (done ++ [token]) next := by
  cases token with
  | startTag content => exact phase_startTag h taken
  | emptyTag content => exact phase_emptyTag h taken
  | endTag name => exact phase_endTag h taken
  | _ => exact phase_leaf h rfl taken

structure Progress (done : List Token) (builder : Builder) : Prop where
  phase : Phase done builder
  started : builder.started = !done.isEmpty
  declaration_first : ∀ token ∈ done.tail, token.isDeclaration = false
  doctype_once : done.countP Token.isDoctype = if builder.doctypeSeen then 1 else 0
  sound : ∀ token ∈ done, token.Sound

theorem progress_empty : Progress [] empty where
  phase := .before (by simp) rfl rfl
  started := rfl
  declaration_first := by simp
  doctype_once := rfl
  sound := by simp

theorem flags_of_feed {token : Token} (taken : builder.feed token = .ok next) :
    token.Sound ∧ next.started = true ∧
      next.doctypeSeen = (builder.doctypeSeen || token.isDoctype) ∧
      (token.isDeclaration = true → builder.started = false) ∧
      (token.isDoctype = true → builder.doctypeSeen = false) := by
  cases token with
  | startTag content =>
    obtain ⟨element, made, _, rfl⟩ := feed_startTag_iff.1 taken
    simpa [Token.isDoctype, Token.isDeclaration] using ⟨element, made⟩
  | emptyTag content =>
    obtain ⟨element, made, _, rfl⟩ := feed_emptyTag_iff.1 taken
    simpa [Token.isDoctype, Token.isDeclaration] using ⟨element, made⟩
  | endTag name =>
    obtain ⟨element, outer, _, _, rfl⟩ := feed_endTag_iff.1 taken
    simp [Token.isDoctype, Token.isDeclaration, Token.Sound]
  | _ =>
    obtain ⟨sound, declaration, doctype, _, rfl⟩ := (feed_leaf_iff rfl).1 taken
    exact ⟨sound, rfl, rfl, declaration, fun h => (doctype h).1⟩

theorem Progress.feed (h : Progress done builder) {token : Token}
    (taken : builder.feed token = .ok next) : Progress (done ++ [token]) next := by
  obtain ⟨sound, started, seen, declaration, doctype⟩ := flags_of_feed taken
  refine ⟨phase_feed h.phase taken, by cases done <;> simpa using started, ?_, ?_, ?_⟩
  · cases done with
    | nil => simp
    | cons first rest =>
      have late : token.isDeclaration = false :=
        Bool.eq_false_iff.2 fun early => by simpa [h.started] using declaration early
      exact List.forall_mem_append.2 ⟨h.declaration_first, by simpa using late⟩
  · rw [List.countP_append, h.doctype_once, seen]
    cases kind : token.isDoctype with
    | false => simp [kind]
    | true => simp [kind, doctype kind]
  · exact List.forall_mem_append.2 ⟨h.sound, by simpa using sound⟩

theorem progress_run {tokens : List Token} (run : empty.run tokens = .ok builder) :
    Progress tokens builder := by
  induction tokens using List.reverseRecOn generalizing builder with
  | nil =>
    cases run
    exact progress_empty
  | append_singleton done token ih =>
    obtain ⟨before, earlier, last⟩ := run_append_iff.1 run
    obtain ⟨after, taken, done⟩ := run_cons_iff.1 last
    cases done
    exact (ih earlier).feed taken

end Builder
end Schematron.Xml
