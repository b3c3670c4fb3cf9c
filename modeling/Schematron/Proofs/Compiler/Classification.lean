import Schematron.Engine.Miniature
import Schematron.Proofs.Compiler.Account

/-!
A missing resource is reported as such whichever operation missed it; every other error stands under
the name of the operation that failed. The error of the failed call is found unchanged in both.
-/
namespace Schematron

variable {σ : Type}

def Operation.Asks : Operation → Prop
  | .ofStage _ .resolve | .ofStage _ .compile | .ofStage _ .transform | .template => True
  | _ => False

theorem Account.asks {configuration : Configuration} {rules : Stream} {calls : List Exchange}
    {seen : Trace} {operation : Operation} {original : EngineError}
    (h : Account configuration rules calls seen (.error (operation, original))) :
    (∃ path, original = .resolve (.notFound path)) → operation.Asks := by
  rintro ⟨path, rfl⟩
  cases h with
  | templateRefused => trivial
  | stageFailed _ accounts =>
    obtain ⟨stage, tree, last, account⟩ := accounts.exists_failed
    cases account <;> trivial

end Schematron
