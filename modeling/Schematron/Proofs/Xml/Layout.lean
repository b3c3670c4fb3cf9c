import Schematron.Proofs.Xml.Event
import Schematron.Xml.Builder

/-!
The layout of a document as a sequence of tokens: a prolog, one element and an epilog. Balanced
content is a grammar of its own, which knows neither the stack of open elements nor trees.
`Accepted` collects the rules for the tokens of a document; `Token.events` says what each token
contributes to the tree.
-/
namespace Schematron.Xml
namespace Token

def isTag : Token → Bool
  | .startTag _ | .emptyTag _ | .endTag _ => true
  | _ => false

def isDeclaration : Token → Bool
  | .declaration _ => true
  | _ => false

def isDoctype : Token → Bool
  | .doctype _ => true
  | _ => false

/-- The token can be read wherever it stands: its checks hold and its references resolve. -/
def Sound : Token → Prop
  | .startTag content | .emptyTag content => ∃ element, Element.ofTag content none = .ok element
  | .text raw => checkText raw = .ok () ∧ ∃ resolved, unescape raw = .ok resolved
  | .cdata content => checkChars content = .ok ()
  | .comment content => checkComment content = .ok ()
  | .instruction content => checkInstruction content = .ok ()
  | .declaration _ | .doctype _ | .endTag _ => True

@[simp] theorem sound_startTag_iff {content : List Char} :
    (startTag content).Sound ↔ ∃ element, Element.ofTag content none = .ok element :=
  Iff.rfl

@[simp] theorem sound_emptyTag_iff {content : List Char} :
    (emptyTag content).Sound ↔ ∃ element, Element.ofTag content none = .ok element :=
  Iff.rfl

@[simp] theorem sound_endTag (name : List Char) : (endTag name).Sound :=
  trivial

@[simp] theorem sound_text_iff {raw : List Char} :
    (text raw).Sound ↔ checkText raw = .ok () ∧ ∃ resolved, unescape raw = .ok resolved :=
  Iff.rfl

@[simp] theorem sound_comment_iff {content : List Char} :
    (comment content).Sound ↔ checkComment content = .ok () :=
  Iff.rfl

/-- The token may stand before or after the root: character data only where it is blank. -/
def StandsOutside : Token → Prop
  | .text raw => ∀ resolved, unescape raw = .ok resolved → resolved.all Text.isBlank = true
  | .cdata _ => False
  | _ => True

def openingEvents (content : List Char) : List Event :=
  match Element.ofTag content none with
  | .ok element => [.opened element.name element.attributes none]
  | .error _ => []

def events : Token → List Event
  | .startTag content => openingEvents content
  | .emptyTag content => openingEvents content ++ [.closed]
  | .endTag _ => [.closed]
  | .text raw =>
    match unescape raw with
    | .ok resolved => [.text (String.ofList resolved)]
    | .error _ => []
  | .cdata content => [.text (String.ofList content)]
  | .comment content => [.comment (String.ofList content)]
  | .instruction _ | .declaration _ | .doctype _ => []

end Token

/-- Tokens in which every start tag has its end tag after it, properly nested. -/
inductive Content : List Token → Prop
  | nil : Content []
  | leaf {token : Token} {rest : List Token} :
      token.isTag = false → Content rest → Content (token :: rest)
  | empty {content : List Char} {rest : List Token} :
      Content rest → Content (.emptyTag content :: rest)
  | element {content name : List Char} {inner rest : List Token} :
      Content inner → Content rest → Content (.startTag content :: inner ++ .endTag name :: rest)

/-- The tokens of one element, from its start tag to the end tag that matches it. -/
inductive IsElement : List Token → Prop
  | empty (content : List Char) : IsElement [.emptyTag content]
  | nested {content name : List Char} {inner : List Token} :
      Content inner → IsElement (.startTag content :: inner ++ [.endTag name])

structure Layout (tokens prolog body epilog : List Token) : Prop where
  split : tokens = prolog ++ body ++ epilog
  element : IsElement body
  prolog_untagged : ∀ token ∈ prolog, token.isTag = false
  epilog_untagged : ∀ token ∈ epilog, token.isTag = false

/-- The rules for the tokens of a document. -/
structure Accepted (tokens : List Token) : Prop where
  declaration_first : ∀ token ∈ tokens.tail, token.isDeclaration = false
  doctype_once : tokens.countP Token.isDoctype ≤ 1
  doctype_before_root : ∀ token ∈ tokens.dropWhile (!·.isTag), token.isDoctype = false
  single_root : ∃ prolog body epilog, Layout tokens prolog body epilog ∧
    ∀ token ∈ prolog ++ epilog, token.StandsOutside
  sound : ∀ token ∈ tokens, token.Sound

theorem Content.append {first second : List Token} (h : Content first) (h' : Content second) :
    Content (first ++ second) := by
  induction h with
  | nil => exact h'
  | leaf untagged _ ih => exact .leaf untagged ih
  | empty _ ih => exact .empty ih
  | element inner _ _ ih => simpa using Content.element inner ih

theorem Content.single {token : Token} (h : token.isTag = false) : Content [token] :=
  .leaf h .nil

theorem IsElement.content {body : List Token} (h : IsElement body) : Content body := by
  cases h with
  | empty content => exact .empty .nil
  | nested inner => exact .element inner .nil

def rootTokens (tokens : List Token) : List Token :=
  ((tokens.dropWhile (!·.isTag)).reverse.dropWhile (!·.isTag)).reverse

theorem rootTokens_subset {tokens : List Token} : rootTokens tokens ⊆ tokens := by
  intro token member
  have inner := (List.dropWhile_sublist _).subset (List.mem_reverse.1 member)
  exact (List.dropWhile_sublist _).subset (List.mem_reverse.1 inner)

theorem IsElement.exists_cons {body : List Token} (h : IsElement body) :
    ∃ first rest, body = first :: rest ∧ first.isTag = true := by
  cases h with
  | empty content => exact ⟨_, _, rfl, rfl⟩
  | nested inner => exact ⟨_, _, List.cons_append, rfl⟩

theorem Layout.dropWhile_eq {tokens prolog body epilog : List Token}
    (layout : Layout tokens prolog body epilog) :
    tokens.dropWhile (!·.isTag) = body ++ epilog := by
  have skipped : ∀ token ∈ prolog, (!token.isTag) = true := by
    simpa using layout.prolog_untagged
  obtain ⟨first, rest, body_eq, tag⟩ := layout.element.exists_cons
  rw [layout.split, List.append_assoc, List.dropWhile_append_of_pos skipped, body_eq]
  simp [tag]

theorem Layout.body_eq {tokens prolog body epilog : List Token}
    (layout : Layout tokens prolog body epilog) : body = rootTokens tokens := by
  have skipped : ∀ token ∈ epilog.reverse, (!token.isTag) = true := by
    simpa using layout.epilog_untagged
  rw [rootTokens, layout.dropWhile_eq, List.reverse_append,
    List.dropWhile_append_of_pos skipped]
  cases layout.element <;> simp [Token.isTag]

theorem Layout.undeclared {tokens prolog body epilog : List Token}
    (layout : Layout tokens prolog body epilog)
    (later : ∀ token ∈ tokens.tail, token.isDeclaration = false) :
    ∀ token ∈ body ++ epilog, token.isDeclaration = false := by
  obtain ⟨first, rest, body_eq, tag⟩ := layout.element.exists_cons
  rw [layout.split, body_eq] at later
  rw [body_eq, List.cons_append, List.forall_mem_cons]
  constructor
  · cases first <;> first | rfl | cases tag
  · intro token h
    exact later token (by cases prolog <;> simp_all)

end Schematron.Xml
