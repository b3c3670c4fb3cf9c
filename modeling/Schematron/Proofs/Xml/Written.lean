import Schematron.Proofs.Xml.Building
import Schematron.Proofs.Xml.Writing

/-!
The tokens of a written tree as tokens of a document. They make up one element, each of them is in
order exactly when texts and attribute values are, and they contribute the events of the normal
form.
-/
namespace Schematron.Xml

def Token.Undeclared (token : Token) : Prop :=
  token.isDeclaration = false ∧ token.isDoctype = false

theorem textTokens_eq_leaf (content : String) :
    textTokens content = [] ∨ textTokens content = [.text (escape content.toList)] := by
  unfold textTokens
  split <;> simp

theorem content_textTokens (content : String) {rest : List Token} (h : Content rest) :
    Content (textTokens content ++ rest) := by
  rcases textTokens_eq_leaf content with same | same <;> rw [same]
  · exact h
  · exact .leaf rfl h

mutual

theorem isElement_tokens : ∀ element : Element, IsElement element.tokens
  | ⟨_, _, [], _⟩ => .empty _
  | ⟨_, _, node :: rest, _⟩ => .nested (content_tokensFrom "" (node :: rest))

theorem content_tokensFrom : ∀ (pending : String) (nodes : List Node),
    Content (tokensFrom pending nodes)
  | pending, [] => by
    simpa [tokensFrom] using content_textTokens pending .nil
  | pending, .text content :: rest => by
    rw [tokensFrom]
    exact content_tokensFrom (pending ++ content) rest
  | pending, .comment content :: rest => by
    rw [tokensFrom]
    exact content_textTokens pending (.leaf rfl (content_tokensFrom "" rest))
  | pending, .element inner :: rest => by
    rw [tokensFrom]
    exact content_textTokens pending
      ((isElement_tokens inner).content.append (content_tokensFrom "" rest))

end

theorem undeclared_textTokens (content : String) :
    ∀ token ∈ textTokens content, token.Undeclared := by
  rcases textTokens_eq_leaf content with same | same <;>
    simp [same, Token.Undeclared, Token.isDeclaration, Token.isDoctype]

mutual

theorem undeclared_tokens : ∀ element : Element, ∀ token ∈ element.tokens, token.Undeclared
  | ⟨_, _, [], _⟩ => by
    simp [Element.tokens, Token.Undeclared, Token.isDeclaration, Token.isDoctype]
  | ⟨_, _, node :: rest, _⟩ => by
    rw [Element.tokens, List.forall_mem_cons, List.forall_mem_append]
    exact ⟨⟨rfl, rfl⟩, undeclared_tokensFrom "" (node :: rest), by
      simp [Token.Undeclared, Token.isDeclaration, Token.isDoctype]⟩

theorem undeclared_tokensFrom : ∀ (pending : String) (nodes : List Node),
    ∀ token ∈ tokensFrom pending nodes, token.Undeclared
  | pending, [] => by
    rw [tokensFrom]
    exact undeclared_textTokens pending
  | pending, .text content :: rest => by
    rw [tokensFrom]
    exact undeclared_tokensFrom (pending ++ content) rest
  | pending, .comment content :: rest => by
    rw [tokensFrom, List.forall_mem_append, List.forall_mem_cons]
    exact ⟨undeclared_textTokens pending, ⟨rfl, rfl⟩, undeclared_tokensFrom "" rest⟩
  | pending, .element inner :: rest => by
    rw [tokensFrom, List.forall_mem_append, List.forall_mem_append]
    exact ⟨undeclared_textTokens pending, undeclared_tokens inner, undeclared_tokensFrom "" rest⟩

end

theorem sound_textTokens_iff {content : String} :
    (∀ token ∈ textTokens content, token.Sound) ↔ checkChars content.toList = .ok () := by
  unfold textTokens
  split
  next empty => simp [empty]
  · simp [checkText_escape_iff, unescape_escape]

theorem sound_openingText_iff {name : String} {attributes : List (String × String)}
    {line : Option Nat} (markup : (Event.opened name attributes line).SoundMarkup) :
    (∃ element, Element.ofTag (openingText name attributes) none = .ok element) ↔
      (Event.opened name attributes line).SoundText := by
  simp only [openingText, Element.ofTag_printed_iff markup, exists_and_left, exists_eq, and_true]
  rfl

mutual

theorem sound_tokens_iff : ∀ element : Element,
    (∀ event ∈ element.events, event.SoundMarkup) →
      ((∀ token ∈ element.tokens, token.Sound) ↔ ∀ event ∈ element.events, event.SoundText)
  | ⟨name, attributes, [], line⟩, markup => by
    rw [Element.events, List.forall_mem_cons] at markup
    simp [Element.tokens, Element.events, eventsOfNodes, sound_openingText_iff markup.1]
  | ⟨name, attributes, node :: rest, line⟩, markup => by
    simp only [Element.events, List.forall_mem_cons, List.forall_mem_append] at markup
    have inside := sound_tokensFrom_iff "" (node :: rest) markup.2.1
    simp only [Element.tokens, Element.events, List.forall_mem_cons, List.forall_mem_append,
      inside, Token.sound_startTag_iff, sound_openingText_iff markup.1]
    simp

theorem sound_tokensFrom_iff : ∀ (pending : String) (nodes : List Node),
    (∀ event ∈ eventsOfNodes nodes, event.SoundMarkup) →
      ((∀ token ∈ tokensFrom pending nodes, token.Sound) ↔
        checkChars pending.toList = .ok () ∧ ∀ event ∈ eventsOfNodes nodes, event.SoundText)
  | pending, [], _ => by simp [tokensFrom, eventsOfNodes, sound_textTokens_iff]
  | pending, .text content :: rest, markup => by
    have ih := sound_tokensFrom_iff (pending ++ content) rest
      (by simpa [eventsOfNodes, Node.events] using markup)
    simp [tokensFrom, eventsOfNodes, Node.events, ih, checkChars_append_iff, and_assoc]
  | pending, .comment content :: rest, markup => by
    simp only [eventsOfNodes, Node.events, List.forall_mem_append, List.forall_mem_cons] at markup
    have ih := sound_tokensFrom_iff "" rest markup.2
    have comment : checkComment content.toList = .ok () := markup.1.1
    simp only [tokensFrom, eventsOfNodes, Node.events, List.forall_mem_append,
      List.forall_mem_cons, sound_textTokens_iff, ih, Token.sound_comment_iff, comment]
    simp
  | pending, .element inner :: rest, markup => by
    simp only [eventsOfNodes, Node.events, List.forall_mem_append] at markup
    have ih := sound_tokensFrom_iff "" rest markup.2
    have same := sound_tokens_iff inner markup.1
    simp only [tokensFrom, eventsOfNodes, Node.events, List.forall_mem_append,
      sound_textTokens_iff, ih, same]
    simp

end

theorem flatMap_events_textTokens (content : String) :
    (textTokens content).flatMap Token.events = eventsOfNodes (textNodes content) := by
  unfold textTokens textNodes
  split <;> simp [eventsOfNodes, Node.events, Token.events, unescape_escape]

theorem openingEvents_openingText {name : String} {attributes : List (String × String)}
    {line : Option Nat} (markup : (Event.opened name attributes line).SoundMarkup)
    (text : (Event.opened name attributes line).SoundText) :
    Token.openingEvents (openingText name attributes) = [.opened name attributes none] := by
  have read : Element.ofTag (openingText name attributes) none =
      .ok ⟨name, attributes, [], none⟩ := (Element.ofTag_printed_iff markup).2 ⟨text, rfl⟩
  simp [Token.openingEvents, read]

mutual

theorem flatMap_events_tokens : ∀ element : Element,
    (∀ event ∈ element.events, event.SoundMarkup ∧ event.SoundText) →
      element.tokens.flatMap Token.events = element.normal.events
  | ⟨name, attributes, [], line⟩, sound => by
    rw [Element.events, List.forall_mem_cons] at sound
    simp [Element.tokens, Token.events, openingEvents_openingText sound.1.1 sound.1.2,
      Element.normal, normalFrom, textNodes, Element.events, eventsOfNodes]
  | ⟨name, attributes, node :: rest, line⟩, sound => by
    simp only [Element.events, List.forall_mem_cons, List.forall_mem_append] at sound
    have inside := flatMap_events_tokensFrom "" (node :: rest) sound.2.1
    simp [Element.tokens, Token.events, openingEvents_openingText sound.1.1 sound.1.2,
      Element.normal, Element.events, inside]

theorem flatMap_events_tokensFrom : ∀ (pending : String) (nodes : List Node),
    (∀ event ∈ eventsOfNodes nodes, event.SoundMarkup ∧ event.SoundText) →
      (tokensFrom pending nodes).flatMap Token.events = eventsOfNodes (normalFrom pending nodes)
  | pending, [], _ => by simp [tokensFrom, normalFrom, flatMap_events_textTokens]
  | pending, .text content :: rest, sound => by
    rw [tokensFrom, normalFrom]
    exact flatMap_events_tokensFrom (pending ++ content) rest
      fun event h => sound event (by simp [eventsOfNodes, h])
  | pending, .comment content :: rest, sound => by
    have ih := flatMap_events_tokensFrom "" rest
      fun event h => sound event (by simp [eventsOfNodes, h])
    simp [tokensFrom, normalFrom, flatMap_events_textTokens, Token.events, eventsOfNodes,
      Node.events, ih]
  | pending, .element inner :: rest, sound => by
    simp only [eventsOfNodes, Node.events, List.forall_mem_append] at sound
    have ih := flatMap_events_tokensFrom "" rest sound.2
    have same := flatMap_events_tokens inner sound.1
    simp [tokensFrom, normalFrom, flatMap_events_textTokens, eventsOfNodes, Node.events, ih, same]

end

theorem IsElement.accepted_iff {tokens : List Token} (h : IsElement tokens)
    (undeclared : ∀ token ∈ tokens, token.Undeclared) :
    Accepted tokens ↔ ∀ token ∈ tokens, token.Sound := by
  refine ⟨Accepted.sound, fun sound => ?_⟩
  have untyped : ∀ token ∈ tokens, token.isDoctype = false := fun token member =>
    (undeclared token member).2
  refine ⟨fun token member => (undeclared token (List.mem_of_mem_tail member)).1, ?_,
    fun token member => untyped token ((List.dropWhile_sublist _).subset member),
    ⟨[], tokens, [], ⟨by simp, h, by simp, by simp⟩, by simp⟩, sound⟩
  rw [List.countP_eq_zero.2 (by simpa using untyped)]
  exact Nat.zero_le 1

end Schematron.Xml
