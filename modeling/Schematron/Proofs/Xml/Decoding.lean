import Mathlib.Data.List.Forall2
import Schematron.Proofs.Xml.RoundTrip

/-!
Each token of a written tree is written for some events of the normal form, and the token tells for
which ones, whatever characters values and texts are made of.
-/
namespace Schematron.Xml

theorem escape_injective : Function.Injective escape := by
  intro first second same
  have read := unescape_escape first
  rw [same, unescape_escape] at read
  cases read
  rfl

theorem eq_of_printAttribute {first second : List (String × String)}
    (names : ∀ pair ∈ first, checkName pair.1.toList = .ok ())
    (names' : ∀ pair ∈ second, checkName pair.1.toList = .ok ())
    (same : first.flatMap printAttribute = second.flatMap printAttribute) : first = second := by
  induction first generalizing second with
  | nil => cases second <;> simp_all [printAttribute]
  | cons pair first ih =>
    cases second with
    | nil => simp [printAttribute] at same
    | cons pair' second =>
      rw [List.forall_mem_cons] at names names'
      have parts : ∀ pair : String × String, ∀ rest, printAttribute pair ++ rest =
          ' ' :: (pair.1.toList ++ '=' :: '"' :: (escape pair.2.toList ++ '"' :: rest)) := by
        intro pair rest
        simp [printAttribute]
      rw [List.flatMap_cons, List.flatMap_cons, parts, parts, List.cons.injEq] at same
      obtain ⟨name, later⟩ := Text.eq_of_append_mark (not_mem_name names.1 (by decide))
        (not_mem_name names'.1 (by decide)) same.2
      rw [List.cons.injEq] at later
      obtain ⟨value, later⟩ := Text.eq_of_append_mark (not_mem_escape (by simp) _)
        (not_mem_escape (by simp) _) later.2
      rw [ih names.2 names'.2 later]
      rw [Prod.ext (String.toList_inj.1 name) (String.toList_inj.1 (escape_injective value))]

theorem eq_of_openingText {name name' : String} {attributes attributes' : List (String × String)}
    {line line' : Option Nat} (delimited : (Event.opened name attributes line).Delimited)
    (delimited' : (Event.opened name' attributes' line').Delimited)
    (same : openingText name attributes = openingText name' attributes') :
    name = name' ∧ attributes = attributes' := by
  have tags := congrArg tagName same
  rw [openingText, openingText, tagName_printed delimited.1, tagName_printed delimited'.1,
    String.toList_inj] at tags
  subst tags
  rw [openingText, openingText, List.append_cancel_left_eq] at same
  exact ⟨rfl, eq_of_printAttribute delimited.2 delimited'.2 same⟩

/-- The events that a token is written for. -/
inductive Token.Writes : Token → List Event → Prop
  | startTag {name : String} {attributes : List (String × String)} :
      (Event.opened name attributes none).Delimited →
      Writes (.startTag (openingText name attributes)) [.opened name attributes none]
  | emptyTag {name : String} {attributes : List (String × String)} :
      (Event.opened name attributes none).Delimited →
      Writes (.emptyTag (openingText name attributes)) [.opened name attributes none, .closed]
  | endTag {name : List Char} : Writes (.endTag name) [.closed]
  | text {content : String} : Writes (.text (escape content.toList)) [.text content]
  | comment {content : String} : Writes (.comment content.toList) [.comment content]

theorem Token.Writes.unique {token : Token} {events events' : List Event}
    (h : token.Writes events) (h' : token.Writes events') : events = events' := by
  generalize same : token = token' at h'
  cases h with
  | startTag delimited =>
    cases h' with
    | startTag delimited' =>
      obtain ⟨rfl, rfl⟩ := eq_of_openingText delimited delimited' (Token.startTag.inj same)
      rfl
    | _ => cases same
  | emptyTag delimited =>
    cases h' with
    | emptyTag delimited' =>
      obtain ⟨rfl, rfl⟩ := eq_of_openingText delimited delimited' (Token.emptyTag.inj same)
      rfl
    | _ => cases same
  | endTag =>
    cases h' with
    | endTag => rfl
    | _ => cases same
  | text =>
    cases h' with
    | text => rw [String.toList_inj.1 (escape_injective (Token.text.inj same))]
    | _ => cases same
  | comment =>
    cases h' with
    | comment => rw [String.toList_inj.1 (Token.comment.inj same)]
    | _ => cases same

def Token.WritesAll (tokens : List Token) (events : List Event) : Prop :=
  ∃ parts, List.Forall₂ Writes tokens parts ∧ events = parts.flatten

namespace Token.WritesAll

variable {tokens tokens' : List Token} {events events' : List Event}

theorem single {token : Token} (h : token.Writes events) : WritesAll [token] events :=
  ⟨[events], .cons h .nil, by simp⟩

theorem append (h : WritesAll tokens events) (h' : WritesAll tokens' events') :
    WritesAll (tokens ++ tokens') (events ++ events') := by
  obtain ⟨parts, each, rfl⟩ := h
  obtain ⟨parts', each', rfl⟩ := h'
  exact ⟨parts ++ parts', List.rel_append each each', by simp⟩

theorem cons {token : Token} (h : token.Writes events) (h' : WritesAll tokens events') :
    WritesAll (token :: tokens) (events ++ events') :=
  (single h).append h'

theorem unique (h : WritesAll tokens events) (h' : WritesAll tokens events') :
    events = events' := by
  obtain ⟨parts, each, rfl⟩ := h
  obtain ⟨parts', each', rfl⟩ := h'
  have functional : Relator.RightUnique Token.Writes := fun _ _ _ first second =>
    first.unique second
  rw [functional.forall₂ each each']

end Token.WritesAll

theorem writesAll_textTokens (content : String) :
    Token.WritesAll (textTokens content) (eventsOfNodes (textNodes content)) := by
  unfold textTokens textNodes
  split
  · exact ⟨[], .nil, rfl⟩
  · exact .single .text

mutual

theorem writesAll_tokens : ∀ element : Element, (∀ event ∈ element.events, event.Delimited) →
    Token.WritesAll element.tokens element.normal.events
  | ⟨name, attributes, [], line⟩, delimited => by
    rw [Element.events, List.forall_mem_cons] at delimited
    exact .single (.emptyTag delimited.1)
  | ⟨name, attributes, node :: rest, line⟩, delimited => by
    rw [Element.events, List.forall_mem_cons, List.forall_mem_append] at delimited
    have inside := writesAll_tokensFrom "" (node :: rest) delimited.2.1
    exact .cons (.startTag delimited.1) (inside.append (.single .endTag))

theorem writesAll_tokensFrom : ∀ (pending : String) (nodes : List Node),
    (∀ event ∈ eventsOfNodes nodes, event.Delimited) →
      Token.WritesAll (tokensFrom pending nodes) (eventsOfNodes (normalFrom pending nodes))
  | pending, [], _ => by
    rw [tokensFrom, normalFrom]
    exact writesAll_textTokens pending
  | pending, .text content :: rest, delimited => by
    rw [tokensFrom, normalFrom]
    refine writesAll_tokensFrom (pending ++ content) rest fun event h => delimited event ?_
    simp [eventsOfNodes, h]
  | pending, .comment content :: rest, delimited => by
    rw [tokensFrom, normalFrom, eventsOfNodes_append]
    have later := writesAll_tokensFrom "" rest fun event h => delimited event (by
      simp [eventsOfNodes, h])
    exact (writesAll_textTokens pending).append (.cons .comment later)
  | pending, .element inner :: rest, delimited => by
    simp only [eventsOfNodes, Node.events, List.forall_mem_append] at delimited
    rw [tokensFrom, normalFrom, eventsOfNodes_append]
    have first := writesAll_tokens inner delimited.1
    have later := writesAll_tokensFrom "" rest delimited.2
    exact (writesAll_textTokens pending).append (first.append later)

end

theorem Element.normal_eq_of_print_eq {first second : Element}
    (delimited : ∀ event ∈ first.events, event.Delimited)
    (delimited' : ∀ event ∈ second.events, event.Delimited) (same : first.print = second.print) :
    first.normal = second.normal := by
  have texts : (Document.ofRoot first).toXml = (Document.ofRoot second).toXml :=
    String.ofList_inj.2 same
  have tokens : first.tokens = second.tokens := by
    rw [← (Document.lex_toXml delimited).2, texts, (Document.lex_toXml delimited').2]
  have written := writesAll_tokens first delimited
  rw [tokens] at written
  exact events_injective (written.unique (writesAll_tokens second delimited'))

end Schematron.Xml
