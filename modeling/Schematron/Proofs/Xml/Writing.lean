import Schematron.Proofs.Xml.Lexing
import Schematron.Proofs.Xml.Normal
import Schematron.Proofs.Xml.Tag

/-!
The tokens of a written tree. As in the normal form, texts without markup between them make one
token, and an empty text makes none.
-/
namespace Schematron.Xml

def openingText (name : String) (attributes : List (String × String)) : List Char :=
  name.toList ++ attributes.flatMap printAttribute

def textTokens (content : String) : List Token :=
  if content = "" then [] else [.text (escape content.toList)]

mutual

def Element.tokens : Element → List Token
  | ⟨name, attributes, [], _⟩ => [.emptyTag (openingText name attributes)]
  | ⟨name, attributes, node :: rest, _⟩ =>
    .startTag (openingText name attributes) ::
      (tokensFrom "" (node :: rest) ++ [.endTag name.toList])

def tokensFrom (pending : String) : List Node → List Token
  | [] => textTokens pending
  | .text content :: rest => tokensFrom (pending ++ content) rest
  | .comment content :: rest =>
    textTokens pending ++ .comment content.toList :: tokensFrom "" rest
  | .element inner :: rest => textTokens pending ++ (inner.tokens ++ tokensFrom "" rest)

end

theorem not_mem_name {name : List Char} (h : checkName name = .ok ()) {c : Char}
    (special : isNameChar c = false) : c ∉ name := by
  intro member
  rw [isNameChar_of_mem h member] at special
  contradiction

theorem not_mem_printAttribute {pair : String × String}
    (h : checkName pair.1.toList = .ok ()) : '>' ∉ printAttribute pair := by
  have name := not_mem_name h (c := '>') (by decide)
  have value := not_mem_escape (c := '>') (by simp) pair.2.toList
  simp [printAttribute, name, value]

theorem unquoted_name {name : List Char} (h : checkName name = .ok ()) :
    ∀ c ∈ name, c ≠ '"' ∧ c ≠ '\'' := by
  intro c member
  constructor
  · rintro rfl
    exact not_mem_name h (by decide) member
  · rintro rfl
    exact not_mem_name h (by decide) member

theorem endTagName_of_name {name : List Char} (h : checkName name = .ok ()) :
    endTagName name = name := by
  have unblank : ∀ c ∈ name.reverse.head?, Text.isXmlBlank c = false := fun c last =>
    isXmlBlank_of_isNameChar (isNameChar_of_mem h (List.mem_reverse.1 (List.mem_of_head? last)))
  obtain ⟨_, rest⟩ := Text.span_iff.2 ⟨Eq.refl ([] ++ name.reverse), by simp, unblank⟩
  simp only [List.nil_append] at rest
  simp [endTagName, rest]

theorem after_printAttribute {pair : String × String} (h : checkName pair.1.toList = .ok ()) :
    tagAutomaton.after none (printAttribute pair) = none := by
  have name := tagAutomaton_after_unquoted (unquoted_name h)
  have value : tagAutomaton.after (some '"') (escape pair.2.toList) = some '"' :=
    tagAutomaton_after_quoted (not_mem_escape (by simp) _)
  have parts : printAttribute pair =
      [' '] ++ pair.1.toList ++ ['=', '"'] ++ escape pair.2.toList ++ ['"'] := by
    simp [printAttribute]
  simp only [parts, Automaton.after_append]
  rw [show tagAutomaton.after none [' '] = none from rfl, name,
    show tagAutomaton.after none ['=', '"'] = some '"' from rfl, value]
  rfl

section OpeningText

variable {name : String} {attributes : List (String × String)} {line : Option Nat}

theorem getLast?_openingText (sound : (Event.opened name attributes line).Delimited) :
    (openingText name attributes).getLast? ≠ some '/' := by
  cases attributes using List.reverseRecOn with
  | nil =>
    intro last
    have member : '/' ∈ name.toList := List.mem_of_getLast? (by simpa [openingText] using last)
    exact not_mem_name sound.1 (by decide) member
  | append_singleton front pair =>
    have quoted : openingText name (front ++ [pair]) =
        openingText name front ++ (' ' :: pair.1.toList ++ '=' :: '"' :: escape pair.2.toList) ++
          ['"'] := by
      simp [openingText, printAttribute]
    rw [quoted, List.getLast?_concat]
    simp

namespace Lexer

theorem tagText_openingText (sound : (Event.opened name attributes line).Delimited) :
    TagText (openingText name attributes) := by
  obtain ⟨name_sound, names⟩ := sound
  refine ⟨?_, ?_, ?_⟩
  · cases text : name.toList with
    | nil => simp [text, checkName] at name_sound
    | cons c rest =>
      rw [text] at name_sound
      have start : isNameChar c = true := isNameChar_of_mem name_sound (by simp)
      refine ⟨c, rest ++ attributes.flatMap printAttribute, by simp [openingText, text], ?_⟩
      refine ⟨?_, ?_, ?_⟩ <;>
      · rintro rfl
        contradiction
  · simp only [openingText, List.mem_append, List.mem_flatMap, not_or, not_exists, not_and]
    exact ⟨not_mem_name name_sound (by decide), fun pair h => not_mem_printAttribute (names pair h)⟩
  · rw [openingText, Automaton.after_append,
      tagAutomaton_after_unquoted (unquoted_name name_sound)]
    clear name_sound
    induction attributes with
    | nil => rfl
    | cons pair attributes ih =>
      rw [List.forall_mem_cons] at names
      rw [List.flatMap_cons, Automaton.after_append, after_printAttribute names.1]
      exact ih names.2

end Lexer
end OpeningText

theorem Element.exists_print_eq_cons (element : Element) :
    ∃ rest, element.print = '<' :: rest := by
  obtain ⟨name, attributes, children, line⟩ := element
  cases children <;> exact ⟨_, by rw [Element.print, List.cons_append, List.cons_append]⟩

theorem escape_ne_nil {text : List Char} (h : text ≠ []) : escape text ≠ [] := by
  cases text with
  | nil => contradiction
  | cons c text =>
    unfold escape escapeChar
    simp only [List.flatMap_cons]
    repeat' split
    all_goals simp

namespace Lexer

variable {names : List (List Char)}

theorem reads_textTokens (content : String) {rest : List Char} (stop : ∀ c ∈ rest.head?, c = '<') :
    Reads names (escape content.toList ++ rest) (textTokens content) names rest := by
  unfold textTokens
  split
  next empty =>
    subst empty
    exact Reads.refl
  next some =>
    refine reads_text (escape_ne_nil ?_) (not_mem_escape (.inl rfl) _) stop
    simpa using some

mutual

theorem reads_element (names : List (List Char)) : ∀ (element : Element) (rest : List Char),
    (∀ event ∈ element.events, event.Delimited) →
      Reads names (element.print ++ rest) element.tokens names rest
  | ⟨name, attributes, [], line⟩, rest, sound => by
    simp only [Element.events, List.forall_mem_cons] at sound
    have read : Reads names ('<' :: (openingText name attributes ++ '/' :: '>' :: rest)) _ _ _ :=
      reads_emptyTag (tagText_openingText sound.1)
    simpa [Element.print, Element.tokens, openingText] using read
  | ⟨name, attributes, node :: others, line⟩, rest, sound => by
    simp only [Element.events, List.forall_mem_cons, List.forall_mem_append] at sound
    obtain ⟨opened, inside, _⟩ := sound
    have start : Reads names ('<' :: (openingText name attributes ++ '>' ::
        (printNodes (node :: others) ++ '<' :: '/' :: (name.toList ++ '>' :: rest)))) _ _ _ :=
      reads_startTag (tagText_openingText opened) (getLast?_openingText opened)
    rw [openingText, tagName_printed opened.1] at start
    have content := reads_nodes (name.toList :: names) "" (node :: others)
      ('<' :: '/' :: (name.toList ++ '>' :: rest)) inside (by simp)
    have finish : Reads (name.toList :: names) ('<' :: '/' :: (name.toList ++ '>' :: rest)) _ _ _ :=
      reads_endTag (unquoted_name opened.1) (not_mem_name opened.1 (by decide))
        (endTagName_of_name opened.1)
    have read := start.trans (content.trans finish)
    simpa [Element.print, Element.tokens, openingText, printNodes] using read

theorem reads_nodes (names : List (List Char)) : ∀ (pending : String) (nodes : List Node)
    (rest : List Char), (∀ event ∈ eventsOfNodes nodes, event.Delimited) →
      (∀ c ∈ rest.head?, c = '<') →
      Reads names (escape pending.toList ++ (printNodes nodes ++ rest)) (tokensFrom pending nodes)
        names rest
  | pending, [], rest, _, stop => by
    simpa [printNodes, tokensFrom] using reads_textTokens pending stop
  | pending, .text content :: others, rest, sound, stop => by
    have read := reads_nodes names (pending ++ content) others rest
      (by simpa [eventsOfNodes, Node.events] using sound) stop
    simpa [printNodes, Node.print, tokensFrom] using read
  | pending, .comment content :: others, rest, sound, stop => by
    simp only [eventsOfNodes, Node.events, List.forall_mem_append, List.forall_mem_cons] at sound
    have texts : Reads names (escape pending.toList ++
        (['<', '!', '-', '-'] ++ content.toList ++ ['-', '-', '>'] ++
          (printNodes others ++ rest))) _ _ _ :=
      reads_textTokens pending (by simp)
    have following := reads_nodes names "" others rest sound.2 stop
    have read := texts.trans ((reads_comment sound.1.1).trans following)
    simpa [printNodes, Node.print, tokensFrom] using read
  | pending, .element inner :: others, rest, sound, stop => by
    simp only [eventsOfNodes, Node.events, List.forall_mem_append] at sound
    obtain ⟨_, start⟩ := inner.exists_print_eq_cons
    have texts : Reads names (escape pending.toList ++
        (inner.print ++ (printNodes others ++ rest))) _ _ _ :=
      reads_textTokens pending (by simp [start])
    have following := reads_nodes names "" others rest sound.2 stop
    have read := texts.trans ((reads_element names inner _ sound.1).trans following)
    simpa [printNodes, Node.print, tokensFrom] using read

end

end Lexer
end Schematron.Xml
