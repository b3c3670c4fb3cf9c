import Schematron.Proofs.Outcome
import Schematron.Xml.Tree
import Schematron.Xml.WellFormed

/-!
Trees as sequences of events in document order: an element opens, its children follow, it closes.
The events determine the tree, so rules for single names, values, texts and comments are rules for
events.
-/
namespace Schematron.Xml

inductive Event
  | opened (name : String) (attributes : List (String × String)) (line : Option Nat)
  | text (content : String)
  | comment (content : String)
  | closed
  deriving DecidableEq, Repr

mutual

def Element.events : Element → List Event
  | ⟨name, attributes, children, line⟩ =>
    .opened name attributes line :: (eventsOfNodes children ++ [.closed])

def Node.events : Node → List Event
  | .element inner => inner.events
  | .text content => [.text content]
  | .comment content => [.comment content]

def eventsOfNodes : List Node → List Event
  | [] => []
  | node :: rest => node.events ++ eventsOfNodes rest

end

/-- Names and comments, which are written without escapes, keep to their productions, so that what
is written for them ends where they end. -/
def Event.Delimited : Event → Prop
  | .opened name attributes _ =>
    checkName name.toList = .ok () ∧ ∀ pair ∈ attributes, checkName pair.1.toList = .ok ()
  | .comment content => checkComment content.toList = .ok ()
  | .text _ | .closed => True

/-- Names and comments, which are written without escapes, keep to their productions, and no
element has two attributes of one name. -/
def Event.SoundMarkup : Event → Prop
  | .opened name attributes _ =>
    checkName name.toList = .ok () ∧
      (∀ pair ∈ attributes, checkName pair.1.toList = .ok ()) ∧
      (attributes.map Prod.fst).Nodup
  | .comment content => checkComment content.toList = .ok ()
  | .text _ | .closed => True

def Event.SoundText : Event → Prop
  | .opened _ attributes _ => ∀ pair ∈ attributes, checkChars pair.2.toList = .ok ()
  | .text content => checkChars content.toList = .ok ()
  | .comment _ | .closed => True

namespace Event

instance : DecidablePred Delimited
  | .opened name attributes _ => inferInstanceAs <| Decidable <|
    checkName name.toList = .ok () ∧ ∀ pair ∈ attributes, checkName pair.1.toList = .ok ()
  | .comment content => inferInstanceAs (Decidable (checkComment content.toList = .ok ()))
  | .text _ | .closed => inferInstanceAs (Decidable True)

instance : DecidablePred SoundMarkup
  | .opened name attributes _ => inferInstanceAs <| Decidable <|
    checkName name.toList = .ok () ∧
      (∀ pair ∈ attributes, checkName pair.1.toList = .ok ()) ∧ (attributes.map Prod.fst).Nodup
  | .comment content => inferInstanceAs (Decidable (checkComment content.toList = .ok ()))
  | .text _ | .closed => inferInstanceAs (Decidable True)

instance : DecidablePred SoundText
  | .opened _ attributes _ =>
    inferInstanceAs (Decidable (∀ pair ∈ attributes, checkChars pair.2.toList = .ok ()))
  | .text content => inferInstanceAs (Decidable (checkChars content.toList = .ok ()))
  | .comment _ | .closed => inferInstanceAs (Decidable True)

@[simp] theorem delimited_comment_iff {content : String} :
    (comment content).Delimited ↔ checkComment content.toList = .ok () :=
  Iff.rfl

@[simp] theorem delimited_text (content : String) : (text content).Delimited :=
  trivial

@[simp] theorem delimited_closed : closed.Delimited :=
  trivial

theorem SoundMarkup.delimited {event : Event} (sound : event.SoundMarkup) : event.Delimited := by
  cases event with
  | opened => exact ⟨sound.1, sound.2.1⟩
  | _ => exact sound

@[simp] theorem soundMarkup_comment_iff {content : String} :
    (comment content).SoundMarkup ↔ checkComment content.toList = .ok () :=
  Iff.rfl

@[simp] theorem soundMarkup_text (content : String) : (text content).SoundMarkup :=
  trivial

@[simp] theorem soundMarkup_closed : closed.SoundMarkup :=
  trivial

@[simp] theorem soundText_text_iff {content : String} :
    (text content).SoundText ↔ checkChars content.toList = .ok () :=
  Iff.rfl

@[simp] theorem soundText_comment (content : String) : (comment content).SoundText :=
  trivial

@[simp] theorem soundText_closed : closed.SoundText :=
  trivial

end Event

@[simp] theorem eventsOfNodes_append (first second : List Node) :
    eventsOfNodes (first ++ second) = eventsOfNodes first ++ eventsOfNodes second := by
  induction first with
  | nil => simp [eventsOfNodes]
  | cons node rest ih => simp [eventsOfNodes, ih]

mutual

theorem Element.eq_of_events_append : ∀ {first second : Element} {rest rest' : List Event},
    first.events ++ rest = second.events ++ rest' → first = second ∧ rest = rest'
  | ⟨name, attributes, children, line⟩, ⟨name', attributes', children', line'⟩, rest, rest', h => by
    simp only [Element.events, List.cons_append, List.append_assoc, List.nil_append,
      List.cons.injEq, Event.opened.injEq] at h
    obtain ⟨⟨rfl, rfl, rfl⟩, h⟩ := h
    obtain ⟨rfl, rfl⟩ := eq_of_eventsOfNodes_closed h
    exact ⟨rfl, rfl⟩

theorem eq_of_eventsOfNodes_closed : ∀ {first second : List Node} {rest rest' : List Event},
    eventsOfNodes first ++ .closed :: rest = eventsOfNodes second ++ .closed :: rest' →
      first = second ∧ rest = rest'
  | [], [], rest, rest', h => by simpa [eventsOfNodes] using h
  | [], .element ⟨_, _, _, _⟩ :: _, _, _, h => by
    simp [eventsOfNodes, Node.events, Element.events] at h
  | [], .text _ :: _, _, _, h | [], .comment _ :: _, _, _, h => by
    simp [eventsOfNodes, Node.events] at h
  | .element ⟨_, _, _, _⟩ :: _, [], _, _, h => by
    simp [eventsOfNodes, Node.events, Element.events] at h
  | .text _ :: _, [], _, _, h | .comment _ :: _, [], _, _, h => by
    simp [eventsOfNodes, Node.events] at h
  | .element first :: firsts, .element second :: seconds, rest, rest', h => by
    simp only [eventsOfNodes, Node.events, List.append_assoc] at h
    obtain ⟨rfl, following⟩ := Element.eq_of_events_append h
    obtain ⟨rfl, rfl⟩ := eq_of_eventsOfNodes_closed following
    exact ⟨rfl, rfl⟩
  | .text first :: firsts, .text second :: seconds, rest, rest', h => by
    simp only [eventsOfNodes, Node.events, List.cons_append, List.nil_append,
      List.cons.injEq, Event.text.injEq] at h
    obtain ⟨rfl, h⟩ := h
    obtain ⟨rfl, rfl⟩ := eq_of_eventsOfNodes_closed h
    exact ⟨rfl, rfl⟩
  | .comment first :: firsts, .comment second :: seconds, rest, rest', h => by
    simp only [eventsOfNodes, Node.events, List.cons_append, List.nil_append,
      List.cons.injEq, Event.comment.injEq] at h
    obtain ⟨rfl, h⟩ := h
    obtain ⟨rfl, rfl⟩ := eq_of_eventsOfNodes_closed h
    exact ⟨rfl, rfl⟩
  | .element ⟨_, _, _, _⟩ :: _, .text _ :: _, _, _, h
  | .element ⟨_, _, _, _⟩ :: _, .comment _ :: _, _, _, h
  | .text _ :: _, .element ⟨_, _, _, _⟩ :: _, _, _, h
  | .comment _ :: _, .element ⟨_, _, _, _⟩ :: _, _, _, h
  | .text _ :: _, .comment _ :: _, _, _, h | .comment _ :: _, .text _ :: _, _, _, h => by
    simp [eventsOfNodes, Node.events, Element.events] at h

end

theorem Element.events_injective : Function.Injective Element.events := by
  intro first second h
  have same : first.events ++ [] = second.events ++ [] := by rw [h]
  exact (Element.eq_of_events_append same).1

end Schematron.Xml
