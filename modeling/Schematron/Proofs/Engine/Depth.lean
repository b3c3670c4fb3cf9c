import Mathlib.Data.Finset.Card
import Schematron.Proofs.Engine.Expansion
import Schematron.Proofs.Resource.Lookup

/-!
How deep includes nest. Where there is an expansion no document comes to include itself, so on the
way from a schema to what it includes no file is met twice, and the number of the files is depth
enough for the miniature engine.
-/
namespace Schematron

open Xml

variable {lookup : Lookup} {numbered : Bool}

/-- One of the nodes is, or holds, an include of the document; what an include holds itself does not
count. -/
inductive Mentions (lookup : Lookup) (numbered : Bool) (document : Document) :
    Option String → List Node → Prop
  | marker {base : Option String} {marker : Element} {reference : String} {rest : List Node} :
      marker.localName = "include" → marker.attribute? "href" = some reference →
      lookup.Finds numbered reference base document →
      Mentions lookup numbered document base (.element marker :: rest)
  | inside {base : Option String} {inner : Element} {rest : List Node} :
      inner.localName ≠ "include" → Mentions lookup numbered document base inner.children →
      Mentions lookup numbered document base (.element inner :: rest)
  | later {base : Option String} {node : Node} {rest : List Node} :
      Mentions lookup numbered document base rest →
      Mentions lookup numbered document base (node :: rest)

inductive Leads (lookup : Lookup) (numbered : Bool) (goal : Document) :
    Option String → List Node → Prop
  | directly {base : Option String} {nodes : List Node} :
      Mentions lookup numbered goal base nodes → Leads lookup numbered goal base nodes
  | through {base : Option String} {nodes : List Node} {document : Document} :
      Mentions lookup numbered document base nodes →
      Leads lookup numbered goal document.baseUri document.root.children →
      Leads lookup numbered goal base nodes

def Acyclic (lookup : Lookup) (numbered : Bool) (base : Option String) (nodes : List Node) : Prop :=
  ∀ document, Leads lookup numbered document base nodes →
    ¬ Leads lookup numbered document document.baseUri document.root.children

section

variable {base : Option String} {nodes nodes' : List Node} {document : Document}

/-- A document leads back to itself only if it does so from its own nodes. -/
theorem Acyclic.of_mentions (h : ∀ document, Mentions lookup numbered document base nodes →
    Acyclic lookup numbered document.baseUri document.root.children) :
    Acyclic lookup numbered base nodes := by
  intro goal leads
  cases leads with
  | directly mentions => exact fun back => h goal mentions goal back back
  | through mentions leads => exact h _ mentions goal leads

theorem Expanded.acyclic_of_mentions (h : Expanded lookup numbered base nodes nodes')
    (mentions : Mentions lookup numbered document base nodes) :
    Acyclic lookup numbered document.baseUri document.root.children := by
  induction h generalizing document with
  | nil => cases mentions
  | text _ ih | comment _ ih =>
    cases mentions with
    | later mentions => exact ih mentions
  | element other _ _ ihInner ih =>
    cases mentions with
    | marker named => exact absurd named other
    | inside _ mentions => exact ihInner mentions
    | later mentions => exact ih mentions
  | included named href finds _ _ ihInner ih =>
    cases mentions with
    | marker _ href' finds' =>
      obtain rfl := Option.some.inj (href.symm.trans href')
      obtain rfl := finds.unique finds'
      exact Acyclic.of_mentions fun _ mentions => ihInner mentions
    | inside other => exact absurd named other
    | later mentions => exact ih mentions

theorem Expanded.acyclic (h : Expanded lookup numbered base nodes nodes') :
    Acyclic lookup numbered base nodes :=
  Acyclic.of_mentions fun _ mentions => h.acyclic_of_mentions mentions

end

namespace Miniature

variable {σ : Type} {nesting depth : Nat} {base : Option String}

theorem answers_standIn {marker x : Element} {reference : String} {document : Document}
    (href : marker.attribute? "href" = some reference)
    (finds : lookup.Finds numbered reference base document)
    (answers : Answers (expandIncludes (.ofLookup lookup nesting : Resolver σ) numbered depth
      document.baseUri document.root) (.ok x)) :
    Answers (standIn (.ofLookup lookup nesting : Resolver σ) numbered (depth + 1) base marker)
      (.ok x) := by
  rw [standIn, href]
  exact finds.answers.bind answers

section

variable {replacement : Element → EngineM σ Element} {rest rest' : List Node}

theorem answers_replaceInNodes_cons {node node' : Node}
    (first : Answers (replaceInNode replacement node) (.ok node'))
    (later : Answers (replaceInNodes replacement rest) (.ok rest')) :
    Answers (replaceInNodes replacement (node :: rest)) (.ok (node' :: rest')) := by
  rw [replaceInNodes]
  exact first.bind (later.bind (.pure _))

theorem answers_replaceIncludes {element : Element} {children : List Node}
    (inside : Answers (replaceInNodes replacement element.children) (.ok children)) :
    Answers (replaceIncludes replacement element) (.ok { element with children := children }) := by
  cases element
  rw [replaceIncludes]
  exact inside.bind (.pure _)

theorem answers_replaceInNode_element {inner x : Element} (other : inner.localName ≠ "include")
    (inside : Answers (replaceIncludes replacement inner) (.ok x)) :
    Answers (replaceInNode replacement (.element inner)) (.ok (.element x)) := by
  rw [replaceInNode, if_neg (mt isInclude_iff.1 other)]
  exact inside.bind (.pure _)

theorem answers_replaceInNode_marker {marker x : Element} (named : marker.localName = "include")
    (stands : Answers (replacement marker) (.ok x)) :
    Answers (replaceInNode replacement (.element marker)) (.ok (.element x)) := by
  rw [replaceInNode, if_pos (isInclude_iff.2 named)]
  exact stands.bind (.pure _)

end

theorem answers_of_mentions {nodes nodes' : List Node}
    (h : Expanded lookup numbered base nodes nodes')
    (enough : ∀ document children, Mentions lookup numbered document base nodes →
      Expanded lookup numbered document.baseUri document.root.children children →
      ∃ rest, depth = rest + 1 ∧ Answers (replaceInNodes (standIn (.ofLookup lookup nesting :
        Resolver σ) numbered rest document.baseUri) document.root.children) (.ok children)) :
    Answers (replaceInNodes (standIn (.ofLookup lookup nesting : Resolver σ) numbered depth base)
      nodes) (.ok nodes') := by
  induction h with
  | nil =>
    rw [replaceInNodes]
    exact .pure _
  | text _ ih | comment _ ih =>
    have later := ih fun document children mentions => enough document children (.later mentions)
    refine answers_replaceInNodes_cons ?_ later
    rw [replaceInNode]
    exact .pure _
  | element other _ _ ihInner ih =>
    have inside := ihInner fun document children mentions =>
      enough document children (.inside other mentions)
    have later := ih fun document children mentions => enough document children (.later mentions)
    exact answers_replaceInNodes_cons
      (answers_replaceInNode_element other (answers_replaceIncludes inside)) later
  | included named href finds expanded _ _ ih =>
    have later := ih fun document children mentions => enough document children (.later mentions)
    obtain ⟨rest, rfl, inside⟩ := enough _ _ (.marker named href finds) expanded
    refine answers_replaceInNodes_cons (answers_replaceInNode_marker named
      (answers_standIn href finds ?_)) later
    rw [expandIncludes_eq]
    exact answers_replaceIncludes inside

/-- The depth is enough if there are no more files to be met; each file that is entered is not met
again. -/
theorem answers_of_card (files : Finset (Option String)) (enough : files.card ≤ depth)
    {nodes nodes' : List Node} (h : Expanded lookup numbered base nodes nodes')
    (met : ∀ document, Leads lookup numbered document base nodes → document.baseUri ∈ files)
    (told : ∀ first second, Leads lookup numbered first base nodes →
      Leads lookup numbered second base nodes → first.baseUri = second.baseUri → first = second) :
    Answers (replaceInNodes (standIn (.ofLookup lookup nesting : Resolver σ) numbered depth base)
      nodes) (.ok nodes') := by
  induction depth generalizing files base nodes nodes' with
  | zero =>
    refine answers_of_mentions h fun document children mentions _ => ?_
    have member := met document (.directly mentions)
    rw [Finset.card_eq_zero.1 (Nat.le_zero.1 enough)] at member
    exact absurd member (Finset.notMem_empty _)
  | succ rest ih =>
    refine answers_of_mentions h fun document children mentions expanded => ⟨rest, rfl, ?_⟩
    have member := met document (.directly mentions)
    have fewer : (files.erase document.baseUri).card ≤ rest := by
      rw [Finset.card_erase_of_mem member]
      omega
    refine ih (files.erase document.baseUri) fewer expanded (fun inner leads => ?_)
      fun first second leads leads' =>
        told first second (.through mentions leads) (.through mentions leads')
    refine Finset.mem_erase.2 ⟨fun same => ?_, met inner (.through mentions leads)⟩
    obtain rfl := told inner document (.through mentions leads) (.directly mentions) same
    exact h.acyclic inner (.directly mentions) leads

end Miniature

section

variable {get? : String → Option (List UInt8)} {reference : String} {base : Option String}
  {nodes : List Node} {document other : Document}

theorem Mentions.finds (h : Mentions lookup numbered document base nodes) :
    ∃ reference base, lookup.Finds numbered reference base document := by
  induction h with
  | marker _ _ finds => exact ⟨_, _, finds⟩
  | inside _ _ ih | later _ ih => exact ih

theorem Leads.finds (h : Leads lookup numbered document base nodes) :
    ∃ reference base, lookup.Finds numbered reference base document := by
  induction h with
  | directly mentions => exact mentions.finds
  | through _ _ ih => exact ih

theorem Lookup.Finds.exists_path (h : (ofContents get?).Finds numbered reference base document) :
    ∃ path content, document.baseUri = some path ∧ get? path = some content ∧
      (Document.parseBytes content numbered).map (·.withBase path) = .ok document := by
  obtain ⟨resource, parsed, found, ⟨bytes, read, parses⟩, rfl⟩ := h
  obtain ⟨path, content, -, kept, rfl⟩ := ofContents_eq_ok_iff.1 found
  obtain rfl : content = bytes := Except.ok.inj read
  exact ⟨path, content, rfl, kept, by rw [parses]; rfl⟩

theorem Lookup.Finds.eq_of_baseUri {reference' : String} {base' : Option String}
    (h : (ofContents get?).Finds numbered reference base document)
    (h' : (ofContents get?).Finds numbered reference' base' other)
    (same : document.baseUri = other.baseUri) : document = other := by
  obtain ⟨path, content, based, kept, parses⟩ := h.exists_path
  obtain ⟨path', content', based', kept', parses'⟩ := h'.exists_path
  obtain rfl : path = path' := Option.some.inj (based.symm.trans (same.trans based'))
  obtain rfl : content = content' := Option.some.inj (kept.symm.trans kept')
  exact ok_unique parses parses'

end

theorem Store.answers_of_expands {σ : Type} {store : Store} {base : Option String}
    {element x : Element} (h : Expands store.resolve numbered base element x) :
    Answers (Miniature.expandIncludes (.ofLookup store.resolve store.nesting : Resolver σ) numbered
      store.nesting base element) (.ok x) := by
  obtain ⟨children, expanded, rfl⟩ := h
  rw [Miniature.expandIncludes_eq]
  refine Miniature.answers_replaceIncludes (Miniature.answers_of_card
    (store.entries.map fun entry => some entry.1).toFinset ?_ expanded ?_ ?_)
  · exact (List.toFinset_card_le _).trans (Nat.le_of_eq (List.length_map _))
  · intro document leads
    obtain ⟨reference, base, finds⟩ := leads.finds
    obtain ⟨path, content, based, kept, -⟩ := finds.exists_path
    obtain ⟨front, later, entries, -⟩ := List.lookup_eq_some_iff.1 kept
    simp [based, entries]
  · intro first second leads leads' same
    obtain ⟨_, _, finds⟩ := leads.finds
    obtain ⟨_, _, finds'⟩ := leads'.finds
    exact finds.eq_of_baseUri finds' same

end Schematron
