import Schematron.Fingerprint
import Schematron.Proofs.Xml.Decoding

/-!
The bytes under a fingerprint are cut at their first NUL, so neither a value nor a text can pass for
a part of the configuration.
-/
namespace Schematron

theorem Configuration.toJson_injective : Function.Injective Configuration.toJson := by
  rintro ⟨numbering⟩ ⟨numbering'⟩ same
  cases numbering <;> cases numbering' <;> first | rfl | exact absurd same (by decide)

theorem Configuration.zero_not_mem_toJson (configuration : Configuration) :
    0 ∉ Utf8.encode configuration.toJson.toList := by
  obtain ⟨numbering⟩ := configuration
  cases numbering <;> decide

theorem Utf8.encode_injective : Function.Injective Utf8.encode := by
  intro first second same
  have read := Utf8.decode_encode first
  rw [same, Utf8.decode_encode] at read
  cases read
  rfl

/-- The names and comments of every tree that was read are in order, and among such trees the bytes
of a fingerprint tell the configuration and the normal form of the tree. -/
theorem fingerprintInput_tells :
    (∀ text numbered document, Xml.Document.parse text numbered = .ok document →
      ∀ event ∈ document.root.events, event.Delimited) ∧
    ∀ (configuration configuration' : Configuration) (root root' : Xml.Element),
      (∀ event ∈ root.events, event.Delimited) → (∀ event ∈ root'.events, event.Delimited) →
      fingerprintInput configuration root = fingerprintInput configuration' root' →
      configuration = configuration' ∧ root.normal = root'.normal := by
  constructor
  · intro text numbered document parsed event member
    exact (Xml.Document.soundMarkup_of_parse parsed event member).delimited
  · intro configuration configuration' root root' delimited delimited' same
    obtain ⟨settings, written⟩ := Text.eq_of_append_mark configuration.zero_not_mem_toJson
      configuration'.zero_not_mem_toJson same
    have settings := String.toList_inj.1 (Utf8.encode_injective settings)
    exact ⟨Configuration.toJson_injective settings,
      Xml.Element.normal_eq_of_print_eq delimited delimited' (Utf8.encode_injective written)⟩

theorem fingerprintInput_tells_cuts :
    let value := "\x00<'>"
    let whole : Xml.Element := ⟨"a", [("b", value)],
      [.text "x\x00&", .comment "c", .element ⟨"d", [], [], none⟩], none⟩
    let cut : Xml.Element := ⟨"a", [("b", value)],
      [.text "x", .text "", .text "\x00&", .comment "c", .element ⟨"d", [], [], some 2⟩], some 1⟩
    (∃ document, Xml.Document.parse "<a b='1'><!--c--></a>" true = .ok document ∧
      ∀ event ∈ document.root.events, event.Delimited) ∧
    fingerprintInput ⟨true⟩ whole = fingerprintInput ⟨true⟩ cut ∧ whole.normal = cut.normal := by
  intro value whole cut
  have read : Xml.Document.parse "<a b='1'><!--c--></a>" true =
      .ok (.ofRoot ⟨"a", [("b", "1")], [.comment "c"], some 1⟩) := by decide +kernel
  have same : fingerprintInput ⟨true⟩ whole = fingerprintInput ⟨true⟩ cut := by decide +kernel
  exact ⟨⟨_, read, fingerprintInput_tells.1 _ _ _ read⟩, same,
    (fingerprintInput_tells.2 _ _ _ _ (by decide) (by decide) same).2⟩

end Schematron
