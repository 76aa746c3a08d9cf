import DocPages.Config.Json
import DocPages.Proofs.Json.Value

/-! Guarding a text keeps what it means. Whatever the text is, valid or not, the guarded one has no
`</`, and it is read as the same value, as the same configuration, or not at all. -/

namespace DocPages

open Json

theorem parse_escapeScript {α : Type} {read : Reader α} (h : Blind read) (s : String) :
    (parse read (escapeScript s)).toOption = (parse read s).toOption := by
  rw [parse, parse, escapeScript, String.toList_ofList]
  obtain ⟨f, f', hf, hf'⟩ | ⟨x, rest, -, hx, hx'⟩ := h s.toList
  · rw [hf, hf']
    rfl
  · obtain ⟨es, ds, hes, hds, -, hpeel⟩ := peeled_skipBlanks rest
    simp only [hx, hx', hes, hds]
    cases hpeel <;> rfl

theorem ElementIds.blind_shape : Blind ElementIds.shape.read := by
  refine Shape.blind_read ?_
  have htext {name : String} {set : ElementIds → String → ElementIds} :
      (Field.of name readText set).Blind := Field.blind_of blind_readText
  simp [ElementIds.shape, htext]

namespace Config

theorem blind_shape : Blind Config.shape.read := by
  refine Shape.blind_read ?_
  simp only [Config.shape, List.forall_mem_cons, List.not_mem_nil, false_imp_iff, implies_true,
    and_true]
  exact ⟨Field.blind_of blind_readText, Field.blind_of (blind_readNat _ _),
    Field.blind_of (blind_readNat _ _), Field.blind_of (blind_readVariant _),
    Field.blind_of (blind_readNat _ _), Field.blind_of blind_readText,
    Field.blind_of ElementIds.blind_shape⟩

theorem toOption_ofJson (s : String) :
    (ofJson s).toOption =
      (parse shape.read s).toOption.bind fun c => if c.violation?.isNone then some c else none := by
  unfold ofJson
  cases parse shape.read s with
  | error e => rfl
  | ok c => cases h : c.violation? <;> simp [Except.toOption, h]

end Config

/-- The guarded text has no closing tag, and it means what the plain one means. -/
theorem guarded_text_means_same (s : String) :
    ¬ "</".toList <:+: (escapeScript s).toList ∧
    (∀ depth, (parse (readValue depth) (escapeScript s)).toOption =
      (parse (readValue depth) s).toOption) ∧
    (Config.ofJson (escapeScript s)).toOption = (Config.ofJson s).toOption := by
  refine ⟨?_, fun depth => parse_escapeScript (blind_readValue depth) s, ?_⟩
  · have hguard : (escapeScript s).toList = guardClosers s.toList := String.toList_ofList
    have hcloser : "</".toList = ['<', '/'] := String.toList_ofList
    rw [hguard, hcloser]
    exact Lacks.not_infix (lacks_guardClosers s.toList)
  · rw [Config.toOption_ofJson, Config.toOption_ofJson, parse_escapeScript Config.blind_shape]

end DocPages
