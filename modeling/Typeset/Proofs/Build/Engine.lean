import Typeset.Build.Engine
import Typeset.Proofs.Text.Decoding

/-!
Which engine is chosen.  One that is not set is told from the bytes of the document, and it makes no
difference whether these are UTF-8.
-/

namespace Typeset.Engine

variable {workspace : Workspace} {document : Path}

theorem exists_choose_error_iff {configured? : Option Text} :
    (∃ failure, choose workspace configured? document = .error failure) ↔
      configured? = none ∧ ∃ fault, workspace.read document = .error fault := by
  cases configured? with
  | some engine => simp [choose]
  | none => cases read : workspace.read document <;> simp [choose, read]

theorem choose_eq_ok_iff {content : Bytes} (read : workspace.read document = .ok content)
    {engine : Text} :
    choose workspace none document = .ok engine ↔ detect (Text.decodeLossy content) = engine := by
  simp [choose, read]

theorem detect_eq_iff (text : Text) :
    (detect text = "xelatex" ↔ ("fontspec" : Text) <:+: text) ∧
      (detect text = "pdflatex" ↔ ¬("fontspec" : Text) <:+: text) := by
  rw [detect, ← Text.contains_iff]
  split
  · next found => exact ⟨iff_of_true rfl found, iff_of_false (by decide) (not_not_intro found)⟩
  · next missing => exact ⟨iff_of_false (by decide) missing, iff_of_true rfl missing⟩

/-- Where no engine is set, a document that can be read is for `xelatex` if and only if the bytes of
`fontspec` stand in a row in it, and for `pdflatex` otherwise, whether it is UTF-8 or not.  For
decoding keeps ASCII in its place: a word is read between two texts where its bytes stand in a row
between bytes that come to these texts, and nowhere else. -/
theorem engine_is_told_by_bytes (bytes : Bytes) :
    (∀ (workspace : Workspace) (document : Path), workspace.read document = .ok bytes →
      (choose workspace none document = .ok "xelatex" ↔ Text.encode "fontspec" <:+: bytes) ∧
      (choose workspace none document = .ok "pdflatex" ↔ ¬Text.encode "fontspec" <:+: bytes)) ∧
    ∀ word front rest : Text, word ≠ [] → Text.IsAscii word →
      (Text.decodeLossy bytes = front ++ (word ++ rest) ↔
        ∃ before behind, bytes = before ++ (Text.encode word ++ behind) ∧
          Text.decodeLossy before = front ∧ Text.decodeLossy behind = rest) := by
  constructor
  · intro workspace document read
    have ascii : Text.IsAscii "fontspec" := by decide
    rw [choose_eq_ok_iff read, choose_eq_ok_iff read, ← Text.infix_decodeLossy_iff ascii]
    exact detect_eq_iff (Text.decodeLossy bytes)
  · intro word front rest nonempty ascii
    exact Text.decodeLossy_eq_append_word_iff nonempty ascii

/-- The word stands between a character that is cut off and one that is only begun; in the other
document a byte that begins a character stands in the word. -/
theorem engine_is_told_by_broken_bytes :
    let bytes : Bytes := [0xe2, 0x82] ++ ([102, 111, 110, 116, 115, 112, 101, 99] ++ [0xf0])
    let torn : Bytes := [102, 111, 110, 116, 0xc3, 115, 112, 101, 99]
    let workspace : Workspace := {
      home := []
      entries := [(["a.tex"], .file bytes), (["b.tex"], .file torn)] }
    choose workspace none "a.tex" = .ok "xelatex" ∧
      choose workspace none "b.tex" = .ok "pdflatex" ∧
      Text.decodeLossy bytes = ['\ufffd'] ++ (("fontspec" : Text) ++ ['\ufffd']) := by
  intro bytes torn workspace
  refine ⟨?_, ?_, ?_⟩
  · exact ((engine_is_told_by_bytes bytes).1 workspace "a.tex" rfl).1.mpr ⟨[0xe2, 0x82], [0xf0], rfl⟩
  · exact ((engine_is_told_by_bytes torn).1 workspace "b.tex" rfl).2.mpr (by decide)
  · exact ((engine_is_told_by_bytes bytes).2 "fontspec" _ _ (by decide) (by decide)).mpr
      ⟨[0xe2, 0x82], [0xf0], rfl, rfl, rfl⟩

end Typeset.Engine
