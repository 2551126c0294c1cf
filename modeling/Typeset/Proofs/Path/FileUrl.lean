import Typeset.Path.FileUrl
import Typeset.Proofs.Text.Decoding

namespace Typeset.Path

variable {path : Path}

theorem brace_not_mem_percentByte (byte : UInt8) : '{' ∉ percentByte byte := by
  have digit : ∀ value < 16, upperHexDigit value ≠ '{' := by decide
  have below := UInt8.toNat_lt byte
  unfold percentByte
  split
  · next plain =>
      intro brace
      have code := Utf8.eq_toNat_of_ofNat (List.mem_singleton.mp brace).symm (by decide)
      simp [isPlainByte, code] at plain
  · simp only [List.mem_cons, List.not_mem_nil, or_false, not_or]
    exact ⟨by decide, (digit _ (by omega)).symm, (digit _ (by omega)).symm⟩

theorem brace_not_mem_percentEncode (name : Text) : '{' ∉ percentEncode name := by
  rw [percentEncode, List.mem_flatMap]
  rintro ⟨byte, -, brace⟩
  exact brace_not_mem_percentByte byte brace

theorem fileUrl_of_names (rooted : isAbsolute path = true) (named : names path ≠ []) :
    fileUrl path = "file://" ++ (names path).flatMap fun name => '/' :: percentEncode name := by
  unfold fileUrl fileUrl?
  rw [if_pos rooted]
  cases list : names path with
  | nil => exact absurd list named
  | cons name others => rfl

theorem fileUrl_of_root (rooted : isAbsolute path = true) (unnamed : names path = []) :
    fileUrl path = "file:///" := by
  unfold fileUrl fileUrl?
  rw [if_pos rooted, unnamed]
  rfl

theorem starts_fileUrl (rooted : isAbsolute path = true) : ("file:///" : Text) <+: fileUrl path := by
  cases list : names path with
  | nil => exact ⟨[], (List.append_nil _).trans (fileUrl_of_root rooted list).symm⟩
  | cons name others =>
      rw [fileUrl_of_names rooted (by simp [list]), list]
      exact ⟨percentEncode name ++ others.flatMap fun name => '/' :: percentEncode name, rfl⟩

theorem brace_not_mem_fileUrl (rooted : isAbsolute path = true) : '{' ∉ fileUrl path := by
  cases list : names path with
  | nil =>
      rw [fileUrl_of_root rooted list]
      decide
  | cons name others =>
      rw [fileUrl_of_names rooted (by simp [list]), List.mem_append, not_or, List.mem_flatMap]
      refine ⟨by decide, ?_⟩
      rintro ⟨member, -, brace⟩
      rcases List.mem_cons.mp brace with slash | brace
      · cases slash
      · exact brace_not_mem_percentEncode member brace

end Typeset.Path
