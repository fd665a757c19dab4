import DiagramEditor.Proofs.Format.Content
import DiagramEditor.Proofs.Syntax.Visible

/-! Formatting is not seen. What is seen of a source is what is seen of the lines of its
content, each by itself, and formatting keeps the content. -/
namespace DiagramEditor.Syntax

theorem visible_tokenizeLine (line : Text) : visible (tokenizeLine line) = seen true line := rfl

theorem visible_newlineToken (offset : Nat) : visible [newlineToken offset] = [] := rfl

/-- Newlines are not seen, and every line is scanned from its start. -/
theorem visible_tokenizeLines (offset : Nat) (lines : List Text) :
    visible (tokenizeLines offset lines) = lines.flatMap (seen true) := by
  induction lines generalizing offset with
  | nil => rfl
  | cons line more ih =>
    rw [List.flatMap_cons]
    cases more with
    | nil =>
      rw [tokenizeLines, visible_shift, visible_tokenizeLine, List.flatMap_nil, List.append_nil]
    | cons next others =>
      rw [tokenizeLines, visible_append, visible_shift, visible_tokenizeLine,
        ← List.singleton_append, visible_append, visible_newlineToken, List.nil_append, ih]

theorem seen_trim (line : Text) : seen true line.trim = seen true line := by
  obtain ⟨indent, tail, before, behind, whole⟩ := Text.exists_eq_append_trim line
  conv => rhs; rw [whole]
  rw [seen_blank_append before, seen_append_blank behind]

theorem flatMap_seen_filter (lines : List Text) :
    (lines.filter (!·.isEmpty)).flatMap (seen true) = lines.flatMap (seen true) := by
  induction lines with
  | nil => rfl
  | cons line more ih =>
    cases line with
    | nil => rw [List.flatMap_cons, seen_nil, List.nil_append, ← ih]; rfl
    | cons c rest => rw [List.flatMap_cons, ← ih]; rfl

theorem visible_tokenize (source : Text) :
    visible (tokenize source) = (contentLines source).flatMap (seen true) := by
  rw [tokenize, visible_tokenizeLines, contentLines_eq, flatMap_seen_filter, List.flatMap_map]
  simp only [seen_trim]

/-- What the colours of a text show, its white space and its indents apart, is the same
before and after formatting. -/
theorem visible_tokenize_formatSource (options : FormatOptions) (source : Text) :
    visible (tokenize (formatSource options source)) = visible (tokenize source) := by
  rw [visible_tokenize, visible_tokenize, contentLines_formatSource]

end DiagramEditor.Syntax
