import Logo.Proofs.Token.Places

/-!
# Tokens line by line

A line end stops whatever scanning is in the middle of: a comment, a word, or a
character that might be the first half of an operator.  After it scanning starts
afresh, as at the beginning of a text.  So a text may be scanned line by line,
each line on its own, and the tokens are then moved to where their line begins.
-/

namespace Logo.Token

/-- The token so many places further on. -/
def shift (distance : Nat) (token : Token) : Token :=
  { token with start := token.start + distance, stop := token.stop + distance }

theorem ofLexeme_shift (distance : Nat) (lexeme : Lexeme) :
    ofLexeme (lexeme.shift distance) = (ofLexeme lexeme).shift distance := by
  simp only [ofLexeme, Lexeme.shift, shift, Nat.add_right_comm]

theorem shift_shift (first second : Nat) (token : Token) :
    (token.shift first).shift second = token.shift (first + second) := by
  simp only [shift, Nat.add_assoc]

/-- Two texts with a line end between them are scanned independently. -/
theorem scan_append_line (first second : String) :
    scan (first ++ "\n" ++ second) =
      scan first ++ (scan second).map (shift (first.length + 1)) := by
  rw [scan, lexemes_lines, List.map_append, List.map_map, scan, scan, List.map_map]
  refine congrArg _ (List.map_congr_left fun lexeme _ => ?_)
  exact ofLexeme_shift _ lexeme

/-- Scan lines one by one, each on its own.  The first of them begins at a position. -/
def scanLines (position : Nat) : List String → List Token
  | [] => []
  | line :: rest => (scan line).map (shift position) ++ scanLines (position + line.length + 1) rest

/-- Lines further on have their tokens further on. -/
theorem map_shift_scanLines (distance position : Nat) (lines : List String) :
    (scanLines position lines).map (shift distance) = scanLines (position + distance) lines := by
  induction lines generalizing position with
  | nil => rfl
  | cons line rest induction =>
      rw [scanLines, scanLines, List.map_append, induction, List.map_map]
      congr 1
      · exact List.map_congr_left fun token _ => shift_shift position distance token
      · rw [Nat.add_right_comm position distance, Nat.add_right_comm _ distance]

/-- The lines after the first are scanned as if they stood alone, and moved past it. -/
theorem scanLines_cons (line : String) (rest : List String) :
    scanLines 0 (line :: rest) =
      scan line ++ (scanLines 0 rest).map (shift (line.length + 1)) := by
  have still : (scan line).map (shift 0) = scan line := List.map_id _
  rw [scanLines, still, map_shift_scanLines, Nat.add_assoc]

/-- The tokens of a text are those of its lines. -/
theorem scan_intercalate_lines (lines : List String) :
    scan ("\n".intercalate lines) = scanLines 0 lines := by
  induction lines with
  | nil => rfl
  | cons line rest induction =>
      rw [scanLines_cons]
      cases rest with
      | nil => rw [String.intercalate_singleton, scanLines, List.map_nil, List.append_nil]
      | cons next others => rw [String.intercalate_cons_cons, scan_append_line, induction]

/--
Scanning distributes over lines.  The tokens of two texts with a line end
between them are the tokens of the first, whatever it ends in, followed by the
tokens of the second, whose places are moved past the first text and the line
end.  And so it is with any number of lines.
-/
theorem scan_line_by_line :
    (∀ first second : String,
      scan (first ++ "\n" ++ second) =
        scan first ++ (scan second).map fun token =>
          { token with
            start := token.start + (first.length + 1), stop := token.stop + (first.length + 1) }) ∧
      ∀ lines : List String, scan ("\n".intercalate lines) = scanLines 0 lines :=
  ⟨scan_append_line, scan_intercalate_lines⟩

/-- Lines that end in a comment, in a word, and in what an equals sign would complete. -/
example :
    (scan "a ; <\nfd<\n=b!\n=").map (fun token => (token.lexeme, token.start)) =
      [("a", 0), ("fd", 6), ("<", 8), ("=b!", 10), ("=", 14)] := by
  decide +kernel

end Logo.Token
