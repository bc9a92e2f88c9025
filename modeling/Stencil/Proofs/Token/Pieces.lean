/-
# The pieces of a text

How a text is read can be told without the scanner.  From the left it falls into pieces: a delimiter
with the escape that makes it literal, an escape that is before neither delimiter, a token up to the
first end delimiter behind it, a start delimiter that is not closed and takes the rest of the text, and
single characters.  Which of these stands at a place is decided by the text from there on; an escape
goes before a start delimiter, and behind an escape the start delimiter goes before the end delimiter.

* `exists_fallsInto`: every text falls into pieces;
* `FallsInto.flatMap_written`: side by side they are the text;
* `FallsInto.scan_eq`: they are what scanning finds.
-/
import Stencil.Proofs.Token.Scanning

namespace Stencil

/-! ## 1. Pieces -/

/-- A piece of a text.  A token is given by what stands between its delimiters, a start delimiter that
is not closed by what stands behind it. -/
inductive Piece where
  | plain (c : Char)
  | escape
  | escapedStart
  | escapedStop
  | token (body : List Char)
  | unclosed (rest : List Char)
  deriving DecidableEq, Repr

namespace Piece

/-- The piece as it stands in the text. -/
def written (d : Delimiters) : Piece → List Char
  | plain c => [c]
  | escape => d.escape.toList
  | escapedStart => d.escape.toList ++ d.start.toList
  | escapedStop => d.escape.toList ++ d.stop.toList
  | token body => d.start.toList ++ (body ++ d.stop.toList)
  | unclosed rest => d.start.toList ++ rest

/-- The piece without the escape that makes a delimiter literal. -/
def unescaped (d : Delimiters) : Piece → List Char
  | escapedStart => d.start.toList
  | escapedStop => d.stop.toList
  | p => p.written d

/-- The fragment that scanning makes of the piece. -/
def fragment (d : Delimiters) : Piece → Fragment
  | token body => .token body
  | unclosed rest => .unterminated (d.start.toList ++ rest)
  | p => .literal (p.unescaped d)

end Piece

/-- A text falls into pieces, from the left.  What a rule excludes is what goes before it: at each place
the escape, behind an escape the start delimiter, and a character by itself only where none of these
is. -/
inductive Delimiters.FallsInto (d : Delimiters) : List Char → List Piece → Prop
  | nil : FallsInto d [] []
  | escapedStart {rest : List Char} {ps : List Piece} : FallsInto d rest ps →
      FallsInto d (d.escape.toList ++ d.start.toList ++ rest) (.escapedStart :: ps)
  | escapedStop {rest : List Char} {ps : List Piece} :
      ¬ d.start.toList <+: d.stop.toList ++ rest → FallsInto d rest ps →
      FallsInto d (d.escape.toList ++ d.stop.toList ++ rest) (.escapedStop :: ps)
  | escape {rest : List Char} {ps : List Piece} :
      ¬ d.start.toList <+: rest → ¬ d.stop.toList <+: rest → FallsInto d rest ps →
      FallsInto d (d.escape.toList ++ rest) (.escape :: ps)
  | token {body rest : List Char} {ps : List Piece} :
      ¬ d.escape.toList <+: d.start.toList ++ (body ++ d.stop.toList) ++ rest →
      FirstBehind d.stop.toList body (body ++ d.stop.toList ++ rest) → FallsInto d rest ps →
      FallsInto d (d.start.toList ++ (body ++ d.stop.toList) ++ rest) (.token body :: ps)
  | unclosed {rest : List Char} :
      ¬ d.escape.toList <+: d.start.toList ++ rest → ¬ d.stop.toList <:+: rest →
      FallsInto d (d.start.toList ++ rest) [.unclosed rest]
  | plain {c : Char} {rest : List Char} {ps : List Piece} :
      ¬ d.escape.toList <+: c :: rest → ¬ d.start.toList <+: c :: rest → FallsInto d rest ps →
      FallsInto d (c :: rest) (.plain c :: ps)

/-! ## 2. Reading a text -/

namespace Delimiters

variable {d : Delimiters}

/-- **Every text falls into pieces.** -/
theorem exists_fallsInto (hescape : d.escape.toList ≠ []) (hstart : d.start.toList ≠ [])
    (cs : List Char) : ∃ ps, d.FallsInto cs ps := by
  -- by what the text begins with, in the order in which the scanner looks for it
  by_cases hbehind : d.escape.toList <+: cs
  · obtain ⟨rest, rfl⟩ := hbehind
    have hpos := List.length_pos_iff.mpr hescape
    by_cases hopens : d.start.toList <+: rest
    · obtain ⟨rest, rfl⟩ := hopens
      obtain ⟨ps, hps⟩ := exists_fallsInto hescape hstart rest
      rw [← List.append_assoc]
      exact ⟨_, .escapedStart hps⟩
    · by_cases hcloses : d.stop.toList <+: rest
      · obtain ⟨rest, rfl⟩ := hcloses
        obtain ⟨ps, hps⟩ := exists_fallsInto hescape hstart rest
        rw [← List.append_assoc]
        exact ⟨_, .escapedStop hopens hps⟩
      · obtain ⟨ps, hps⟩ := exists_fallsInto hescape hstart rest
        exact ⟨_, .escape hopens hcloses hps⟩
  · by_cases hopens : d.start.toList <+: cs
    · obtain ⟨rest, rfl⟩ := hopens
      have hpos := List.length_pos_iff.mpr hstart
      cases hbody : before? d.stop.toList rest with
      | none => exact ⟨_, .unclosed hbehind (before?_eq_none_iff.mp hbody)⟩
      | some body =>
        -- the token ends at the first end delimiter behind it
        have hfirst := before?_eq_some_iff.mp hbody
        obtain ⟨rest, rfl⟩ := hfirst.occurs
        obtain ⟨ps, hps⟩ := exists_fallsInto hescape hstart rest
        rw [← List.append_assoc] at hbehind ⊢
        exact ⟨_, .token hbehind hfirst hps⟩
    · cases cs with
      | nil => exact ⟨[], .nil⟩
      | cons c rest =>
        obtain ⟨ps, hps⟩ := exists_fallsInto hescape hstart rest
        exact ⟨_, .plain hbehind hopens hps⟩
termination_by cs.length
decreasing_by
  all_goals
    subst_vars
    simp only [List.length_append, List.length_cons]
    omega

variable {cs : List Char} {ps : List Piece}

/-- Side by side the pieces are the text. -/
theorem FallsInto.flatMap_written (h : d.FallsInto cs ps) : ps.flatMap (Piece.written d) = cs := by
  induction h with
  | nil => rfl
  | unclosed => simp [Piece.written]
  | _ => simp [Piece.written, *]

/-- A start delimiter that is not closed takes the rest of the text. -/
theorem scan_unclosed {rest : List Char} (hstart : d.start.toList ≠ [])
    (hescape : ¬ d.escape.toList <+: d.start.toList ++ rest) (hstop : ¬ d.stop.toList <:+: rest) :
    scan d (d.start.toList ++ rest) = [.unterminated (d.start.toList ++ rest)] := by
  have hnext : nextFragment d (d.start.toList ++ rest ++ [])
      = (.unterminated (d.start.toList ++ rest), (d.start.toList ++ rest).length) := by
    rw [List.append_nil, nextFragment_eq, if_neg hescape, if_pos (List.prefix_append _ rest),
      List.drop_left, before?_eq_none_iff.mpr hstop]
  have hscan := scan_piece (List.append_ne_nil_of_left_ne_nil hstart rest) hnext
  rwa [List.append_nil, scan_nil] at hscan

/-- **The pieces are what scanning finds.** -/
theorem FallsInto.scan_eq (h : d.FallsInto cs ps) (hescape : d.escape.toList ≠ [])
    (hstart : d.start.toList ≠ []) : scan d cs = ps.map (Piece.fragment d) := by
  -- by the rule that the piece is of; each has its own lemma on scanning
  induction h with
  | nil => exact scan_nil d
  | @escapedStart rest _ _ ih =>
    rw [scan_escaped_start rest hescape, ih]
    rfl
  | @escapedStop rest _ hopens _ ih =>
    rw [scan_escaped_stop rest hescape hopens, ih]
    rfl
  | @escape rest _ hopens hcloses _ ih =>
    rw [scan_escape rest hescape hopens hcloses, ih]
    rfl
  | @token body rest _ hbehind hfirst _ ih =>
    rw [scan_token rest hstart hbehind (before?_eq_some_iff.mpr hfirst), ih]
    rfl
  | unclosed hbehind hopen => exact scan_unclosed hstart hbehind hopen
  | @plain c rest _ hbehind hopens _ ih =>
    rw [scan_char rest hbehind hopens, ih]
    rfl

end Delimiters

end Stencil
